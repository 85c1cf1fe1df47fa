import Polystore.Identifier
import Polystore.Text.Alphanumeric

/-!
# Patterns as substrings

A relational store matches patterns with `LIKE`, so a pattern can be used there only if it stands for
one literal text. This module reduces a pattern to that text and writes a text as a `LIKE` pattern.
-/

namespace Polystore.Substring

/-- Characters that tie a match to an end of the text. -/
def isAnchor (c : Char) : Bool :=
  c == '^' || c == '$'

/-- Characters with a meaning in patterns other than anchors and the escape. -/
def isMetacharacter (c : Char) : Bool :=
  ['*', '+', '?', '\x7b', '\x7d', '.', '(', ')', '[', ']', '|'].contains c

/-- The literal text of the rest of a pattern. An escaped character stands for itself, unless it is a
letter or digit. -/
def scan (pattern : String) : List Char → Except Error (List Char)
  | [] => pure []
  | '\\' :: [] => throw (.unsupported (.danglingEscape pattern))
  | '\\' :: c :: cs =>
    if Text.isAlphanumeric c then throw (.unsupported (.characterClass c pattern))
    else (scan pattern cs).map (c :: ·)
  | c :: cs =>
    if isAnchor c then throw (.unsupported (.anchor c pattern))
    else if isMetacharacter c then throw (.unsupported (.metacharacter c pattern))
    else (scan pattern cs).map (c :: ·)

/-- The literal text that a pattern matches wherever it occurs. -/
def ofPattern (pattern : String) : Except Error String := do
  Identifier.checkNoNull "patterns" pattern
  let cs ← scan pattern pattern.toList
  pure (String.ofList cs)

/-- The characters that `LIKE` gives a meaning to. -/
def isWildcard (c : Char) : Bool :=
  c == '\\' || c == '%' || c == '_'

/-- A text with a backslash before each character that `LIKE` gives a meaning to. -/
def escapeLike (cs : List Char) : List Char :=
  cs.flatMap fun c => if isWildcard c then ['\\', c] else [c]

/-- The `LIKE` pattern for texts that contain a text. -/
def containing (s : String) : String :=
  String.ofList ('%' :: (escapeLike s.toList ++ ['%']))

/-- The escaped form differs from the text. -/
def needsEscape (s : String) : Bool :=
  s.toList.any isWildcard

end Polystore.Substring

import Polystore.Value.Basic

/-!
# Compiled patterns

The options of a pattern by their letters. A pattern can also ask for options itself, in groups such as
`(?im)` at its start, among remarks such as `(?#note)`; a pattern over text matches Unicode unless it
asks for ASCII.
-/

namespace Polystore

namespace PatternFlags

/-- Sets the option of a letter. -/
def withLetter (f : PatternFlags) : Char → PatternFlags
  | 'i' => { f with ignoreCase := true }
  | 'm' => { f with multiline := true }
  | 's' => { f with dotAll := true }
  | 'x' => { f with verbose := true }
  | 'a' => { f with ascii := true }
  | 'u' => { f with unicode := true }
  | 'L' => { f with locale := true }
  | 't' => { f with template := true }
  | _ => f

/-- The letters of all options. -/
def optionLetters : List Char :=
  ['i', 'm', 's', 'x', 'a', 'u', 'L', 't']

/-- The letters of the options that are set, as far as a description of a pattern tells them. -/
def letters (f : PatternFlags) : List Char :=
  [(f.ignoreCase, 'i'), (f.multiline, 'm'), (f.dotAll, 's'), (f.verbose, 'x'), (f.ascii, 'a'),
    (f.unicode, 'u'), (f.locale, 'L')].filterMap fun (set, c) => if set then some c else none

end PatternFlags

namespace Pattern

/-- Blanks without a meaning in a verbose source. -/
def isSourceBlank (c : Char) : Bool :=
  c == ' ' || ('\t' ≤ c && c ≤ '\r')

/-- Where the reading of a source's opening stands: between its parts, in a group of options with the
letters so far, or in a remark up to the character that closes it. -/
inductive Opening where
  | between
  | group (letters : List Char)
  | remark (closing : Char)
  deriving Repr

/-- The letters of the option groups at the start of a source. Remarks may stand between them, and in a
verbose source blanks and remarks to the end of the line. -/
def openingLetters (verbose : Bool) : Opening → List Char → List Char
  | _, [] => []
  | .remark closing, '\\' :: _ :: cs => openingLetters verbose (.remark closing) cs
  | .remark closing, c :: cs =>
    openingLetters verbose (if c = closing then .between else .remark closing) cs
  | .group letters, ')' :: cs =>
    letters ++ openingLetters (verbose || letters.contains 'x') .between cs
  | .group letters, c :: cs =>
    if PatternFlags.optionLetters.contains c then openingLetters verbose (.group (c :: letters)) cs
    else []
  | .between, '(' :: '?' :: '#' :: cs => openingLetters verbose (.remark ')') cs
  | .between, '(' :: '?' :: cs => openingLetters verbose (.group []) cs
  | .between, c :: cs =>
    if verbose && isSourceBlank c then openingLetters verbose .between cs
    else if verbose && c = '#' then openingLetters verbose (.remark '\n') cs
    else []

/-- The pattern of a source with the options of some letters. -/
def ofLetters (source : String) (letters : List Char) (overOctets : Bool) : Pattern :=
  let opening := openingLetters (letters.contains 'x') .between source.toList
  let asked := (letters ++ opening).foldl PatternFlags.withLetter {}
  let flags := if overOctets || asked.ascii then asked else { asked with unicode := true }
  { source, flags, overOctets }

end Pattern

end Polystore

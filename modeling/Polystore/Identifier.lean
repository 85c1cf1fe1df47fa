import Polystore.Error
import Polystore.Text.Case

/-!
# Identifiers

Names of tables, columns and indexes: which are valid, which are reserved words of SQL, and how a
name is quoted.

Main statement: `unquote_quoted` says that a quoted name reads back as the
name, whatever follows it.
-/

namespace Polystore.Identifier

/-- A letter of ASCII or an underscore. -/
def isStart (c : Char) : Bool :=
  c.isAlpha || c == '_'

/-- A letter or digit of ASCII or an underscore. -/
def isPart (c : Char) : Bool :=
  c.isAlphanum || c == '_'

/-- A plain identifier: a letter or underscore, then letters, digits and underscores. -/
def isPlain : List Char → Bool
  | [] => false
  | c :: cs => isStart c && cs.all isPart

/-- The form that names are checked against: a plain identifier, before the end of the text or before
a line feed that ends it. -/
def matchesForm (cs : List Char) : Bool :=
  isPlain cs || (cs.getLast? == some '\n' && isPlain cs.dropLast)

/-- Refuses a text that holds the null character. -/
def checkNoNull (context : String) (s : String) : Except Error Unit :=
  if s.toList.contains (Char.ofNat 0) then throw (.name (.nullByte context (Text.literal s)))
  else pure ()

/-- What the names that are validated are called. -/
def fieldNames : String := "field names"

/-- The length exceeds a limit; a limit of 0 is none. -/
def exceeds (limit : Int) (length : Nat) : Bool :=
  limit != 0 && limit < (length : Int)

/-- Refuses a name that is empty, holds a null character, is longer than `limit` characters, or is no
identifier, in this order; a `limit` of 0 is none. -/
def validate (limit : Int) (name : String) : Except Error Unit := do
  if name = "" then throw (.name .empty)
  checkNoNull fieldNames name
  if exceeds limit name.length then throw (.name (.tooLong name limit))
  if matchesForm name.toList then pure () else throw (.name (.malformed name))

/-- The reserved words, in lower case. -/
def reservedWords : List String :=
  ["all", "alter", "and", "any", "array", "as", "asc", "between", "by", "case", "cast", "check",
   "column", "constraint", "create", "cross", "current", "current_date", "current_time",
   "current_timestamp", "current_user", "default", "delete", "desc", "distinct", "drop", "else",
   "end", "except", "exists", "false", "for", "foreign", "from", "full", "grant", "group", "having",
   "in", "index", "inner", "insert", "intersect", "into", "is", "join", "key", "left", "like",
   "limit", "not", "null", "offset", "on", "or", "order", "outer", "primary", "references", "right",
   "select", "session_user", "set", "some", "table", "then", "to", "true", "union", "unique",
   "update", "user", "using", "values", "when", "where", "with"]

/-- Reserved words are recognised in any letter case. -/
def isReserved (name : String) : Bool :=
  reservedWords.contains (Text.lower name)

/-- A text with each quote character written twice. -/
def doubleQuotes (quote : Char) : List Char → List Char
  | [] => []
  | c :: cs => if c = quote then c :: c :: doubleQuotes quote cs else c :: doubleQuotes quote cs

/-- A name between quote characters. -/
def quoted (quote : Char) (name : List Char) : List Char :=
  quote :: (doubleQuotes quote name ++ [quote])

/-- A name between quote characters; a null character cannot be quoted. -/
def quote (mark : Char) (name : String) : Except Error String := do
  checkNoNull "identifiers" name
  pure (String.ofList (quoted mark name.toList))

/-- Reads the inside of a quoted name up to the single quote that ends it, and the rest. -/
def readQuoted (quote : Char) : List Char → Option (List Char × List Char)
  | [] => none
  | [c] => if c = quote then some ([], []) else none
  | c :: d :: cs =>
    if c = quote then
      if d = quote then (readQuoted quote cs).map fun r => (quote :: r.1, r.2)
      else some ([], d :: cs)
    else (readQuoted quote (d :: cs)).map fun r => (c :: r.1, r.2)

/-- Reads a quoted name, and the rest. -/
def unquote (quote : Char) : List Char → Option (List Char × List Char)
  | [] => none
  | c :: cs => if c = quote then readQuoted quote cs else none

theorem readQuoted_close (q : Char) (rest : List Char) (h : rest.head? ≠ some q) :
    readQuoted q (q :: rest) = some ([], rest) := by
  cases rest with
  | nil => simp [readQuoted]
  | cons d cs =>
    have hd : d ≠ q := by simpa using h
    simp [readQuoted, hd]

theorem readQuoted_cons_of_ne {q c : Char} (h : c ≠ q) {cs : List Char} (hne : cs ≠ []) :
    readQuoted q (c :: cs) = (readQuoted q cs).map fun r => (c :: r.1, r.2) := by
  cases cs with
  | nil => exact absurd rfl hne
  | cons d cs => simp [readQuoted, h]

theorem readQuoted_doubleQuotes (q : Char) (name rest : List Char) (h : rest.head? ≠ some q) :
    readQuoted q (doubleQuotes q name ++ q :: rest) = some (name, rest) := by
  induction name with
  | nil => exact readQuoted_close q rest h
  | cons c name ih =>
    by_cases hc : c = q
    · subst hc
      simp [doubleQuotes, readQuoted, ih]
    · simp only [doubleQuotes, if_neg hc, List.cons_append]
      rw [readQuoted_cons_of_ne hc (by simp), ih]
      rfl

theorem unquote_quoted (q : Char) (name rest : List Char) (h : rest.head? ≠ some q) :
    unquote q (quoted q name ++ rest) = some (name, rest) := by
  simp [unquote, quoted, readQuoted_doubleQuotes q name rest h]

end Polystore.Identifier

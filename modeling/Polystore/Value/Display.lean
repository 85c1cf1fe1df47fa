import Polystore.Text.Digit
import Polystore.Text.Literal
import Polystore.Value.Basic

/-!
# Values in diagnostics

How diagnostics show a value (`Value.shown`) if they can (`Value.isShowable`), how a value reads as
plain text (`Value.plain`), and the name of its class (`Value.className`).
-/

namespace Polystore

namespace TypeTag

def all : List TypeTag :=
  [.str, .int, .float, .decimal, .bool, .dateTime, .date, .dict, .list, .tuple, .bytes, .set,
   .object]

/-- The name of a class. -/
def name : TypeTag → String
  | .str => "str"
  | .int => "int"
  | .float => "float"
  | .decimal => "Decimal"
  | .bool => "bool"
  | .dateTime => "datetime"
  | .date => "date"
  | .dict => "dict"
  | .list => "list"
  | .tuple => "tuple"
  | .bytes => "bytes"
  | .set => "set"
  | .object => "object"

def ofName? (s : String) : Option TypeTag :=
  all.find? fun t => t.name == s

/-- The name of a class with the namespace that it belongs to. -/
def qualifiedName : TypeTag → String
  | .decimal => "decimal.Decimal"
  | .dateTime => "datetime.datetime"
  | .date => "datetime.date"
  | t => t.name

def shown (t : TypeTag) : String :=
  "<class '" ++ t.qualifiedName ++ "'>"

end TypeTag

namespace FieldType

def shown (t : FieldType) : String :=
  "<FieldType." ++ t.name.toUpper ++ ": '" ++ t.name ++ "'>"

end FieldType

namespace PatternFlags

/-- The options a pattern is shown with; Unicode matching is the rule for texts and not shown. -/
def shownNames (f : PatternFlags) : List String :=
  [(f.template, "re.TEMPLATE"), (f.ignoreCase, "re.IGNORECASE"), (f.locale, "re.LOCALE"),
    (f.multiline, "re.MULTILINE"), (f.dotAll, "re.DOTALL"), (f.verbose, "re.VERBOSE"),
    (f.ascii, "re.ASCII")].filterMap fun (set, name) => if set then some name else none

/-- The options that a substring match cannot honour. -/
def unsupportedNames (f : PatternFlags) : List String :=
  [(f.ascii, "re.ASCII"), (f.locale, "re.LOCALE"), (f.verbose, "re.VERBOSE"),
    (f.template, "re.TEMPLATE")].filterMap fun (set, name) => if set then some name else none

end PatternFlags

namespace Pattern

/-- The octets of a source that is written as ASCII characters. -/
def octets (p : Pattern) : List UInt8 :=
  p.source.toList.map fun c => UInt8.ofNat c.toNat

/-- A pattern is shown with at most two hundred characters of its quoted source. -/
def shown (p : Pattern) : String :=
  let source := if p.overOctets then Text.octetLiteral p.octets else Text.literal p.source
  let flags := p.flags.shownNames
  "re.compile(" ++ String.ofList (source.toList.take 200) ++
    (if flags.isEmpty then "" else ", " ++ "|".intercalate flags) ++ ")"

end Pattern

namespace DateTime

/-- An amount of time in days, seconds and microseconds, of which only the days can be negative. -/
def shownSpan (micros : Int) : String :=
  let seconds := Int.fdiv micros 1000000
  let parts := [("days", Int.fdiv seconds 86400), ("seconds", Int.fmod seconds 86400),
    ("microseconds", Int.fmod micros 1000000)].filter fun p => p.2 != 0
  "datetime.timedelta(" ++ ", ".intercalate (parts.map fun p => p.1 ++ "=" ++ toString p.2) ++ ")"

def shownZone (offset : Int) : String :=
  if offset = 0 then "datetime.timezone.utc" else "datetime.timezone(" ++ shownSpan offset ++ ")"

/-- The fields of a time; seconds and microseconds are left out from the end while they are zero. -/
def shown (t : DateTime) : String :=
  let clock := [t.date.year, t.date.month, t.date.day, t.hour, t.minute] ++
    (if t.second = 0 ∧ t.microsecond = 0 then [] else [t.second]) ++
    (if t.microsecond = 0 then [] else [t.microsecond])
  let zone := match t.offset with
    | none => []
    | some o => ["tzinfo=" ++ shownZone o]
  "datetime.datetime(" ++ ", ".intercalate (clock.map toString ++ zone) ++ ")"

end DateTime

namespace Date

def shown (d : Date) : String :=
  "datetime.date(" ++ ", ".intercalate ([d.year, d.month, d.day].map toString) ++ ")"

end Date

namespace Value

mutual

/-- A value as diagnostics show it. -/
def shown : Value → String
  | null => "None"
  | bool true => "True"
  | bool false => "False"
  | int n => toString n
  | float x => x.text
  | str s => Text.literal s
  | decimal d => "Decimal('" ++ d.text ++ "')"
  | dateTime t => t.shown
  | date d => d.shown
  | bytes bs => Text.octetLiteral bs
  | pattern p => p.shown
  | typeTag t => t.shown
  | fieldType t => t.shown
  | deferred name => "<callable " ++ name ++ ">"
  | foreign name => "<opaque " ++ name ++ ">"
  | list xs => "[" ++ ", ".intercalate (shownAll xs) ++ "]"
  | tuple [x] => "(" ++ x.shown ++ ",)"
  | tuple xs => "(" ++ ", ".intercalate (shownAll xs) ++ ")"
  | set [] => "set()"
  | set xs => "\x7b" ++ ", ".intercalate (shownAll xs) ++ "\x7d"
  | map es => "\x7b" ++ ", ".intercalate (shownEntries es) ++ "\x7d"

def shownAll : List Value → List String
  | [] => []
  | x :: xs => x.shown :: shownAll xs

def shownEntries : List (Value × Value) → List String
  | [] => []
  | (k, v) :: es => (k.shown ++ ": " ++ v.shown) :: shownEntries es

end

mutual

/-- Every whole number in a value has few enough digits to be written. -/
def isShowable : Value → Bool
  | int n => Text.isWritable n
  | list xs => areShowable xs
  | tuple xs => areShowable xs
  | set xs => areShowable xs
  | map es => entriesShowable es
  | _ => true

def areShowable : List Value → Bool
  | [] => true
  | x :: xs => x.isShowable && areShowable xs

def entriesShowable : List (Value × Value) → Bool
  | [] => true
  | (k, v) :: es => k.isShowable && v.isShowable && entriesShowable es

end

/-- A value as plain text: a text is itself, and what is not a number, a date or a text is shown as in
diagnostics. -/
def plain : Value → String
  | str s => s
  | fieldType t => t.name
  | decimal d => d.text
  | dateTime t => String.ofList (t.textWith ' ')
  | date d => String.ofList d.text
  | v => v.shown

/-- The name of a value's class. -/
def className : Value → String
  | null => "NoneType"
  | bool _ => "bool"
  | int _ => "int"
  | float _ => "float"
  | str _ => "str"
  | decimal _ => "Decimal"
  | dateTime _ => "datetime"
  | date _ => "date"
  | bytes _ => "bytes"
  | pattern _ => "Pattern"
  | typeTag _ => "type"
  | fieldType _ => "FieldType"
  | deferred _ => "Deferred"
  | foreign _ => "Opaque"
  | list _ => "list"
  | tuple _ => "tuple"
  | set _ => "set"
  | map _ => "dict"

/-- The name of a value's class with the namespace that it belongs to. -/
def qualifiedClassName : Value → String
  | decimal _ => TypeTag.decimal.qualifiedName
  | dateTime _ => TypeTag.dateTime.qualifiedName
  | date _ => TypeTag.date.qualifiedName
  | pattern _ => "re.Pattern"
  | v => v.className

end Value

end Polystore

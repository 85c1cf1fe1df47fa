import Polystore.Calendar
import Polystore.FieldType
import Polystore.Number.Binary64

/-!
# Values

The data that filters, updates, defaults and rows are made of. Mappings keep the order of their
entries, and their keys can be values of any kind.
-/

namespace Polystore

/-- The classes of values that can stand for a field type in a definition, and three that cannot. -/
inductive TypeTag where
  | str
  | int
  | float
  | decimal
  | bool
  | dateTime
  | date
  | dict
  | list
  | tuple
  | bytes
  | set
  | object
  deriving DecidableEq, Repr

/-- The options of a compiled pattern. -/
structure PatternFlags where
  ignoreCase : Bool := false
  multiline : Bool := false
  dotAll : Bool := false
  verbose : Bool := false
  ascii : Bool := false
  unicode : Bool := false
  locale : Bool := false
  /-- No backtracking. -/
  template : Bool := false
  deriving DecidableEq, Repr

/-- A compiled pattern over text, or over octets that are written as ASCII characters. -/
structure Pattern where
  source : String
  flags : PatternFlags
  overOctets : Bool := false
  deriving DecidableEq, Repr

/-- A value. A deferred value is computed when a row is written; a foreign one is of a kind that no
store knows. -/
inductive Value where
  | null
  | bool (b : Bool)
  | int (n : Int)
  | float (x : Binary64)
  | str (s : String)
  | decimal (d : Decimal)
  | dateTime (t : DateTime)
  | date (d : Date)
  | bytes (bs : List UInt8)
  | pattern (p : Pattern)
  | typeTag (t : TypeTag)
  | fieldType (t : FieldType)
  | deferred (name : String)
  | foreign (name : String)
  | list (items : List Value)
  | tuple (items : List Value)
  | set (items : List Value)
  | map (entries : List (Value × Value))
  deriving Repr, Inhabited

/-- A row of a result, or of a statement's parameters. -/
abbrev Row := List Value

namespace Value

/-- The text of a value that is a text: a field type is its own name. -/
def text? : Value → Option String
  | str s => some s
  | fieldType t => some t.name
  | _ => none

/-- The entries of a mapping. -/
def entries? : Value → Option (List (Value × Value))
  | map es => some es
  | _ => none

/-- The elements of a list or a tuple. -/
def sequence? : Value → Option (List Value)
  | list xs => some xs
  | tuple xs => some xs
  | _ => none

/-- What a collection holds; a mapping holds its keys. -/
def members? : Value → Option (List Value)
  | list xs => some xs
  | tuple xs => some xs
  | set xs => some xs
  | map es => some (es.map (·.1))
  | _ => none

/-- The key is the text of a name. -/
def isKey (name : String) (k : Value) : Bool :=
  k.text? == some name

/-- The value under a text key. -/
def lookup (name : String) (entries : List (Value × Value)) : Option Value :=
  (entries.find? fun e => isKey name e.1).map (·.2)

/-- A list, tuple, set or mapping with no elements, an empty text, zero, `false` and null count as
nothing. -/
def truthy : Value → Bool
  | null => false
  | bool b => b
  | int n => n != 0
  | float x => !x.isZero
  | str s => s != ""
  | decimal d => !d.isZero
  | bytes bs => !bs.isEmpty
  | list xs => !xs.isEmpty
  | tuple xs => !xs.isEmpty
  | set xs => !xs.isEmpty
  | map es => !es.isEmpty
  | _ => true

/-- Deferred values, and classes, can be called for a value. -/
def callable : Value → Bool
  | deferred _ => true
  | typeTag _ => true
  | _ => false

/-- Null is the absence of a value. -/
def isNull : Value → Bool
  | null => true
  | _ => false

end Value

end Polystore

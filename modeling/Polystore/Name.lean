import Polystore.Entries
import Polystore.Value.Display

/-!
# Names as they are given

Filters and updates name fields by texts. A field type is a text too, its own name, and stays what it
is: diagnostics show it as a field type, and native documents hold it as one. Two names are the same
name if their texts are the same.

Main statement: `map_text_ofValue?` says that the values that can name something are those that are
texts.
-/

namespace Polystore

/-- A text as a caller gives it. -/
inductive Name where
  | plain (text : String)
  | fieldType (type : FieldType)
  deriving DecidableEq, Repr

namespace Name

def text : Name → String
  | plain s => s
  | fieldType t => t.name

instance : Named Name where
  text := text

/-- The value that a name was given as. -/
def value : Name → Value
  | plain s => .str s
  | fieldType t => .fieldType t

/-- The name that a value gives. -/
def ofValue? : Value → Option Name
  | .str s => some (plain s)
  | .fieldType t => some (fieldType t)
  | _ => none

/-- A name as diagnostics show it. -/
def shown (n : Name) : String :=
  n.value.shown

theorem ofValue?_value (n : Name) : ofValue? n.value = some n := by
  cases n <;> rfl

theorem text?_value (n : Name) : n.value.text? = some n.text := by
  cases n <;> rfl

theorem map_text_ofValue? (v : Value) : (ofValue? v).map text = v.text? := by
  cases v <;> rfl

end Name

end Polystore

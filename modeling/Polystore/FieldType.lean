/-!
# Field types

The types that a field of a table shape can be declared with, independent of any store.
-/

namespace Polystore

/-- The declared type of a field. -/
inductive FieldType where
  | text
  | number
  | boolean
  | timestamp
  | structured
  | array
  | reference
  | mixed
  deriving DecidableEq, Repr

namespace FieldType

/-- Every field type, in the order of their declaration. -/
def all : List FieldType :=
  [.text, .number, .boolean, .timestamp, .structured, .array, .reference, .mixed]

/-- The name of a field type in definitions. -/
def name : FieldType → String
  | .text => "text"
  | .number => "number"
  | .boolean => "boolean"
  | .timestamp => "timestamp"
  | .structured => "structured"
  | .array => "array"
  | .reference => "reference"
  | .mixed => "mixed"

/-- The field type of a name. -/
def ofName? (s : String) : Option FieldType :=
  all.find? fun t => t.name == s

theorem mem_all (t : FieldType) : t ∈ all := by
  cases t <;> decide

theorem name_injective {s t : FieldType} (h : s.name = t.name) : s = t := by
  cases s <;> cases t <;> first | rfl | (exact absurd h (by decide))

end FieldType

end Polystore

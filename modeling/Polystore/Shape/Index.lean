import Polystore.Value.Conversion

/-!
# Index declarations

An index over one or more fields, each in ascending (1) or descending (-1) order.
-/

namespace Polystore

/-- An index of a table. -/
structure Index where
  fields : List (String × Int)
  unique : Value := .bool false
  name : Option String := none
  deriving Repr

namespace Index

def fieldNames (i : Index) : List String :=
  i.fields.map (·.1)

/-- The fields of a definition: a mapping gives directions, any other collection names alone. -/
def fieldsOf (definition : Value) : Except Error (List (String × Int)) :=
  match definition.entries? with
  | some es => es.mapM fun e => do
    let name ← e.1.toText
    let direction ← e.2.toInt
    pure (name, direction)
  | none => do
    let names ← definition.elements
    names.mapM fun n => n.toText.map fun name => (name, 1)

/-- The index that a definition of its fields gives. -/
def ofDefinition (definition unique : Value) (name : Option String) : Except Error Index := do
  let fields ← fieldsOf definition
  if fields.isEmpty then throw (.schema .noIndexFields)
  match fields.find? fun f => f.2 ≠ 1 ∧ f.2 ≠ -1 with
  | some (field, direction) =>
    throw (.showing [.int direction] (.schema (.indexDirection field direction)))
  | none => pure { fields, unique, name }

end Index

end Polystore

import Polystore.Filter.Node
import Polystore.Shape.Table

/-!
# Checking filters against a shape

Whether the values of a filter fit the declared types of their fields. The first condition that does
not fit, in the order in which the conditions stand, decides the error.
-/

namespace Polystore.Filter

/-- The part of a field path before its first dot. -/
def rootOf (field : String) : String :=
  String.ofList (field.toList.takeWhile (· != '.'))

/-- The values that a condition compares its field with. -/
def Leaf.candidates (l : Leaf) : Except Error (List Value) :=
  if l.operator.isMembership then l.value.elements else pure [l.value]

/-- Refuses the first value that a type does not accept. -/
def checkValues (field : Name) (type : FieldType) (values : List Value) : Except Error Unit :=
  match values.find? fun v => !type.accepts v with
  | some v => throw (.showing [v] (.filter (.typeMismatch v field type)))
  | none => pure ()

/-- Checks one condition. Paths into a field, patterns and presence tests say nothing about the type of
the field; an undeclared field is refused if the check is strict. -/
def checkLeaf (shape : TableShape) (strict : Bool) (l : Leaf) : Except Error Unit :=
  let root := rootOf l.field.text
  match shape.find? root with
  | none =>
    if strict && root != shape.primaryKey then
      throw (.schema (.undeclaredField l.field shape.name))
    else pure ()
  | some f =>
    if root != l.field.text || l.operator == .regex || l.operator == .exists then pure ()
    else do
      let values ← l.candidates
      checkValues l.field f.type values

/-- Checks conditions one after the other. -/
def checkLeaves (shape : TableShape) (strict : Bool) : List Leaf → Except Error Unit
  | [] => pure ()
  | l :: ls => do
    checkLeaf shape strict l
    checkLeaves shape strict ls

/-- Checks every condition of a filter. -/
def checkTypes (shape : TableShape) (strict : Bool) (nodes : List Node) : Except Error Unit :=
  checkLeaves shape strict (leaves nodes)

end Polystore.Filter

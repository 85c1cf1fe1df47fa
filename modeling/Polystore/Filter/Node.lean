import Polystore.Filter.Operator
import Polystore.Name

/-!
# Condition trees

A filter after reading: conditions on fields, joined by groups whose children are lists of conditions
that hold together.
-/

namespace Polystore.Filter

/-- One condition on one field. Options belong to patterns. -/
structure Leaf where
  field : Name
  operator : Operator
  value : Value
  options : Name := .plain ""
  deriving Repr

/-- A condition, or a group of sub-filters. -/
inductive Node where
  | leaf (leaf : Leaf)
  | group (connective : Connective) (children : List (List Node))
  deriving Repr

mutual

/-- The conditions of a node, in the order in which they stand. -/
def Node.leaves : Node → List Leaf
  | .leaf l => [l]
  | .group _ children => leavesOfChildren children

/-- The conditions of a list of nodes, in the order in which they stand. -/
def leaves : List Node → List Leaf
  | [] => []
  | n :: ns => n.leaves ++ leaves ns

def leavesOfChildren : List (List Node) → List Leaf
  | [] => []
  | c :: cs => leaves c ++ leavesOfChildren cs

end

theorem leaves_append (ms ns : List Node) : leaves (ms ++ ns) = leaves ms ++ leaves ns := by
  induction ms with
  | nil => simp [leaves]
  | cons m ms ih => simp [leaves, ih]

theorem leavesOfChildren_eq_flatMap (cs : List (List Node)) :
    leavesOfChildren cs = cs.flatMap leaves := by
  induction cs with
  | nil => simp [leavesOfChildren]
  | cons c cs ih => simp [leavesOfChildren, ih]

end Polystore.Filter

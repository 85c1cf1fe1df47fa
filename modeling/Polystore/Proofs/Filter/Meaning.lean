import Polystore.Proofs.Sql.Condition
import Polystore.Proofs.Sql.Like

/-!
# What filters mean

When a row satisfies a condition tree, said of the tree itself and of no store's statements. A row
gives each column a value, which may be null.
-/

namespace Polystore

/-- How a store compares values that are not null: by the comparison operators, as texts, without
regard to the case, and with a backslash as the escape of patterns or not where nothing says which. -/
structure Interpretation where
  compare : Sql.Comparison → Value → Value → Bool
  text : Value → List Char
  text_str : ∀ s, text (.str s) = s.toList
  lowering : Substring.Lowering
  backslashEscapes : Bool

namespace Filter

variable (m : Interpretation) (row : String → Value)

/-- A value that is not null compares with an operand. -/
def Compares (op : Sql.Comparison) (operand v : Value) : Prop :=
  v.isNull = false ∧ m.compare op v operand = true

/-- A row satisfies a condition. -/
def Leaf.Holds (l : Leaf) : Prop :=
  let v := row l.field.text
  match l.operator with
  | .eq => if l.value.isNull then v.isNull = true else Compares m .eq l.value v
  | .ne => if l.value.isNull then v.isNull = false else Compares m .ne l.value v
  | .gt => Compares m .gt l.value v
  | .gte => Compares m .ge l.value v
  | .lt => Compares m .lt l.value v
  | .lte => Compares m .le l.value v
  | .exists => v.isNull = !l.value.truthy
  | .isIn => ∃ x ∈ l.candidateValues,
      if x.isNull then v.isNull = true else Compares m .eq x v
  | .notIn => l.candidateValues = [] ∨
      v.isNull = false ∧ ∀ x ∈ l.candidateValues, x.isNull = false → m.compare .eq v x = false
  | .regex => v.isNull = false ∧ ∃ s, l.literal? = some s ∧
      if l.ignoresCase then s.toList.map m.lowering.lower <:+: (m.text v).map m.lowering.lower
      else s.toList <:+: m.text v
  | .other _ => False

mutual

/-- A row satisfies a node: a conjunction if it satisfies every child, and a disjunction if it
satisfies some child or there is none. -/
def Node.Holds : Node → Prop
  | .leaf l => l.Holds m row
  | .group .and children => EveryHolds children
  | .group .or [] => True
  | .group .or (child :: children) => SomeHolds (child :: children)

/-- A row satisfies all nodes of a list. -/
def AllHold : List Node → Prop
  | [] => True
  | n :: ns => n.Holds ∧ AllHold ns

/-- A row satisfies every child. -/
def EveryHolds : List (List Node) → Prop
  | [] => True
  | child :: children => AllHold child ∧ EveryHolds children

/-- A row satisfies some child. -/
def SomeHolds : List (List Node) → Prop
  | [] => False
  | child :: children => AllHold child ∨ SomeHolds children

end

theorem allHold_iff {ns : List Node} : AllHold m row ns ↔ ∀ n ∈ ns, n.Holds m row := by
  induction ns with
  | nil => simp [AllHold]
  | cons n ns ih => simp [AllHold, ih]

theorem everyHolds_iff {children : List (List Node)} :
    EveryHolds m row children ↔ ∀ child ∈ children, AllHold m row child := by
  induction children with
  | nil => simp [EveryHolds]
  | cons child children ih => simp [EveryHolds, ih]

theorem someHolds_iff {children : List (List Node)} :
    SomeHolds m row children ↔ ∃ child ∈ children, AllHold m row child := by
  induction children with
  | nil => simp [SomeHolds]
  | cons child children ih => simp [SomeHolds, ih]

end Filter

end Polystore

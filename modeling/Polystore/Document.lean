import Polystore.Filter.Node
import Polystore.Update.Spec
import Polystore.Error

/-!
# Native documents

Filters and updates in the form that the document store takes as they are: a mapping of fields to
values or operator mappings, with groups under their connective, and a mapping of update operators.
-/

namespace Polystore.Document

/-- What stands under a key of a native filter. -/
inductive Slot where
  /-- The field equals a value. -/
  | equals (value : Value)
  /-- The field satisfies every operator. -/
  | operators (operands : Entries Name Value)
  /-- The sub-filters of a connective. -/
  | filters (documents : List Value)
  deriving Repr

/-- Named values as a mapping, whose keys are the names as they were given. -/
def mapping (es : Entries Name Value) : Value :=
  .map (es.map fun e => (e.1.value, e.2))

def Slot.value : Slot → Value
  | equals v => v
  | operators es => mapping es
  | filters ds => .list ds

/-- A native filter under construction. -/
abbrev Filters := Entries Name Slot

/-- The mapping of a native filter. -/
def Filters.value (fs : Filters) : Value :=
  mapping (fs.map fun f => (f.1, f.2.value))

/-- Adds the operator of a condition, with its options beside it. -/
def addOperator (operands : Entries Name Value) (l : Filter.Leaf) : Entries Name Value :=
  let operands := operands.put (.plain l.operator.symbol) l.value
  if l.operator = .regex ∧ l.options.text ≠ "" then
    operands.put (.plain Filter.optionsKey) l.options.value
  else operands

/-- The operator mapping of a field after one more condition. A symbol that is no operator has no
place in it. -/
def mergedOperators (operands : Entries Name Value) (l : Filter.Leaf) : Except Error Slot :=
  match l.operator with
  | .other _ => throw (.fault .bareOperator)
  | _ => pure (.operators (addOperator operands l))

/-- Adds a condition. The first equality on a field is its bare value, which becomes an operator when
another condition on the field follows. -/
def addLeaf (native : Filters) (l : Filter.Leaf) : Except Error Filters :=
  match native.get? l.field.text with
  | none =>
    if l.operator = .eq then pure (native.put l.field (.equals l.value))
    else (mergedOperators [] l).map fun s => native.put l.field s
  | some (.equals v) =>
    (mergedOperators [(.plain Filter.Operator.eq.symbol, v)] l).map fun s => native.put l.field s
  | some (.operators es) => (mergedOperators es l).map fun s => native.put l.field s
  | some (.filters _) =>
    match l.operator with
    | .other _ => throw (.fault .bareOperator)
    | _ => throw (.fault .misplacedOperator)

/-- Adds the sub-filters of a group to those of the same connective. -/
def addGroup (native : Filters) (c : Filter.Connective) (documents : List Value) :
    Except Error Filters :=
  if documents.isEmpty then pure native
  else match native.get? c.symbol with
    | none => pure (native.put (.plain c.symbol) (.filters documents))
    | some (.filters ds) => pure (native.put (.plain c.symbol) (.filters (ds ++ documents)))
    | some (.equals (.list xs)) => pure (native.put (.plain c.symbol) (.equals (.list (xs ++ documents))))
    | some _ => throw (.fault .misplacedGroup)

mutual

/-- Adds a node. -/
def addNode (native : Filters) : Filter.Node → Except Error Filters
  | .leaf l => addLeaf native l
  | .group c children => do
    let documents ← childDocuments children
    addGroup native c documents

/-- Adds nodes, one after the other. -/
def addNodes (native : Filters) : List Filter.Node → Except Error Filters
  | [] => pure native
  | n :: ns => do
    let native ← addNode native n
    addNodes native ns

/-- The native filters of a group's children. -/
def childDocuments : List (List Filter.Node) → Except Error (List Value)
  | [] => pure []
  | child :: children => do
    let native ← addNodes [] child
    let rest ← childDocuments children
    pure (native.value :: rest)

end

/-- The native filter of a list of nodes. -/
def filter (nodes : List Filter.Node) : Except Error Value :=
  (addNodes [] nodes).map Filters.value

/-- The operand of a bucket's update operator; a removed field stands with an empty text. -/
def bucketOperand (spec : Update.Spec) (b : Update.Bucket) : Value :=
  match b with
  | .remove => mapping (spec.remove.map fun n => (n, .str ""))
  | b => mapping (spec.items b)

/-- The native update of a specification: its buckets that are not empty, in order. -/
def update (spec : Update.Spec) : Except Error Value :=
  if spec.isEmpty then throw (.update .nothingToDo)
  else
    let used := spec.order.filter fun b => !(spec.items b).isEmpty
    pure (mapping (used.map fun b => (.plain b.operator, bucketOperand spec b)))

end Polystore.Document

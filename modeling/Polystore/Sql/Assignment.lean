import Polystore.Sql.Where
import Polystore.Update.Spec

/-!
# Updates as SQL assignments

The assignments of an update in the order of its buckets. Changes of array elements have no SQL form.
-/

namespace Polystore.Sql

/-- The change of one column. -/
inductive Assignment where
  | set (column : String) (value : Value)
  | add (column : String) (amount : Value)
  | clear (column : String)
  deriving Repr

namespace Assignment

def fragment : Assignment → Fragment
  | set column v => [.text (column ++ " = "), .slot v]
  | add column v => [.text (column ++ " = " ++ column ++ " + "), .slot v]
  | clear column => [.text (column ++ " = NULL")]

def values : Assignment → List Value
  | set _ v => [v]
  | add _ v => [v]
  | clear _ => []

/-- The assignment of a field in a bucket, for the buckets that have one. -/
def ofBucket? (b : Update.Bucket) (column : String) (v : Value) : Option Assignment :=
  match b with
  | .assign => some (set column v)
  | .increment => some (add column v)
  | .remove => some (clear column)
  | _ => none

end Assignment

/-- The operations of an update in the order of its buckets. -/
def operations (spec : Update.Spec) : List (Update.Bucket × String × Value) :=
  spec.order.flatMap fun b => (spec.items b).map fun e => (b, e.1.text, e.2)

/-- The assignments of operations, one after the other. -/
def assignmentsOf (d : SqlDialect) :
    List (Update.Bucket × String × Value) → Except Refusal (List Assignment)
  | [] => pure []
  | (b, name, v) :: ops => do
    let column ← (d.renderField name).mapError fun e => { error := e }
    let first := (Assignment.ofBucket? b column v).toList
    let rest ← (assignmentsOf d ops).mapError (Refusal.after (first.flatMap Assignment.values))
    pure (first ++ rest)

/-- Refuses an update that changes array elements or nothing. -/
def checkAssignable (dialect : String) (spec : Update.Spec) : Except Error Unit :=
  if !spec.append.isEmpty || !spec.detach.isEmpty then throw (.update (.arrayChange dialect))
  else if spec.isEmpty then throw (.update .nothingToSet)
  else pure ()

/-- The assignments of an update. -/
def assignments (d : SqlDialect) (spec : Update.Spec) : Except Refusal (List Assignment) := do
  (checkAssignable d.name spec).mapError fun e => { error := e }
  assignmentsOf d (operations spec)

/-- The text of assignments. -/
def assignmentsFragment (as : List Assignment) : Fragment :=
  Fragment.joinWith ", " (as.map Assignment.fragment)

theorem values_assignmentsFragment (as : List Assignment) :
    (assignmentsFragment as).values = as.flatMap Assignment.values := by
  rw [assignmentsFragment, Fragment.values_joinWith, List.flatMap_map]
  congr 1
  funext a
  cases a <;> rfl

end Polystore.Sql

import Polystore.Name

/-!
# Update specifications

What an update does to each field, grouped into five buckets. Placing a field into a bucket takes it out
of every other one, so that the last operation on a field is the one that counts.
-/

namespace Polystore.Update

/-- What an update does to a field. -/
inductive Bucket where
  | assign
  | increment
  | remove
  | append
  | detach
  deriving DecidableEq, Repr

namespace Bucket

def all : List Bucket :=
  [.assign, .increment, .remove, .append, .detach]

def name : Bucket → String
  | assign => "assign"
  | increment => "increment"
  | remove => "remove"
  | append => "append"
  | detach => "detach"

def ofName? (s : String) : Option Bucket :=
  all.find? fun b => b.name == s

/-- The bucket that an operator key fills. -/
def ofOperator? : String → Option Bucket
  | "$set" => some assign
  | "$inc" => some increment
  | "$unset" => some remove
  | "$push" => some append
  | "$addToSet" => some append
  | "$pull" => some detach
  | _ => none

/-- The operator of a bucket in the document store. -/
def operator : Bucket → String
  | assign => "$set"
  | increment => "$inc"
  | remove => "$unset"
  | append => "$push"
  | detach => "$pull"

theorem ofOperator?_operator (b : Bucket) : ofOperator? b.operator = some b := by
  cases b <;> rfl

end Bucket

/-- The operations of an update; `order` lists the buckets as they were first used. -/
structure Spec where
  assign : Entries Name Value := []
  increment : Entries Name Value := []
  remove : List Name := []
  append : Entries Name Value := []
  detach : Entries Name Value := []
  order : List Bucket := []
  deriving Repr

namespace Spec

/-- The specification without operations. -/
def empty : Spec :=
  {}

/-- The number of operations. -/
def total (s : Spec) : Nat :=
  s.assign.length + s.increment.length + s.remove.length + s.append.length + s.detach.length

def isEmpty (s : Spec) : Bool :=
  s.total == 0

/-- The fields of a bucket with their operands; a removal has none. -/
def items (s : Spec) : Bucket → Entries Name Value
  | .assign => s.assign
  | .increment => s.increment
  | .remove => s.remove.map fun n => (n, .null)
  | .append => s.append
  | .detach => s.detach

/-- Takes a field out of one bucket. -/
def drop (s : Spec) (name : Name) : Bucket → Spec
  | .assign => { s with assign := s.assign.erase name.text }
  | .increment => { s with increment := s.increment.erase name.text }
  | .remove => { s with remove := s.remove.filter fun n => n.text != name.text }
  | .append => { s with append := s.append.erase name.text }
  | .detach => { s with detach := s.detach.erase name.text }

/-- Writes a field into one bucket. -/
def write (s : Spec) (name : Name) (value : Value) : Bucket → Spec
  | .assign => { s with assign := s.assign.put name value }
  | .increment => { s with increment := s.increment.put name value }
  | .remove =>
    if s.remove.any fun n => n.text == name.text then s
    else { s with remove := s.remove ++ [name] }
  | .append => { s with append := s.append.put name value }
  | .detach => { s with detach := s.detach.put name value }

/-- Notes the use of a bucket. -/
def note (s : Spec) (b : Bucket) : Spec :=
  if s.order.contains b then s else { s with order := s.order ++ [b] }

/-- Puts a field into a bucket and out of every other. -/
def place (s : Spec) (b : Bucket) (name : Name) (value : Value) : Spec :=
  let others := Bucket.all.filter (· != b)
  ((others.foldl (fun s o => s.drop name o) s).write name value b).note b

/-- Places several fields into one bucket, in order. -/
def placeAll (s : Spec) (b : Bucket) (fields : Entries Name Value) : Spec :=
  fields.foldl (fun s f => s.place b f.1 f.2) s

end Spec

end Polystore.Update

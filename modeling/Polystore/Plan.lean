import Polystore.Change
import Polystore.IndexName
import Polystore.Shape.Existing

/-!
# Plans

The ordered changes that bring an existing table to its declared shape.
-/

namespace Polystore

/-- How to reconcile a table: `force` drops and recreates it, `alter` adds missing columns, `dryRun` only
plans. -/
structure SyncOptions where
  force : Bool := false
  alter : Bool := false
  dryRun : Bool := false
  deriving Repr

namespace Plan

/-- An index that a shape asks for. -/
structure Wanted where
  name : String
  fields : List (String × Int)
  unique : Value

/-- The indexes over single fields that are unique or indexed, apart from the primary key. -/
def fieldIndexes (shape : TableShape) (limit : Int) : List Wanted :=
  (shape.fields.filter fun (name, f) =>
    name != shape.primaryKey && (f.unique.truthy || f.indexed.truthy)).map fun (name, f) =>
      { name := IndexName.generate shape.name [name] limit, fields := [(name, 1)], unique := f.unique }

/-- The name of an index, generated unless it has one. -/
def indexName (table : String) (i : Index) (limit : Int) : String :=
  match i.name with
  | some n => if n = "" then IndexName.generate table i.fieldNames limit else n
  | none => IndexName.generate table i.fieldNames limit

/-- The indexes of the whole table. -/
def tableIndexes (shape : TableShape) (limit : Int) : List Wanted :=
  shape.indexes.map fun i =>
    { name := indexName shape.name i limit, fields := i.fields, unique := i.unique }

/-- The wanted indexes that the table does not have, each name once. -/
def missing (existing : ExistingTable) (seen : List String) : List Wanted → List Change
  | [] => []
  | w :: ws =>
    if seen.contains w.name || existing.hasIndex w.name then missing existing seen ws
    else .createIndex w.name w.fields w.unique :: missing existing (w.name :: seen) ws

/-- The indexes to create. -/
def indexChanges (shape : TableShape) (existing : ExistingTable) (limit : Int) : List Change :=
  missing existing [] (fieldIndexes shape limit ++ tableIndexes shape limit)

/-- Refuses a shape with a name that the dialect does not allow. -/
def checkNames (shape : TableShape) : Dialect → Except Error Unit
  | .document => pure ()
  | .sql d => do
    d.validateName shape.name
    shape.fields.keys.forM d.validateName

/-- The greatest length of a generated name. -/
def nameLimit : Dialect → Int
  | .document => 0
  | .sql d => d.engine.maxIdentifierLength

/-- The columns to add. -/
def columnChanges (shape : TableShape) (existing : ExistingTable) : List Change :=
  (shape.fields.filter fun (name, _) => !existing.hasColumn name).map fun (name, f) =>
    .addColumn name f

/-- The changes that reconcile a table with its shape. A forced run recreates the table, an absent table
is created, and columns are added on request; missing indexes are created in every case. -/
def changes (shape : TableShape) (existing : ExistingTable) (options : SyncOptions)
    (dialect : Dialect) : Except Error (List Change) := do
  checkNames shape dialect
  let limit := nameLimit dialect
  if options.force then
    pure (.recreateTable shape :: indexChanges shape .absent limit)
  else if !existing.present then
    pure (.createTable shape :: indexChanges shape existing limit)
  else
    let columns := if options.alter then columnChanges shape existing else []
    pure (columns ++ indexChanges shape existing limit)

end Plan

end Polystore

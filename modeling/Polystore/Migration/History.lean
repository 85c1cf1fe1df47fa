import Polystore.Migration.Editor
import Polystore.Request

/-!
# The history of migrations

The table that records which migrations are applied, in which batch, and the statements that read and
change it.
-/

namespace Polystore

/-- A recorded migration. -/
structure MigrationRecord where
  name : String
  timestamp : Int
  batch : Int
  executedAt : Value
  deriving Repr

namespace History

variable {σ : Type}

/-- The name of the table if the caller does not choose one. -/
def defaultTable : String := "_sdbc_migrations"

/-- The shape of the history table. -/
def shape (table : String) : Except Error TableShape :=
  TableShape.check {
    name := table
    fields := [
      ("name", { type := .text, required := .bool true }),
      ("timestamp", { type := .number, required := .bool true }),
      ("batch", { type := .number, required := .bool true }),
      ("executed_at", { type := .text })]
    primaryKey := "name" }

/-- The record that a row of the table holds. -/
def recordOf : Row → Except Error MigrationRecord
  | [name, timestamp, batch, executedAt] => do
    let name ← name.toText
    let timestamp ← timestamp.toInt
    let batch ← batch.toInt
    pure {
      name, timestamp, batch
      executedAt := if executedAt.truthy then executedAt else .str "" }
  | row => throw (.fault (.partCount 4 row.length))

/-- Creates the table if it does not exist. -/
def ensure (ed : Editor σ) (shape : TableShape) : Action σ Unit :=
  ed.sendOne fun d => Ddl.createTable d shape

/-- What is read from the table: all columns, oldest migration first. -/
def readOptions : Query.Options :=
  { sort := .list [.tuple [.str "timestamp", .int 1], .tuple [.str "name", .int 1]]
    select := .str "name timestamp batch executed_at" }

/-- The applied migrations, oldest first. -/
def records (ed : Editor σ) (shape : TableShape) : Action σ (List MigrationRecord) := do
  ensure ed shape
  let query ← .lift (Request.select shape.name .null ed.dialect readOptions)
  let rows ← ed.connection.run query.sql (.list query.parameters)
  .lift (rows.mapM recordOf)

/-- Records a migration as applied. -/
def record (ed : Editor σ) (shape : TableShape) (r : MigrationRecord) : Action σ Unit := do
  let statement ← .lift (Request.insert shape.name (.map [
    (.str "name", .str r.name), (.str "timestamp", .int r.timestamp), (.str "batch", .int r.batch),
    (.str "executed_at", r.executedAt)]) ed.dialect)
  let _ ← ed.connection.run statement.sql (.list statement.parameters)

/-- Forgets a migration. -/
def forget (ed : Editor σ) (shape : TableShape) (name : String) : Action σ Unit := do
  let statement ←
    .lift (Request.delete shape.name (.map [(.str "name", .str name)]) ed.dialect)
  let _ ← ed.connection.run statement.sql (.list statement.parameters)

end History

end Polystore

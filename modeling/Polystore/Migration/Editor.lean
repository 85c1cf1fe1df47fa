import Polystore.Introspect
import Polystore.Plan

/-!
# Editing tables in migrations

The operations that the steps of a migration are made of. Statements are rendered for the dialect and
sent one at a time.
-/

namespace Polystore

/-- A connection with the dialect of its store. A dialect without SQL allows only statements of the
caller's own. -/
structure Editor (σ : Type) where
  connection : Connection σ
  dialect : Dialect

namespace Editor

variable {σ : Type}

/-- Sends the statements of a rendering. -/
def send (ed : Editor σ) (render : SqlDialect → Except Error (List String)) : Action σ Unit := do
  let d ← .lift ed.dialect.relational
  let statements ← .lift (render d)
  ed.connection.runAll statements

/-- Sends one rendered statement. -/
def sendOne (ed : Editor σ) (render : SqlDialect → Except Error String) : Action σ Unit :=
  ed.send fun d => (render d).map fun s => [s]

/-- Runs a statement of the caller's, with the elements of a collection as parameters. -/
def execute (ed : Editor σ) (sql : String) (parameters : Value) : Action σ (List Row) := do
  if parameters.isNull then ed.connection.run sql .null
  else
    let values ← .lift parameters.elements
    ed.connection.run sql (.list values)

def hasTable (ed : Editor σ) (name : String) : Action σ Bool := do
  let d ← .lift ed.dialect.relational
  let t ← Introspect.table ed.connection d name
  pure t.present

/-- Creates a table with its declared indexes. -/
def createTable (ed : Editor σ) (shape : TableShape) : Action σ Unit := do
  ed.send fun d => Ddl.render d shape.name (.createTable shape)
  (Plan.indexChanges shape .absent (Plan.nameLimit ed.dialect)).forM fun change =>
    ed.send fun d => Ddl.render d shape.name change

def dropTable (ed : Editor σ) (name : String) : Action σ Unit :=
  ed.sendOne fun d => Ddl.dropTable d name

def renameTable (ed : Editor σ) (old new : String) : Action σ Unit :=
  ed.sendOne fun d => Ddl.renameTable d old new

/-- Adds a column from a field definition. -/
def addColumn (ed : Editor σ) (table name : String) (definition : Value) : Action σ Unit := do
  let f ← .lift (Field.ofDefinition definition)
  ed.sendOne fun d => Ddl.addColumn d table name f

def dropColumn (ed : Editor σ) (table name : String) : Action σ Unit :=
  ed.sendOne fun d => Ddl.dropColumn d table name

def renameColumn (ed : Editor σ) (table old new : String) : Action σ Unit :=
  ed.sendOne fun d => Ddl.renameColumn d table old new

/-- Creates an index and gives its name, which is generated if none is given. -/
def createIndex (ed : Editor σ) (table : String) (fields unique : Value) (name : Option String) :
    Action σ String := do
  let index ← .lift (Index.ofDefinition fields unique name)
  let name := Plan.indexName table index (Plan.nameLimit ed.dialect)
  ed.sendOne fun d => Ddl.createIndex d table name index.fields unique.truthy
  pure name

def dropIndex (ed : Editor σ) (table name : String) : Action σ Unit :=
  ed.sendOne fun d => Ddl.dropIndex d table name

end Editor

end Polystore

import Polystore.DefaultLiteral
import Polystore.Shape.Table

/-!
# Changes of tables

The changes that bring a table to its declared shape, and the statements that carry them out.
-/

namespace Polystore

/-- A change of a table. -/
inductive Change where
  | createTable (shape : TableShape)
  /-- Drops the table with its rows and creates it. -/
  | recreateTable (shape : TableShape)
  | addColumn (name : String) (field : Field)
  | createIndex (name : String) (fields : List (String × Int)) (unique : Value)
  deriving Repr

namespace Change

def isIndex : Change → Bool
  | createIndex .. => true
  | _ => false

end Change

namespace Ddl

/-- The default clause of a column; a default that is computed at write time is left to the writer. -/
def defaultClause (d : SqlDialect) (f : Field) : Except Error String :=
  match f.default.literal? with
  | none => pure ""
  | some v => (DefaultLiteral.render d.engine.defaultStyle v).map (" DEFAULT " ++ ·)

/-- A column with its type, `NOT NULL` and default. When the column is added to a table with rows, a
required field that they have no value for may be null. -/
def columnDefinition (d : SqlDialect) (name : String) (f : Field) (adding : Bool) :
    Except Error String := do
  let column ← d.renderField name
  let required := f.required.truthy && !(adding && f.lacksValue)
  let default ← defaultClause d f
  pure (column ++ " " ++ f.type.columnType d.engine ++ (if required then " NOT NULL" else "") ++
    default)

/-- The definition of a declared column in a new table. -/
def declaredColumn (d : SqlDialect) (primaryKey : String) (e : String × Field) :
    Except Error String := do
  let definition ← columnDefinition d e.1 e.2 false
  pure (if e.1 = primaryKey then definition ++ " PRIMARY KEY" else definition)

/-- The definition of a primary key that is not declared as a field. -/
def impliedKey (d : SqlDialect) (shape : TableShape) : Except Error (List String) :=
  if (shape.find? shape.primaryKey).isSome then pure []
  else do
    let column ← d.renderField shape.primaryKey
    pure [column ++ " " ++ FieldType.reference.columnType d.engine ++ " PRIMARY KEY"]

/-- The statement that creates a table. -/
def createTable (d : SqlDialect) (shape : TableShape) : Except Error String := do
  let key ← impliedKey d shape
  let columns ← shape.fields.mapM (declaredColumn d shape.primaryKey)
  let table ← d.quoteValid shape.name
  pure ("CREATE TABLE IF NOT EXISTS " ++ table ++ " (" ++ ", ".intercalate (key ++ columns) ++ ")")

def addColumn (d : SqlDialect) (table name : String) (f : Field) : Except Error String := do
  let definition ← columnDefinition d name f true
  let table ← d.quoteValid table
  pure ("ALTER TABLE " ++ table ++ " ADD COLUMN " ++ definition)

/-- One field of an index. -/
def indexField (d : SqlDialect) (f : String × Int) : Except Error String := do
  let column ← d.renderField f.1
  pure (if f.2 = -1 then column ++ " DESC" else column)

def createIndex (d : SqlDialect) (table name : String) (fields : List (String × Int))
    (unique : Bool) : Except Error String := do
  let index ← d.quoteValid name
  let target ← d.quoteValid table
  let columns ← fields.mapM (indexField d)
  pure ((if unique then "CREATE UNIQUE INDEX " else "CREATE INDEX ") ++
    (if d.engine.hasConditionalIndex then "IF NOT EXISTS " else "") ++ index ++ " ON " ++ target ++
    " (" ++ ", ".intercalate columns ++ ")")

def dropTable (d : SqlDialect) (table : String) : Except Error String := do
  let table ← d.quoteValid table
  pure ("DROP TABLE IF EXISTS " ++ table ++ d.engine.dropTableSuffix)

def renameTable (d : SqlDialect) (old new : String) : Except Error String := do
  d.validateName old
  d.validateName new
  let old ← d.quote old
  let new ← d.quote new
  pure (match d.engine with
    | .mysql => "RENAME TABLE " ++ old ++ " TO " ++ new
    | _ => "ALTER TABLE " ++ old ++ " RENAME TO " ++ new)

def dropIndex (d : SqlDialect) (table name : String) : Except Error String := do
  d.validateName table
  d.validateName name
  let index ← d.quote name
  let table ← d.quote table
  pure (match d.engine with
    | .mysql => "DROP INDEX " ++ index ++ " ON " ++ table
    | _ => "DROP INDEX IF EXISTS " ++ index)

def dropColumn (d : SqlDialect) (table column : String) : Except Error String := do
  let table ← d.quoteValid table
  let column ← d.renderField column
  pure ("ALTER TABLE " ++ table ++ " DROP COLUMN " ++ column)

def renameColumn (d : SqlDialect) (table old new : String) : Except Error String := do
  let table ← d.quoteValid table
  let old ← d.renderField old
  let new ← d.renderField new
  pure ("ALTER TABLE " ++ table ++ " RENAME COLUMN " ++ old ++ " TO " ++ new)

/-- The statements of a change, in the order in which they run. -/
def render (d : SqlDialect) (table : String) : Change → Except Error (List String)
  | .createTable shape => do
    pure [← createTable d shape]
  | .recreateTable shape => do
    let drop ← dropTable d table
    let create ← createTable d shape
    pure [drop, create]
  | .addColumn name f => do
    pure [← addColumn d table name f]
  | .createIndex name fields unique => do
    pure [← createIndex d table name fields unique.truthy]

end Ddl

end Polystore

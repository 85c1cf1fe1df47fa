import Polystore.Connection.Basic
import Polystore.Dialect
import Polystore.Entries
import Polystore.Shape.Existing

/-!
# Introspection

Reading the columns and indexes of a table from the catalog of its engine. A failing query becomes an
introspection error that wraps the store's refusal.
-/

namespace Polystore.Introspect

variable {σ : Type}

/-- The parts of a row, of which there must be exactly three. -/
def threeParts : Row → Except Error (Value × Value × Value)
  | [a, b, c] => pure (a, b, c)
  | row => throw (.fault (.partCount 3 row.length))

/-- A column of the information schema: name, type, and `YES` if it can be null. -/
def schemaColumn (row : Row) : Except Error ExistingColumn := do
  let (name, type, nullable) ← threeParts row
  let name ← name.toText
  let rawType ← type.toText
  let nullable ← nullable.toText
  pure { name, rawType, nullable := nullable == "YES" }

/-- A cell of a row. -/
def cell (row : Row) (position : Nat) : Except Error Value :=
  match row[position]? with
  | some v => pure v
  | none => throw (.fault .missingColumn)

/-- A cell of a row as text. -/
def textCell (position : Nat) (row : Row) : Except Error String := do
  let v ← cell row position
  v.toText

/-- A column of SQLite's table information: its second to fourth cells are name, type and whether it
cannot be null. -/
def pragmaColumn (row : Row) : Except Error ExistingColumn := do
  let name ← textCell 1 row
  let rawType ← textCell 2 row
  let notNull ← cell row 3
  pure { name, rawType, nullable := !notNull.truthy }

/-- The names in a column of a result, each once. -/
def indexNames (position : Nat) (rows : List Row) : Except Error (List String) := do
  let names ← rows.mapM (textCell position)
  pure names.eraseDups

/-- The rows of a catalog query on the open cursor. -/
def catalogRows (c : Connection σ) (sql : String) (parameters : List Value) :
    Action σ (List Row) := do
  Action.step (c.execute sql (some parameters))
  let rows ← Action.step c.fetch
  pure (rows.getD [])

/-- Reads a table by two catalog queries with the same parameters. -/
def fromCatalog (c : Connection σ) (columnsQuery indexesQuery : String) (parameters : List Value) :
    Action σ ExistingTable :=
  c.withCursor do
    let rows ← catalogRows c columnsQuery parameters
    if rows.isEmpty then pure .absent
    else
      let columns ← .lift (rows.mapM schemaColumn)
      let indexRows ← catalogRows c indexesQuery parameters
      let indexes ← .lift (indexNames 0 indexRows)
      pure { present := true, columns, indexes }

/-- An error of a catalog query, unless it is an introspection error already. -/
def catalogError (q : CatalogQuery) (e : Error) : Error :=
  if e.isA .introspection then e else .catalog q e

/-- Reads a table of PostgreSQL. -/
def postgres (c : Connection σ) (table schema : String) : Action σ ExistingTable :=
  (fromCatalog c
    ("SELECT column_name, data_type, is_nullable FROM information_schema.columns " ++
      "WHERE table_schema = %s AND table_name = %s ORDER BY ordinal_position")
    "SELECT indexname FROM pg_indexes WHERE schemaname = %s AND tablename = %s"
    [.str schema, .str table]).mapError (catalogError (.tables schema table))

/-- Reads a table of MySQL, in a database or in that of the connection. -/
def mysql (c : Connection σ) (table : String) (database : Option String) : Action σ ExistingTable :=
  let scope := match database with
    | some _ => "%s"
    | none => "DATABASE()"
  (fromCatalog c
    ("SELECT column_name, column_type, is_nullable FROM information_schema.columns " ++
      "WHERE table_schema = " ++ scope ++ " AND table_name = %s ORDER BY ordinal_position")
    ("SELECT DISTINCT index_name FROM information_schema.statistics " ++
      "WHERE table_schema = " ++ scope ++ " AND table_name = %s")
    (database.toList.map .str ++ [.str table])).mapError (catalogError (.informationSchema table))

/-- The rows of a query on a cursor of the connection's. -/
def queryRows (c : Connection σ) (sql : String) : Action σ (List Row) := do
  Action.step (c.query sql)
  let rows ← Action.step c.fetch
  pure (rows.getD [])

/-- The rows that SQLite reports for a table: its columns, and its indexes if it has columns. -/
def pragmaRows (c : Connection σ) (table : String) : Action σ (List Row × List Row) := do
  let rows ← queryRows c ("PRAGMA table_info(\"" ++ table ++ "\")")
  if rows.isEmpty then pure ([], [])
  else
    let indexRows ← queryRows c ("PRAGMA index_list(\"" ++ table ++ "\")")
    pure (rows, indexRows)

/-- Reads a table of SQLite. The name becomes a part of the query, so it must be an identifier. -/
def sqlite (c : Connection σ) (table : String) : Action σ ExistingTable := do
  if !Identifier.matchesForm table.toList then throw (.catalogName table)
  let (rows, indexRows) ← (pragmaRows c table).mapError (.catalog (.pragma table))
  if rows.isEmpty then pure .absent
  else
    let columns ← .lift (rows.mapM pragmaColumn)
    let indexes ← .lift (indexNames 1 indexRows)
    pure { present := true, columns, indexes }

/-- Reads a table of a relational dialect. -/
def table (c : Connection σ) (d : SqlDialect) (name : String) : Action σ ExistingTable :=
  match d.engine with
  | .postgresql => postgres c name d.schemaName
  | .mysql => mysql c name d.database
  | .sqlite => sqlite c name

/-- The one option of a catalog: the namespace or database that holds the table. -/
def catalogOption? : String → Option String
  | "postgres" => some "schema_name"
  | "mysql" => some "database"
  | _ => none

/-- Reads a table from the catalog of a name, with the values of options; another option than the
catalog's own is refused. -/
def ofCatalog (c : Connection σ) (catalog table : String)
    (options : Entries String (Option String)) : Action σ ExistingTable := do
  let read : Action σ ExistingTable ←
    match catalog with
    | "postgres" => pure (postgres c table (((options.get? "schema_name").getD none).getD "public"))
    | "mysql" => pure (mysql c table ((options.get? "database").getD none))
    | "sqlite" => pure (sqlite c table)
    | other => throw (.fault (.unknownCatalog other))
  match options.keys.find? fun name => some name != catalogOption? catalog with
  | some name => throw (.fault (.unexpectedOption name))
  | none => read

/-- Reads a table of any dialect; a document store has no catalog. -/
def ofDialect (c : Connection σ) (d : Dialect) (name : String) : Action σ ExistingTable :=
  match d with
  | .sql d => table c d name
  | .document =>
    throw (.fault (.unknownDialect "<DialectName.MONGODB: 'mongodb'>"
      ["mysql", "postgresql", "sqlite"]))

end Polystore.Introspect

import Polystore.Filter.Reading
import Polystore.Query
import Polystore.Sql.Compiler
import Polystore.Update.Reading

/-!
# Statements

Complete SQL statements with their parameters, built from a table and declarative input.
-/

namespace Polystore.Statement

open Sql (Compiled Compiler)

/-- The condition of a filter, written by a compiler. -/
def compileFilter (c : Compiler) (filter : Value) : Except Error (String × Compiler) := do
  let nodes ← Filter.read filter
  let (text, c) := c.condition nodes
  pure (← text, c)

/-- The page of a result: how many rows, and how many to skip before them. -/
def page (engine : Engine) (limit skip : Option Nat) : Except Error String := do
  let offset := skip.getD 0
  let shown ← match limit with
    | some n => (Value.int n).toText.map some
    | none => pure (if offset = 0 then none else engine.limitForOffset)
  let start := match shown with
    | some n => " LIMIT " ++ n
    | none => ""
  if offset = 0 then pure start
  else
    let text ← (Value.int offset).toText
    pure (start ++ " OFFSET " ++ text)

/-- One field of the sort order. -/
def orderTerm (d : SqlDialect) (e : Query.SortEntry) : Except Error String := do
  let column ← d.renderName e.field
  pure (column ++ if e.descending then " DESC" else " ASC")

/-- The sort order of a read. -/
def orderBy (d : SqlDialect) (sort : Value) : Except Error String := do
  let entries ← Query.normalizeSort sort
  if entries.isEmpty then pure ""
  else
    let terms ← entries.mapM (orderTerm d)
    pure (" ORDER BY " ++ ", ".intercalate terms)

/-- The columns of a read: those that the projection includes, or all. -/
def columns (d : SqlDialect) (projection : Value) : Except Error String := do
  let entries ← Query.normalizeProjection projection
  let names ← (entries.filter (·.included)).mapM fun e => d.renderName e.field
  pure (if names.isEmpty then "*" else ", ".intercalate names)

/-- `SELECT … FROM table WHERE …` with sort order and page. -/
def select (table : String) (filter : Value) (d : SqlDialect) (options : Query.Options) :
    Except Error Compiled := do
  let (condition, c) ← compileFilter { dialect := d } filter
  let columns ← columns d options.select
  let source ← d.quote table
  let order ← orderBy d options.sort
  let page ← page d.engine options.limit options.skip
  pure {
    sql := "SELECT " ++ columns ++ " FROM " ++ source ++ " WHERE " ++ condition ++ order ++ page
    parameters := c.parameters }

/-- `SELECT COUNT(*) AS count FROM table WHERE …` -/
def count (table : String) (filter : Value) (d : SqlDialect) : Except Error Compiled := do
  let (condition, c) ← compileFilter { dialect := d } filter
  let source ← d.quote table
  pure {
    sql := "SELECT COUNT(*) AS count FROM " ++ source ++ " WHERE " ++ condition
    parameters := c.parameters }

/-- `UPDATE table SET … WHERE …`; the assignments are numbered before the condition. -/
def update (table : String) (filter change : Value) (d : SqlDialect) : Except Error Compiled := do
  let spec ← Update.read change
  let (assignments, c) := ({ dialect := d } : Compiler).set spec
  let assignments ← assignments
  let (condition, c) ← compileFilter c filter
  let target ← d.quote table
  pure {
    sql := "UPDATE " ++ target ++ " SET " ++ assignments ++ " WHERE " ++ condition
    parameters := c.parameters }

/-- `DELETE FROM table WHERE …` -/
def delete (table : String) (filter : Value) (d : SqlDialect) : Except Error Compiled := do
  let (condition, c) ← compileFilter { dialect := d } filter
  let target ← d.quote table
  pure {
    sql := "DELETE FROM " ++ target ++ " WHERE " ++ condition
    parameters := c.parameters }

/-- The columns of a document with their values, of which there must be some. -/
def columnValues (document : Value) : Except Error (List (Value × Value)) :=
  match document.entries? with
  | none => throw (.update .emptyDocument)
  | some es => if es.isEmpty then throw (.update .emptyDocument) else pure es

/-- `INSERT INTO table (…) VALUES (…)` for one document. -/
def insert (table : String) (document : Value) (d : SqlDialect) : Except Error Compiled := do
  let es ← columnValues document
  let columns ← es.mapM fun e => d.renderName e.1
  let (values, c) := ({ dialect := d } : Compiler).values (es.map (·.2))
  let target ← d.quote table
  pure {
    sql := "INSERT INTO " ++ target ++ " (" ++ ", ".intercalate columns ++ ") VALUES (" ++
      values ++ ")"
    parameters := c.parameters }

end Polystore.Statement

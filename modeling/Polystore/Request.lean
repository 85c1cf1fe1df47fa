import Polystore.Statement

/-!
# Requests for SQL

SQL can be asked of every dialect. A relational dialect writes it; the document store has none, and
refuses a request after everything that is wrong with the request itself. Only a clause that needs no
dialect, such as a condition without tests, is written for it too.
-/

namespace Polystore.Request

/-- Refuses a request for SQL, if nothing else is wrong with it. -/
def refuse {α : Type} (checks : Except Error Unit) : Except Error α := do
  checks
  throw (.fault .noSql)

/-- What a read asks for can be wrong with its filter and, if that has no conditions, with its
projection. -/
def checkSelect (filter projection : Value) : Except Error Unit := do
  let nodes ← Filter.read filter
  if (Filter.leaves nodes).isEmpty then
    let _ ← Query.normalizeProjection projection

def select (table : String) (filter : Value) (dialect : Dialect) (options : Query.Options) :
    Except Error Sql.Compiled :=
  match dialect with
  | .sql d => Statement.select table filter d options
  | .document => refuse (checkSelect filter options.select)

def count (table : String) (filter : Value) (dialect : Dialect) : Except Error Sql.Compiled :=
  match dialect with
  | .sql d => Statement.count table filter d
  | .document => refuse ((Filter.read filter).map fun _ => ())

def delete (table : String) (filter : Value) (dialect : Dialect) : Except Error Sql.Compiled :=
  match dialect with
  | .sql d => Statement.delete table filter d
  | .document => refuse ((Filter.read filter).map fun _ => ())

def update (table : String) (filter change : Value) (dialect : Dialect) :
    Except Error Sql.Compiled :=
  match dialect with
  | .sql d => Statement.update table filter change d
  | .document => refuse (do Sql.checkAssignable documentStoreName (← Update.read change))

def insert (table : String) (document : Value) (dialect : Dialect) : Except Error Sql.Compiled :=
  match dialect with
  | .sql d => Statement.insert table document d
  | .document => refuse ((Statement.columnValues document).map fun _ => ())

/-- A compiler of the clauses of one statement, if the dialect has one. -/
abbrev Clauses := Option Sql.Compiler

namespace Clauses

/-- A compiler for a dialect whose first placeholder has the number `start`. -/
def create (dialect : Dialect) (start : Int) : Except Error Clauses := do
  Sql.Compiler.checkStart start
  match dialect with
  | .sql d => (Sql.Compiler.create d start).map some
  | .document => pure none

/-- The values bound so far. -/
def parameters : Clauses → List Value
  | some c => c.parameters
  | none => []

/-- Writes a clause, or decides about it where there is no compiler. -/
def write (clauses : Clauses) (clause : Sql.Compiler → Except Error String × Sql.Compiler)
    (otherwise : Except Error String) : Except Error String × Clauses :=
  match clauses with
  | some c => let (text, c) := clause c; (text, some c)
  | none => (otherwise, none)

/-- The condition of a filter. One without tests reads the same in every dialect. -/
def condition (clauses : Clauses) (nodes : List Filter.Node) : Except Error String × Clauses :=
  clauses.write (·.condition nodes)
    (if (Filter.leaves nodes).isEmpty then
      (({ dialect := { engine := .sqlite } } : Sql.Compiler).condition nodes).1
    else refuse (pure ()))

/-- The assignments of an update. -/
def set (clauses : Clauses) (spec : Update.Spec) : Except Error String × Clauses :=
  clauses.write (·.set spec) (refuse (Sql.checkAssignable documentStoreName spec))

/-- The placeholders of a list of values. -/
def values (clauses : Clauses) (vs : List Value) : Except Error String × Clauses :=
  clauses.write (fun c => let (text, c) := c.values vs; (pure text, c))
    (if vs.isEmpty then pure "" else refuse (pure ()))

end Clauses

end Polystore.Request

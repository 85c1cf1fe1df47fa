import Polystore.Document
import Polystore.Filter.Reading
import Polystore.Filter.Typing
import Polystore.Sql.Compiler
import Polystore.Update.Reading

/-!
# Compiling filters and updates

From a declarative filter or update to the form of a store: a SQL clause with its parameters, or a
native document.
-/

namespace Polystore

/-- A filter or update in the form of a store. -/
inductive Compilation where
  | sql (compiled : Sql.Compiled)
  | document (native : Value)
  deriving Repr

namespace Compilation

/-- A clause of a new statement whose placeholders start at a number. -/
def clause (d : SqlDialect) (start : Int)
    (write : Sql.Compiler → Except Error String × Sql.Compiler) : Except Error Compilation := do
  let c ← Sql.Compiler.create d start
  let (text, c) := write c
  let sql ← text
  pure (.sql { sql, parameters := c.parameters })

end Compilation

/-- Compiles a filter. With a shape, the values are checked against the declared types; a strict check
also refuses fields that the shape does not declare, and needs a shape. -/
def compileFilter (filter : Value) (dialect : Dialect) (shape : Option TableShape) (strict : Bool)
    (start : Int) : Except Error Compilation := do
  if strict && shape.isNone then throw (.schema .shapeRequired)
  let nodes ← Filter.read filter
  match shape with
  | some s => Filter.checkTypes s strict nodes
  | none => pure ()
  match dialect with
  | .sql d => Compilation.clause d start fun c => c.condition nodes
  | .document => (Document.filter nodes).map .document

/-- Compiles an update. -/
def compileUpdate (update : Value) (dialect : Dialect) (start : Int) :
    Except Error Compilation := do
  let spec ← Update.read update
  match dialect with
  | .sql d => Compilation.clause d start fun c => c.set spec
  | .document => (Document.update spec).map .document

end Polystore

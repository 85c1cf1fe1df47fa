import Polystore.Sql.Assignment

/-!
# One statement's clauses

The clauses of a statement are compiled one after the other over one list of parameters, so that their
placeholders are numbered through. A clause that is refused leaves what it has bound so far.
-/

namespace Polystore.Sql

/-- SQL text with its parameters. -/
structure Compiled where
  sql : String
  parameters : List Value
  deriving Repr

/-- The clauses compiled so far: where the numbers start, and what is bound. -/
structure Compiler where
  dialect : SqlDialect
  start : Nat := 1
  parameters : List Value := []
  deriving Repr

namespace Compiler

/-- Refuses a number that no first placeholder can have. -/
def checkStart (start : Int) : Except Error Unit :=
  if start < 1 then throw (.showing [.int start] (.fault (.startIndex start))) else pure ()

/-- A compiler whose first placeholder has the number `start`. -/
def create (d : SqlDialect) (start : Int) : Except Error Compiler := do
  checkStart start
  pure { dialect := d, start := start.toNat }

/-- The number of the next placeholder. -/
def next (c : Compiler) : Nat :=
  c.start + c.parameters.length

/-- Binds more values. -/
def bind (c : Compiler) (vs : List Value) : Compiler :=
  { c with parameters := c.parameters ++ vs }

/-- Writes a fragment and binds its values. -/
def write (c : Compiler) (f : Fragment) : String × Compiler :=
  (f.render c.dialect.placeholders c.next, c.bind f.values)

/-- Writes the fragment of a clause, or keeps what a refused clause has bound. -/
def clause (c : Compiler) (f : Except Refusal Fragment) : Except Error String × Compiler :=
  match f with
  | .ok f => let (s, c) := c.write f; (.ok s, c)
  | .error r => (.error r.error, c.bind r.bound)

/-- The condition of a filter. -/
def condition (c : Compiler) (nodes : List Filter.Node) : Except Error String × Compiler :=
  c.clause ((Sql.condition c.dialect nodes).map (Predicate.fragment c.dialect.engine))

/-- The assignments of an update. -/
def set (c : Compiler) (spec : Update.Spec) : Except Error String × Compiler :=
  c.clause ((assignments c.dialect spec).map assignmentsFragment)

/-- The placeholders of a list of values. -/
def values (c : Compiler) (vs : List Value) : String × Compiler :=
  c.write (Fragment.joinWith ", " (vs.map fun v => [.slot v]))

theorem parameters_bind (c : Compiler) (vs : List Value) :
    (c.bind vs).parameters = c.parameters ++ vs := rfl

theorem next_bind (c : Compiler) (vs : List Value) : (c.bind vs).next = c.next + vs.length := by
  simp [next, bind, Nat.add_assoc]

/-- Two fragments written one after the other are one fragment. -/
theorem write_append (c : Compiler) (f g : Fragment) :
    c.write (f ++ g) =
      ((c.write f).1 ++ ((c.write f).2.write g).1, ((c.write f).2.write g).2) := by
  simp only [write, Fragment.render_append, Fragment.values_append, next_bind]
  simp [bind]

end Compiler

end Polystore.Sql

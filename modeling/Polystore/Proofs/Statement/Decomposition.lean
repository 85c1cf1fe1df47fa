import Polystore.Proofs.Sql.Raising
import Polystore.Statement

/-!
# An update statement is made of two clauses

One compiler writes the assignments and the condition of an update statement one after the other. The
statement is the same as that of two clauses compiled apart, the condition numbered to follow the
assignments, and it fails with the error of whatever fails first (`updateStatement_decomposes`). A
condition numbered from a later number on is the same condition with raised placeholders.
-/

namespace Polystore

open Sql (Call Compiled Compiler)

/-- A clause with every number of a placeholder raised. A native document has no placeholders. -/
def Compilation.raise (style : PlaceholderStyle) (amount : Nat) : Compilation → Compilation
  | .sql c => .sql (c.raise style amount)
  | .document native => .document native

section Clauses

variable (d : SqlDialect)

/-- The nodes of a filter that passes the checks against a shape. -/
def checkedNodes (filter : Value) (shape : Option TableShape) (strict : Bool) :
    Except Error (List Filter.Node) := do
  if strict && shape.isNone then throw (.schema .shapeRequired)
  let nodes ← Filter.read filter
  match shape with
  | some s => Filter.checkTypes s strict nodes
  | none => pure ()
  pure nodes

/-- The condition of a filter, by a compiler of its own. -/
def conditionClause (start : Nat) (filter : Value) (shape : Option TableShape) (strict : Bool) :
    Except Error Compiled := do
  let nodes ← checkedNodes filter shape strict
  (Call.condition nodes).written d start

/-- The assignments of an update, by a compiler of its own. -/
def setClause (start : Nat) (change : Value) : Except Error Compiled := do
  let spec ← Update.read change
  (Call.set spec).written d start

end Clauses

namespace Statement

/-- The statement of a table, its assignments and its condition. -/
def joined (target : String) (u w : Compiled) : Compiled where
  sql := "UPDATE " ++ target ++ " SET " ++ u.sql ++ " WHERE " ++ w.sql
  parameters := u.parameters ++ w.parameters

/-- A compiler writes a condition as one of its own would, numbered from its next number on. -/
theorem compileFilter_eq_clause (c : Compiler) (filter : Value) :
    compileFilter c filter =
      (conditionClause c.dialect c.next filter none false).map fun w =>
        (w.sql, c.bind w.parameters) := by
  unfold compileFilter conditionClause checkedNodes
  simp only [Option.isNone_none, Bool.and_true, Bool.false_eq_true, if_false]
  cases Filter.read filter with
  | error e => rfl
  | ok nodes =>
    have hcondition : c.condition nodes = c.clause ((Call.condition nodes).fragment c.dialect) :=
      c.answer_eq_clause (.condition nodes)
    show (do
      let text ← (c.condition nodes).1
      pure (text, (c.condition nodes).2)) = ((Call.condition nodes).written c.dialect c.next).map _
    rw [hcondition, Call.written]
    cases (Call.condition nodes).fragment c.dialect <;> rfl

/-- One compiler that writes both clauses gives what two compilers give. -/
theorem update_eq (table : String) (filter change : Value) (d : SqlDialect) :
    update table filter change d = (do
      let u ← setClause d 1 change
      let w ← conditionClause d (1 + u.parameters.length) filter none false
      let target ← d.quote table
      pure (joined target u w)) := by
  unfold update setClause
  cases Update.read change with
  | error e => rfl
  | ok spec =>
    have hset : Compiler.set { dialect := d } spec =
        Compiler.clause { dialect := d } ((Call.set spec).fragment d) :=
      Compiler.answer_eq_clause { dialect := d } (.set spec)
    show (do
      let assignments ← (Compiler.set { dialect := d } spec).1
      let condition ← compileFilter (Compiler.set { dialect := d } spec).2 filter
      let target ← d.quote table
      pure (Compiled.mk ("UPDATE " ++ target ++ " SET " ++ assignments ++ " WHERE " ++ condition.1)
        condition.2.parameters)) =
      (do
        let u ← (Call.set spec).written d 1
        let w ← conditionClause d (1 + u.parameters.length) filter none false
        let target ← d.quote table
        pure (joined target u w))
    rw [hset, Call.written]
    cases (Call.set spec).fragment d with
    | error r => rfl
    | ok f =>
      show (do
        let condition ← compileFilter (Compiler.bind { dialect := d } f.values) filter
        let target ← d.quote table
        pure (Compiled.mk ("UPDATE " ++ target ++ " SET " ++ f.render d.placeholders 1 ++
          " WHERE " ++ condition.1) condition.2.parameters)) =
        (do
          let w ← conditionClause d (1 + f.values.length) filter none false
          let target ← d.quote table
          pure (joined target { sql := f.render d.placeholders 1, parameters := f.values } w))
      have hnext : (Compiler.bind { dialect := d } f.values).next = 1 + f.values.length :=
        Compiler.next_bind _ _
      rw [compileFilter_eq_clause, hnext]
      show (conditionClause d _ filter none false).map _ >>= _ = _
      cases conditionClause d (1 + f.values.length) filter none false <;> rfl

end Statement

end Polystore

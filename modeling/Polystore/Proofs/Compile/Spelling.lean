import Polystore.Proofs.Sql.Spelling
import Polystore.Proofs.Statement.Decomposition

/-!
# Dialects differ in spelling

A filter or an update, compiled for two dialects with the same placeholders and the same first number:
both clauses bind the same parameters, or both are refused with errors of one class. Only reserved words
and patterns show the dialect in the text.

Main statement: `alongside_compile`.
-/

namespace Polystore

open Polystore.Filter (leaves)

/-- Two errors of one class: of one kind, or the same one. -/
def Error.SameClass (e e' : Error) : Prop :=
  e = e' ∨ ∃ k, e.kind? = some k ∧ e'.kind? = some k

/-- Two SQL clauses that bind the same parameters, and have one text if nothing in them is spelled by
the dialect. -/
def Compilation.SameButSpelling (plain : Prop) (x y : Compilation) : Prop :=
  ∃ sql sql' parameters, x = .sql { sql, parameters } ∧ y = .sql { sql := sql', parameters } ∧
    (plain → sql = sql')

section Clauses

variable {plain : Prop} {d d' : SqlDialect}

/-- What the writers of two dialects have in common is what one call gives of them. -/
def Sql.Call.SpelledIn (plain : Prop) (d d' : SqlDialect) (call : Sql.Call) : Prop :=
  Alongside (Sql.SpelledFragment plain) (fun r r' => r.error.SameClass r'.error)
    (call.fragment d) (call.fragment d')

theorem alongside_clause (hstyle : d.placeholders = d'.placeholders) (start : Int) {call : Sql.Call}
    (h : call.SpelledIn plain d d') :
    Alongside (Compilation.SameButSpelling plain) Error.SameClass
      (Compilation.clause d start fun c => c.answer call)
      (Compilation.clause d' start fun c => c.answer call) := by
  by_cases hstart : start < 1
  · unfold Compilation.clause Sql.Compiler.create Sql.Compiler.checkStart
    rw [if_pos hstart]
    exact .error (.inl rfl)
  · obtain ⟨n, rfl⟩ := Int.eq_ofNat_of_zero_le (show 0 ≤ start by omega)
    have hn : 1 ≤ n := by omega
    rw [Sql.clause_answer d hn, Sql.clause_answer d' hn]
    unfold Sql.Call.SpelledIn at h
    unfold Sql.Call.written
    generalize call.fragment d = x at h ⊢
    generalize call.fragment d' = y at h ⊢
    cases h with
    | error h => exact .error h
    | @ok f f' h =>
      refine .ok ⟨f.render d.placeholders n, f'.render d'.placeholders n, f.values, rfl, ?_,
        fun hplain => ?_⟩
      · rw [h.values_eq]
      · rw [h.eq hplain, hstyle]

theorem spelledIn_condition {nodes : List Filter.Node} (h : ∀ l ∈ leaves nodes, Sql.Short plain l) :
    (Sql.Call.condition nodes).SpelledIn plain d d' := by
  have hcondition : Alongside (Sql.Spelled plain d.engine d'.engine) Sql.SameReason
      (Sql.condition d nodes) (Sql.condition d' nodes) :=
    Sql.alongside_condition h
  exact (hcondition.map fun _ _ hp => hp.spelledFragment).imp fun _ _ => Or.inl

theorem spelledIn_set {spec : Update.Spec}
    (hshort : ∀ op ∈ Sql.operations spec, op.2.1.length ≤ 63)
    (hfree : plain → ∀ op ∈ Sql.operations spec, Identifier.isReserved op.2.1 = false) :
    (Sql.Call.set spec).SpelledIn plain d d' := by
  have hcheck : Alongside Eq Error.SameClass (Sql.checkAssignable d.name spec)
      (Sql.checkAssignable d'.name spec) := by
    unfold Sql.checkAssignable
    split
    · exact .error (.inr ⟨.invalidUpdate, rfl, rfl⟩)
    · exact .refl (fun _ => rfl) (fun _ => .inl rfl) _
  have hset : Alongside (List.Forall₂ (Sql.SpelledAssignment plain))
      (fun r r' : Sql.Refusal => r.error.SameClass r'.error) (Sql.assignments d spec)
      (Sql.assignments d' spec) := by
    unfold Sql.assignments
    refine Alongside.bind (R := Eq) (hcheck.mapError fun _ _ h => h) fun _ _ _ => ?_
    exact (Sql.alongside_assignmentsOf hshort hfree).imp fun _ _ => Or.inl
  exact hset.map fun _ _ => Sql.spelledFragment_assignments

end Clauses

/-- Nothing in a filter is spelled by the dialect. -/
def PlainFilter (filter : Value) : Prop :=
  ∀ nodes, Filter.read filter = .ok nodes → ∀ l ∈ leaves nodes, l.Plain

/-- No field of an update is a reserved word. -/
def PlainUpdate (update : Value) : Prop :=
  ∀ spec, Update.read update = .ok spec →
    ∀ op ∈ Sql.operations spec, Identifier.isReserved op.2.1 = false

theorem compileFilter_eq_bind (d : SqlDialect) (filter : Value) (shape : Option TableShape)
    (strict : Bool) (start : Int) :
    compileFilter filter (.sql d) shape strict start =
      checkedNodes filter shape strict >>= fun nodes =>
        Compilation.clause d start fun c => c.answer (.condition nodes) := by
  unfold compileFilter checkedNodes
  cases strict && shape.isNone with
  | true => rfl
  | false =>
    simp only [Bool.false_eq_true, if_false]
    cases Filter.read filter with
    | error e => rfl
    | ok nodes =>
      cases shape with
      | none => rfl
      | some s =>
        simp only [bind, Except.bind]
        cases Filter.checkTypes s strict nodes <;> rfl

theorem read_of_checkedNodes {filter : Value} {shape : Option TableShape} {strict : Bool}
    {nodes : List Filter.Node} (h : checkedNodes filter shape strict = .ok nodes) :
    Filter.read filter = .ok nodes := by
  unfold checkedNodes at h
  obtain ⟨-, h⟩ := guard_eq_ok.1 h
  obtain ⟨read, hread, h⟩ := bind_eq_ok.1 h
  cases shape with
  | none => rwa [← pure_eq_ok.1 h]
  | some s =>
    obtain ⟨_, -, h⟩ := bind_eq_ok.1 h
    rwa [← pure_eq_ok.1 h]

/-- Two dialects with the same placeholders compile a filter and an update whose names have at most 63
characters to clauses with the same parameters, or refuse them with errors of one class. If nothing is
spelled by the dialect, the clauses have one text. -/
theorem alongside_compile {d d' : SqlDialect} (hstyle : d.placeholders = d'.placeholders) (start : Int) :
    (∀ filter shape strict,
      (∀ nodes, Filter.read filter = .ok nodes → ∀ l ∈ leaves nodes, l.field.text.length ≤ 63) →
      Alongside (Compilation.SameButSpelling (PlainFilter filter)) Error.SameClass
        (compileFilter filter (.sql d) shape strict start)
        (compileFilter filter (.sql d') shape strict start)) ∧
    (∀ update,
      (∀ spec, Update.read update = .ok spec → ∀ op ∈ Sql.operations spec, op.2.1.length ≤ 63) →
      Alongside (Compilation.SameButSpelling (PlainUpdate update)) Error.SameClass
        (compileUpdate update (.sql d) start) (compileUpdate update (.sql d') start)) := by
  constructor
  · intro filter shape strict hshort
    rw [compileFilter_eq_bind, compileFilter_eq_bind]
    have hnodes : Alongside (fun nodes nodes' => nodes = nodes' ∧ Filter.read filter = .ok nodes)
        Error.SameClass (checkedNodes filter shape strict) (checkedNodes filter shape strict) := by
      cases hchecked : checkedNodes filter shape strict with
      | ok nodes => exact .ok ⟨rfl, read_of_checkedNodes hchecked⟩
      | error e => exact .error (.inl rfl)
    refine hnodes.bind ?_
    rintro nodes _ ⟨rfl, hread⟩
    refine alongside_clause hstyle start (spelledIn_condition fun l hl => ?_)
    exact ⟨Filter.formed_of_readWithin hread l hl, hshort nodes hread l hl,
      fun hplain => hplain nodes hread l hl⟩
  · intro update hshort
    unfold compileUpdate
    cases hread : Update.read update with
    | error e => exact .error (.inl rfl)
    | ok spec =>
      exact alongside_clause hstyle start
        (spelledIn_set (hshort spec hread) fun hplain => hplain spec hread)

/-- A reserved word and a pattern that ignores the case. -/
def spelledFilter : Value :=
  .map [(.str "order", .int 5),
    (.str "name", .map [(.str "$regex", .str "a%"), (.str "$options", .str "i")])]

/-- Names that no dialect quotes. -/
def plainUpdate : Value :=
  .map [(.str "$set", .map [(.str "name", .str "b")]), (.str "$inc", .map [(.str "total", .int 1)])]

theorem alongside_compile_of_pattern :
    (∃ sql, compileFilter spelledFilter (.sql { engine := .sqlite }) none false 1 =
      .ok (.sql { sql, parameters := [.int 5, .str "%a\\%%"] })) ∧
    compileUpdate plainUpdate (.sql { engine := .sqlite }) 1 =
      .ok (.sql { sql := "name = ?, total = total + ?", parameters := [.str "b", .int 1] }) := by
  let d : SqlDialect := { engine := .postgresql, placeholders := .qmark }
  have hread : Filter.read spelledFilter = .ok [
      .leaf { field := .plain "order", operator := .eq, value := .int 5 },
      .leaf { field := .plain "name", operator := .regex, value := .str "a%", options := .plain "i" }] := by
    with_unfolding_all rfl
  have hspec : ∃ spec, Update.read plainUpdate = .ok spec ∧
      Sql.operations spec = [(.assign, "name", .str "b"), (.increment, "total", .int 1)] :=
    ⟨_, by with_unfolding_all rfl, by with_unfolding_all rfl⟩
  obtain ⟨spec, hspec, hops⟩ := hspec
  obtain ⟨hfilter, hupdate⟩ := @alongside_compile d { engine := .sqlite } rfl 1
  constructor
  · have hcompiled : compileFilter spelledFilter (.sql d) none false 1 = .ok (.sql {
        sql := "\"order\" = ? AND name ILIKE ? ESCAPE E'\\\\'",
        parameters := [.int 5, .str "%a\\%%"] }) := by
      with_unfolding_all rfl
    have h := hfilter spelledFilter none false fun nodes hnodes => by
      cases hread.symm.trans hnodes
      decide
    rw [hcompiled] at h
    generalize compileFilter spelledFilter (.sql { engine := .sqlite }) none false 1 = outcome at h ⊢
    cases h with
    | ok h =>
      obtain ⟨_, sql', _, hsql, rfl, -⟩ := h
      cases hsql
      exact ⟨sql', rfl⟩
  · have hcompiled : compileUpdate plainUpdate (.sql d) 1 = .ok (.sql {
        sql := "name = ?, total = total + ?", parameters := [.str "b", .int 1] }) := by
      with_unfolding_all rfl
    have h := hupdate plainUpdate fun spec' hspec' => by
      cases hspec.symm.trans hspec'
      rw [hops]
      decide
    have hplain : PlainUpdate plainUpdate := fun spec' hspec' => by
      cases hspec.symm.trans hspec'
      rw [hops]
      decide
    rw [hcompiled] at h
    generalize compileUpdate plainUpdate (.sql { engine := .sqlite }) 1 = outcome at h ⊢
    cases h with
    | ok h =>
      obtain ⟨_, sql', _, hsql, rfl, heq⟩ := h
      cases hsql
      rw [← heq hplain]

end Polystore

import Polystore.Proofs.Action
import Polystore.Proofs.Plan.Parts
import Polystore.Proofs.Refusal
import Polystore.Sync.Relational

/-!
# Rendered plans

What a synchronization writes before it sends anything: the statements of every planned change, and a
warning for each index that cannot be written.

Main statements: `runFrom_rendering`, and `render_addColumn_of_lacksValue` on the columns that are added
without their `NOT NULL`.
-/

namespace Polystore

variable {σ α β : Type}

/-! ### Statements of changes -/

namespace Ddl

variable {d : SqlDialect} {table : String} {change : Change} {statements : List String}

theorem exists_of_render (h : render d table change = .ok statements)
    (hchange : ∀ shape, change ≠ .recreateTable shape) : ∃ sql, statements = [sql] := by
  cases change with
  | recreateTable shape => exact absurd rfl (hchange shape)
  | createTable shape =>
    obtain ⟨sql, -, hsql⟩ := bind_eq_ok.1 h
    exact ⟨sql, (pure_eq_ok.1 hsql).symm⟩
  | addColumn name f =>
    obtain ⟨sql, -, hsql⟩ := bind_eq_ok.1 h
    exact ⟨sql, (pure_eq_ok.1 hsql).symm⟩
  | createIndex name fields unique =>
    obtain ⟨sql, -, hsql⟩ := bind_eq_ok.1 h
    exact ⟨sql, (pure_eq_ok.1 hsql).symm⟩

/-- A column that existing rows have no value for is added as one that is not required. -/
theorem render_addColumn_of_lacksValue {name : String} {f : Field} (h : f.lacksValue = true) :
    render d table (.addColumn name f) =
      render d table (.addColumn name { f with required := .bool false }) := by
  have hdefinition : columnDefinition d name f true =
      columnDefinition d name { f with required := .bool false } true := by
    simp only [columnDefinition, h, Bool.true_and, Bool.not_true, Bool.and_false, Value.truthy,
      Bool.false_and, defaultClause]
  simp only [render, addColumn, hdefinition]

end Ddl

namespace Sync

variable {d : SqlDialect} {table : String} {force : Bool} {plan : List Change}

/-- The planned changes that can be written, with their statements. -/
def renderedOf (d : SqlDialect) (table : String) (plan : List Change) : List Rendered :=
  plan.filterMap fun change => (Ddl.render d table change).toOption.map (change, ·)

theorem mem_renderedOf {p : Rendered} (h : p ∈ renderedOf d table plan) :
    p.1 ∈ plan ∧ Ddl.render d table p.1 = .ok p.2 := by
  obtain ⟨change, hmem, hp⟩ := List.mem_filterMap.1 h
  cases hrender : Ddl.render d table change with
  | ok statements =>
    rw [hrender] at hp
    cases hp
    exact ⟨hmem, hrender⟩
  | error e =>
    rw [hrender] at hp
    cases hp

theorem renderedOf_cons {change : Change} {statements : List String}
    (h : Ddl.render d table change = .ok statements) (plan : List Change) :
    renderedOf d table (change :: plan) = (change, statements) :: renderedOf d table plan := by
  unfold renderedOf
  rw [List.filterMap_cons, h]
  rfl

/-- The statements of changes, in order. -/
def statementsOf (rendered : List Rendered) : List (Change × String) :=
  rendered.flatMap fun p => p.2.map (p.1, ·)

/-- The warning for an index that cannot be written. -/
def unwritten? (d : SqlDialect) (table : String) (change : Change) : Option Warning :=
  match change, Ddl.render d table change with
  | .createIndex name .., .error e => some (unrenderable table name e)
  | _, _ => none

theorem unwritten?_of_render {change : Change} {statements : List String}
    (h : Ddl.render d table change = .ok statements) : unwritten? d table change = none := by
  unfold unwritten?
  rw [h]
  cases change <;> rfl

/-- All changes can be written that must be: the indexes too if the plan is forced. -/
def Written (d : SqlDialect) (table : String) (force : Bool) (plan : List Change) : Prop :=
  ∀ change ∈ plan, force = true ∨ change.isIndex = false →
    ∃ statements, Ddl.render d table change = .ok statements

theorem Written.of_error {change : Change} {e : Error} (h : Written d table force plan)
    (hmem : change ∈ plan) (hrender : Ddl.render d table change = .error e) :
    force = false ∧ change.isIndex = true := by
  have hnot : ¬(force = true ∨ change.isIndex = false) := by
    intro hmust
    obtain ⟨statements, hok⟩ := h change hmem hmust
    cases hrender.symm.trans hok
  simpa using hnot

theorem skippedIndex?_of_render {change : Change} {e : Error}
    (hrender : Ddl.render d table change = .error e) (hindex : change.isIndex = true) :
    (skippedIndex? false change e).map (unrenderable table · e) = unwritten? d table change ∧
      (skippedIndex? false change e).isSome = true := by
  cases change with
  | createIndex name fields unique =>
    have hnames : RefusesNames (Ddl.render d table (.createIndex name fields unique)) :=
      (RefusesNames.createIndex d table name fields unique.truthy).bind fun _ _ => .ok _
    obtain ⟨fault, rfl⟩ := hnames e hrender
    simp only [unwritten?, hrender]
    exact ⟨rfl, rfl⟩
  | _ => exact Bool.noConfusion hindex

theorem renderAll_cons {change : Change} (h : Written d table force [change]) (rest : List Change) :
    renderAll d table force (change :: rest) = (renderAll d table force rest).map (fun p =>
      (renderedOf d table [change] ++ p.1, [change].filterMap (unwritten? d table) ++ p.2)) ∧
    warningsBefore d table force (change :: rest) =
      [change].filterMap (unwritten? d table) ++ warningsBefore d table force rest := by
  cases hrender : Ddl.render d table change with
  | ok statements =>
    simp only [renderAll, warningsBefore, hrender, renderedOf, List.filterMap_cons, List.filterMap_nil,
      unwritten?_of_render hrender]
    cases renderAll d table force rest <;> exact ⟨rfl, rfl⟩
  | error e =>
    obtain ⟨rfl, hindex⟩ := h.of_error List.mem_cons_self hrender
    obtain ⟨hwarning, hsome⟩ := skippedIndex?_of_render hrender hindex
    obtain ⟨name, hname⟩ := Option.isSome_iff_exists.1 hsome
    rw [hname, Option.map_some] at hwarning
    simp only [renderAll, warningsBefore, hrender, hname, renderedOf, List.filterMap_cons,
      List.filterMap_nil, ← hwarning]
    cases renderAll d table false rest <;> exact ⟨rfl, rfl⟩

theorem renderAll_append (h : Written d table force plan) (rest : List Change) :
    renderAll d table force (plan ++ rest) = (renderAll d table force rest).map (fun p =>
      (renderedOf d table plan ++ p.1, plan.filterMap (unwritten? d table) ++ p.2)) ∧
    warningsBefore d table force (plan ++ rest) =
      plan.filterMap (unwritten? d table) ++ warningsBefore d table force rest := by
  induction plan with
  | nil =>
    refine ⟨?_, rfl⟩
    cases hrest : renderAll d table force rest <;> simp [hrest, Except.map, renderedOf]
  | cons change plan ih =>
    obtain ⟨hchange, hplan⟩ := List.forall_mem_cons.1 h
    obtain ⟨hrender, hwarnings⟩ := renderAll_cons (List.forall_mem_singleton.2 hchange) (plan ++ rest)
    obtain ⟨hrenders, hwarningss⟩ := ih hplan
    have hone : renderedOf d table (change :: plan) =
        renderedOf d table [change] ++ renderedOf d table plan := List.filterMap_append (l := [change])
    have hwarned : (change :: plan).filterMap (unwritten? d table) =
        [change].filterMap (unwritten? d table) ++ plan.filterMap (unwritten? d table) :=
      List.filterMap_append (l := [change])
    rw [List.cons_append, hrender, hrenders, hwarnings, hwarningss, hone, hwarned]
    refine ⟨?_, (List.append_assoc ..).symm⟩
    cases renderAll d table force rest <;> simp [Except.map]

theorem renderAll_eq_ok (h : Written d table force plan) : renderAll d table force plan =
    .ok (renderedOf d table plan, plan.filterMap (unwritten? d table)) := by
  have hall := (renderAll_append h []).1
  rw [List.append_nil] at hall
  rw [hall]
  simp [renderAll, pure, Except.pure, Except.map]

theorem filterMap_renderedOf (h : Written d table force plan) {γ : Type} {f : Change → Option γ}
    (hf : ∀ change, change.isIndex = true → f change = none) :
    (renderedOf d table plan).filterMap (fun p => f p.1) = plan.filterMap f := by
  induction plan with
  | nil => rfl
  | cons change plan ih =>
    have hrest := ih (List.forall_mem_cons.1 h).2
    cases hrender : Ddl.render d table change with
    | ok statements =>
      simp only [renderedOf, List.filterMap_cons, hrender, Except.toOption, Option.map_some] at hrest ⊢
      rw [hrest]
    | error e =>
      have hindex := (h.of_error List.mem_cons_self hrender).2
      simp only [renderedOf, List.filterMap_cons, hrender, Except.toOption, Option.map_none,
        hf change hindex] at hrest ⊢
      exact hrest

/-! ### Warnings -/

/-- The log entry of a warning. -/
def Warning.entry (w : Warning) : LogEntry :=
  ⟨.warning, .sync, w.kind.name ++ ": " ++ w.message⟩

theorem runFrom_warn (r : Report) (w : Warning) (s : Session σ) : (r.warn w).runFrom s =
    (.ok { r with warnings := r.warnings ++ [w] }, { s with log := s.log ++ [w.entry] }) :=
  (Action.runFrom_bind_ok (Action.runFrom_note ..)).trans rfl

theorem runFrom_warnAll (r : Report) (ws : List Warning) (s : Session σ) : (r.warnAll ws).runFrom s =
    (.ok { r with warnings := r.warnings ++ ws }, { s with log := s.log ++ ws.map Warning.entry }) := by
  induction ws generalizing r s with
  | nil => simp [Report.warnAll, Action.runFrom_pure]
  | cons w ws ih =>
    unfold Report.warnAll at ih ⊢
    rw [List.foldlM_cons, Action.runFrom_bind_ok (runFrom_warn r w s), ih]
    simp

theorem runFrom_rendering {r : Report} (h : Written d table force r.plan) (s : Session σ) :
    (rendering d table force r).runFrom s =
      (.ok (renderedOf d table r.plan,
        { r with warnings := r.warnings ++ r.plan.filterMap (unwritten? d table) }),
      { s with log := s.log ++ (r.plan.filterMap (unwritten? d table)).map Warning.entry }) := by
  unfold rendering
  rw [renderAll_eq_ok h]
  exact (Action.runFrom_bind_ok (runFrom_warnAll ..)).trans rfl

end Sync

end Polystore

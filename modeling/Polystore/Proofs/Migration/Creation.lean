import Polystore.Migration.Editor
import Polystore.Proofs.Plan.Convergence
import Polystore.Proofs.Sync.Relational

/-!
# Tables that migrations create

An editor creates a table by the statements with which a synchronization creates it, and gives an index
without a name the name that the plan of the table gives it.

Main statement: `creation_agrees`.
-/

namespace Polystore

open Sync

variable {σ : Type} {c : Connection σ} {d : SqlDialect} {shape : TableShape} {plan : List Change}
  {as : List Attempt} {x y : σ}

/-! ### Stores that refuse nothing -/

/-- A store that accepts every statement. -/
def Connection.AcceptsAll (c : Connection σ) : Prop :=
  ∀ sql x, ∃ rows, (c.answer sql x).1 = .ok rows

/-- The attempts of statements that are all accepted. -/
def Sync.allAccepted (statements : List (Change × String)) : List Attempt :=
  statements.map fun p => ⟨p.1, p.2, none⟩

theorem Sync.Attempted.refusal_eq_none (haccepts : c.AcceptsAll) (h : Attempted c x as y) :
    ∀ a ∈ as, a.refusal = none := by
  induction h with
  | nil => exact List.forall_mem_nil _
  | accepted hanswer _ ih => exact List.forall_mem_cons.2 ⟨rfl, ih⟩
  | @refused change sql e as x y z hanswer _ ih =>
    obtain ⟨rows, hok⟩ := haccepts sql x
    rw [hanswer] at hok
    cases hok

theorem Sync.Attempted.eq_accepted (haccepts : c.AcceptsAll) (h : Attempted c x as y) :
    as = allAccepted (as.map Attempt.sent) := by
  have hnone := h.refusal_eq_none haccepts
  unfold allAccepted
  rw [List.map_map]
  refine (List.map_id _).symm.trans (List.map_congr_left fun a ha => ?_)
  obtain ⟨change, sql, refusal⟩ := a
  obtain rfl : refusal = none := hnone _ ha
  rfl

theorem runFrom_runAll_accepted (haccepts : c.AcceptsAll) (change : Change)
    (statements : List String) (s : Session σ) : ∃ y,
      (c.runAll statements).runFrom s = (.ok (), { s with state := y }) ∧
      Attempted c s.state (allAccepted (statements.map (change, ·))) y := by
  obtain ⟨as, failure, y, hrun, hattempted, hupto⟩ := runFrom_runAll c change statements s
  have hnone := hattempted.refusal_eq_none haccepts
  cases failure with
  | none =>
    have has := hattempted.eq_accepted haccepts
    rw [hupto.1] at has
    exact ⟨y, hrun, has ▸ hattempted⟩
  | some e =>
    obtain ⟨-, done, last, rfl, hlast, -⟩ := hupto
    rw [hnone last (List.mem_append_right _ List.mem_cons_self)] at hlast
    cases hlast

/-! ### Tables -/

namespace Editor

variable {table : String}

theorem runFrom_send (haccepts : c.AcceptsAll) (change : Change) {statements : List String}
    (render : SqlDialect → Except Error (List String)) (hrender : render d = .ok statements)
    (s : Session σ) : ∃ y,
      ((⟨c, .sql d⟩ : Editor σ).send render).runFrom s = (.ok (), { s with state := y }) ∧
      Attempted c s.state (allAccepted (statements.map (change, ·))) y := by
  obtain ⟨y, hrun, hattempted⟩ := runFrom_runAll_accepted haccepts change statements s
  refine ⟨y, ?_, hattempted⟩
  unfold send
  have hdialect : (Action.lift (Dialect.sql d).relational : Action σ SqlDialect).runFrom s =
      (.ok d, s) := rfl
  have hlift : (Action.lift (render d) : Action σ (List String)).runFrom s = (.ok statements, s) := by
    rw [hrender]
    rfl
  rw [Action.runFrom_bind_ok hdialect, Action.runFrom_bind_ok hlift]
  exact hrun

theorem runFrom_sendAll (haccepts : c.AcceptsAll)
    (hrenders : ∀ change ∈ plan, ∃ statements, Ddl.render d table change = .ok statements)
    (s : Session σ) : ∃ y,
      (plan.forM fun change => (⟨c, .sql d⟩ : Editor σ).send fun d => Ddl.render d table change).runFrom s =
        (.ok (), { s with state := y }) ∧
      Attempted c s.state (allAccepted (statementsOf (renderedOf d table plan))) y := by
  induction plan generalizing s with
  | nil => exact ⟨s.state, rfl, .nil _⟩
  | cons change plan ih =>
    obtain ⟨⟨statements, hrender⟩, hrest⟩ := List.forall_mem_cons.1 hrenders
    obtain ⟨y, hfirst, hattempted⟩ := runFrom_send haccepts change
      (fun d => Ddl.render d table change) hrender s
    obtain ⟨z, hruns, hattempteds⟩ := ih hrest { s with state := y }
    refine ⟨z, (Action.runFrom_bind_ok hfirst).trans hruns, ?_⟩
    rw [renderedOf_cons hrender]
    have hall := hattempted.append hattempteds
    unfold allAccepted at hall ⊢
    rw [← List.map_append] at hall
    exact hall

end Editor

theorem Plan.eq_of_absent (hplan : Plan.changes shape .absent {} (.sql d) = .ok plan) :
    plan = .createTable shape :: Plan.indexChanges shape .absent (Plan.nameLimit (.sql d)) :=
  (Plan.changes_eq_ok_iff.1 hplan).2.symm

theorem Plan.exists_createIndex (hplan : Plan.changes shape .absent {} (.sql d) = .ok plan)
    {i : Index} (hi : i ∈ shape.indexes) : ∃ fields unique,
    .createIndex (indexName shape.name i (nameLimit (.sql d))) fields unique ∈ plan := by
  have hwanted : ⟨indexName shape.name i (nameLimit (.sql d)), i.fields, i.unique⟩ ∈
      wanted shape (nameLimit (.sql d)) :=
    List.mem_append_right _ (mem_tableIndexes_iff.2 ⟨i, hi, rfl⟩)
  obtain ⟨v, hlead, hname : v.name = indexName shape.name i (nameLimit (.sql d))⟩ :=
    exists_leads hwanted
  have hplanned : v.change ∈ indexChanges shape .absent (nameLimit (.sql d)) :=
    mem_indexChanges_iff.2 ⟨v, hlead, rfl, rfl⟩
  refine ⟨v.fields, v.unique, ?_⟩
  rw [eq_of_absent hplan, ← hname]
  exact List.mem_cons_of_mem _ hplanned

section Planned

variable (hplan : Plan.changes shape .absent {} (.sql d) = .ok plan)
  (hrenders : ∀ change ∈ plan, ∃ statements, Ddl.render d shape.name change = .ok statements)

include hplan hrenders

theorem Editor.runFrom_createTable (haccepts : c.AcceptsAll) (s : Session σ) : ∃ y,
    ((⟨c, .sql d⟩ : Editor σ).createTable shape).runFrom s = (.ok (), { s with state := y }) ∧
    Attempted c s.state (allAccepted (statementsOf (renderedOf d shape.name plan))) y := by
  obtain ⟨y, hrun, hattempted⟩ := runFrom_sendAll haccepts hrenders s
  refine ⟨y, ?_, hattempted⟩
  rw [Plan.eq_of_absent hplan] at hrun
  exact hrun

theorem Sync.runFrom_relational_absent (haccepts : c.AcceptsAll) {s s₀ : Session σ}
    (hread : (Introspect.table c d shape.name).runFrom s = (.ok .absent, s₀)) :
    ∃ report, ((relational c d shape {}).runFrom s).1 = .ok report ∧
      Attempted c s₀.state (allAccepted (statementsOf (renderedOf d shape.name plan)))
        ((relational c d shape {}).runFrom s).2.state := by
  have hexisting : (existingTable c d shape.name {}).runFrom s = (.ok (.absent, {}), s₀) := by
    have hattempt := Action.runFrom_attempt (Introspect.table c d shape.name) s
    rw [hread] at hattempt
    exact Action.runFrom_bind_ok hattempt
  have hwritten : Written d shape.name false plan := fun change hmem _ => hrenders change hmem
  obtain ⟨as, log, hattempted, -, hends⟩ := relational_accounts hexisting hplan hwritten rfl
  have hnone := hattempted.refusal_eq_none haccepts
  have has := hattempted.eq_accepted haccepts
  generalize ((relational c d shape {}).runFrom s).1 = outcome at hends
  cases hends with
  | tableRefused hfirst => cases hnone _ List.mem_cons_self
  | reported hsent htable =>
    rw [hsent] at has
    exact ⟨_, rfl, has ▸ hattempted⟩

/-! ### Indexes -/

theorem Ddl.exists_renderField (hcheck : shape.check = .ok shape) {i : Index}
    (hi : i ∈ shape.indexes) {name : String} (hname : name ∈ i.fieldNames) :
    ∃ column, d.renderField name = .ok column := by
  have hmem : Change.createTable shape ∈ plan := Plan.eq_of_absent hplan ▸ List.mem_cons_self
  obtain ⟨statements, hrender⟩ := hrenders _ hmem
  obtain ⟨sql, hcreate, -⟩ := bind_eq_ok.1 hrender
  obtain ⟨key, hkey, hcreate⟩ := bind_eq_ok.1 hcreate
  obtain ⟨columns, hcolumns, -⟩ := bind_eq_ok.1 hcreate
  have hdeclared : ∀ name ∈ shape.fields.keys, ∃ column, d.renderField name = .ok column := by
    intro name hname
    obtain ⟨e, he, rfl⟩ := List.mem_map.1 hname
    obtain ⟨column, hcolumn⟩ := exists_mapM_eq_ok.1 ⟨columns, hcolumns⟩ e he
    obtain ⟨definition, hdefinition, -⟩ := bind_eq_ok.1 hcolumn
    obtain ⟨column, hcolumn, -⟩ := bind_eq_ok.1 hdefinition
    exact ⟨column, hcolumn⟩
  rcases Plan.mem_keys_of_check hcheck hi hname with hname | rfl
  · exact hdeclared name hname
  · unfold impliedKey at hkey
    split at hkey
    · rename_i hfound
      refine hdeclared _ ?_
      by_contra hmissing
      rw [TableShape.find?, Entries.get?_eq_none_iff.2 hmissing] at hfound
      cases hfound
    · obtain ⟨column, hcolumn, -⟩ := bind_eq_ok.1 hkey
      exact ⟨column, hcolumn⟩

theorem Ddl.exists_createIndex (hcheck : shape.check = .ok shape) {i : Index}
    (hi : i ∈ shape.indexes) {name : String} {fields : List (String × Int)} {u : Value}
    (hmem : .createIndex name fields u ∈ plan) (unique : Bool) :
    ∃ sql, createIndex d shape.name name i.fields unique = .ok sql := by
  obtain ⟨statements, hrender⟩ := hrenders _ hmem
  obtain ⟨sql, hcreate, -⟩ := bind_eq_ok.1 hrender
  obtain ⟨index, hindex, hcreate⟩ := bind_eq_ok.1 hcreate
  obtain ⟨target, htarget, -⟩ := bind_eq_ok.1 hcreate
  have hfields : ∀ f ∈ i.fields, ∃ column, indexField d f = .ok column := by
    intro f hf
    obtain ⟨column, hcolumn⟩ :=
      exists_renderField hplan hrenders hcheck hi (List.mem_map_of_mem (f := Prod.fst) hf)
    exact ⟨_, bind_eq_ok.2 ⟨column, hcolumn, rfl⟩⟩
  obtain ⟨columns, hcolumns⟩ := exists_mapM_eq_ok.2 hfields
  exact ⟨_, bind_eq_ok.2 ⟨index, hindex, bind_eq_ok.2 ⟨target, htarget,
    bind_eq_ok.2 ⟨columns, hcolumns, rfl⟩⟩⟩⟩

end Planned

/-- An index that the table has is not planned again, unless the table is dropped. -/
theorem Plan.createIndex_not_mem {existing : ExistingTable} {options : SyncOptions}
    {dialect : Dialect} {name : String} (hthere : existing.hasIndex name = true)
    (hforce : options.force = false) (hplan : changes shape existing options dialect = .ok plan)
    (fields : List (String × Int)) (unique : Value) : .createIndex name fields unique ∉ plan := by
  intro hmem
  have hparts := (changes_eq_ok_iff.1 hplan).2
  rw [if_neg (by rw [hforce]; exact Bool.false_ne_true)] at hparts
  rw [← hparts] at hmem
  rcases List.mem_append.1 hmem with hmem | hmem
  · exact Bool.noConfusion (of_mem_tableChanges hmem).1
  · obtain ⟨w, -, hmissing, heq⟩ := mem_indexChanges_iff.1 hmem
    obtain ⟨rfl, -, -⟩ := Change.createIndex.inj heq
    rw [hthere] at hmissing
    cases hmissing

theorem Editor.runFrom_createIndex (haccepts : c.AcceptsAll) {table sql : String}
    {definition unique : Value} {index : Index}
    (hindex : Index.ofDefinition definition unique none = .ok index)
    (hrender : Ddl.createIndex d table (Plan.indexName table index (Plan.nameLimit (.sql d)))
      index.fields unique.truthy = .ok sql) (change : Change) (s : Session σ) : ∃ y,
      ((⟨c, .sql d⟩ : Editor σ).createIndex table definition unique none).runFrom s =
        (.ok (Plan.indexName table index (Plan.nameLimit (.sql d))), { s with state := y }) ∧
      Attempted c s.state (allAccepted [(change, sql)]) y := by
  have hrenders : (Ddl.createIndex d table (Plan.indexName table index (Plan.nameLimit (.sql d)))
      index.fields unique.truthy).map (fun sql => [sql]) = .ok [sql] := by
    rw [hrender]
    rfl
  obtain ⟨y, hrun, hattempted⟩ := runFrom_send haccepts change
    (fun d' => (Ddl.createIndex d' table (Plan.indexName table index
      (Plan.nameLimit (.sql d))) index.fields unique.truthy).map fun sql => [sql]) hrenders s
  have hlift : (Action.lift (Index.ofDefinition definition unique none) : Action σ Index).runFrom s =
      (.ok index, s) := by
    rw [hindex]
    rfl
  refine ⟨y, ?_, hattempted⟩
  unfold createIndex
  rw [Action.runFrom_bind_ok hlift]
  exact Action.runFrom_bind_ok hrun

/-- Where an absent table can be planned and the plan can be written, and the store refuses nothing, a
synchronization and an editor send the same statements in the same order: those of the plan. An index that
is declared without a name is created by an editor, from whatever definition gives its fields, under the
name that it has in the plan; a table that has an index of this name is not planned to get one again,
unless it is dropped. -/
theorem creation_agrees (hcheck : shape.check = .ok shape)
    (hplan : Plan.changes shape .absent {} (.sql d) = .ok plan)
    (hrenders : ∀ change ∈ plan, ∃ statements, Ddl.render d shape.name change = .ok statements)
    (haccepts : c.AcceptsAll) {s s₀ : Session σ}
    (hread : (Introspect.table c d shape.name).runFrom s = (.ok .absent, s₀)) :
    let statements := statementsOf (renderedOf d shape.name plan)
    let editor : Editor σ := ⟨c, .sql d⟩
    (∃ report, ((relational c d shape {}).runFrom s).1 = .ok report ∧
      Attempted c s₀.state (allAccepted statements) ((relational c d shape {}).runFrom s).2.state) ∧
    (∀ s' : Session σ, ∃ y, (editor.createTable shape).runFrom s' = (.ok (), { s' with state := y }) ∧
      Attempted c s'.state (allAccepted statements) y) ∧
    ∀ i ∈ shape.indexes, i.name.getD "" = "" → ∀ definition unique,
      Index.ofDefinition definition unique none = .ok { fields := i.fields, unique := unique } →
      let name := Plan.indexName shape.name i (Plan.nameLimit (.sql d))
      (∃ fields u, .createIndex name fields u ∈ plan) ∧
      (∀ s' : Session σ, ∃ sql y,
        Ddl.createIndex d shape.name name i.fields unique.truthy = .ok sql ∧
        (editor.createIndex shape.name definition unique none).runFrom s' =
          (.ok name, { s' with state := y }) ∧
        Attempted c s'.state (allAccepted [(.createIndex name i.fields unique, sql)]) y) ∧
      ∀ existing options later, existing.hasIndex name = true → options.force = false →
        Plan.changes shape existing options (.sql d) = .ok later →
        ∀ fields u, .createIndex name fields u ∉ later := by
  intro statements editor
  refine ⟨runFrom_relational_absent hplan hrenders haccepts hread,
    Editor.runFrom_createTable hplan hrenders haccepts, fun i hi hunnamed definition unique hindex => ?_⟩
  intro name
  obtain ⟨fields, u, hmem⟩ := Plan.exists_createIndex hplan hi
  refine ⟨⟨fields, u, hmem⟩, fun s' => ?_, fun existing options later hthere hforce hlater =>
    Plan.createIndex_not_mem hthere hforce hlater⟩
  -- The definition has no name either, so the editor generates one from the same table and fields.
  have hname : Plan.indexName shape.name { fields := i.fields, unique := unique }
      (Plan.nameLimit (.sql d)) = name := (Plan.indexName_of_unnamed hunnamed _ _).symm
  obtain ⟨sql, hsql⟩ := Ddl.exists_createIndex hplan hrenders hcheck hi hmem unique.truthy
  have hrender : Ddl.createIndex d shape.name (Plan.indexName shape.name
      { fields := i.fields, unique := unique } (Plan.nameLimit (.sql d))) i.fields unique.truthy =
      .ok sql := by
    rw [hname]
    exact hsql
  obtain ⟨y, hrun, hattempted⟩ := Editor.runFrom_createIndex haccepts hindex hrender
    (.createIndex name i.fields unique) s'
  rw [hname] at hrun
  exact ⟨sql, y, hsql, hrun, hattempted⟩

/-- A shape with an index of its own, and one over a field. -/
def journal : TableShape where
  name := "journal"
  fields := [("title", { type := .text, indexed := .bool true }), ("issue", { type := .number })]
  indexes := [{ fields := [("title", 1), ("issue", -1)] }]

/-- The plan for `journal` where there is no such table. -/
def journalPlan : List Change :=
  [.createTable journal, .createIndex "idx_journal_title" [("title", 1)] (.bool false),
    .createIndex "idx_journal_title_issue" [("title", 1), ("issue", -1)] (.bool false)]

/-- A table with two indexes is created alike by both. -/
theorem creation_agrees_of_journal :
    let c := recording []
    let d : SqlDialect := { engine := .sqlite }
    let s : Session (List String) := { state := [] }
    let t : Session (List String) := { state := ["PRAGMA table_info(\"journal\")"] }
    let definition : Value := .map [(.str "title", .int 1), (.str "issue", .int (-1))]
    journal.check = .ok journal ∧ Plan.changes journal .absent {} (.sql d) = .ok journalPlan ∧
    (∀ change ∈ journalPlan, ∃ statements, Ddl.render d journal.name change = .ok statements) ∧
    c.AcceptsAll ∧ (Introspect.table c d journal.name).runFrom s = (.ok .absent, t) ∧
    (∃ report, ((relational c d journal {}).runFrom s).1 = .ok report) ∧
    (((⟨c, .sql d⟩ : Editor (List String)).createTable journal).runFrom s).1 = .ok () ∧
    (((⟨c, .sql d⟩ : Editor (List String)).createIndex journal.name definition (.bool true)
      none).runFrom s).1 = .ok "idx_journal_title_issue" := by
  intro c d s t definition
  have hcheck : journal.check = .ok journal := by rfl
  have hplan : Plan.changes journal .absent {} (.sql d) = .ok journalPlan := by rfl
  have hrenders : ∀ change ∈ journalPlan, ∃ statements,
      Ddl.render d journal.name change = .ok statements := by
    have hall : ∀ change ∈ journalPlan,
        (Ddl.render d journal.name change).toOption.isSome = true := by decide
    intro change hmem
    cases hrender : Ddl.render d journal.name change with
    | ok statements => exact ⟨statements, rfl⟩
    | error e =>
      have hsome := hall change hmem
      rw [hrender] at hsome
      cases hsome
  have haccepts : c.AcceptsAll := fun _ _ => ⟨_, rfl⟩
  have hread : (Introspect.table c d journal.name).runFrom s = (.ok .absent, t) := by rfl
  have hindex : Index.ofDefinition definition (.bool true) none =
      .ok { fields := [("title", 1), ("issue", -1)], unique := .bool true } := by rfl
  obtain ⟨⟨report, hreport, -⟩, hcreates, hindexes⟩ :=
    creation_agrees hcheck hplan hrenders haccepts hread
  obtain ⟨y, hcreated, -⟩ := hcreates s
  obtain ⟨-, hnamed, -⟩ := hindexes _ List.mem_cons_self rfl definition (.bool true) hindex
  obtain ⟨sql, z, -, hrun, -⟩ := hnamed s
  refine ⟨hcheck, hplan, hrenders, haccepts, hread, ⟨report, hreport⟩, ?_, ?_⟩
  · rw [hcreated]
  · rw [hrun]
    rfl

end Polystore

import Polystore.Proofs.Sql.Column
import Polystore.Proofs.Sync.Continuation
import Polystore.Proofs.Sync.Reading

/-!
# Plans that are not written

Every statement of a plan is written before one is sent. So where planning fails, or a change that must
be written cannot be, the run ends with that refusal and no table has been changed; an index that need
not be written is left out, with a warning.

Main statement: `relational_sends_written`.
-/

namespace Polystore.Sync

variable {σ : Type} {c : Connection σ} {d : SqlDialect} {shape : TableShape} {options : SyncOptions}
  {table : String} {force : Bool} {plan before after : List Change} {change : Change} {e : Error}

/-! ### The first change that cannot be written -/

/-- The first change of a plan that must be written and cannot be: it comes after changes `before` that
are all written that must be. -/
structure Fails (d : SqlDialect) (table : String) (force : Bool) (before : List Change)
    (change : Change) (e : Error) : Prop where
  written : Written d table force before
  needed : force = true ∨ change.isIndex = false
  refused : Ddl.render d table change = .error e

theorem exists_refused_of_not_written (h : ¬Written d table force plan) : ∃ change ∈ plan,
    (force = true ∨ change.isIndex = false) ∧ ∃ e, Ddl.render d table change = .error e := by
  unfold Written at h
  push Not at h
  obtain ⟨change, hmem, hneeded, hrefused⟩ := h
  cases hrender : Ddl.render d table change with
  | ok statements => exact absurd hrender (hrefused statements)
  | error e => exact ⟨change, hmem, hneeded, e, hrender⟩

theorem exists_fails (hmem : change ∈ plan) (hneeded : force = true ∨ change.isIndex = false)
    (hrefused : Ddl.render d table change = .error e) :
    ∃ before first after e', plan = before ++ first :: after ∧ Fails d table force before first e' := by
  -- The head of the plan is the first, or is written that must be and the first is found behind it.
  induction plan with
  | nil => exact absurd hmem List.not_mem_nil
  | cons head plan ih =>
    by_cases hhead : Written d table force [head]
    · have hlater : change ∈ plan := by
        rcases List.mem_cons.1 hmem with rfl | hmem
        · obtain ⟨statements, hok⟩ := hhead change List.mem_cons_self hneeded
          cases hrefused.symm.trans hok
        · exact hmem
      obtain ⟨before, first, after, e', rfl, hfails⟩ := ih hlater
      have hbefore : Written d table force (head :: before) :=
        List.forall_mem_cons.2 ⟨hhead head List.mem_cons_self, hfails.written⟩
      exact ⟨head :: before, first, after, e', rfl, hbefore, hfails.needed, hfails.refused⟩
    · obtain ⟨first, hfirst, hneed, e', hrender⟩ := exists_refused_of_not_written hhead
      obtain rfl := List.mem_singleton.1 hfirst
      exact ⟨[], first, plan, e', rfl, List.forall_mem_nil _, hneed, hrender⟩

theorem skippedIndex?_of_needed (hneeded : force = true ∨ change.isIndex = false) (e : Error) :
    skippedIndex? force change e = none := by
  cases change with
  | createIndex name fields unique =>
    rcases hneeded with rfl | hindex
    · rfl
    · exact Bool.noConfusion hindex
  | _ => rfl

/-- Nothing is written of a plan that has a change that cannot be; the indexes before it that are left
out have been reported. -/
theorem Fails.renderAll (h : Fails d table force before change e) (after : List Change) :
    Sync.renderAll d table force (before ++ change :: after) = .error e ∧
      warningsBefore d table force (before ++ change :: after) =
        before.filterMap (unwritten? d table) := by
  have hskipped := skippedIndex?_of_needed h.needed e
  have hrefused : Sync.renderAll d table force (change :: after) = .error e := by
    simp only [Sync.renderAll, h.refused, hskipped]
    rfl
  have hnone : warningsBefore d table force (change :: after) = [] := by
    simp only [warningsBefore, h.refused, hskipped]
  obtain ⟨hrender, hwarnings⟩ := renderAll_append h.written (change :: after)
  rw [hrender, hwarnings, hrefused, hnone, List.append_nil]
  exact ⟨rfl, rfl⟩

theorem Fails.runFrom_carryOut (h : Fails d table options.force before change e) (after : List Change)
    (r : Report) (s : Session σ) :
    (carryOut c d table options r (before ++ change :: after)).runFrom s =
      (.error e, { s with
        log := s.log ++ (before.filterMap (unwritten? d table)).map Warning.entry }) := by
  obtain ⟨hrefused, hwarnings⟩ := h.renderAll after
  have hrun : (rendering d table options.force { r with plan := before ++ change :: after }).runFrom s =
      (.error e, { s with
        log := s.log ++ (before.filterMap (unwritten? d table)).map Warning.entry }) := by
    unfold rendering
    simp only [hrefused, hwarnings]
    exact (Action.runFrom_bind_ok (runFrom_warnAll ..)).trans rfl
  exact Action.runFrom_bind_error hrun

/-! ### An index that is left out -/

/-- Outcomes that differ in one more warning, apart from the plan that they report. -/
inductive WarnedOnce (w : Warning) (plan : List Change) :
    Except Error Report → Except Error Report → Prop where
  | refused (e : Error) : WarnedOnce w plan (.error e) (.error e)
  | reported {r : Report} {before after : List Warning} (h : r.warnings = before ++ after) :
      WarnedOnce w plan (.ok { r with warnings := before ++ w :: after, plan := plan }) (.ok r)

/-- A run on a plan that differs from another run in one more warning, which it also logs. -/
structure AddsOnly (w : Warning) (plan : List Change) (run other : Except Error Report × Session σ) :
    Prop where
  state : run.2.state = other.2.state
  log : ∃ before after, other.2.log = before ++ after ∧ run.2.log = before ++ w.entry :: after
  outcome : WarnedOnce w plan run.1 other.1

theorem plannedWarnings_of_unwritten {index : Change} {w : Warning} (hindex : index.isIndex = true)
    (hw : unwritten? d table index = some w) (before after : List Change) :
    ∃ ws ws', plannedWarnings d table (before ++ after) = ws ++ ws' ∧
      plannedWarnings d table (before ++ index :: after) = ws ++ w :: ws' := by
  refine ⟨before.filterMap (unwritten? d table), after.filterMap (unwritten? d table) ++
    (before ++ after).filterMap fallbackWarning?, ?_, ?_⟩
  · simp [plannedWarnings]
  · simp [plannedWarnings, hw, fallbackWarning?_of_isIndex hindex]

theorem renderedOf_of_unwritten {index : Change} (hrefused : Ddl.render d table index = .error e)
    (before after : List Change) :
    renderedOf d table (before ++ index :: after) = renderedOf d table (before ++ after) := by
  simp [renderedOf, List.filterMap_append, hrefused, Except.toOption]

theorem addsOnly_continued {w : Warning} {r : Report} {ws ws' : List Warning} {log : List LogEntry}
    {plan plan' : List Change} (run : Except Error Report × Session σ) :
    AddsOnly w plan
      (continued { r with warnings := r.warnings ++ (ws ++ w :: ws'), plan := plan }
        (log ++ (ws ++ w :: ws').map Warning.entry) run)
      (continued { r with warnings := r.warnings ++ (ws ++ ws'), plan := plan' }
        (log ++ (ws ++ ws').map Warning.entry) run) := by
  obtain ⟨outcome, s⟩ := run
  refine ⟨rfl, ⟨log ++ ws.map Warning.entry, ws'.map Warning.entry ++ s.log, ?_, ?_⟩, ?_⟩
  · simp [continued]
  · simp [continued]
  · cases outcome with
    | error e => exact .refused e
    | ok more =>
      have hwarnings : r.warnings ++ (ws ++ w :: ws') ++ more.warnings =
          (r.warnings ++ ws) ++ w :: (ws' ++ more.warnings) := by simp
      let other : Report :=
        Report.followedBy { r with warnings := r.warnings ++ (ws ++ ws'), plan := plan' } more
      have hother : other.warnings = (r.warnings ++ ws) ++ (ws' ++ more.warnings) := by
        simp [other, Report.followedBy]
      have hreport : WarnedOnce w plan _ (.ok other) := .reported hother
      simpa only [continued, Except.map, other, Report.followedBy, hwarnings] using hreport

theorem runFrom_carryOut_continued (hwritten : Written d table options.force plan) (r : Report)
    (s : Session σ) : (carryOut c d table options r plan).runFrom s =
      continued (r.withPlan d table plan)
        (s.log ++ (plannedWarnings d table plan).map Warning.entry)
        ((if options.dryRun then pure {}
          else applyAll c table options.force {} (renderedOf d table plan)).runFrom
          { state := s.state }) := by
  rw [runFrom_carryOut hwritten]
  cases options.dryRun with
  | true => simp [Action.runFrom_pure, continued, Except.map, Report.followedBy_empty]
  | false => exact Extends.applyAll c table options.force (renderedOf d table plan) _ _

/-- An index that cannot be written is a warning, and the plan is carried out as if it were not there. -/
theorem carryOut_addsOnly {name : String} {fields : List (String × Int)} {unique : Value}
    (hwritten : Written d table options.force (before ++ .createIndex name fields unique :: after))
    (hrefused : Ddl.render d table (.createIndex name fields unique) = .error e) (r : Report)
    (s : Session σ) :
    AddsOnly (unrenderable table name e) (before ++ .createIndex name fields unique :: after)
      ((carryOut c d table options r (before ++ .createIndex name fields unique :: after)).runFrom s)
      ((carryOut c d table options r (before ++ after)).runFrom s) := by
  have hw : unwritten? d table (.createIndex name fields unique) = some (unrenderable table name e) := by
    unfold unwritten?
    rw [hrefused]
  have hothers : Written d table options.force (before ++ after) := by
    intro change hmem
    refine hwritten change ?_
    exact (List.mem_append.1 hmem).elim (List.mem_append_left _)
      fun h => List.mem_append_right _ (List.mem_cons_of_mem _ h)
  obtain ⟨ws, ws', hplanned, hplanned'⟩ := plannedWarnings_of_unwritten rfl hw before after
  rw [runFrom_carryOut_continued hwritten, runFrom_carryOut_continued hothers, Report.withPlan,
    Report.withPlan, hplanned, hplanned', renderedOf_of_unwritten hrefused]
  exact addsOnly_continued _

/-- Where another change of an unforced plan cannot be written, an index makes no difference at all, as
it comes after that change. -/
theorem carryOut_eq_of_not_written {index : Change} {existing : ExistingTable}
    (hforce : options.force = false)
    (hplan : Plan.changes shape existing options (.sql d) = .ok (before ++ index :: after))
    (hindex : index.isIndex = true)
    (hnot : ¬Written d table options.force (before ++ index :: after)) (r : Report) (s : Session σ) :
    (carryOut c d table options r (before ++ index :: after)).runFrom s =
      (carryOut c d table options r (before ++ after)).runFrom s := by
  obtain ⟨change, hmem, hneeded, e, hrefused⟩ := exists_refused_of_not_written hnot
  -- What must be written without force is no index, and only indexes follow one.
  have hother : change.isIndex = false :=
    hneeded.resolve_left fun h => Bool.false_ne_true (hforce.symm.trans h)
  have hindexes : ∀ later ∈ index :: after, later.isIndex = true :=
    List.forall_mem_cons.2 ⟨hindex, Plan.isIndex_of_mem_after hplan hindex⟩
  have hbefore : change ∈ before := by
    rcases List.mem_append.1 hmem with hmem | hmem
    · exact hmem
    · have htrue := hindexes change hmem
      rw [hother] at htrue
      cases htrue
  obtain ⟨done, first, left, e', rfl, hfails⟩ := exists_fails hbefore hneeded hrefused
  rw [List.append_assoc, List.append_assoc, List.cons_append, List.cons_append,
    hfails.runFrom_carryOut, hfails.runFrom_carryOut]

theorem exists_runFrom_carryOut (h : ¬Written d table options.force plan) (r : Report)
    (s : Session σ) :
    ∃ e log, (carryOut c d table options r plan).runFrom s = (.error e, { s with log := log }) := by
  obtain ⟨change, hmem, hneeded, e, hrefused⟩ := exists_refused_of_not_written h
  obtain ⟨before, first, after, e', rfl, hfails⟩ := exists_fails hmem hneeded hrefused
  exact ⟨e', _, hfails.runFrom_carryOut after r s⟩

theorem plan_of_carryOut {r report : Report} {s : Session σ}
    (h : ((carryOut c d table options r plan).runFrom s).1 = .ok report) : report.plan = plan := by
  by_cases hwritten : Written d table options.force plan
  · rw [runFrom_carryOut_continued hwritten] at h
    obtain ⟨more, -, rfl⟩ := map_eq_ok.1 h
    rfl
  · obtain ⟨e, log, hrun⟩ := exists_runFrom_carryOut hwritten r s
    rw [hrun] at h
    cases h

theorem state_of_dryRun (hdry : options.dryRun = true) (plan : List Change) (r : Report)
    (s : Session σ) : ((carryOut c d table options r plan).runFrom s).2.state = s.state := by
  by_cases hwritten : Written d table options.force plan
  · rw [runFrom_carryOut hwritten, if_pos hdry, Action.runFrom_pure]
  · obtain ⟨e, log, hrun⟩ := exists_runFrom_carryOut hwritten r s
    rw [hrun]

/-! ### A table that cannot be made again -/

/-- A planned table can always be dropped, so a forced run is refused as its creation is. -/
theorem fails_of_recreateTable {existing : ExistingTable} (hforce : options.force = true)
    (hplan : Plan.changes shape existing options (.sql d) = .ok plan)
    (hrefused : Ddl.createTable d shape = .error e) :
    ∃ after, plan = .recreateTable shape :: after ∧
      Fails d shape.name options.force [] (.recreateTable shape) e := by
  obtain ⟨hnames, hparts⟩ := Plan.changes_eq_ok_iff.1 hplan
  rw [if_pos hforce] at hparts
  obtain ⟨_, hname, -⟩ := bind_eq_ok.1 hnames
  have hquoted := SqlDialect.quoteValid_eq_ok.2 ⟨hname, rfl⟩
  have hrender : Ddl.render d shape.name (.recreateTable shape) = .error e := by
    simp only [Ddl.render, Ddl.dropTable, hquoted, hrefused]
    rfl
  exact ⟨_, hparts.symm, List.forall_mem_nil _, .inl hforce, hrender⟩

/-! ### Whole runs -/

variable {s s₀ : Session σ} {outcome : Except Error ExistingTable}

/-- The report of a synchronization that has read the table. -/
def readReport (table : String) (outcome : Except Error ExistingTable) : Report :=
  { warnings := readWarnings table outcome }

/-- The session of a synchronization that has read the table. -/
def afterReading (table : String) (outcome : Except Error ExistingTable) (s₀ : Session σ) : Session σ :=
  { s₀ with log := s₀.log ++ (readWarnings table outcome).map Warning.entry }

section Read

variable (hread : (Introspect.table c d shape.name).runFrom s = (outcome, s₀))
  (hknown : ∀ e, outcome = .error e → e.isA .introspection = true)

include hread hknown

theorem runFrom_relational_unplanned
    (hplan : Plan.changes shape (known outcome) options (.sql d) = .error e) :
    (relational c d shape options).runFrom s = (.error e, afterReading shape.name outcome s₀) := by
  have hlift : (Action.lift (Plan.changes shape (known outcome) options (.sql d)) :
      Action σ (List Change)).runFrom (afterReading shape.name outcome s₀) =
      (.error e, afterReading shape.name outcome s₀) := by
    rw [hplan]
    rfl
  unfold relational
  rw [Action.runFrom_bind_ok (runFrom_existingTable hread hknown)]
  exact Action.runFrom_bind_error hlift

theorem runFrom_relational_read
    (hplan : Plan.changes shape (known outcome) options (.sql d) = .ok plan) :
    (relational c d shape options).runFrom s =
      (carryOut c d shape.name options (readReport shape.name outcome) plan).runFrom
        (afterReading shape.name outcome s₀) :=
  runFrom_relational_planned (runFrom_existingTable hread hknown) hplan

theorem runFrom_relational_fails
    (hplan : Plan.changes shape (known outcome) options (.sql d) = .ok (before ++ change :: after))
    (hfails : Fails d shape.name options.force before change e) :
    ((relational c d shape options).runFrom s).1 = .error e ∧
      WithoutDdl c s.state ((relational c d shape options).runFrom s).2.state := by
  have hreads := Action.Reads.table (c := c) d shape.name s
  rw [hread] at hreads
  rw [runFrom_relational_read hread hknown hplan, hfails.runFrom_carryOut after]
  exact ⟨rfl, hreads⟩

theorem plan_of_relational {report : Report}
    (hreport : ((relational c d shape options).runFrom s).1 = .ok report) :
    Plan.changes shape (known outcome) options (.sql d) = .ok report.plan := by
  cases hplan : Plan.changes shape (known outcome) options (.sql d) with
  | error e =>
    rw [runFrom_relational_unplanned hread hknown hplan] at hreport
    cases hreport
  | ok plan =>
    rw [runFrom_relational_read hread hknown hplan] at hreport
    rw [plan_of_carryOut hreport]

end Read

/-- A synchronization sends no statement of the data definition language unless its plan is made and
everything in it that must be written can be; of several changes that cannot, the first is the error. A
forced one drops no table that it cannot create again. One that is not forced leaves an index out that
cannot be written, with a warning as the only difference. A dry one reports the plan of the real one. -/
theorem relational_sends_written
    (hread : (Introspect.table c d shape.name).runFrom s = (outcome, s₀))
    (hknown : ∀ e, outcome = .error e → e.isA .introspection = true) :
    let run := (relational c d shape options).runFrom s
    let planned := Plan.changes shape (known outcome) options (.sql d)
    (∀ e, planned = .error e → run.1 = .error e ∧ WithoutDdl c s.state run.2.state) ∧
    (∀ plan, planned = .ok plan → ∀ change ∈ plan, options.force = true ∨ change.isIndex = false →
      ∀ e, Ddl.render d shape.name change = .error e →
        ∃ before first after e', plan = before ++ first :: after ∧
          Fails d shape.name options.force before first e' ∧
          run.1 = .error e' ∧ WithoutDdl c s.state run.2.state) ∧
    (options.force = true → ∀ plan, planned = .ok plan → ∀ e, Ddl.createTable d shape = .error e →
      run.1 = .error e ∧ WithoutDdl c s.state run.2.state) ∧
    (options.force = false → ∀ before after name fields unique e,
      planned = .ok (before ++ .createIndex name fields unique :: after) →
      Ddl.render d shape.name (.createIndex name fields unique) = .error e →
        let carriedOut := fun plan => (carryOut c d shape.name options
          (readReport shape.name outcome) plan).runFrom (afterReading shape.name outcome s₀)
        run = carriedOut (before ++ .createIndex name fields unique :: after) ∧
        (Written d shape.name options.force (before ++ .createIndex name fields unique :: after) →
          AddsOnly (unrenderable shape.name name e) (before ++ .createIndex name fields unique :: after)
            run (carriedOut (before ++ after))) ∧
        (¬Written d shape.name options.force (before ++ .createIndex name fields unique :: after) →
          run = carriedOut (before ++ after))) ∧
    (options.dryRun = true → WithoutDdl c s.state run.2.state ∧
      planned = Plan.changes shape (known outcome) { options with dryRun := false } (.sql d) ∧
      (∀ plan, planned = .ok plan → Written d shape.name options.force plan →
        ∃ report, run.1 = .ok report ∧ report.plan = plan) ∧
      ∀ report real, run.1 = .ok report →
        ((relational c d shape { options with dryRun := false }).runFrom s).1 = .ok real →
        report.plan = real.plan) := by
  intro run planned
  have hreads := Action.Reads.table (c := c) d shape.name s
  rw [hread] at hreads
  refine ⟨fun e hplan => ?unplanned, fun plan hplan change hmem hneeded e hrefused => ?unwritten,
    fun hforce plan hplan e hrefused => ?undroppable,
    fun hforce before after name fields unique e hplan hrefused => ?index, fun hdry => ?dry⟩
  case unplanned =>
    have hrun : run = _ := runFrom_relational_unplanned hread hknown hplan
    rw [hrun]
    exact ⟨rfl, hreads⟩
  case unwritten =>
    obtain ⟨before, first, after, e', rfl, hfails⟩ := exists_fails hmem hneeded hrefused
    exact ⟨before, first, after, e', rfl, hfails, runFrom_relational_fails hread hknown hplan hfails⟩
  case undroppable =>
    obtain ⟨after, rfl, hfails⟩ := fails_of_recreateTable hforce hplan hrefused
    exact runFrom_relational_fails hread hknown hplan hfails
  case index =>
    have hrun : run = _ := runFrom_relational_read hread hknown hplan
    rw [hrun]
    exact ⟨rfl, fun hwritten => carryOut_addsOnly hwritten hrefused _ _,
      fun hnot => carryOut_eq_of_not_written hforce hplan rfl hnot _ _⟩
  case dry =>
    have hreal : Plan.changes shape (known outcome) { options with dryRun := false } (.sql d) =
        planned := rfl
    refine ⟨?unsent, rfl, fun plan hplan hwritten => ?reported, fun report real hreport hrun => ?same⟩
    case unsent =>
      cases hplan : planned with
      | error e =>
        have hrun : run = _ := runFrom_relational_unplanned hread hknown hplan
        rw [hrun]
        exact hreads
      | ok plan =>
        have hrun : run = _ := runFrom_relational_read hread hknown hplan
        rw [hrun, state_of_dryRun hdry]
        exact hreads
    case reported =>
      have hrun : run = _ := runFrom_relational_read hread hknown hplan
      rw [hrun, runFrom_carryOut hwritten, if_pos hdry]
      exact ⟨_, rfl, rfl⟩
    case same =>
      have hplan : planned = _ := plan_of_relational hread hknown hreport
      have hplan' := hreal.symm.trans (plan_of_relational hread hknown hrun)
      exact Except.ok.inj (hplan.symm.trans hplan')

/-- A shape whose table cannot be created, as one of its defaults has no literal. -/
def illustrated : TableShape where
  name := "books"
  fields := [("title", { type := .text }), ("cover", { type := .mixed, default := .given (.bytes [1]) })]

/-- A table that cannot be created again is not dropped. -/
theorem relational_sends_written_of_illustrated :
    let c := recording []
    let d : SqlDialect := { engine := .sqlite }
    let s : Session (List String) := { state := [] }
    let read : Session (List String) := { state := booksQueries }
    let table : ExistingTable := { present := true, columns := [{ name := "title", rawType := "TEXT" }] }
    let run := (relational c d illustrated { force := true }).runFrom s
    let e : Error := .schema (.noLiteral "bytes")
    (Introspect.table c d illustrated.name).runFrom s = (.ok table, read) ∧
    (∀ e, (.ok table : Except Error ExistingTable) = .error e → e.isA .introspection = true) ∧
    Plan.changes illustrated table { force := true } (.sql d) = .ok [.recreateTable illustrated] ∧
    Ddl.createTable d illustrated = .error e ∧
    run.1 = .error e ∧ WithoutDdl c s.state run.2.state := by
  intro c d s read table run e
  have hread : (Introspect.table c d illustrated.name).runFrom s = (.ok table, read) := by rfl
  have hknown : ∀ e, (.ok table : Except Error ExistingTable) = .error e →
      e.isA .introspection = true := by
    intro e h
    cases h
  have hplan : Plan.changes illustrated table { force := true } (.sql d) =
      .ok [.recreateTable illustrated] := by rfl
  have hcreate : Ddl.createTable d illustrated = .error e := by rfl
  have hwhole := @relational_sends_written _ c d illustrated { force := true } s read (.ok table) hread
    hknown
  obtain ⟨-, -, hforced, -⟩ := hwhole
  exact ⟨hread, hknown, hplan, hcreate, hforced rfl _ hplan _ hcreate⟩

end Polystore.Sync

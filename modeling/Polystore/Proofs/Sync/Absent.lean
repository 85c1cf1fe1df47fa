import Polystore.Proofs.Sync.Coupling

/-!
# Tables that cannot be read

A table whose catalog cannot be read counts as absent. The synchronization then does what it does over a
store that reports the table absent and answers the statements of the data definition language alike, and
its report has one more warning, which comes first.

Main statement: `unreadable_counts_as_absent`.
-/

namespace Polystore

variable {σ τ : Type} {c : Connection σ} {c' : Connection τ} {R : σ → τ → Prop} {d : SqlDialect}
  {s : Session σ}

/-! ### Failed readings -/

namespace Introspect

/-- Reading a table fails: its name is no identifier where it would become a part of a query, or the store
refuses to answer. -/
def Unreadable (c : Connection σ) (d : SqlDialect) (name : String) (s : Session σ) : Prop :=
  match d.engine with
  | .sqlite => Identifier.matchesForm name.toList = false ∨
      ∃ e, ((pragmaRows c name).runFrom s).1 = .error e
  | _ => ∃ e, ((table c d name).runFrom s).1 = .error e

theorem isA_catalogError (q : CatalogQuery) (e : Error) :
    (catalogError q e).isA .introspection = true := by
  unfold catalogError
  by_cases h : e.isA .introspection = true
  · rw [if_pos h]
    exact h
  · rw [if_neg h]
    rfl

theorem isA_of_mapError {α : Type} {a : Action σ α} {q : CatalogQuery} {e : Error}
    (h : ((a.mapError (catalogError q)).runFrom s).1 = .error e) : e.isA .introspection = true := by
  rw [Action.runFrom_mapError] at h
  cases houtcome : (a.runFrom s).1 with
  | ok v =>
    rw [houtcome] at h
    cases h
  | error e' =>
    rw [houtcome] at h
    cases h
    exact isA_catalogError q e'

theorem sqlite_refuses {name : String} (h : Identifier.matchesForm name.toList = false ∨
    ∃ e, ((pragmaRows c name).runFrom s).1 = .error e) :
    ∃ e, ((sqlite c name).runFrom s).1 = .error e ∧ e.isA .introspection = true := by
  unfold sqlite
  by_cases hform : Identifier.matchesForm name.toList = true
  · obtain ⟨e, hrefused⟩ := h.resolve_left (by rw [hform]; exact Bool.noConfusion)
    have hrows : ((pragmaRows c name).mapError (.catalog (.pragma name))).runFrom s =
        (.error (.catalog (.pragma name) e), ((pragmaRows c name).runFrom s).2) := by
      rw [Action.runFrom_mapError, hrefused]
      rfl
    refine ⟨.catalog (.pragma name) e, ?_, rfl⟩
    simp only [hform, Bool.not_true, Bool.false_eq_true, if_false]
    rw [Action.runFrom_bind_error hrows]
  · rw [Bool.not_eq_true] at hform
    refine ⟨.catalogName name, ?_, rfl⟩
    simp only [hform, Bool.not_false, if_true]
    rfl

theorem Unreadable.exists_error {name : String} (h : Unreadable c d name s) :
    ∃ e, ((table c d name).runFrom s).1 = .error e ∧ e.isA .introspection = true := by
  unfold Unreadable at h
  cases hengine : d.engine with
  | sqlite =>
    simp only [hengine] at h
    unfold table
    simp only [hengine]
    exact sqlite_refuses h
  | postgresql =>
    simp only [hengine] at h
    obtain ⟨e, he⟩ := h
    refine ⟨e, he, ?_⟩
    unfold table at he
    simp only [hengine] at he
    exact isA_of_mapError he
  | mysql =>
    simp only [hengine] at h
    obtain ⟨e, he⟩ := h
    refine ⟨e, he, ?_⟩
    unfold table at he
    simp only [hengine] at he
    exact isA_of_mapError he

end Introspect

namespace Sync

variable {shape : TableShape} {options : SyncOptions} {plan : List Change}

/-! ### Tables as they are reported -/

/-- What a synchronization does with a table as it is reported, after what it has reported so far. -/
def reconcile (c : Connection σ) (d : SqlDialect) (shape : TableShape) (options : SyncOptions)
    (existing : ExistingTable) (r : Report) : Action σ Report := do
  let plan ← .lift (Plan.changes shape existing options (.sql d))
  carryOut c d shape.name options r plan

theorem relational_eq (c : Connection σ) (d : SqlDialect) (shape : TableShape)
    (options : SyncOptions) : relational c d shape options =
      existingTable c d shape.name {} >>= fun p => reconcile c d shape options p.1 p.2 := rfl

theorem runFrom_relational_reconcile (options : SyncOptions) {outcome : Except Error ExistingTable}
    {s₀ : Session σ}
    (hread : (Introspect.table c d shape.name).runFrom s = (outcome, s₀))
    (hknown : ∀ e, outcome = .error e → e.isA .introspection = true) :
    (relational c d shape options).runFrom s =
      (reconcile c d shape options (known outcome) (readReport shape.name outcome)).runFrom
        (afterReading shape.name outcome s₀) := by
  rw [relational_eq]
  exact Action.runFrom_bind_ok (runFrom_existingTable hread hknown)

/-! ### Earlier warnings -/

/-- A report with a warning before its own. -/
def Report.warnedFirst (w : Warning) (r : Report) : Report :=
  { r with warnings := w :: r.warnings }

/-- A plan is carried out alike after an earlier warning, which the report and the log then have first. -/
theorem runFrom_carryOut_warned (w : Warning) (plan : List Change) (s : Session σ) :
    (carryOut c d shape.name options { warnings := [w] } plan).runFrom s =
      let run := (carryOut c d shape.name options {} plan).runFrom { state := s.state }
      (run.1.map (Report.warnedFirst w), { run.2 with log := s.log ++ run.2.log }) := by
  by_cases hwritten : Written d shape.name options.force plan
  · rw [runFrom_carryOut_continued hwritten, runFrom_carryOut_continued hwritten]
    generalize (if options.dryRun = true then _ else _ : Action σ Report).runFrom _ = run
    obtain ⟨outcome, s'⟩ := run
    cases outcome with
    | ok more => simp [continued, Except.map, Report.followedBy, Report.withPlan, Report.warnedFirst]
    | error e => simp [continued, Except.map]
  · obtain ⟨change, hmem, hneeded, e, hrefused⟩ := exists_refused_of_not_written hwritten
    obtain ⟨before, first, after, e', rfl, hfails⟩ := exists_fails hmem hneeded hrefused
    rw [hfails.runFrom_carryOut, hfails.runFrom_carryOut]
    simp [Except.map]

theorem runFrom_reconcile_warned (w : Warning) (existing : ExistingTable) (s : Session σ) :
    (reconcile c d shape options existing { warnings := [w] }).runFrom s =
      let run := (reconcile c d shape options existing {}).runFrom { state := s.state }
      (run.1.map (Report.warnedFirst w), { run.2 with log := s.log ++ run.2.log }) := by
  have hlift : ∀ s : Session σ, (Action.lift (Plan.changes shape existing options (.sql d)) :
      Action σ (List Change)).runFrom s = (Plan.changes shape existing options (.sql d), s) :=
    fun _ => rfl
  unfold reconcile
  cases hplan : Plan.changes shape existing options (.sql d) with
  | ok plan =>
    rw [hplan] at hlift
    rw [Action.runFrom_bind_ok (hlift _), Action.runFrom_bind_ok (hlift _), runFrom_carryOut_warned]
  | error e =>
    rw [hplan] at hlift
    rw [Action.runFrom_bind_error (hlift _), Action.runFrom_bind_error (hlift _)]
    simp [Except.map]

/-! ### Warnings about the reading -/

/-- No warning tells of a table that could not be read. -/
def AllRead (ws : List Warning) : Prop :=
  ∀ w ∈ ws, w.kind ≠ .introspectionFailure

/-- A program gives reports whose warnings do not tell of a table that could not be read. -/
def ReportsRead (a : Action σ Report) : Prop :=
  ∀ s r, (a.runFrom s).1 = .ok r → AllRead r.warnings

theorem AllRead.append {ws ws' : List Warning} (h : AllRead ws) (h' : AllRead ws') :
    AllRead (ws ++ ws') :=
  fun w hw => (List.mem_append.1 hw).elim (h w) (h' w)

namespace ReportsRead

theorem pure {r : Report} (h : AllRead r.warnings) : ReportsRead (Pure.pure r : Action σ Report) := by
  intro s r' hr
  cases hr
  exact h

theorem warn {r : Report} (h : AllRead r.warnings) {w : Warning}
    (hw : w.kind ≠ .introspectionFailure) : ReportsRead (r.warn w : Action σ Report) := by
  intro s r' hr
  rw [runFrom_warn] at hr
  cases hr
  exact h.append (List.forall_mem_singleton.2 hw)

theorem bind {α : Type} {a : Action σ α} {f : α → Action σ Report} (h : ∀ v, ReportsRead (f v)) :
    ReportsRead (a >>= f) := by
  intro s r hr
  cases hrun : a.runFrom s with
  | mk outcome s' =>
    cases outcome with
    | ok v =>
      rw [Action.runFrom_bind_ok hrun] at hr
      exact h v s' r hr
    | error e =>
      rw [Action.runFrom_bind_error hrun] at hr
      cases hr

theorem apply (c : Connection σ) (table : String) (force : Bool) {r : Report}
    (h : AllRead r.warnings) (p : Rendered) : ReportsRead (Sync.apply c table force r p) := by
  obtain ⟨change, statements⟩ := p
  cases change with
  | recreateTable shape => exact bind fun _ => bind fun _ => pure h
  | createTable shape => exact bind fun _ => pure h
  | addColumn name f =>
    refine bind fun outcome => ?_
    cases outcome with
    | ok _ => exact pure h
    | error e => exact warn h WarningKind.noConfusion
  | createIndex name fields unique =>
    cases force with
    | true => exact bind fun _ => pure h
    | false =>
      refine bind fun outcome => ?_
      cases outcome with
      | ok _ => exact pure h
      | error e => exact warn h WarningKind.noConfusion

theorem applyAll (c : Connection σ) (table : String) (force : Bool) {r : Report}
    (h : AllRead r.warnings) (rendered : List Rendered) :
    ReportsRead (Sync.applyAll c table force r rendered) := by
  induction rendered generalizing r with
  | nil => exact pure h
  | cons p rendered ih =>
    intro s r' hr
    rw [applyAll_cons] at hr
    cases hrun : (Sync.apply c table force r p).runFrom s with
    | mk outcome s' =>
      cases outcome with
      | ok more =>
        rw [Action.runFrom_bind_ok hrun] at hr
        have hmore : AllRead more.warnings := apply c table force h p s more (congrArg Prod.fst hrun)
        exact ih hmore s' r' hr
      | error e =>
        rw [Action.runFrom_bind_error hrun] at hr
        cases hr

end ReportsRead

theorem allRead_plannedWarnings (d : SqlDialect) (table : String) (plan : List Change) :
    AllRead (plannedWarnings d table plan) := by
  intro w hw
  rcases List.mem_append.1 hw with hw | hw
  · obtain ⟨change, -, hchange⟩ := List.mem_filterMap.1 hw
    unfold unwritten? at hchange
    split at hchange
    · cases hchange
      exact WarningKind.noConfusion
    · cases hchange
  · obtain ⟨change, -, hchange⟩ := List.mem_filterMap.1 hw
    unfold fallbackWarning? at hchange
    split at hchange
    · split at hchange
      · cases hchange
        exact WarningKind.noConfusion
      · cases hchange
    · cases hchange

theorem reportsRead_carryOut (c : Connection σ) (d : SqlDialect) (table : String)
    (options : SyncOptions) (plan : List Change) :
    ReportsRead (carryOut c d table options {} plan) := by
  intro s r hr
  by_cases hwritten : Written d table options.force plan
  · have hplanned : AllRead (Report.withPlan {} d table plan).warnings :=
      allRead_plannedWarnings d table plan
    rw [runFrom_carryOut hwritten] at hr
    cases hdry : options.dryRun with
    | true =>
      rw [hdry, if_pos rfl] at hr
      exact ReportsRead.pure hplanned _ r hr
    | false =>
      rw [hdry, if_neg Bool.false_ne_true] at hr
      exact ReportsRead.applyAll c table options.force hplanned _ _ r hr
  · obtain ⟨e, log, hrun⟩ := exists_runFrom_carryOut hwritten {} s
    rw [hrun] at hr
    cases hr

/-! ### Whole runs -/

theorem inStep_reconcile (halike : AnswersAlike c c' R) (d : SqlDialect) (shape : TableShape)
    (options : SyncOptions) (existing : ExistingTable) (r : Report) :
    InStep c c' R (reconcile c d shape options existing r) (reconcile c' d shape options existing r) :=
  (InStep.lift _).bind fun plan => InStep.carryOut halike d shape.name options r plan

/-- A synchronization that cannot read its table sends no statement of the data definition language while
it tries. From there it sends the same ones, answered alike, as one over a store that reports the table
absent and answers such statements alike, and it ends alike; only its report and its log begin with one
warning that the table could not be read, of which the other run has none. -/
theorem unreadable_counts_as_absent (halike : AnswersAlike c c' R) (shape : TableShape)
    (options : SyncOptions) {t : Session τ} (hunread : Introspect.Unreadable c d shape.name s)
    (hrelated : R ((Introspect.table c d shape.name).runFrom s).2.state t.state) :
    let reading := (Introspect.table c d shape.name).runFrom s
    let run := (relational c d shape options).runFrom s
    let other := (reconcile c' d shape options .absent {}).runFrom t
    ∃ e as log, reading.1 = .error e ∧ WithoutDdl c s.state reading.2.state ∧
      Attempted c reading.2.state as run.2.state ∧ Attempted c' t.state as other.2.state ∧
      run.1 = other.1.map (Report.warnedFirst (readFailure shape.name e)) ∧
      (readFailure shape.name e).kind = .introspectionFailure ∧
      (∀ r, other.1 = .ok r → ∀ w ∈ r.warnings, w.kind ≠ .introspectionFailure) ∧
      run.2.log = reading.2.log ++ (readFailure shape.name e).entry :: log ∧
      other.2.log = t.log ++ log ∧
      ∀ t', (Introspect.table c' d shape.name).runFrom t' = (.ok .absent, t) →
        (relational c' d shape options).runFrom t' = other := by
  intro reading run other
  obtain ⟨e, herror, hkind⟩ := hunread.exists_error
  have hreading : (Introspect.table c d shape.name).runFrom s = (.error e, reading.2) :=
    Prod.ext herror rfl
  have hknown : ∀ e', (.error e : Except Error ExistingTable) = .error e' →
      e'.isA .introspection = true := by
    intro e' he
    cases he
    exact hkind
  obtain ⟨as, y, z, outcome, log, hattempted, hattempted', -, hown, hother⟩ :=
    inStep_reconcile halike d shape options .absent {} { state := reading.2.state } t hrelated
  have hrun : run = (outcome.map (Report.warnedFirst (readFailure shape.name e)),
      { state := y, log := reading.2.log ++ [(readFailure shape.name e).entry] ++ ([] ++ log) }) := by
    have hreconciled := runFrom_relational_reconcile options hreading hknown
    rw [known, readReport, readWarnings, runFrom_reconcile_warned] at hreconciled
    refine hreconciled.trans ?_
    simp only [afterReading, readWarnings, List.map_cons, List.map_nil, hown]
  have hother' : other = (outcome, { state := z, log := t.log ++ log }) := hother
  rw [hrun, hother']
  refine ⟨e, as, log, herror, Action.Reads.table d shape.name s, hattempted, hattempted', rfl, rfl,
    fun r hr => ?_, ?_, rfl, fun t' hread => ?_⟩
  · have hreports : ReportsRead (reconcile c' d shape options .absent {}) :=
      ReportsRead.bind fun plan => reportsRead_carryOut c' d shape.name options plan
    refine hreports t r ?_
    rw [hother]
    exact hr
  · rw [List.append_assoc]
    rfl
  · have habsent := runFrom_relational_reconcile options hread fun e' he' => by cases he'
    simp only [known, readReport, readWarnings, afterReading, List.map_nil, List.append_nil] at habsent
    rw [habsent]
    exact hother

/-- A recording connection whose catalog is locked. -/
def lockedCatalog (refused : List String) : Connection (List String) :=
  { recording refused with query := fun sql x => (.error (.refused "locked"), x ++ [sql]) }

/-- A shape of which `recording` has no table. -/
def notes : TableShape :=
  { books with name := "notes" }

/-- Over a locked catalog a table is created as over one that has no such table, also where its index is
refused. -/
theorem unreadable_counts_as_absent_of_locked :
    let refused := ["CREATE INDEX IF NOT EXISTS \"idx_notes_title\" ON \"notes\" (title)"]
    let d : SqlDialect := { engine := .sqlite }
    let s : Session (List String) := { state := [] }
    let t : Session (List String) := { state := ["PRAGMA table_info(\"notes\")"] }
    AnswersAlike (lockedCatalog refused) (recording refused) Eq ∧
    Introspect.Unreadable (lockedCatalog refused) d notes.name s ∧
    ((Introspect.table (lockedCatalog refused) d notes.name).runFrom s).2.state = t.state ∧
    (Introspect.table (recording refused) d notes.name).runFrom s = (.ok .absent, t) ∧
    ∃ e, ((relational (lockedCatalog refused) d notes {}).runFrom s).1 =
      ((relational (recording refused) d notes {}).runFrom s).1.map
        (Report.warnedFirst (readFailure notes.name e)) := by
  intro refused d s t
  have halike : AnswersAlike (lockedCatalog refused) (recording refused) Eq := by
    refine ⟨?_, ?_⟩
    · rintro x _ sql rfl -
      rfl
    · rintro x _ sql rfl -
      rfl
  have hunread : Introspect.Unreadable (lockedCatalog refused) d notes.name s := .inr ⟨_, rfl⟩
  have hstate : ((Introspect.table (lockedCatalog refused) d notes.name).runFrom s).2.state = t.state := by
    rfl
  have habsent : (Introspect.table (recording refused) d notes.name).runFrom s = (.ok .absent, t) := by rfl
  have hwhole := unreadable_counts_as_absent halike notes {} hunread hstate
  obtain ⟨e, as, log, -, -, -, -, houtcome, -, -, -, -, hother⟩ := hwhole
  exact ⟨halike, hunread, hstate, habsent, e, by rw [hother s habsent]; exact houtcome⟩

end Sync

end Polystore

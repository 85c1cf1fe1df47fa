import Polystore.Proofs.Sync.Backend

/-!
# The refusals that end a synchronization

A refused table ends a run on every backend, and so does a refused index where a relational table is made
anew. A relational backend and a forced run wrap what ends them; a collection that a document store
refuses to create otherwise ends the run as it is.

Main statement: `synchronize_ends`.
-/

namespace Polystore.Sync

variable {σ : Type} {B : Backend σ} {table : String} {force : Bool} {ts : List Trial} {change : Change}
  {changes plan : List Change} {r r' : Report}

/-! ### Relational stores -/

section Relational

variable {c : Connection σ} {d : SqlDialect}

theorem tried_runAll {rendering : List String} (hrender : Ddl.render d table change = .ok rendering)
    {statements : List String} (hsub : statements ⊆ rendering) (s : Session σ) :
    ∃ accepted failure y, Tried (.relational c d) table s.state (requests change accepted failure) y ∧
      (c.runAll statements).runFrom s = (Action.outcomeOf failure (), { s with state := y }) ∧
      accepted + failure.toList.length ≤ statements.length ∧
      (failure = none → accepted = statements.length) := by
  induction statements generalizing s with
  | nil => exact ⟨0, none, s.state, .nil _, rfl, le_refl _, fun _ => rfl⟩
  | cons sql statements ih =>
    obtain ⟨hsql, hrest⟩ := List.cons_subset.1 hsub
    rw [runFrom_runAll_cons]
    cases hanswer : c.answer sql s.state with
    | mk answer y =>
      have hfirst : Answers table (.relational c d) ⟨change, refusalOf answer⟩ s.state y :=
        .statement hrender hsql hanswer
      cases answer with
      | ok rows =>
        obtain ⟨accepted, failure, z, htried, hrun, hle, hall⟩ := ih hrest { s with state := y }
        refine ⟨accepted + 1, failure, z, .cons hfirst htried, hrun, ?_, fun hnone => ?_⟩
        · rw [List.length_cons]
          omega
        · rw [hall hnone, List.length_cons]
      | error e =>
        exact ⟨0, some e, y, .cons hfirst (.nil y), rfl, by simp, fun h => by cases h⟩

theorem carries_sendFatal {statements : List String}
    (hrender : Ddl.render d table change = .ok statements)
    (hfatal : (Backend.relational c d).Fatal force change)
    (hwarnings : r'.indexWarnings = r.indexWarnings) :
    Carries (.relational c d) table force [change] r
      (do sendFatal c table statements; pure r') := by
  refine carries_fatal hfatal hwarnings fun s => ?_
  obtain ⟨accepted, failure, y, htried, hrun, -, hall⟩ :=
    tried_runAll (c := c) hrender (List.Subset.refl _) s
  refine ⟨accepted, failure, y, htried, runFrom_mapError_outcomeOf hrun, fun hindex hnone => ?_⟩
  obtain ⟨sql, rfl⟩ := Ddl.exists_of_render hrender fun shape heq => by
    rw [heq] at hindex
    exact Bool.noConfusion hindex
  exact hall hnone

theorem tried_runAll_single {sql : String} (hrender : Ddl.render d table change = .ok [sql])
    (s : Session σ) : ∃ refusal y, Tried (.relational c d) table s.state [⟨change, refusal⟩] y ∧
      (c.runAll [sql]).runFrom s = (Action.outcomeOf refusal (), { s with state := y }) := by
  obtain ⟨accepted, failure, y, htried, hrun, hle, hall⟩ :=
    tried_runAll (c := c) hrender (List.Subset.refl _) s
  refine ⟨failure, y, ?_, hrun⟩
  cases failure with
  | none =>
    obtain rfl : accepted = 1 := hall rfl
    exact htried
  | some e =>
    obtain rfl : accepted = 0 := by simpa using hle
    exact htried

theorem carries_apply {statements : List String} (hrender : Ddl.render d table change = .ok statements)
    (r : Report) :
    Carries (.relational c d) table force [change] r (apply c table force r (change, statements)) := by
  unfold apply
  cases change with
  | createTable shape => exact carries_sendFatal hrender (.inl rfl) rfl
  | recreateTable shape => exact Carries.after_note (carries_sendFatal hrender (.inl rfl) rfl)
  | addColumn name f =>
    obtain ⟨sql, rfl⟩ := Ddl.exists_of_render hrender fun _ => Change.noConfusion
    refine carries_tolerated (by simp [Backend.Fatal, Change.makesTable, Change.isIndex])
      (tried_runAll_single hrender) fun refusal s => ?_
    cases refusal with
    | none => exact ⟨_, s.log, rfl, (List.append_nil _).symm⟩
    | some e => exact ⟨_, _, runFrom_warn .., indexWarnings_append ..⟩
  | createIndex name fields unique =>
    obtain ⟨sql, rfl⟩ := Ddl.exists_of_render hrender fun _ => Change.noConfusion
    by_cases hforce : force = true
    · simp only [hforce, if_true]
      exact carries_sendFatal hrender (.inr ⟨rfl, rfl⟩) rfl
    · simp only [hforce]
      refine carries_tolerated (by simp [Backend.Fatal, Change.makesTable])
        (tried_runAll_single hrender) fun refusal s => ?_
      cases refusal with
      | none => exact ⟨_, s.log, rfl, (List.append_nil _).symm⟩
      | some e => exact ⟨_, _, runFrom_warn .., indexWarnings_append ..⟩

theorem map_fst_renderedOf (h : (Backend.relational c d).Renders table plan) :
    (renderedOf d table plan).map Prod.fst = plan := by
  induction plan with
  | nil => rfl
  | cons change plan ih =>
    obtain ⟨⟨statements, hrender⟩, hrest⟩ := List.forall_mem_cons.1 h
    rw [renderedOf_cons hrender, List.map_cons, ih hrest]

theorem indexWarnings_existingTable {existing : ExistingTable} {s s₁ : Session σ}
    (h : (existingTable c d table {}).runFrom s = (.ok (existing, r), s₁)) : r.indexWarnings = [] := by
  have hattempt := Action.runFrom_attempt (Introspect.table c d table) s
  unfold existingTable at h
  rw [Action.runFrom_bind_ok hattempt] at h
  cases hread : ((Introspect.table c d table).runFrom s).1 with
  | ok t =>
    rw [hread] at h
    cases h
    rfl
  | error e =>
    simp only [hread] at h
    split at h
    · rw [Action.runFrom_bind_ok (runFrom_warn ..)] at h
      cases h
      rfl
    · cases h

theorem filter_plannedWarnings (h : (Backend.relational c d).Renders table plan) :
    (plannedWarnings d table plan).filter (·.kind == .indexCreationFailed) = [] := by
  have hunwritten : plan.filterMap (unwritten? d table) = [] := by
    refine List.filterMap_eq_nil_iff.2 fun change hmem => ?_
    obtain ⟨statements, hrender⟩ := h change hmem
    exact unwritten?_of_render hrender
  rw [plannedWarnings, hunwritten, List.nil_append]
  refine List.filter_eq_nil_iff.2 fun w hw => ?_
  obtain ⟨change, -, hchange⟩ := List.mem_filterMap.1 hw
  unfold fallbackWarning? at hchange
  split at hchange
  · split at hchange <;> cases hchange
    exact Bool.noConfusion
  · cases hchange

theorem relational_concludes {shape : TableShape} {options : SyncOptions} {existing : ExistingTable}
    {s s₁ : Session σ}
    (hread : (existingTable c d shape.name {}).runFrom s = (.ok (existing, r), s₁))
    (hplan : Plan.changes shape existing options (.sql d) = .ok plan)
    (hrender : (Backend.relational c d).Renders shape.name plan) (hrun : options.dryRun = false) :
    ∃ ts, Tried (.relational c d) shape.name s₁.state ts
        ((relational c d shape options).runFrom s).2.state ∧ (∀ t ∈ ts, t.change ∈ plan) ∧
      Concludes (.relational c d) shape.name options.force plan {} ts
        ((relational c d shape options).runFrom s).1 := by
  rw [runFrom_relational hread hplan (fun change hmem _ => hrender change hmem) hrun]
  have hcarries : Carries (.relational c d) shape.name options.force
      ((renderedOf d shape.name plan).map Prod.fst)
      { warnings := r.warnings ++ plannedWarnings d shape.name plan, plan := plan } _ :=
    Carries.foldlM (fun p hp r => carries_apply (mem_renderedOf hp).2 r) _
  rw [map_fst_renderedOf hrender] at hcarries
  obtain ⟨ts, htried, hchanges, hconcludes⟩ := hcarries _
  refine ⟨ts, htried, hchanges, hconcludes.congr rfl ?_⟩
  have hnone := indexWarnings_existingTable hread
  unfold Report.indexWarnings at hnone ⊢
  rw [List.filter_append, hnone, filter_plannedWarnings hrender]
  rfl

end Relational

/-! ### Document stores -/

theorem tried_ensure (store : DocumentStore σ) (table : String) (hchange : change.makesTable = true)
    (s : Session σ) : ∃ accepted failure y,
      Tried (.document store) table s.state (requests change accepted failure) y ∧
      (store.ensure table).runFrom s = (Action.outcomeOf failure (), { s with state := y }) := by
  have hlist := Action.runFrom_step store.listNames s
  unfold DocumentStore.ensure
  cases hnames : store.listNames s.state with
  | mk names y =>
    have hfirst : Answers table (.document store) ⟨change, refusalOf names⟩ s.state y :=
      .list hchange hnames
    rw [hnames] at hlist
    cases names with
    | error e =>
      exact ⟨0, some e, y, .cons hfirst (.nil y), Action.runFrom_bind_error hlist⟩
    | ok names =>
      rw [Action.runFrom_bind_ok hlist]
      by_cases hthere : names.contains table = true
      · rw [if_pos hthere]
        exact ⟨1, none, y, .cons hfirst (.nil y), rfl⟩
      · rw [if_neg hthere]
        have hstep := Action.runFrom_step (store.create table) { s with state := y }
        cases hcreate : store.create table y with
        | mk answer z =>
          have hsecond : Answers table (.document store) ⟨change, refusalOf answer⟩ y z :=
            .create hchange hcreate
          rw [hcreate] at hstep
          cases answer with
          | error e => exact ⟨1, some e, z, .cons hfirst (.cons hsecond (.nil z)), hstep⟩
          | ok v => exact ⟨2, none, z, .cons hfirst (.cons hsecond (.nil z)), hstep⟩

theorem tried_recreate (store : DocumentStore σ) (table : String) (shape : TableShape)
    (s : Session σ) : ∃ accepted failure y,
      Tried (.document store) table s.state (requests (.recreateTable shape) accepted failure) y ∧
      (recreate store table).runFrom s = (Action.outcomeOf failure (), { s with state := y }) := by
  have hstep := Action.runFrom_step (store.drop table) s
  unfold recreate
  cases hdrop : store.drop table s.state with
  | mk answer y =>
    have hfirst : Answers table (.document store) ⟨.recreateTable shape, refusalOf answer⟩ s.state y :=
      .drop hdrop
    rw [hdrop] at hstep
    cases answer with
    | error e =>
      exact ⟨0, some e, y, .cons hfirst (.nil y), Action.runFrom_bind_error hstep⟩
    | ok v =>
      obtain ⟨accepted, failure, z, htried, hrun⟩ :=
        tried_ensure store table (rfl : (Change.recreateTable shape).makesTable = true)
          { s with state := y }
      exact ⟨accepted + 1, failure, z, .cons hfirst htried, (Action.runFrom_bind_ok hstep).trans hrun⟩

theorem carries_applyToCollection (store : DocumentStore σ) (table : String)
    (hchange : change.isIndex = true ∨ force = true ∧ ∃ shape, change = .recreateTable shape)
    (r : Report) :
    Carries (.document store) table force [change] r (applyToCollection store table r change) := by
  unfold applyToCollection
  rcases hchange with hindex | ⟨rfl, shape, rfl⟩
  · cases change with
    | createIndex name fields unique =>
      refine carries_tolerated (by simp [Backend.Fatal, Change.makesTable]) (fun s => ?_)
        fun refusal s => ?_
      · have hstep := Action.runFrom_step (store.createIndex table fields unique (some name)) s
        cases hanswer : store.createIndex table fields unique (some name) s.state with
        | mk answer y =>
          have hfirst : Answers table (.document store)
              ⟨.createIndex name fields unique, refusalOf answer⟩ s.state y := .index hanswer
          rw [hanswer] at hstep
          cases answer with
          | ok v => exact ⟨none, y, .cons hfirst (.nil y), hstep⟩
          | error e => exact ⟨some e, y, .cons hfirst (.nil y), hstep⟩
      · cases refusal with
        | none => exact ⟨_, s.log, rfl, (List.append_nil _).symm⟩
        | some e => exact ⟨_, _, runFrom_warn .., indexWarnings_append ..⟩
    | _ => exact Bool.noConfusion hindex
  · refine Carries.after_note (carries_fatal rfl rfl fun s => ?_)
    obtain ⟨accepted, failure, y, htried, hrun⟩ := tried_recreate store table shape s
    exact ⟨accepted, failure, y, htried, runFrom_mapError_outcomeOf hrun, fun h => Bool.noConfusion h⟩

theorem carries_collectionPlan (store : DocumentStore σ) (shape : TableShape) (force : Bool)
    (r : Report) :
    Carries (.document store) shape.name force (collectionPlan shape force) r
      ((collectionPlan shape force).foldlM (applyToCollection store shape.name) r) := by
  have hchange : ∀ change ∈ collectionPlan shape force,
      change.isIndex = true ∨ force = true ∧ ∃ shape, change = .recreateTable shape := by
    intro change hmem
    rcases List.mem_append.1 hmem with hmem | hmem
    · cases force with
      | true => exact .inr ⟨rfl, shape, List.mem_singleton.1 hmem⟩
      | false => exact absurd hmem List.not_mem_nil
    · exact .inl (Plan.of_mem_indexChanges hmem).1
  have hcarries : Carries (.document store) shape.name force ((collectionPlan shape force).map id) r _ :=
    Carries.foldlM (fun change hmem r =>
      carries_applyToCollection store shape.name (hchange change hmem) r) r
  rwa [List.map_id] at hcarries

/-- A run that is not forced makes sure of the collection before it goes through its plan. -/
theorem carries_document (store : DocumentStore σ) {shape : TableShape} {options : SyncOptions}
    (hrun : options.dryRun = false) :
    Carries (.document store) shape.name options.force
      ((Backend.document store).aims shape options.force (collectionPlan shape options.force))
      { plan := collectionPlan shape options.force } (document store shape options) := by
  have hplan := carries_collectionPlan store shape options.force
  unfold document
  simp only [hrun, Bool.false_eq_true, if_false]
  cases hforce : options.force with
  | true =>
    rw [hforce] at hplan
    exact hplan _
  | false =>
    rw [hforce] at hplan
    have hensure : Carries (.document store) shape.name false [.createTable shape]
        { plan := collectionPlan shape false }
        (do store.ensure shape.name; pure { plan := collectionPlan shape false }) := by
      refine carries_fatal rfl rfl fun s => ?_
      obtain ⟨accepted, failure, y, htried, hrun⟩ :=
        tried_ensure store shape.name (rfl : (Change.createTable shape).makesTable = true) s
      refine ⟨accepted, failure, y, htried, ?_, fun h => Bool.noConfusion h⟩
      rw [hrun]
      cases failure <;> rfl
    have hboth := hensure.bind hplan
    rw [bind_assoc] at hboth
    simp only [pure_bind] at hboth
    exact hboth

theorem document_concludes (store : DocumentStore σ) {shape : TableShape} {options : SyncOptions}
    (hrun : options.dryRun = false) (s : Session σ) :
    ∃ ts, Tried (.document store) shape.name s.state ts
        ((document store shape options).runFrom s).2.state ∧
      (∀ t ∈ ts, t.change ∈ (Backend.document store).aims shape options.force
        (collectionPlan shape options.force)) ∧
      Concludes (.document store) shape.name options.force (collectionPlan shape options.force) {} ts
        ((document store shape options).runFrom s).1 := by
  obtain ⟨ts, htried, hchanges, hconcludes⟩ := carries_document store hrun s
  refine ⟨ts, htried, hchanges, hconcludes.congr ?_ rfl⟩
  cases options.force <;> rfl

/-! ### Every backend -/

variable {shape : TableShape} {existing : ExistingTable} {options : SyncOptions} {s s₁ : Session σ}

theorem synchronize_concludes (hread : (B.existing shape.name).runFrom s = (.ok (existing, r), s₁))
    (hplan : B.plan shape existing options = .ok plan) (hrender : B.Renders shape.name plan)
    (hrun : options.dryRun = false) :
    ∃ ts, Tried B shape.name s₁.state ts ((B.synchronize shape options).runFrom s).2.state ∧
      (∀ t ∈ ts, t.change ∈ B.aims shape options.force plan) ∧
      Concludes B shape.name options.force plan {} ts ((B.synchronize shape options).runFrom s).1 := by
  cases B with
  | relational c d => exact relational_concludes hread hplan hrender hrun
  | document store =>
    cases hread
    cases hplan
    exact document_concludes store hrun s

/-- The first fatal refusal is the last request, and decides how the run ends. -/
theorem Concludes.of_refusal {result : Except Error Report} {t : Trial} {e : Error}
    (h : Concludes B table force changes r ts result) (ht : t ∈ ts) (hfatal : B.Fatal force t.change)
    (hrefusal : t.refusal = some e) :
    ts.getLast? = some t ∧ result = .error (B.raised table force e) := by
  have hcontra : ∀ us : List Trial, (∀ t ∈ us, B.Fatal force t.change → t.refusal = none) → t ∉ us := by
    intro us hnone hmem
    have haccepted := hnone t hmem hfatal
    rw [hrefusal] at haccepted
    cases haccepted
  cases h with
  | stopped _ hdone =>
    rcases List.mem_append.1 ht with ht | ht
    · exact absurd ht (hcontra _ hdone)
    · obtain rfl := List.mem_singleton.1 ht
      cases hrefusal
      exact ⟨List.getLast?_concat, rfl⟩
  | reported hnone => exact absurd ht (hcontra _ hnone)

theorem Concludes.of_accepted {result : Except Error Report}
    (h : Concludes B table force changes {} ts result)
    (hnone : ∀ t ∈ ts, B.Fatal force t.change → t.refusal = none) :
    ∃ report, result = .ok report ∧
      (ts.filter (·.change.isIndex)).map (·.change) = changes.filter Change.isIndex ∧
      report.warnings.filter (·.kind == .indexCreationFailed) =
        ts.filterMap (Trial.warning? table) := by
  cases h with
  | stopped hfatal =>
    have haccepted := hnone _ (List.mem_append_right _ List.mem_cons_self) hfatal
    cases haccepted
  | reported _ hindexes hwarnings => exact ⟨_, rfl, hindexes, hwarnings⟩

/-- A synchronization that is more than a question ends with the first refusal that is fatal, and asks for
nothing more; what it raises is a synchronization error around that refusal exactly if the backend is
relational or the run is forced, and otherwise the refusal itself. A run without such a refusal has tried
every index, and reports exactly those that were refused. -/
theorem synchronize_ends (hread : (B.existing shape.name).runFrom s = (.ok (existing, r), s₁))
    (hplan : B.plan shape existing options = .ok plan) (hrender : B.Renders shape.name plan)
    (hrun : options.dryRun = false) :
    ∃ ts, Tried B shape.name s₁.state ts ((B.synchronize shape options).runFrom s).2.state ∧
      (∀ t ∈ ts, t.change ∈ B.aims shape options.force plan) ∧
      (∀ t ∈ ts, ∀ e, B.Fatal options.force t.change → t.refusal = some e →
        ts.getLast? = some t ∧
        ((∃ e', ((B.synchronize shape options).runFrom s).1 = .error e' ∧ e'.kind? = some .sync ∧
          e'.cause? = some e) ↔ B.Wraps options.force) ∧
        (¬B.Wraps options.force → ((B.synchronize shape options).runFrom s).1 = .error e)) ∧
      ((∀ t ∈ ts, B.Fatal options.force t.change → t.refusal = none) →
        ∃ report, ((B.synchronize shape options).runFrom s).1 = .ok report ∧
          (ts.filter (·.change.isIndex)).map (·.change) = plan.filter Change.isIndex ∧
          report.warnings.filter (·.kind == .indexCreationFailed) =
            ts.filterMap (Trial.warning? shape.name)) := by
  obtain ⟨ts, htried, haims, hconcludes⟩ := synchronize_concludes hread hplan hrender hrun
  refine ⟨ts, htried, haims, fun t ht e hfatal hrefusal => ?_, hconcludes.of_accepted⟩
  obtain ⟨hlast, hresult⟩ := hconcludes.of_refusal ht hfatal hrefusal
  refine ⟨hlast, ?_, fun hraw => ?_⟩
  · rw [hresult, ← B.wraps_iff shape.name options.force e]
    exact ⟨fun ⟨_, heq, hwraps⟩ => Except.error.inj heq ▸ hwraps, fun hwraps => ⟨_, rfl, hwraps⟩⟩
  · rw [hresult, B.raised_of_not_wraps hraw]

/-- Where an index is refused, the run reports all the same. -/
theorem synchronize_ends_of_refused_index :
    let B : Backend (List String) :=
      .relational (recording ["CREATE INDEX idx_books_title ON \"books\" (title ASC)"])
        { engine := .sqlite }
    let table : ExistingTable := { present := true, columns := [{ name := "title", rawType := "TEXT" }] }
    let run := (B.synchronize books { alter := true }).runFrom { state := [] }
    (B.existing books.name).runFrom { state := [] } = (.ok (table, {}), { state := booksQueries }) ∧
    B.plan books table { alter := true } = .ok booksPlan ∧ B.Renders books.name booksPlan ∧
    ({ alter := true } : SyncOptions).dryRun = false ∧
    ∃ ts report, Tried B books.name booksQueries ts run.2.state ∧ run.1 = .ok report ∧
      (ts.filter (·.change.isIndex)).map (·.change) =
        [.createIndex "idx_books_title" [("title", 1)] (.bool false)] ∧
      report.warnings.filter (·.kind == .indexCreationFailed) =
        ts.filterMap (Trial.warning? books.name) := by
  intro B table run
  have hread : (B.existing books.name).runFrom { state := [] } =
      (.ok (table, {}), { state := booksQueries }) := by
    rfl
  have hplan : B.plan books table { alter := true } = .ok booksPlan := by rfl
  have hrender : B.Renders books.name booksPlan := by
    have hall : ∀ change ∈ booksPlan,
        (Ddl.render { engine := .sqlite } books.name change).toOption.isSome = true := by decide
    intro change hmem
    cases hchange : Ddl.render { engine := .sqlite } books.name change with
    | ok statements => exact ⟨statements, rfl⟩
    | error e =>
      have hsome := hall change hmem
      rw [hchange] at hsome
      exact Bool.noConfusion hsome
  obtain ⟨ts, htried, haims, -, hends⟩ := synchronize_ends hread hplan hrender rfl
  have hfatal : ∀ change ∈ booksPlan, ¬B.Fatal false change := by
    have hall : ∀ change ∈ booksPlan, change.makesTable = false := by decide
    intro change hmem h
    rcases h with h | ⟨h, -⟩
    · rw [hall change hmem] at h
      exact Bool.noConfusion h
    · exact Bool.noConfusion h
  obtain ⟨report, hreport, hindexes, hwarnings⟩ :=
    hends fun t ht h => absurd h (hfatal t.change (haims t ht))
  exact ⟨hread, hplan, hrender, rfl, ts, report, htried, hreport, hindexes, hwarnings⟩

/-- A document store without collections that refuses to create any. -/
def unwilling : DocumentStore Unit where
  listNames := fun s => (.ok [], s)
  create := fun _ s => (.error (.refused "not authorized"), s)
  drop := fun _ s => (.ok (), s)
  createIndex := fun _ _ _ _ s => (.ok (), s)

/-- Not every refusal to create a collection is raised as a synchronization error. -/
theorem not_synchronize_ends_of_unwilling :
    ¬∀ (store : DocumentStore Unit) (shape : TableShape) (options : SyncOptions) (e : Error),
      options.dryRun = false → (∀ x, (store.listNames x).1 = .ok []) →
      (∀ x, (store.create shape.name x).1 = .error e) →
      ∃ e', ((document store shape options).runFrom { state := () }).1 = .error e' ∧
        e'.kind? = some .sync ∧ e'.cause? = some e := by
  intro h
  obtain ⟨e', hrun, hkind, -⟩ := h unwilling books {} (.refused "not authorized") rfl
    (fun _ => rfl) fun _ => rfl
  have hraw : ((document unwilling books {}).runFrom { state := () }).1 =
      .error (.refused "not authorized") := rfl
  rw [hraw] at hrun
  cases hrun
  cases hkind

end Polystore.Sync

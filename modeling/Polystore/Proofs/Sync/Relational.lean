import Polystore.Proofs.Sync.Apply

/-!
# What a synchronization accounts for

A synchronization of a relational table sends every statement that it has written and reports each of
them, or it ends with the refusal of the table; a forced one ends with the first refusal.

Main statement: `relational_accounts`.
-/

namespace Polystore.Sync

variable {σ : Type} {c : Connection σ} {d : SqlDialect} {shape : TableShape} {existing : ExistingTable}
  {options : SyncOptions} {plan : List Change} {earlier planned : List Warning} {as : List Attempt}

/-! ### Before anything is sent -/

theorem eq_of_existingTable {table : String} {s s' : Session σ} {r : Report}
    (h : (existingTable c d table {}).runFrom s = (.ok (existing, r), s')) :
    r = { warnings := r.warnings } := by
  have hattempt := Action.runFrom_attempt (Introspect.table c d table) s
  unfold existingTable at h
  rw [Action.runFrom_bind_ok hattempt] at h
  cases hread : ((Introspect.table c d table).runFrom s).1 with
  | ok t =>
    rw [hread] at h
    cases h
    rfl
  | error e =>
    simp only [hread] at h
    split at h
    · rw [Action.runFrom_bind_ok (runFrom_warn ..)] at h
      cases h
      rfl
    · cases h

/-- The warnings about a plan: the indexes that cannot be written, then the columns that may be null. -/
def plannedWarnings (d : SqlDialect) (table : String) (plan : List Change) : List Warning :=
  plan.filterMap (unwritten? d table) ++ plan.filterMap fallbackWarning?

theorem fallbackWarning?_of_isIndex {change : Change} (h : change.isIndex = true) :
    fallbackWarning? change = none := by
  cases change with
  | createIndex name fields unique => rfl
  | _ => exact Bool.noConfusion h

/-- What a synchronization does with a plan, after what it has reported so far. -/
def carryOut (c : Connection σ) (d : SqlDialect) (table : String) (options : SyncOptions) (r : Report)
    (plan : List Change) : Action σ Report := do
  let (rendered, r) ← rendering d table options.force { r with plan }
  let r ← r.warnAll (rendered.filterMap fun (change, _) => fallbackWarning? change)
  if options.dryRun then pure r else applyAll c table options.force r rendered

/-- A report with a plan and the warnings about it. -/
def Report.withPlan (r : Report) (d : SqlDialect) (table : String) (plan : List Change) : Report :=
  { r with warnings := r.warnings ++ plannedWarnings d table plan, plan := plan }

theorem runFrom_carryOut {table : String} (hwritten : Written d table options.force plan) (r : Report)
    (s : Session σ) : (carryOut c d table options r plan).runFrom s =
      (if options.dryRun then pure (r.withPlan d table plan)
        else applyAll c table options.force (r.withPlan d table plan) (renderedOf d table plan)).runFrom
        { s with log := s.log ++ (plannedWarnings d table plan).map Warning.entry } := by
  unfold carryOut
  rw [Action.runFrom_bind_ok (runFrom_rendering hwritten s), Action.runFrom_bind_ok (runFrom_warnAll ..)]
  rw [filterMap_renderedOf hwritten fun _ => fallbackWarning?_of_isIndex]
  simp [plannedWarnings, Report.withPlan]

theorem runFrom_relational_planned {s s₁ : Session σ} {r : Report}
    (hread : (existingTable c d shape.name {}).runFrom s = (.ok (existing, r), s₁))
    (hplan : Plan.changes shape existing options (.sql d) = .ok plan) :
    (relational c d shape options).runFrom s =
      (carryOut c d shape.name options r plan).runFrom s₁ := by
  have hlift : (Action.lift (Plan.changes shape existing options (.sql d)) :
      Action σ (List Change)).runFrom s₁ = (.ok plan, s₁) := by
    rw [hplan]
    rfl
  unfold relational
  rw [Action.runFrom_bind_ok hread, Action.runFrom_bind_ok hlift]
  rfl

theorem runFrom_relational {s s₁ : Session σ} {r : Report}
    (hread : (existingTable c d shape.name {}).runFrom s = (.ok (existing, r), s₁))
    (hplan : Plan.changes shape existing options (.sql d) = .ok plan)
    (hwritten : Written d shape.name options.force plan) (hrun : options.dryRun = false) :
    (relational c d shape options).runFrom s =
      (applyAll c shape.name options.force
        { warnings := r.warnings ++ plannedWarnings d shape.name plan, plan := plan }
        (renderedOf d shape.name plan)).runFrom
        { s₁ with log := s₁.log ++ (plannedWarnings d shape.name plan).map Warning.entry } := by
  rw [runFrom_relational_planned hread hplan, runFrom_carryOut hwritten, hrun, if_neg Bool.false_ne_true,
    eq_of_existingTable hread]
  rfl

/-! ### How a run ends -/

/-- The line of a report for a table that was created. -/
def creationLine? (table : String) : Change → Option String
  | .createTable _ => some ("Table '" ++ table ++ "' created")
  | _ => none

/-- What a run that is not forced reports on its plan and what it sent, after earlier warnings. -/
def reportOf (table : String) (plan : List Change) (earlier : List Warning) (as : List Attempt) :
    Report where
  created := plan.any Change.makesTable
  altered := as.any (·.line?.isSome)
  changes := plan.filterMap (creationLine? table) ++ as.filterMap Attempt.line?
  warnings := earlier ++ as.filterMap (Attempt.warning? table)
  plan := plan

/-- What a forced run reports that no statement has stopped. -/
def forcedReport (table : String) (plan : List Change) (earlier : List Warning) : Report where
  created := true
  changes := ["Table '" ++ table ++ "' dropped and recreated"]
  warnings := earlier
  plan := plan

/-- How a run ends that has sent `as` of the statements of its plan, and what it has logged. One that is
not forced has sent only the refused statement of the table, or all of them and reports; a forced one has
sent all up to the first refusal. -/
inductive Ends (shape : TableShape) (plan : List Change) (statements : List (Change × String))
    (earlier planned : List Warning) :
    Bool → List Attempt → List LogEntry → Except Error Report → Prop where
  | tableRefused {sql : String} {rest : List (Change × String)} {e : Error}
      (hfirst : statements = (.createTable shape, sql) :: rest) :
      Ends shape plan statements earlier planned false [⟨.createTable shape, sql, some e⟩]
        (planned.map Warning.entry) (.error (.tableNotSynced shape.name e))
  | reported {as : List Attempt} (hsent : as.map Attempt.sent = statements)
      (htable : ∀ a ∈ as, a.change.makesTable = true → a.refusal = none) :
      Ends shape plan statements earlier planned false as
        ((planned ++ as.filterMap (Attempt.warning? shape.name)).map Warning.entry)
        (.ok (reportOf shape.name plan (earlier ++ planned) as))
  | forced {as : List Attempt} {failure : Option Error} (hupto : UpToRefusal statements as failure) :
      Ends shape plan statements earlier planned true as
        (planned.map Warning.entry ++ droppingOf shape.name (.recreateTable shape))
        (Action.outcomeOf (failure.map (.tableNotSynced shape.name))
          (forcedReport shape.name plan (earlier ++ planned)))

/-- A run from a session has sent what its connection answers in turn, and ends accordingly. -/
def Accounted (c : Connection σ) (shape : TableShape) (plan : List Change)
    (statements : List (Change × String)) (earlier planned : List Warning) (force : Bool)
    (s : Session σ) (run : Except Error Report × Session σ) : Prop :=
  ∃ as log, Attempted c s.state as run.2.state ∧ run.2.log = s.log ++ log ∧
    Ends shape plan statements earlier planned force as log run.1

/-- Carrying out a plan, after the warnings about it, is accounted for. -/
def CarriedOut (c : Connection σ) (d : SqlDialect) (shape : TableShape) (plan : List Change)
    (earlier planned : List Warning) (force : Bool) (s : Session σ) : Prop :=
  Accounted c shape plan (statementsOf (renderedOf d shape.name plan)) earlier planned force s
    ((applyAll c shape.name force { warnings := earlier ++ planned, plan := plan }
      (renderedOf d shape.name plan)).runFrom { s with log := s.log ++ planned.map Warning.entry })

/-! ### Every statement is accounted for -/

theorem filterMap_creationLine? (h : ∀ change ∈ plan, change.makesTable = false) (table : String) :
    plan.filterMap (creationLine? table) = [] := by
  refine List.filterMap_eq_nil_iff.2 fun change hmem => ?_
  cases change with
  | createTable shape => exact Bool.noConfusion (h _ hmem)
  | _ => rfl

theorem filterMap_warning? (h : ∀ a ∈ as, a.refusal = none) (table : String) :
    as.filterMap (Attempt.warning? table) = [] := by
  refine List.filterMap_eq_nil_iff.2 fun a ha => ?_
  rw [Attempt.warning?, h a ha]
  cases a.change <;> rfl

theorem runFrom_applyAll_renderedOf (c : Connection σ) (d : SqlDialect) (table : String)
    (h : ∀ change ∈ plan, change.makesTable = false) (r : Report) (s : Session σ) :
    ∃ as y, as.map Attempt.sent = statementsOf (renderedOf d table plan) ∧
      (∀ a ∈ as, a.change.makesTable = false) ∧ Attempted c s.state as y ∧
      (applyAll c table false r (renderedOf d table plan)).runFrom s =
        (.ok (r.told table as), logged s y table as) := by
  have hone : ∀ p ∈ renderedOf d table plan, p.1.makesTable = false ∧ ∃ sql, p.2 = [sql] := by
    intro p hp
    obtain ⟨hmem, hrender⟩ := mem_renderedOf hp
    refine ⟨h p.1 hmem, Ddl.exists_of_render hrender fun shape hshape => ?_⟩
    have hmakes := h p.1 hmem
    rw [hshape] at hmakes
    exact Bool.noConfusion hmakes
  obtain ⟨as, y, hsent, hattempted, hrun⟩ := runFrom_applyAll c table hone r s
  refine ⟨as, y, hsent, fun a ha => ?_, hattempted, hrun⟩
  have hmem : a.sent ∈ statementsOf (renderedOf d table plan) := hsent ▸ List.mem_map_of_mem ha
  obtain ⟨p, hp, hsql⟩ := List.mem_flatMap.1 hmem
  obtain ⟨sql, -, heq⟩ := List.mem_map.1 hsql
  have hchange : p.1 = a.change := congrArg Prod.fst heq
  exact hchange ▸ (hone p hp).1

theorem accounted_of_rest {rest : List Change} (h : ∀ change ∈ rest, change.makesTable = false)
    {done : List Attempt} {r : Report} {s s' : Session σ} (hdone : Attempted c s.state done s'.state)
    (hlog : s'.log = s.log ++ planned.map Warning.entry) (haccepted : ∀ a ∈ done, a.refusal = none)
    (hreport : ∀ as, r.told shape.name as = reportOf shape.name plan (earlier ++ planned) (done ++ as)) :
    Accounted c shape plan (done.map Attempt.sent ++ statementsOf (renderedOf d shape.name rest))
      earlier planned false s
      ((applyAll c shape.name false r (renderedOf d shape.name rest)).runFrom s') := by
  obtain ⟨as, y, hsent, hmakes, hattempted, hrun⟩ := runFrom_applyAll_renderedOf c d shape.name h r s'
  rw [hrun, hreport]
  refine ⟨done ++ as, _, hdone.append hattempted, ?_, .reported ?_ fun a ha htable => ?_⟩
  · simp [logged, hlog, filterMap_warning? haccepted]
  · rw [List.map_append, hsent]
  · rcases List.mem_append.1 ha with ha | ha
    · exact haccepted a ha
    · exact absurd htable (Bool.eq_false_iff.1 (hmakes a ha))

theorem carriedOut_of_existing (h : ∀ change ∈ plan, change.makesTable = false) (s : Session σ) :
    CarriedOut c d shape plan earlier planned false s := by
  have hnone : Attempted c s.state []
      ({ s with log := s.log ++ planned.map Warning.entry } : Session σ).state := .nil s.state
  have hcreated : plan.any Change.makesTable = false :=
    List.any_eq_false.2 fun change hmem => Bool.eq_false_iff.1 (h change hmem)
  have hreport : ∀ as, Report.told { warnings := earlier ++ planned, plan := plan } shape.name as =
      reportOf shape.name plan (earlier ++ planned) ([] ++ as) := by
    intro as
    simp [Report.told, reportOf, hcreated, filterMap_creationLine? h]
  exact accounted_of_rest h hnone rfl (List.forall_mem_nil _) hreport

theorem carriedOut_of_createTable {indexes : List Change}
    (h : ∀ change ∈ indexes, change.makesTable = false) {sql : String}
    (hrender : Ddl.render d shape.name (.createTable shape) = .ok [sql]) (s : Session σ) :
    CarriedOut c d shape (.createTable shape :: indexes) earlier planned false s := by
  obtain ⟨as, failure, y, hupto, hattempted, hrun⟩ := runFrom_apply_table c shape.name false
    (.createTable shape) rfl [sql]
    { warnings := earlier ++ planned, plan := .createTable shape :: indexes }
    { s with log := s.log ++ planned.map Warning.entry }
  obtain rfl := hupto.eq_of_singleton
  rw [CarriedOut, renderedOf_cons hrender, applyAll_cons]
  cases failure with
  | some e =>
    rw [Action.runFrom_bind_error hrun]
    exact ⟨_, _, hattempted, by simp [droppingOf], .tableRefused rfl⟩
  | none =>
    have hline : "Table '" ++ shape.name ++ "' " ++ "created" = "Table '" ++ shape.name ++ "' created" :=
      String.append_assoc ..
    have hreport : ∀ as, (Report.tableMade
        { warnings := earlier ++ planned, plan := .createTable shape :: indexes }
        shape.name "created").told shape.name as =
        reportOf shape.name (.createTable shape :: indexes) (earlier ++ planned)
          ([⟨.createTable shape, sql, none⟩] ++ as) := by
      intro as
      simp [Report.told, reportOf, Report.tableMade, hline, creationLine?, Change.makesTable,
        filterMap_creationLine? h, List.filterMap_cons]
    rw [Action.runFrom_bind_ok hrun]
    exact accounted_of_rest h hattempted (List.append_nil _) (List.forall_mem_singleton.2 rfl) hreport

theorem carriedOut_of_recreateTable {indexes : List Change}
    (h : ∀ change ∈ indexes, change.isIndex = true) {statements : List String}
    (hrender : Ddl.render d shape.name (.recreateTable shape) = .ok statements) (s : Session σ) :
    CarriedOut c d shape (.recreateTable shape :: indexes) earlier planned true s := by
  obtain ⟨as, failure, y, hupto, hattempted, hrun⟩ := runFrom_apply_table c shape.name true
    (.recreateTable shape) rfl statements
    { warnings := earlier ++ planned, plan := .recreateTable shape :: indexes }
    { s with log := s.log ++ planned.map Warning.entry }
  rw [CarriedOut, renderedOf_cons hrender, applyAll_cons]
  cases failure with
  | some e =>
    rw [Action.runFrom_bind_error hrun]
    exact ⟨as, _, hattempted, List.append_assoc .., .forced (hupto.append_right _)⟩
  | none =>
    have hreport : Report.tableMade
        { warnings := earlier ++ planned, plan := .recreateTable shape :: indexes } shape.name
        "dropped and recreated" =
        forcedReport shape.name (.recreateTable shape :: indexes) (earlier ++ planned) := by
      have hline : "Table '" ++ shape.name ++ "' " ++ "dropped and recreated" =
          "Table '" ++ shape.name ++ "' dropped and recreated" := String.append_assoc ..
      simp [Report.tableMade, forcedReport, hline]
    have hindexes : ∀ p ∈ renderedOf d shape.name indexes, p.1.isIndex = true :=
      fun p hp => h p.1 (mem_renderedOf hp).1
    obtain ⟨bs, failure, z, huptos, hattempteds, hruns⟩ := runFrom_applyAll_forced c shape.name
      hindexes (forcedReport shape.name (.recreateTable shape :: indexes) (earlier ++ planned))
      { state := y
        log := s.log ++ planned.map Warning.entry ++ droppingOf shape.name (.recreateTable shape) }
    rw [Action.runFrom_bind_ok hrun, makingOf, hreport, hruns]
    exact ⟨as ++ bs, _, hattempted.append hattempteds, List.append_assoc ..,
      .forced (hupto.append huptos)⟩

/-- Where a table is read, planned and written, every statement of the plan is accounted for, whatever
the connection refuses. -/
theorem relational_accounts {s s₁ : Session σ} {r : Report}
    (hread : (existingTable c d shape.name {}).runFrom s = (.ok (existing, r), s₁))
    (hplan : Plan.changes shape existing options (.sql d) = .ok plan)
    (hwritten : Written d shape.name options.force plan) (hrun : options.dryRun = false) :
    Accounted c shape plan (statementsOf (renderedOf d shape.name plan)) r.warnings
      (plannedWarnings d shape.name plan) options.force s₁
      ((relational c d shape options).runFrom s) := by
  rw [runFrom_relational hread hplan hwritten hrun]
  obtain ⟨-, hparts⟩ := Plan.changes_eq_ok_iff.1 hplan
  by_cases hforce : options.force = true
  · rw [if_pos hforce] at hparts
    subst hparts
    obtain ⟨statements, hrender⟩ := hwritten _ List.mem_cons_self (.inl hforce)
    rw [hforce]
    exact carriedOut_of_recreateTable (fun change hmem => (Plan.of_mem_indexChanges hmem).1) hrender s₁
  · rw [if_neg hforce] at hparts
    rw [Bool.eq_false_iff.2 hforce]
    have hindexes : ∀ change ∈ Plan.indexChanges shape existing (Plan.nameLimit (.sql d)),
        change.makesTable = false := fun change hmem => (Plan.of_mem_indexChanges hmem).2.1
    by_cases hpresent : existing.present = true
    · have hmakes : ∀ change ∈ plan, change.makesTable = false := by
        intro change hmem
        rw [← hparts] at hmem
        rcases List.mem_append.1 hmem with hmem | hmem
        · exact Plan.makesTable_of_mem_tableChanges hpresent hmem
        · exact hindexes change hmem
      exact carriedOut_of_existing hmakes s₁
    · rw [Plan.tableChanges, if_neg hpresent] at hparts
      subst hparts
      obtain ⟨statements, hrender⟩ := hwritten _ List.mem_cons_self (.inr rfl)
      obtain ⟨sql, rfl⟩ := Ddl.exists_of_render hrender fun _ => Change.noConfusion
      exact carriedOut_of_createTable hindexes hrender s₁

/-- What a catalog tells of the column `title`. -/
def titleRow : Row :=
  [.int 0, .str "title", .str "TEXT", .int 0]

/-- A connection that keeps the statements and queries it receives, and refuses some of the statements. Of
the table `books` it knows the column `title`. -/
def recording (refused : List String) : Connection (List String) where
  openCursor x := (.ok (), x)
  execute sql _ x := (if refused.contains sql then .error (.refused "refused") else .ok (), x ++ [sql])
  fetch x := (.ok (if x.getLast? = some "PRAGMA table_info(\"books\")" then some [titleRow] else none), x)
  closeCursor x := (.ok (), x)
  query sql x := (.ok (), x ++ [sql])

/-- The queries by which SQLite reads `books`. -/
def booksQueries : List String :=
  ["PRAGMA table_info(\"books\")", "PRAGMA index_list(\"books\")"]

/-- A shape with an index, and a column that existing rows have no value for. -/
def books : TableShape where
  name := "books"
  fields := [("title", { type := .text, indexed := .bool true }),
    ("author", { type := .text, required := .bool true }), ("pages", { type := .number })]

/-- The plan for `books` where `title` is there. -/
def booksPlan : List Change :=
  [.addColumn "author" { type := .text, required := .bool true },
    .addColumn "pages" { type := .number }, .createIndex "idx_books_title" [("title", 1)] (.bool false)]

/-- Where one column is refused, the other one and the index are still attempted. -/
theorem relational_accounts_of_refused_column :
    let c := recording ["ALTER TABLE \"books\" ADD COLUMN author TEXT"]
    let d : SqlDialect := { engine := .sqlite }
    let table : ExistingTable := { present := true, columns := [{ name := "title", rawType := "TEXT" }] }
    (existingTable c d books.name {}).runFrom { state := [] } = (.ok (table, {}), { state := booksQueries }) ∧
    Plan.changes books table { alter := true } (.sql d) = .ok booksPlan ∧
    Written d books.name false booksPlan ∧ ({ alter := true } : SyncOptions).dryRun = false ∧
    Accounted c books booksPlan (statementsOf (renderedOf d books.name booksPlan)) []
      (plannedWarnings d books.name booksPlan) false { state := booksQueries }
      ((relational c d books { alter := true }).runFrom { state := [] }) := by
  intro c d table
  have hread : (existingTable c d books.name {}).runFrom { state := [] } =
      (.ok (table, {}), { state := booksQueries }) := by rfl
  have hplan : Plan.changes books table { alter := true } (.sql d) = .ok booksPlan := by rfl
  have hwritten : Written d books.name false booksPlan := by
    have hall : ∀ change ∈ booksPlan, (Ddl.render d books.name change).toOption.isSome = true := by decide
    intro change hmem _
    cases hrender : Ddl.render d books.name change with
    | ok statements => exact ⟨statements, rfl⟩
    | error e =>
      have hsome := hall change hmem
      rw [hrender] at hsome
      exact Bool.noConfusion hsome
  exact ⟨hread, hplan, hwritten, rfl, relational_accounts hread hplan hwritten rfl⟩

end Polystore.Sync

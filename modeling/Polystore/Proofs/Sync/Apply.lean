import Polystore.Proofs.Sync.Attempt
import Polystore.Proofs.Sync.Rendering

/-!
# Changes that are carried out

What each change sends and reports: a refused column or index is a warning and the changes behind it are
carried out, while a refused table, or any refusal of a forced run, is the last statement that is sent.

Main statements: `runFrom_applyAll`, `runFrom_applyAll_forced` and `runFrom_apply_table`.
-/

namespace Polystore.Sync

variable {σ : Type} {table : String}

/-! ### Reports of attempts -/

/-- The line of a report for a column that was added. -/
def Attempt.line? (a : Attempt) : Option String :=
  match a.change, a.refusal with
  | .addColumn name _, none => some ("Added column '" ++ name ++ "'")
  | _, _ => none

/-- The warning for a column or an index that was refused. -/
def Attempt.warning? (table : String) (a : Attempt) : Option Warning :=
  match a.change, a.refusal with
  | .addColumn name _, some e => some (columnRefused table name e)
  | .createIndex name .., some e => some (indexRefused table name e)
  | _, _ => none

@[simp]
theorem Attempt.line?_createTable (shape : TableShape) (sql : String) (refusal : Option Error) :
    Attempt.line? ⟨.createTable shape, sql, refusal⟩ = none := rfl

@[simp]
theorem Attempt.line?_createIndex (name : String) (fields : List (String × Int)) (unique : Value)
    (sql : String) (refusal : Option Error) :
    Attempt.line? ⟨.createIndex name fields unique, sql, refusal⟩ = none := rfl

@[simp]
theorem Attempt.warning?_accepted (table : String) (change : Change) (sql : String) :
    Attempt.warning? table ⟨change, sql, none⟩ = none := by
  cases change <;> rfl

/-- A report after attempts for columns and indexes. -/
def Report.told (r : Report) (table : String) (as : List Attempt) : Report :=
  { r with
    altered := r.altered || as.any (·.line?.isSome)
    changes := r.changes ++ as.filterMap Attempt.line?
    warnings := r.warnings ++ as.filterMap (Attempt.warning? table) }

/-- A session after attempts for columns and indexes. -/
def logged (s : Session σ) (y : σ) (table : String) (as : List Attempt) : Session σ :=
  { state := y, log := s.log ++ (as.filterMap (Attempt.warning? table)).map Warning.entry }

theorem Report.told_append (r : Report) (as bs : List Attempt) :
    (r.told table as).told table bs = r.told table (as ++ bs) := by
  simp [Report.told, Bool.or_assoc]

theorem logged_append (s : Session σ) (y z : σ) (as bs : List Attempt) :
    logged (logged s y table as) z table bs = logged s z table (as ++ bs) := by
  simp [logged]

/-! ### Changes that are carried out -/

theorem applyAll_cons (c : Connection σ) (table : String) (force : Bool) (r : Report) (p : Rendered)
    (rendered : List Rendered) : applyAll c table force r (p :: rendered) =
      apply c table force r p >>= fun r => applyAll c table force r rendered :=
  List.foldlM_cons

theorem runFrom_apply (c : Connection σ) (table : String) {change : Change}
    (hchange : change.makesTable = false) (sql : String) (r : Report) (s : Session σ) :
    ∃ a y, a.sent = (change, sql) ∧ Attempted c s.state [a] y ∧
      (apply c table false r (change, [sql])).runFrom s =
        (.ok (r.told table [a]), logged s y table [a]) := by
  obtain ⟨refusal, y, hrun, hattempted⟩ := runFrom_runAll_singleton c change sql s
  have hattempt := Action.runFrom_attempt (c.runAll [sql]) s
  rw [hrun] at hattempt
  refine ⟨_, y, rfl, hattempted, ?_⟩
  cases change with
  | createTable shape => exact Bool.noConfusion hchange
  | recreateTable shape => exact Bool.noConfusion hchange
  | addColumn name f =>
    refine (Action.runFrom_bind_ok hattempt).trans ?_
    cases refusal with
    | none => simp [Action.outcomeOf, Action.runFrom_pure, Report.told, logged, Attempt.line?]
    | some e => simp [Action.outcomeOf, runFrom_warn, Report.told, logged, Attempt.line?, Attempt.warning?]
  | createIndex name fields unique =>
    refine (Action.runFrom_bind_ok hattempt).trans ?_
    cases refusal with
    | none => simp [Action.outcomeOf, Action.runFrom_pure, Report.told, logged, List.filterMap_cons]
    | some e => simp [Action.outcomeOf, runFrom_warn, Report.told, logged, Attempt.warning?]

theorem runFrom_applyAll (c : Connection σ) (table : String) {rendered : List Rendered}
    (h : ∀ p ∈ rendered, p.1.makesTable = false ∧ ∃ sql, p.2 = [sql]) (r : Report) (s : Session σ) :
    ∃ as y, as.map Attempt.sent = statementsOf rendered ∧ Attempted c s.state as y ∧
      (applyAll c table false r rendered).runFrom s = (.ok (r.told table as), logged s y table as) := by
  induction rendered generalizing r s with
  | nil => exact ⟨[], s.state, rfl, .nil _, by simp [applyAll, Action.runFrom_pure, Report.told, logged]⟩
  | cons p rendered ih =>
    obtain ⟨⟨hmakes, sql, hsql⟩, hrest⟩ := List.forall_mem_cons.1 h
    obtain ⟨change, statements⟩ := p
    obtain rfl : statements = [sql] := hsql
    obtain ⟨a, y, hsent, hattempted, hrun⟩ := runFrom_apply c table hmakes sql r s
    obtain ⟨as, z, hsents, hattempteds, hruns⟩ := ih hrest (r.told table [a]) (logged s y table [a])
    refine ⟨a :: as, z, ?_, hattempted.append hattempteds, ?_⟩
    · rw [List.map_cons, hsent, hsents]
      rfl
    · rw [applyAll_cons, Action.runFrom_bind_ok hrun, hruns, Report.told_append, logged_append]
      rfl

theorem runFrom_sendFatal (c : Connection σ) (table : String) (change : Change)
    (statements : List String) (r : Report) (s : Session σ) : ∃ as failure y,
      UpToRefusal (statements.map (change, ·)) as failure ∧ Attempted c s.state as y ∧
      (do sendFatal c table statements; pure r : Action σ Report).runFrom s =
        (Action.outcomeOf (failure.map (.tableNotSynced table)) r, { s with state := y }) := by
  obtain ⟨as, failure, y, hrun, hattempted, hupto⟩ := runFrom_runAll c change statements s
  refine ⟨as, failure, y, hupto, hattempted, ?_⟩
  have hsend := Action.runFrom_mapError (.tableNotSynced table) (c.runAll statements) s
  rw [hrun] at hsend
  cases failure with
  | none => exact (Action.runFrom_bind_ok hsend).trans rfl
  | some e => exact Action.runFrom_bind_error hsend

theorem runFrom_applyAll_forced (c : Connection σ) (table : String) {rendered : List Rendered}
    (h : ∀ p ∈ rendered, p.1.isIndex = true) (r : Report) (s : Session σ) : ∃ as failure y,
      UpToRefusal (statementsOf rendered) as failure ∧ Attempted c s.state as y ∧
      (applyAll c table true r rendered).runFrom s =
        (Action.outcomeOf (failure.map (.tableNotSynced table)) r, { s with state := y }) := by
  induction rendered generalizing s with
  | nil => exact ⟨[], none, s.state, .nil, .nil _, rfl⟩
  | cons p rendered ih =>
    obtain ⟨hindex, hrest⟩ := List.forall_mem_cons.1 h
    obtain ⟨change, statements⟩ := p
    obtain ⟨as, failure, y, hupto, hattempted, hsend⟩ := runFrom_sendFatal c table change statements r s
    have hrun : (apply c table true r (change, statements)).runFrom s =
        (Action.outcomeOf (failure.map (.tableNotSynced table)) r, { s with state := y }) := by
      cases change with
      | createIndex name fields unique => exact hsend
      | _ => exact Bool.noConfusion hindex
    rw [applyAll_cons]
    cases failure with
    | none =>
      obtain ⟨bs, failure, z, huptos, hattempteds, hruns⟩ := ih hrest { s with state := y }
      exact ⟨as ++ bs, failure, z, hupto.append huptos, hattempted.append hattempteds,
        (Action.runFrom_bind_ok hrun).trans hruns⟩
    | some e =>
      exact ⟨as, some e, y, hupto.append_right _, hattempted, Action.runFrom_bind_error hrun⟩

/-- What happens to a table that is made. -/
def makingOf : Change → String
  | .recreateTable _ => "dropped and recreated"
  | _ => "created"

/-- The log entry before a table is made, if it is dropped. -/
def droppingOf (table : String) : Change → List LogEntry
  | .recreateTable _ => [⟨.warning, .sync, "dropping and recreating table " ++ table⟩]
  | _ => []

theorem runFrom_apply_table (c : Connection σ) (table : String) (force : Bool) (change : Change)
    (hchange : change.makesTable = true) (statements : List String) (r : Report) (s : Session σ) :
    ∃ as failure y, UpToRefusal (statements.map (change, ·)) as failure ∧
      Attempted c s.state as y ∧ (apply c table force r (change, statements)).runFrom s =
        (Action.outcomeOf (failure.map (.tableNotSynced table)) (r.tableMade table (makingOf change)),
          { state := y, log := s.log ++ droppingOf table change }) := by
  obtain ⟨as, failure, y, hupto, hattempted, hsend⟩ := runFrom_sendFatal c table change statements
    (r.tableMade table (makingOf change)) { s with log := s.log ++ droppingOf table change }
  refine ⟨as, failure, y, hupto, hattempted, ?_⟩
  cases change with
  | createTable shape =>
    have hlog : s.log ++ droppingOf table (.createTable shape) = s.log := List.append_nil _
    rw [hlog] at hsend ⊢
    exact hsend
  | recreateTable shape => exact (Action.runFrom_bind_ok (Action.runFrom_note ..)).trans hsend
  | _ => exact Bool.noConfusion hchange

end Polystore.Sync

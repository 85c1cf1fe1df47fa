import Polystore.Proofs.Sync.Relational

/-!
# Reports that grow

Carrying out a change adds to the report and to the log, and reads neither. So what a list of changes
does from a report and a log is what it does from none, continued.

Main statement: `Extends.applyAll`.
-/

namespace Polystore

variable {σ α : Type}

/-! ### Quiet programs -/

namespace Action.Quiet

theorem mapError {a : Action σ α} (f : Error → Error) (h : a.Quiet) : (a.mapError f).Quiet := by
  intro s
  rw [runFrom_mapError, runFrom_mapError, h s]

theorem runAll (c : Connection σ) (statements : List String) : (c.runAll statements).Quiet := by
  induction statements with
  | nil => exact lift (.ok ())
  | cons sql statements ih =>
    have hone : (do let _ ← c.run sql .null : Action σ Unit).Quiet :=
      (c.quiet_run sql .null).bind fun _ => lift (.ok ())
    exact hone.bind fun _ => ih

theorem sendFatal (c : Connection σ) (table : String) (statements : List String) :
    (Sync.sendFatal c table statements).Quiet :=
  (runAll c statements).mapError _

end Action.Quiet

namespace Sync

/-! ### Continued runs -/

/-- A report with what a later part of the run reports. -/
def Report.followedBy (r more : Report) : Report where
  created := r.created || more.created
  altered := r.altered || more.altered
  changes := r.changes ++ more.changes
  warnings := r.warnings ++ more.warnings
  plan := r.plan

theorem Report.followedBy_empty (r : Report) : r.followedBy {} = r := by
  simp [Report.followedBy]

theorem Report.followedBy_assoc (r more last : Report) :
    (r.followedBy more).followedBy last = r.followedBy (more.followedBy last) := by
  simp [Report.followedBy, Bool.or_assoc]

/-- A run that started with no report and no log, as one after a report and a log. -/
def continued (r : Report) (log : List LogEntry) (run : Except Error Report × Session σ) :
    Except Error Report × Session σ :=
  (run.1.map r.followedBy, { run.2 with log := log ++ run.2.log })

theorem continued_continued (r more : Report) (log new : List LogEntry)
    (run : Except Error Report × Session σ) :
    continued r log (continued more new run) = continued (r.followedBy more) (log ++ new) run := by
  obtain ⟨outcome, s⟩ := run
  cases outcome with
  | ok last => simp [continued, Except.map, Report.followedBy_assoc]
  | error e => simp [continued, Except.map]

/-- A program that adds to a report and to the log, and reads neither. -/
def Extends (f : Report → Action σ Report) : Prop :=
  ∀ r s, (f r).runFrom s = continued r s.log ((f {}).runFrom { state := s.state })

namespace Extends

theorem pure {g : Report → Report} (h : ∀ r, g r = r.followedBy (g {})) :
    Extends fun r => (pure (g r) : Action σ Report) := by
  intro r s
  simp [Action.runFrom_pure, continued, Except.map, ← h r]

theorem warn (w : Warning) : Extends fun r : Report => (r.warn w : Action σ Report) := by
  intro r s
  simp [runFrom_warn, continued, Except.map, Report.followedBy]

theorem note (level : LogLevel) (source : LogSource) (text : String) {f : Report → Action σ Report}
    (h : Extends f) : Extends fun r => Action.note level source text >>= fun _ => f r := by
  intro r s
  rw [Action.runFrom_bind_ok (Action.runFrom_note ..), Action.runFrom_bind_ok (Action.runFrom_note ..)]
  have hnoted := h {} { state := s.state, log := [⟨level, source, text⟩] }
  refine (h r _).trans (Eq.trans ?_ (congrArg (continued r s.log) hnoted).symm)
  rw [continued_continued, Report.followedBy_empty]

theorem seq {a : Action σ α} (ha : a.Quiet) {f : α → Report → Action σ Report}
    (h : ∀ v, Extends (f v)) : Extends fun r => a >>= fun v => f v r := by
  intro r s
  have hstart := ha { state := s.state }
  cases hrun : a.runFrom { state := s.state } with
  | mk outcome t =>
    have hs := ha s
    rw [hrun] at hs hstart
    have ht : t = { state := t.state } := (Prod.mk.inj hstart).2
    cases outcome with
    | ok v =>
      rw [Action.runFrom_bind_ok hs, Action.runFrom_bind_ok hrun, h v r, ht]
    | error e =>
      rw [Action.runFrom_bind_error hs, Action.runFrom_bind_error hrun, ht]
      simp [continued, Except.map]

theorem bind {f g : Report → Action σ Report} (hf : Extends f) (hg : Extends g) :
    Extends fun r => f r >>= g := by
  intro r s
  -- Both sides run `f` alike; then `g` goes on from one report or from the other, and both are its own
  -- run from no report, continued.
  have hr := hf r s
  cases hrun : (f {}).runFrom { state := s.state } with
  | mk outcome t =>
    rw [hrun] at hr
    cases outcome with
    | ok more =>
      rw [Action.runFrom_bind_ok hr, Action.runFrom_bind_ok hrun, hg, hg more t, continued_continued]
    | error e =>
      rw [Action.runFrom_bind_error hr, Action.runFrom_bind_error hrun]
      rfl

/-! ### Changes -/

theorem apply (c : Connection σ) (table : String) (force : Bool) (p : Rendered) :
    Extends fun r => Sync.apply c table force r p := by
  obtain ⟨change, statements⟩ := p
  have hquiet := Action.Quiet.runAll c statements
  have hfatal := Action.Quiet.sendFatal c table statements
  have hmade : ∀ what, Extends fun r : Report => (Pure.pure (r.tableMade table what) : Action σ Report) :=
    fun what => pure fun r => by simp [Report.tableMade, Report.followedBy]
  have hsame : Extends fun r : Report => (Pure.pure r : Action σ Report) :=
    pure fun r => r.followedBy_empty.symm
  cases change with
  | recreateTable shape => exact note _ _ _ (seq hfatal fun _ => hmade _)
  | createTable shape => exact seq hfatal fun _ => hmade _
  | addColumn name f =>
    refine seq hquiet.attempt fun outcome => ?_
    cases outcome with
    | ok _ =>
      refine pure fun r => ?_
      simp [Report.followedBy]
    | error e => exact warn _
  | createIndex name fields unique =>
    cases force with
    | true => exact seq hfatal fun _ => hsame
    | false =>
      refine seq hquiet.attempt fun outcome => ?_
      cases outcome with
      | ok _ => exact hsame
      | error e => exact warn _

theorem applyAll (c : Connection σ) (table : String) (force : Bool) (rendered : List Rendered) :
    Extends fun r => Sync.applyAll c table force r rendered := by
  induction rendered with
  | nil => exact pure fun r => r.followedBy_empty.symm
  | cons p rendered ih =>
    simp only [applyAll_cons]
    exact (apply c table force p).bind ih

end Extends

end Sync

end Polystore

import Polystore.Proofs.Migration.Call
import Polystore.Proofs.Migration.Memory
import Polystore.Proofs.Refusal

/-!
# Bookkeeping around the steps of a call

Beside the steps of migrations a call reads the history, records what it applied and forgets what it
reverted. It does all of this one after the other and ends at the first failure; but the error that it
ends with tells of a failed migration only if a step failed (`reports_failure_iff`). A failure of the
bookkeeping is raised as the store gave it.
-/

namespace Polystore

variable {σ α β : Type}

/-! ### Deeds -/

/-- What a call does, piece by piece. -/
inductive Deed where
  /-- Reads the history and finds these records. -/
  | read (found : List MigrationRecord)
  | step (step : Step)
  /-- Records a migration in a batch. -/
  | record (name : String) (batch : Int)
  | forget (name : String)

/-- A deed is done from a session, or fails there. -/
def Deed.Ran (m : Manager σ) (s : Session σ) (failure : Option Error) (s' : Session σ) : Deed → Prop
  | read found => m.executed.runFrom s = (Action.outcomeOf failure found, s')
  | step st => ∃ x ∈ m.migrations, x.name = st.name ∧
    (x.step st.direction).runFrom s = (Action.outcomeOf failure (), s')
  | record name batch => ∃ x ∈ m.migrations, x.name = name ∧
    (History.record m.editor m.history
      { name, timestamp := x.timestamp, batch, executedAt := .str m.clock }).runFrom s =
        (Action.outcomeOf failure (), s')
  | forget name =>
    (History.forget m.editor m.history name).runFrom s = (Action.outcomeOf failure (), s')

/-- The error that a call raises for the failure of a deed. -/
def Deed.raised (e : Error) : Deed → Error
  | step st => .step st.direction st.name e
  | _ => e

/-- A step with its bookkeeping, which follows at once. -/
def Step.deeds (batch : Int) (st : Step) : List Deed :=
  match st.direction with
  | .up => [.step st, .record st.name batch]
  | .down => [.step st, .forget st.name]

namespace Call

/-- The deeds of a call that reads the history once. -/
def deedsOnce (m : Manager σ) (read : List MigrationRecord) (call : Call) : List Deed :=
  .read read :: (call.plan m read).flatMap (Step.deeds (Manager.nextBatch read))

/-- The deeds of a call, by the records that it reads first; `fresh` reads others between reverting and
applying. -/
def deeds (m : Manager σ) (read rest : List MigrationRecord) : Call → List Deed
  | fresh => deedsOnce m read reset ++ deedsOnce m rest migrate
  | call => deedsOnce m read call

end Call

/-- The store is as it was, and entries may have been added to the log. -/
def Session.Noted (s s' : Session σ) : Prop :=
  s'.state = s.state ∧ s.log <+: s'.log

theorem Session.Noted.refl (s : Session σ) : s.Noted s :=
  ⟨rfl, List.prefix_rfl⟩

theorem Session.Noted.trans {s₁ s₂ s₃ : Session σ} (h : s₁.Noted s₂) (h' : s₂.Noted s₃) :
    s₁.Noted s₃ :=
  ⟨h'.1.trans h.1, h.2.trans h'.2⟩

theorem Session.noted_append (s : Session σ) (entries : List LogEntry) :
    s.Noted { s with log := s.log ++ entries } :=
  ⟨rfl, List.prefix_append _ _⟩

/-- Deeds are done one after the other, with entries of the log between them. -/
inductive Course (m : Manager σ) : List Deed → Session σ → Session σ → Prop where
  | nil {s s' : Session σ} (hnoted : s.Noted s') : Course m [] s s'
  | cons {deed : Deed} {deeds : List Deed} {s s₁ s₂ s' : Session σ} (hnoted : s.Noted s₁)
      (hdone : deed.Ran m s₁ none s₂) (hrest : Course m deeds s₂ s') :
      Course m (deed :: deeds) s s'

/-- How a program ends that goes through a plan, by the deed that failed with its failure. It does the
whole plan, and then ends well or is refused, or it ends with the first deed that fails. -/
inductive Ending (m : Manager σ) (plan : List Deed) (refusal : Option Error) (s : Session σ) :
    Option (Deed × Error) → Except Error α × Session σ → Prop where
  | completed {v : α} {s' : Session σ} (hcourse : Course m plan s s') :
      Ending m plan refusal s none (Action.outcomeOf refusal v, s')
  | failed {done : List Deed} {deed : Deed} {e : Error} {s₁ s₂ s' : Session σ}
      (hplan : done ++ [deed] <+: plan) (hcourse : Course m done s s₁)
      (hfailed : deed.Ran m s₁ (some e) s₂) (hnoted : s₂.Noted s') :
      Ending m plan refusal s (some (deed, e)) (.error (deed.raised e), s')

/-- A program goes through a plan. -/
def Action.Does (m : Manager σ) (a : Action σ α) (plan : List Deed) : Prop :=
  ∀ s, ∃ failure, Ending m plan none s failure (a.runFrom s)

variable {m : Manager σ} {plan rest : List Deed} {s s₁ s' : Session σ}
  {refusal : Option Error} {failure : Option (Deed × Error)}

/-! ### Going through a plan -/

theorem Course.of_noted (hnoted : s.Noted s₁) (h : Course m plan s₁ s') : Course m plan s s' := by
  cases h with
  | nil hlater => exact .nil (hnoted.trans hlater)
  | cons hlater hdone hrest => exact .cons (hnoted.trans hlater) hdone hrest

theorem Course.append (h : Course m plan s s₁) (h' : Course m rest s₁ s') :
    Course m (plan ++ rest) s s' := by
  induction h with
  | nil hnoted => exact h'.of_noted hnoted
  | cons hnoted hdone _ ih => exact .cons hnoted hdone (ih h')

theorem Ending.prepend {r : Except Error α × Session σ} (hcourse : Course m plan s s₁)
    (h : Ending m rest refusal s₁ failure r) : Ending m (plan ++ rest) refusal s failure r := by
  cases h with
  | completed hlater => exact .completed (hcourse.append hlater)
  | failed hplan hlater hfailed hnoted =>
    refine .failed ?_ (hcourse.append hlater) hfailed hnoted
    rw [List.append_assoc]
    exact (List.prefix_append_right_inj plan).2 hplan

theorem Ending.bind {a : Action σ α} {f : α → Action σ β}
    (ha : ∃ failure, Ending m plan none s failure (a.runFrom s))
    (hf : ∀ v s₁, a.runFrom s = (.ok v, s₁) →
      ∃ failure, Ending m rest refusal s₁ failure ((f v).runFrom s₁)) :
    ∃ failure, Ending m (plan ++ rest) refusal s failure ((a >>= f).runFrom s) := by
  obtain ⟨failure, ha⟩ := ha
  generalize hrun : a.runFrom s = r at ha
  cases ha with
  | completed hcourse =>
    obtain ⟨failure, hrest⟩ := hf _ _ hrun
    rw [Action.runFrom_bind_ok hrun]
    exact ⟨failure, hrest.prepend hcourse⟩
  | failed hplan hcourse hfailed hnoted =>
    rw [Action.runFrom_bind_error hrun]
    exact ⟨_, .failed (hplan.trans (List.prefix_append plan rest)) hcourse hfailed hnoted⟩

theorem Action.exists_outcomeOf [Inhabited α] (r : Except Error α) :
    ∃ cause v, r = outcomeOf cause v := by
  cases r with
  | ok v => exact ⟨none, v, rfl⟩
  | error e => exact ⟨some e, default, rfl⟩

theorem Ending.single (v : α) {cause : Option Error} {deed : Deed} {s₂ : Session σ}
    (h : deed.Ran m s cause s₁) (hnoted : s₁.Noted s₂) :
    ∃ failure, Ending m [deed] none s failure (Action.outcomeOf (cause.map deed.raised) v, s₂) := by
  cases cause with
  | none => exact ⟨none, .completed (.cons (.refl s) h (.nil hnoted))⟩
  | some e => exact ⟨_, .failed List.prefix_rfl (.nil (.refl s)) h hnoted⟩

namespace Action.Does

theorem pure (v : α) : Does m (Pure.pure v : Action σ α) [] :=
  fun s => ⟨none, .completed (.nil (.refl s))⟩

theorem note (level : LogLevel) (source : LogSource) (text : String) :
    Does m (Action.note level source text : Action σ Unit) [] :=
  fun s => ⟨none, .completed (.nil (s.noted_append _))⟩

theorem single {a : Action σ Unit} {deed : Deed} (hraised : ∀ e, deed.raised e = e)
    (h : ∀ s cause s', a.runFrom s = (outcomeOf cause (), s') → deed.Ran m s cause s') :
    Does m a [deed] := by
  intro s
  cases hrun : a.runFrom s with
  | mk r s₁ =>
    obtain ⟨cause, _, rfl⟩ := exists_outcomeOf r
    have hsingle := Ending.single () (h s cause s₁ hrun) (.refl s₁)
    rwa [funext hraised, Option.map_id'] at hsingle

theorem bind {a : Action σ α} {f : α → Action σ β} (ha : Does m a plan)
    (hf : ∀ v, Does m (f v) rest) : Does m (a >>= f) (plan ++ rest) :=
  fun s => Ending.bind (ha s) fun v s₁ _ => hf v s₁

theorem forM {f : α → Action σ Unit} {deeds : α → List Deed} {as : List α}
    (h : ∀ a ∈ as, Does m (f a) (deeds a)) : Does m (as.forM f) (as.flatMap deeds) := by
  induction as with
  | nil => exact pure ()
  | cons a as ih =>
    obtain ⟨hfirst, hrest⟩ := List.forall_mem_cons.1 h
    exact hfirst.bind fun _ => ih hrest

theorem filterM {f : α → Action σ Bool} {deeds : α → List Deed} (h : ∀ a, Does m (f a) (deeds a))
    (as : List α) : Does m (as.filterM f) (as.flatMap deeds) := by
  have haux : ∀ kept, Does m (List.filterAuxM f as kept) (as.flatMap deeds) := by
    induction as with
    | nil => exact fun kept => pure kept
    | cons a as ih => exact fun kept => (h a).bind fun b => ih _
  rw [← List.append_nil (as.flatMap deeds)]
  exact (haux []).bind fun kept => pure kept.reverse

end Action.Does

namespace Manager

/-! ### Steps with their bookkeeping -/

theorem does_runStep {x : Migration σ} (hx : x ∈ m.migrations) (direction : Direction) :
    Action.Does m (runStep x direction) [.step ⟨direction, x.name⟩] := by
  intro s
  have hattempt := Action.runFrom_attempt (x.step direction) s
  cases hrun : (x.step direction).runFrom s with
  | mk r s₁ =>
    obtain ⟨cause, _, rfl⟩ := Action.exists_outcomeOf r
    have hran : (Deed.step ⟨direction, x.name⟩).Ran m s cause s₁ := ⟨x, hx, rfl, hrun⟩
    rw [hrun] at hattempt
    unfold runStep
    rw [Action.runFrom_bind_ok hattempt]
    cases cause with
    | none => exact Ending.single () hran (.refl s₁)
    | some e => exact Ending.single () hran (s₁.noted_append _)

theorem does_record {x : Migration σ} (hx : x ∈ m.migrations) (batch : Int) :
    Action.Does m (History.record m.editor m.history
      { name := x.name, timestamp := x.timestamp, batch, executedAt := .str m.clock })
      [.record x.name batch] :=
  .single (fun _ => rfl) fun _ _ _ hrun => ⟨x, hx, rfl, hrun⟩

theorem does_forget (m : Manager σ) (name : String) :
    Action.Does m (History.forget m.editor m.history name) [.forget name] :=
  .single (fun _ => rfl) fun _ _ _ hrun => hrun

theorem does_applyOne {x : Migration σ} (hx : x ∈ m.migrations) (batch : Int) :
    Action.Does m (m.applyOne batch x) (Step.deeds batch ⟨.up, x.name⟩) := by
  unfold applyOne
  exact (Action.Does.note _ _ _).bind fun _ => (does_runStep hx .up).bind fun _ => does_record hx batch

theorem does_revertOne (m : Manager σ) (batch : Int) (r : MigrationRecord) :
    Action.Does m (m.revertOne r) ((m.downs [r]).flatMap (Step.deeds batch)) := by
  unfold revertOne
  cases hr : m.find? r.name with
  | none =>
    rw [downs_cons_none hr]
    exact (Action.Does.note _ _ _).bind fun _ => .pure false
  | some x =>
    obtain ⟨hx, hname⟩ := name_of_find? hr
    rw [downs_cons_some hr, ← hname]
    exact (Action.Does.note _ _ _).bind fun _ => (does_runStep hx .down).bind fun _ =>
      (does_forget m x.name).bind fun _ => .pure true

theorem flatMap_downs (m : Manager σ) (deeds : Step → List Deed) (rs : List MigrationRecord) :
    rs.flatMap (fun r => (m.downs [r]).flatMap deeds) = (m.downs rs).flatMap deeds := by
  induction rs with
  | nil => rfl
  | cons r rs ih =>
    rw [List.flatMap_cons, ih]
    cases hr : m.find? r.name with
    | none =>
      rw [downs_cons_none hr, downs_cons_none hr]
      rfl
    | some x =>
      rw [downs_cons_some hr, downs_cons_some hr, ← List.flatMap_append]
      rfl

theorem does_revert (m : Manager σ) (batch : Int) (rs : List MigrationRecord) :
    Action.Does m (m.revert rs) ((m.downs rs.reverse).flatMap (Step.deeds batch)) := by
  have hfilter := Action.Does.filterM (does_revertOne m batch) rs.reverse
  rw [flatMap_downs] at hfilter
  rw [← List.append_nil (List.flatMap _ _)]
  exact hfilter.bind fun _ => .pure _

/-! ### Calls -/

theorem ending_read (f : List MigrationRecord → Action σ α) {deeds : List MigrationRecord → List Deed}
    {refusal : List MigrationRecord → Option Error}
    (hf : ∀ read s, ∃ failure, Ending m (deeds read) (refusal read) s failure ((f read).runFrom s))
    (s : Session σ) :
    ∃ read failure,
      Ending m (.read read :: deeds read) (refusal read) s failure ((m.executed >>= f).runFrom s) := by
  cases hrun : m.executed.runFrom s with
  | mk r s₁ =>
    obtain ⟨cause, read, rfl⟩ := Action.exists_outcomeOf r
    have hran : (Deed.read read).Ran m s cause s₁ := hrun
    cases cause with
    | none =>
      obtain ⟨failure, h⟩ := hf read s₁
      rw [Action.runFrom_bind_ok hrun]
      exact ⟨read, failure, h.prepend (.cons (.refl s) hran (.nil (.refl s₁)))⟩
    | some e =>
      rw [Action.runFrom_bind_error hrun]
      exact ⟨read, _, .failed ((List.prefix_cons_inj _).2 List.nil_prefix) (.nil (.refl s)) hran
        (.refl s₁)⟩

theorem ending_migrate (m : Manager σ) (s : Session σ) :
    ∃ read failure, Ending m (Call.migrate.deedsOnce m read) none s failure (m.migrate.runFrom s) := by
  refine ending_read _ (fun read => ?_) s
  have hup : ∀ x ∈ m.notIn read, Action.Does m (m.applyOne (nextBatch read) x)
      (Step.deeds (nextBatch read) ⟨.up, x.name⟩) :=
    fun x hx => does_applyOne (mem_notIn.1 hx).1 _
  rw [Call.plan, ups, List.flatMap_map, ← List.append_nil (List.flatMap _ _)]
  exact (Action.Does.forM hup).bind fun _ => .pure _

theorem ending_rollback (m : Manager σ) (s : Session σ) :
    ∃ read failure, Ending m (Call.rollback.deedsOnce m read) none s failure (m.rollback.runFrom s) := by
  refine ending_read _ (fun read => ?_) s
  cases hlast : (read.map (·.batch)).max? with
  | none =>
    have hnil : read = [] := List.map_eq_nil_iff.1 (List.max?_eq_none_iff.1 hlast)
    subst hnil
    exact (Action.Does.note _ _ _).bind fun _ => .pure _
  | some last =>
    have hbatch : ∀ r : MigrationRecord, (some last == some r.batch) = (r.batch == last) := by
      intro r
      rw [Bool.eq_iff_iff, beq_iff_eq, beq_iff_eq, Option.some_inj, eq_comm]
    simp only [Call.plan, hlast, hbatch]
    exact does_revert m _ _

theorem ending_rollbackTo (m : Manager σ) (name : String) (s : Session σ) :
    ∃ read failure, Ending m ((Call.rollbackTo name).deedsOnce m read)
      ((Call.rollbackTo name).refusal? read) s failure ((m.rollbackTo name).runFrom s) := by
  refine ending_read _ (fun read s => ?_) s
  rw [Call.refusal?]
  split
  · exact does_revert m _ _ s
  · rename_i hany
    have hplan : (Call.rollbackTo name).plan m read = [] := by
      rw [Call.plan, drop_dropWhile_of_not_any hany]
      rfl
    rw [hplan]
    exact ⟨none, .completed (v := {}) (.nil (.refl s))⟩

theorem ending_reset (m : Manager σ) (s : Session σ) :
    ∃ read failure, Ending m (Call.reset.deedsOnce m read) none s failure (m.reset.runFrom s) :=
  ending_read _ (fun read => does_revert m (nextBatch read) read) s

theorem ending_fresh (m : Manager σ) (s : Session σ) :
    ∃ read rest failure, Ending m (Call.fresh.deeds m read rest) none s failure (m.fresh.runFrom s) := by
  obtain ⟨read, hreset⟩ := ending_reset m s
  -- a call that fails while it reverts reads nothing more
  cases hrun : m.reset.runFrom s with
  | mk r s₁ =>
    obtain ⟨rest, hmigrate⟩ := ending_migrate m s₁
    refine ⟨read, rest, Ending.bind hreset fun v s₂ hok => ?_⟩
    rw [hrun] at hok
    obtain ⟨-, rfl⟩ := Prod.mk.inj hok
    rw [← List.append_nil (Call.migrate.deedsOnce m rest)]
    exact Ending.bind hmigrate fun _ s₃ _ => Action.Does.pure _ s₃

theorem ending_call (m : Manager σ) (call : Call) (s : Session σ) :
    ∃ read rest failure,
      Ending m (call.deeds m read rest) (call.refusal? read) s failure ((call.action m).runFrom s) := by
  cases call with
  | migrate =>
    obtain ⟨read, h⟩ := ending_migrate m s
    exact ⟨read, [], h⟩
  | rollback =>
    obtain ⟨read, h⟩ := ending_rollback m s
    exact ⟨read, [], h⟩
  | rollbackTo name =>
    obtain ⟨read, h⟩ := ending_rollbackTo m name s
    exact ⟨read, [], h⟩
  | reset =>
    obtain ⟨read, h⟩ := ending_reset m s
    exact ⟨read, [], h⟩
  | fresh => exact ending_fresh m s

end Manager

/-! ### What a failure is reported as -/

/-- The error of a failed migration that wraps another error. -/
def Error.Reports (e cause : Error) : Prop :=
  e.kind? = some .migration ∧ e.cause? = some cause

theorem Deed.reports_raised_iff (deed : Deed) (e : Error) :
    (deed.raised e).Reports e ↔ ∃ st, deed = .step st := by
  have hraw : ¬e.Reports e := fun h => e.cause?_ne_self h.2
  cases deed with
  | step st => exact ⟨fun _ => ⟨st, rfl⟩, fun _ => ⟨rfl, rfl⟩⟩
  | _ => exact ⟨fun h => absurd h hraw, fun ⟨_, h⟩ => by cases h⟩

/-- Every call goes through the deeds that it plans, one after the other and no further than the first
that fails; it is refused only where it is to go back to a name that is not recorded. It ends with the
error of a failed migration that wraps the failure exactly if a step is what failed: where the history
could not be read, or a migration not be recorded or forgotten, the failure itself is raised. -/
theorem reports_failure_iff (m : Manager σ) (call : Call) (s : Session σ) :
    ∃ read rest failure,
      Ending m (call.deeds m read rest) (call.refusal? read) s failure ((call.action m).runFrom s) ∧
      ∀ deed e, failure = some (deed, e) →
        ((∃ e', ((call.action m).runFrom s).1 = .error e' ∧ e'.Reports e) ↔
          ∃ st, deed = .step st) := by
  obtain ⟨read, rest, failure, h⟩ := Manager.ending_call m call s
  refine ⟨read, rest, failure, h, fun deed e hfailure => ?_⟩
  generalize (call.action m).runFrom s = r at h
  cases h with
  | completed => cases hfailure
  | failed =>
    cases hfailure
    rw [← deed.reports_raised_iff e]
    constructor
    · rintro ⟨e', heq, hreports⟩
      cases heq
      exact hreports
    · exact fun hreports => ⟨_, rfl, hreports⟩

/-! ### A full store -/

/-- A store that is full: it answers what is asked without parameters, and refuses all else. Its state
tells whether a migration has changed it. -/
def fullStore : Connection Bool where
  openCursor := fun s => (.ok (), s)
  execute := fun _ parameters s =>
    if parameters.isSome then (.error (.refused "disk full"), s) else (.ok (), s)
  fetch := fun s => (.ok (some []), s)
  closeCursor := fun s => (.ok (), s)
  query := fun _ s => (.ok (), s)

/-- A migration that changes the state. -/
def changing : Migration Bool where
  name := "a"
  timestamp := 1
  up := .step fun _ => (.ok (), true)
  down := pure ()

def fullManager : Manager Bool where
  editor := { connection := fullStore, dialect := .sql { engine := .sqlite } }
  history := Memory.logShape
  migrations := [changing]
  clock := "2024-01-01T00:00:00+00:00"

theorem fullStore_answers (sql : String) {parameters : Value} (h : parameters.truthy = false)
    (s : Session Bool) : (fullStore.run sql parameters).runFrom s = (.ok [], s) := by
  unfold Connection.run Connection.send
  rw [if_neg (by simp [h])]
  rfl

theorem fullStore_refuses (sql : String) (v : Value) (vs : List Value) (s : Session Bool) :
    (fullStore.run sql (.list (v :: vs))).runFrom s = (.error (.refused "disk full"), s) :=
  rfl

theorem fullManager_executed (s : Session Bool) : fullManager.executed.runFrom s = (.ok [], s) := by
  have hsql : ∃ sql, Ddl.createTable { engine := .sqlite } Memory.logShape = .ok sql := ⟨_, by rfl⟩
  obtain ⟨sql, hsql⟩ := hsql
  have hselect : Request.select "log" .null (.sql { engine := .sqlite }) History.readOptions =
      .ok { sql := History.selectText "\"log\"", parameters := [] } := History.select_eq rfl
  have hrender : ((Action.lift ((Ddl.createTable { engine := .sqlite } Memory.logShape).map
      fun sql => [sql]) : Action Bool (List String))).runFrom s = (.ok [sql], s) := by
    rw [hsql]
    rfl
  have hensure : (History.ensure fullManager.editor fullManager.history).runFrom s = (.ok (), s) :=
    (Action.runFrom_bind_ok rfl).trans ((Action.runFrom_bind_ok hrender).trans
      ((Action.runFrom_bind_ok ((Action.runFrom_bind_ok (fullStore_answers sql rfl s)).trans rfl)).trans
        rfl))
  have hquery : (Action.lift (Request.select "log" .null (.sql { engine := .sqlite })
      History.readOptions) : Action Bool Sql.Compiled).runFrom s =
        (.ok { sql := History.selectText "\"log\"", parameters := [] }, s) := by
    rw [hselect]
    rfl
  exact (Action.runFrom_bind_ok hensure).trans ((Action.runFrom_bind_ok hquery).trans
    ((Action.runFrom_bind_ok (fullStore_answers _ rfl s)).trans rfl))

theorem fullManager_record (r : MigrationRecord) (s : Session Bool) :
    (History.record fullManager.editor fullManager.history r).runFrom s =
      (.error (.refused "disk full"), s) := by
  unfold History.record
  have hinsert : (Action.lift (Request.insert fullManager.history.name (.map [
      (.str "name", .str r.name), (.str "timestamp", .int r.timestamp), (.str "batch", .int r.batch),
      (.str "executed_at", r.executedAt)]) fullManager.editor.dialect) :
        Action Bool Sql.Compiled).runFrom s =
      (.ok { sql := History.insertText { engine := .sqlite } "\"log\""
             parameters := History.cells r }, s) := by
    rw [show Request.insert fullManager.history.name _ fullManager.editor.dialect = _ from
      History.insert_eq rfl r]
    rfl
  exact (Action.runFrom_bind_ok hinsert).trans (Action.runFrom_bind_error
    (fullStore_refuses _ _ _ s))

theorem fullManager_applyOne (batch : Int) (s : Session Bool) :
    ∃ s', (fullManager.applyOne batch changing).runFrom s = (.error (.refused "disk full"), s') ∧
      s'.state = true := by
  unfold Manager.applyOne
  exact ⟨_, (Action.runFrom_bind_ok rfl).trans
    ((Action.runFrom_bind_ok rfl).trans (fullManager_record _ _)), rfl⟩

theorem fullManager_migrate :
    ∃ s', fullManager.migrate.runFrom { state := false } = (.error (.refused "disk full"), s') ∧
      s'.state = true := by
  have hpending : fullManager.notIn [] = [changing] := by
    simp [Manager.notIn, Manager.ordered, fullManager]
  obtain ⟨s', happly, hstate⟩ := fullManager_applyOne (Manager.nextBatch []) { state := false }
  have hforM : ((fullManager.notIn []).forM (fullManager.applyOne (Manager.nextBatch []))).runFrom
      { state := false } = (.error (.refused "disk full"), s') := by
    rw [hpending]
    exact Action.runFrom_bind_error happly
  exact ⟨s', (Action.runFrom_bind_ok (fullManager_executed _)).trans
    (Action.runFrom_bind_error hforM), hstate⟩

/-- Not every failure is reported: the refusal to record a migration is raised as it is. -/
theorem not_reports_failure_of_full :
    ¬∀ (m : Manager Bool) (call : Call) (s : Session Bool),
      (∃ v, ((call.action m).runFrom s).1 = .ok v) ∨
        ∃ e, ((call.action m).runFrom s).1 = .error e ∧ e.kind? = some .migration := by
  intro h
  obtain ⟨s', hrun, -⟩ := fullManager_migrate
  have hmigrate : (Call.migrate.action fullManager).runFrom { state := false } = _ := hrun
  rcases h fullManager .migrate { state := false } with ⟨v, hv⟩ | ⟨e, he, hkind⟩
  · rw [hmigrate] at hv
    cases hv
  · rw [hmigrate] at he
    cases he
    cases hkind

end Polystore

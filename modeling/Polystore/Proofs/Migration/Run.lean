import Polystore.Proofs.Migration.Faithful
import Polystore.Proofs.Migration.Ledger

/-!
# Runs of migrations

Every step that a manager runs advances the ledger, and so applying a list of migrations, and
reverting a list of records, are traces along the steps that these come to.
-/

namespace Polystore

variable {σ : Type} {held : Int → Prop} {records : σ → List MigrationRecord}

/-- The steps of a migration do not touch the history. -/
def Migration.Leaves (records : σ → List MigrationRecord) (x : Migration σ) : Prop :=
  ∀ direction s, records ((x.step direction).runFrom s).2.state = records s.state

/-- A migration that can be recorded, and whose steps do not touch the history. -/
structure Migration.Fits (held : Int → Prop) (records : σ → List MigrationRecord) (x : Migration σ) :
    Prop where
  leaves : x.Leaves records
  timestamp : held x.timestamp

/-- A manager over a kept history, whose migrations have names of their own and fit the history. -/
structure Manager.Keeps (held : Int → Prop) (records : σ → List MigrationRecord) (m : Manager σ) :
    Prop where
  keeps : ∃ c d, m.editor = ⟨c, .sql d⟩ ∧ KeepsHistory c d m.history held records
  nodup : (m.migrations.map (·.name)).Nodup
  fits : ∀ x ∈ m.migrations, x.Fits held records

/-- The ledger of a session. -/
def Session.ledger (records : σ → List MigrationRecord) (s : Session (Journaled σ)) : Ledger where
  records := records s.state.store
  events := s.state.events

theorem ledger_eq_noted {step : Step} {s s₁ s₂ : Session (Journaled σ)}
    (hstep : s₁.ledger records = (s.ledger records).noted step true (s.ledger records).records)
    (hevents : (s₂.ledger records).events = (s₁.ledger records).events) :
    s₂.ledger records = (s.ledger records).noted step true (s₂.ledger records).records := by
  rw [hstep] at hevents
  exact congrArg (Ledger.mk (s₂.ledger records).records) hevents

/-! ### The history -/

namespace Manager.Keeps

variable {m : Manager σ}

theorem runFrom_executed (h : m.Keeps held records) (s : Session (Journaled σ)) :
    ∃ read s', (m.watched records).executed.runFrom s = (.ok read, s') ∧
      s'.ledger records = s.ledger records ∧ read.Perm (s.ledger records).records ∧
      read.Pairwise fun a b => a.comesBefore b := by
  obtain ⟨c, d, heditor, hkeeps⟩ := h.keeps
  obtain ⟨read, t, hrun, hsame, hperm, hsorted⟩ := hkeeps.runFrom_records s.unwatched
  rw [← heditor] at hrun
  exact ⟨read, t.watched s.state.events, (Unseen.records m.editor m.history).runFrom_eq hrun,
    congrArg (Ledger.mk · s.state.events) hsame, hperm, hsorted⟩

theorem runFrom_record (h : m.Keeps held records) (s : Session (Journaled σ)) (r : MigrationRecord)
    {text : String} (htext : r.executedAt = .str text) (htime : held r.timestamp) (hbatch : held r.batch)
    (hnew : r.name ∉ (s.ledger records).names) :
    ∃ s', (History.record (m.watched records).editor m.history r).runFrom s = (.ok (), s') ∧
      (s'.ledger records).events = (s.ledger records).events ∧
      (s'.ledger records).records.Perm (r :: (s.ledger records).records) := by
  obtain ⟨c, d, heditor, hkeeps⟩ := h.keeps
  obtain ⟨t, hrun, hperm⟩ := hkeeps.runFrom_record s.unwatched r htext htime hbatch hnew
  rw [← heditor] at hrun
  exact ⟨t.watched s.state.events, (Unseen.record m.editor m.history r).runFrom_eq hrun, rfl, hperm⟩

theorem runFrom_forget (h : m.Keeps held records) (s : Session (Journaled σ)) (name : String) :
    ∃ s', (History.forget (m.watched records).editor m.history name).runFrom s = (.ok (), s') ∧
      (s'.ledger records).events = (s.ledger records).events ∧
      (s'.ledger records).records.Perm
        ((s.ledger records).records.filter fun r => r.name != name) := by
  obtain ⟨c, d, heditor, hkeeps⟩ := h.keeps
  obtain ⟨t, hrun, hperm⟩ := hkeeps.runFrom_forget s.unwatched name
  rw [← heditor] at hrun
  exact ⟨t.watched s.state.events, (Unseen.forget m.editor m.history name).runFrom_eq hrun, rfl, hperm⟩

end Manager.Keeps

namespace Manager

/-! ### One step -/

/-- The causes with which the steps of a manager's migrations fail. -/
def Fails (m : Manager σ) (step : Step) (cause : Error) : Prop :=
  ∃ x ∈ m.migrations, x.name = step.name ∧ ∃ s, ((x.step step.direction).runFrom s).1 = .error cause

/-- The error of a step that fails. -/
def stepFailure (x : Migration σ) (direction : Direction) (cause : Option Error) : Option Error :=
  cause.map (.step direction x.name)

theorem runFrom_runStep {x : Migration σ} (hx : x.Leaves records) (direction : Direction)
    (s : Session (Journaled σ)) :
    ∃ cause s', (runStep (x.watched records) direction).runFrom s =
        (Action.outcomeOf (stepFailure x direction cause) (), s') ∧
      s'.ledger records =
        (s.ledger records).noted ⟨direction, x.name⟩ cause.isNone (s.ledger records).records ∧
      ∀ e, cause = some e → ((x.step direction).runFrom s.unwatched).1 = .error e := by
  have hsame := hx direction s.unwatched
  have hstep : ((x.watched records).step direction).runFrom s =
      (((x.step direction).runFrom s.unwatched).1,
        ((x.step direction).runFrom s.unwatched).2.watched (s.state.events ++
          [⟨⟨direction, x.name⟩, ((x.step direction).runFrom s.unwatched).1.isOk,
            (records s.state.store).map (·.name)⟩])) := by
    cases direction
    · rfl
    · rfl
  cases hrun : (x.step direction).runFrom s.unwatched with
  | mk r t =>
    rw [hrun] at hstep hsame
    have hledger : (t.watched (s.state.events ++ [⟨⟨direction, x.name⟩, r.isOk,
        (records s.state.store).map (·.name)⟩])).ledger records =
        (s.ledger records).noted ⟨direction, x.name⟩ r.isOk (s.ledger records).records :=
      congrArg (Ledger.mk · _) hsame
    have hattempt := Action.runFrom_attempt ((x.watched records).step direction) s
    rw [hstep] at hattempt
    cases r with
    | ok v => exact ⟨none, _, (Action.runFrom_bind_ok hattempt).trans rfl, hledger, fun _ h => by cases h⟩
    | error e =>
      refine ⟨some e, _, (Action.runFrom_bind_ok hattempt).trans rfl, hledger, fun e' he => ?_⟩
      rw [Option.some.inj he]

variable {m : Manager σ}

/-- The records that a manager writes in a batch. -/
def Writes (m : Manager σ) (batch : Int) (r : MigrationRecord) : Prop :=
  ∃ x ∈ m.migrations, r = {
    name := x.name, timestamp := x.timestamp, batch, executedAt := .str m.clock }

theorem runFrom_applyOne (h : m.Keeps held records) {batch : Int} (hbatch : held batch)
    {x : Migration σ} (hx : x ∈ m.migrations) {s : Session (Journaled σ)}
    (hnew : x.name ∉ (s.ledger records).names) :
    ∃ failure s', ((m.watched records).applyOne batch (x.watched records)).runFrom s =
        (Action.outcomeOf failure (), s') ∧
      Ledger.Advance m.Fails (m.Writes batch) ⟨.up, x.name⟩ (s.ledger records) failure
        (s'.ledger records) := by
  unfold applyOne
  obtain ⟨cause, s₁, hrun, hledger, hcause⟩ := runFrom_runStep (h.fits x hx).leaves .up { s with
    log := s.log ++ [⟨.info, .migration,
      "running migration " ++ x.name ++ " (batch " ++ toString batch ++ ")"⟩] }
  have hnote := Action.runFrom_note .info .migration
    ("running migration " ++ x.name ++ " (batch " ++ toString batch ++ ")") s
  cases cause with
  | some e =>
    refine ⟨some (.step .up x.name e), s₁,
      (Action.runFrom_bind_ok hnote).trans (Action.runFrom_bind_error hrun), ?_⟩
    rw [hledger]
    exact .failed ⟨fun _ => hnew, fun hdown => absurd hdown (by simp)⟩ ⟨x, hx, rfl, _, hcause e rfl⟩
  | none =>
    have hrecords₁ : (s₁.ledger records).records = (s.ledger records).records := by
      rw [hledger]
      rfl
    obtain ⟨s₂, hrecord, hevents, hperm⟩ := h.runFrom_record s₁
      { name := x.name, timestamp := x.timestamp, batch, executedAt := .str m.clock } rfl
      (h.fits x hx).timestamp hbatch (by rw [Ledger.names, hrecords₁]; exact hnew)
    refine ⟨none, s₂, (Action.runFrom_bind_ok hnote).trans
      ((Action.runFrom_bind_ok hrun).trans hrecord), ?_⟩
    rw [hrecords₁] at hperm
    rw [ledger_eq_noted hledger hevents]
    exact Ledger.Advance.applied hnew ⟨x, hx, rfl⟩ hperm

theorem name_of_find? {name : String} {x : Migration σ} (h : m.find? name = some x) :
    x ∈ m.migrations ∧ x.name = name :=
  ⟨List.mem_of_find?_eq_some h, by simpa using List.find?_some h⟩

theorem runFrom_revertOne_none (records : σ → List MigrationRecord) {r : MigrationRecord}
    (hr : m.find? r.name = none) (s : Session (Journaled σ)) :
    ∃ s', ((m.watched records).revertOne r).runFrom s = (.ok false, s') ∧
      s'.ledger records = s.ledger records := by
  unfold revertOne
  rw [find?_watched, hr]
  exact ⟨_, rfl, rfl⟩

theorem runFrom_revertOne_some (h : m.Keeps held records) (P : MigrationRecord → Prop)
    {r : MigrationRecord} {x : Migration σ} (hr : m.find? r.name = some x) {s : Session (Journaled σ)}
    (hold : r.name ∈ (s.ledger records).names) :
    ∃ failure s', ((m.watched records).revertOne r).runFrom s =
        (Action.outcomeOf failure true, s') ∧
      Ledger.Advance m.Fails P ⟨.down, r.name⟩ (s.ledger records) failure (s'.ledger records) := by
  obtain ⟨hx, hname⟩ := name_of_find? hr
  rw [← hname] at hold ⊢
  unfold revertOne
  rw [find?_watched, hr]
  obtain ⟨cause, s₁, hrun, hledger, hcause⟩ := runFrom_runStep (h.fits x hx).leaves .down { s with
    log := s.log ++ [⟨.info, .migration, "rolling back migration " ++ x.name⟩] }
  have hnote := Action.runFrom_note .info .migration ("rolling back migration " ++ x.name) s
  cases cause with
  | some e =>
    refine ⟨some (.step .down x.name e), s₁,
      (Action.runFrom_bind_ok hnote).trans (Action.runFrom_bind_error hrun), ?_⟩
    rw [hledger]
    exact .failed ⟨fun hup => absurd hup (by simp), fun _ => hold⟩ ⟨x, hx, rfl, _, hcause e rfl⟩
  | none =>
    have hrecords₁ : (s₁.ledger records).records = (s.ledger records).records := by
      rw [hledger]
      rfl
    obtain ⟨s₂, hforget, hevents, hperm⟩ := h.runFrom_forget s₁ x.name
    refine ⟨none, s₂, (Action.runFrom_bind_ok hnote).trans ((Action.runFrom_bind_ok hrun).trans
      ((Action.runFrom_bind_ok hforget).trans rfl)), ?_⟩
    rw [hrecords₁] at hperm
    rw [ledger_eq_noted hledger hevents]
    exact Ledger.Advance.reverted hold hperm

/-! ### Lists of steps -/

/-- The steps that applying migrations comes to. -/
def ups (xs : List (Migration σ)) : List Step :=
  xs.map fun x => ⟨.up, x.name⟩

/-- The steps that reverting records comes to, one after the other: the downs of those that are
registered. -/
def downs (m : Manager σ) (rs : List MigrationRecord) : List Step :=
  (rs.filter fun r => (m.find? r.name).isSome).map fun r => ⟨.down, r.name⟩

/-- A run over a list whose first element comes to one step. -/
theorem trace_cons {α β : Type} {f : α → Action (Journaled σ) β} {a : α} {as : List α} {b : β}
    {F : Step → Error → Prop} {P : MigrationRecord → Prop} {step : Step} {plan : List Step}
    {s s₁ s' : Session (Journaled σ)} {done : List (α × β)} {failure₁ failure : Option Error}
    (hrun : (f a).runFrom s = (Action.outcomeOf failure₁ b, s₁))
    (hstep : Ledger.Advance F P step (s.ledger records) failure₁ (s₁.ledger records))
    (hruns : Action.Runs f (a :: as) s done failure s')
    (hrest : failure₁ = none → ∀ done, Action.Runs f as s₁ done failure s' →
      Ledger.Trace F P plan (s₁.ledger records) failure (s'.ledger records)) :
    Ledger.Trace F P (step :: plan) (s.ledger records) failure (s'.ledger records) := by
  cases hruns with
  | ok hfirst hruns =>
    rw [hfirst] at hrun
    obtain ⟨houtcome, rfl⟩ := Prod.mk.inj hrun
    cases failure₁ with
    | none => exact .succeeded hstep (hrest rfl _ hruns)
    | some e => exact absurd houtcome (by simp [Action.outcomeOf])
  | error hfirst =>
    rw [hfirst] at hrun
    obtain ⟨houtcome, rfl⟩ := Prod.mk.inj hrun
    cases failure₁ with
    | none => exact absurd houtcome (by simp [Action.outcomeOf])
    | some e =>
      cases houtcome
      exact .failed _ hstep

theorem trace_applyOne (h : m.Keeps held records) {batch : Int} (hbatch : held batch)
    {xs : List (Migration σ)} (hxs : ∀ x ∈ xs, x ∈ m.migrations) (hnodup : (xs.map (·.name)).Nodup)
    {s s' : Session (Journaled σ)} {done : List (Migration (Journaled σ) × Unit)}
    {failure : Option Error} (hnew : ∀ x ∈ xs, x.name ∉ (s.ledger records).names)
    (hruns : Action.Runs ((m.watched records).applyOne batch) (xs.map (Migration.watched records)) s
      done failure s') :
    Ledger.Trace m.Fails (m.Writes batch) (ups xs) (s.ledger records) failure (s'.ledger records) := by
  induction xs generalizing s done with
  | nil =>
    cases hruns with
    | nil => exact .done _
  | cons x xs ih =>
    obtain ⟨hx, hxs⟩ := List.forall_mem_cons.1 hxs
    obtain ⟨hfresh, hnodup⟩ := List.nodup_cons.1 hnodup
    obtain ⟨hnewx, hnew⟩ := List.forall_mem_cons.1 hnew
    obtain ⟨failure₁, s₁, hrun, hstep⟩ := runFrom_applyOne h hbatch hx hnewx
    refine trace_cons hrun hstep hruns fun hok done hrest => ih hxs hnodup (fun y hy => ?_) hrest
    subst hok
    rw [hstep.names_applied.mem_iff, List.mem_cons, not_or]
    exact ⟨fun heq => hfresh (List.mem_map.2 ⟨y, hy, heq⟩), hnew y hy⟩

theorem downs_cons_none {r : MigrationRecord} {rs : List MigrationRecord}
    (h : m.find? r.name = none) : m.downs (r :: rs) = m.downs rs := by
  rw [downs, List.filter_cons_of_neg (by simp [h])]
  rfl

theorem downs_cons_some {r : MigrationRecord} {rs : List MigrationRecord} {x : Migration σ}
    (h : m.find? r.name = some x) : m.downs (r :: rs) = ⟨.down, r.name⟩ :: m.downs rs := by
  rw [downs, List.filter_cons_of_pos (by simp [h])]
  rfl

theorem trace_revertOne (h : m.Keeps held records) (P : MigrationRecord → Prop)
    {rs : List MigrationRecord} (hnodup : (rs.map (·.name)).Nodup) {s s' : Session (Journaled σ)}
    {done : List (MigrationRecord × Bool)} {failure : Option Error}
    (hold : ∀ r ∈ rs, r.name ∈ (s.ledger records).names)
    (hruns : Action.Runs (m.watched records).revertOne rs s done failure s') :
    Ledger.Trace m.Fails P (m.downs rs) (s.ledger records) failure (s'.ledger records) := by
  induction rs generalizing s done with
  | nil =>
    cases hruns with
    | nil => exact .done _
  | cons r rs ih =>
    obtain ⟨hfresh, hnodup⟩ := List.nodup_cons.1 hnodup
    obtain ⟨holdr, hold⟩ := List.forall_mem_cons.1 hold
    cases hr : m.find? r.name with
    | none =>
      obtain ⟨s₁, hrun, hsame⟩ := runFrom_revertOne_none records hr s
      rw [downs_cons_none hr]
      cases hruns with
      | ok hfirst hrest =>
        rw [hfirst] at hrun
        obtain ⟨-, rfl⟩ := Prod.mk.inj hrun
        rw [← hsame] at hold ⊢
        exact ih hnodup hold hrest
      | error hfirst =>
        rw [hfirst] at hrun
        exact absurd (Prod.mk.inj hrun).1 (by simp)
    | some x =>
      obtain ⟨failure₁, s₁, hrun, hstep⟩ := runFrom_revertOne_some h P hr holdr
      rw [downs_cons_some hr]
      refine trace_cons hrun hstep hruns fun hok done hrest => ih hnodup (fun y hy => ?_) hrest
      subst hok
      rw [hstep.names_reverted.mem_iff, List.mem_filter, bne_iff_ne]
      exact ⟨hold y hy, fun heq => hfresh (List.mem_map.2 ⟨y, hy, heq⟩)⟩

/-! ### Runs in which no step fails -/

end Manager

/-- A run does not end with the failure of a step. -/
def Action.StepsSucceed {α : Type} (a : Action σ α) (s : Session σ) : Prop :=
  ∀ direction name cause, (a.runFrom s).1 ≠ .error (.step direction name cause)

namespace Action.StepsSucceed

variable {α β : Type} {a : Action σ α} {f : α → Action σ β} {s s₁ : Session σ} {v : α}

theorem of_ok (h : a.runFrom s = (.ok v, s₁)) : a.StepsSucceed s := by
  intro direction name cause herror
  rw [h] at herror
  cases herror

theorem of_isOk (h : (a.runFrom s).1.isOk = true) : a.StepsSucceed s := by
  intro direction name cause herror
  rw [herror] at h
  cases h

theorem iff_of_runFrom_eq {b : Action σ α} (h : a.runFrom s = b.runFrom s₁) :
    a.StepsSucceed s ↔ b.StepsSucceed s₁ := by
  rw [Action.StepsSucceed, h, Action.StepsSucceed]

theorem bind (ha : a.runFrom s = (.ok v, s₁)) (hf : (f v).StepsSucceed s₁) : (a >>= f).StepsSucceed s :=
  (iff_of_runFrom_eq (runFrom_bind_ok ha)).2 hf

theorem first (h : (a >>= f).StepsSucceed s) : a.StepsSucceed s := by
  intro direction name cause herror
  exact h direction name cause (congrArg Prod.fst (runFrom_bind_error (Prod.ext herror rfl)))

theorem rest (h : (a >>= f).StepsSucceed s) (ha : a.runFrom s = (.ok v, s₁)) :
    (f v).StepsSucceed s₁ :=
  (iff_of_runFrom_eq (runFrom_bind_ok ha)).1 h

end Action.StepsSucceed

theorem Ledger.Trace.failure_eq_none {F : Step → Error → Prop} {P : MigrationRecord → Prop}
    {plan : List Step} {L L' : Ledger} {failure : Option Error} (h : Trace F P plan L failure L')
    {α : Type} {a : Action σ α} {v : α} {s s' : Session σ} (hrun : a.runFrom s = (Action.outcomeOf failure v, s'))
    (hsucceeds : a.StepsSucceed s) : failure = none := by
  cases failure with
  | none => rfl
  | some e =>
    obtain ⟨step, cause, -, rfl⟩ := h.failure_eq
    exact absurd (congrArg Prod.fst hrun) (hsucceeds step.direction step.name cause)

end Polystore

import Polystore.Proofs.Sync.Unwritten

/-!
# Synchronizations of two stores

Two stores may differ in everything but their answers to the statements of the data definition language.
A plan that is carried out over both of them keeps in step: the same statements are sent and answered
alike, the same is logged, and both runs end alike.

Main statement: `InStep.carryOut`.
-/

namespace Polystore.Sync

variable {σ τ α β : Type} {c : Connection σ} {c' : Connection τ} {R : σ → τ → Prop}

/-- From related states, two stores accept the same statements of the data definition language and refuse
the others with the same errors, and their states remain related. -/
structure AnswersAlike (c : Connection σ) (c' : Connection τ) (R : σ → τ → Prop) : Prop where
  answer {x : σ} {y : τ} {sql : String} (hrelated : R x y) (hddl : isDdl sql = true) :
    (c.answer sql x).1.map (fun _ => ()) = (c'.answer sql y).1.map (fun _ => ())
  related {x : σ} {y : τ} {sql : String} (hrelated : R x y) (hddl : isDdl sql = true) :
    R (c.answer sql x).2 (c'.answer sql y).2

/-- From related states, two programs send the same statements, which are answered alike, add the same to
their logs, and end alike, in states that are related again. -/
def InStep (c : Connection σ) (c' : Connection τ) (R : σ → τ → Prop) (a : Action σ α)
    (b : Action τ α) : Prop :=
  ∀ s t, R s.state t.state → ∃ as y z outcome log,
    Attempted c s.state as y ∧ Attempted c' t.state as z ∧ R y z ∧
    a.runFrom s = (outcome, { state := y, log := s.log ++ log }) ∧
    b.runFrom t = (outcome, { state := z, log := t.log ++ log })

namespace InStep

/-! ### Combinators -/

theorem lift (outcome : Except Error α) :
    InStep c c' R (Action.lift outcome) (Action.lift outcome) := by
  intro s t hrelated
  refine ⟨[], s.state, t.state, outcome, [], .nil _, .nil _, hrelated, ?_, ?_⟩
  · rw [List.append_nil]
    rfl
  · rw [List.append_nil]
    rfl

theorem note (level : LogLevel) (source : LogSource) (text : String) :
    InStep c c' R (Action.note level source text) (Action.note level source text) :=
  fun s t hrelated => ⟨[], s.state, t.state, .ok (), [⟨level, source, text⟩], .nil _, .nil _, hrelated,
    rfl, rfl⟩

theorem bind {a : Action σ α} {b : Action τ α} {f : α → Action σ β} {g : α → Action τ β}
    (hfirst : InStep c c' R a b) (hrest : ∀ v, InStep c c' R (f v) (g v)) :
    InStep c c' R (a >>= f) (b >>= g) := by
  intro s t hrelated
  obtain ⟨as, y, z, outcome, log, hattempted, hattempted', hmid, ha, hb⟩ := hfirst s t hrelated
  cases outcome with
  | error e =>
    exact ⟨as, y, z, .error e, log, hattempted, hattempted', hmid, Action.runFrom_bind_error ha,
      Action.runFrom_bind_error hb⟩
  | ok v =>
    obtain ⟨bs, y', z', outcome, log', hmore, hmore', hend, hf, hg⟩ :=
      hrest v { state := y, log := s.log ++ log } { state := z, log := t.log ++ log } hmid
    refine ⟨as ++ bs, y', z', outcome, log ++ log', hattempted.append hmore, hattempted'.append hmore',
      hend, ?_, ?_⟩
    · rw [Action.runFrom_bind_ok ha, hf, List.append_assoc]
    · rw [Action.runFrom_bind_ok hb, hg, List.append_assoc]

theorem attempt {a : Action σ α} {b : Action τ α} (h : InStep c c' R a b) :
    InStep c c' R a.attempt b.attempt := by
  intro s t hrelated
  obtain ⟨as, y, z, outcome, log, hattempted, hattempted', hend, ha, hb⟩ := h s t hrelated
  refine ⟨as, y, z, .ok outcome, log, hattempted, hattempted', hend, ?_, ?_⟩
  · rw [Action.runFrom_attempt, ha]
  · rw [Action.runFrom_attempt, hb]

theorem mapError {a : Action σ α} {b : Action τ α} (f : Error → Error) (h : InStep c c' R a b) :
    InStep c c' R (a.mapError f) (b.mapError f) := by
  intro s t hrelated
  obtain ⟨as, y, z, outcome, log, hattempted, hattempted', hend, ha, hb⟩ := h s t hrelated
  refine ⟨as, y, z, outcome.mapError f, log, hattempted, hattempted', hend, ?_, ?_⟩
  · rw [Action.runFrom_mapError, ha]
  · rw [Action.runFrom_mapError, hb]

theorem warn (r : Report) (w : Warning) : InStep c c' R (r.warn w) (r.warn w) :=
  (note _ _ _).bind fun _ => lift (.ok { r with warnings := r.warnings ++ [w] })

/-! ### Statements -/

variable (halike : AnswersAlike c c' R)

include halike

theorem runAll (change : Change) {statements : List String}
    (hddl : ∀ sql ∈ statements, isDdl sql = true) :
    InStep c c' R (c.runAll statements) (c'.runAll statements) := by
  -- The first statement is answered alike; if it is accepted, the others are sent from related states.
  induction statements with
  | nil => exact lift (.ok ())
  | cons sql statements ih =>
    obtain ⟨hfirst, hrest⟩ := List.forall_mem_cons.1 hddl
    intro s t hrelated
    have hanswer := halike.answer hrelated hfirst
    have hnext := halike.related hrelated hfirst
    rw [runFrom_runAll_cons, runFrom_runAll_cons]
    cases hc : c.answer sql s.state with
    | mk r y =>
      cases hc' : c'.answer sql t.state with
      | mk r' z =>
        rw [hc, hc'] at hanswer hnext
        cases r with
        | ok rows =>
          cases r' with
          | error e => cases hanswer
          | ok rows' =>
            obtain ⟨as, y', z', outcome, log, hmore, hmore', hend, ha, hb⟩ :=
              ih hrest { s with state := y } { t with state := z } hnext
            exact ⟨⟨change, sql, none⟩ :: as, y', z', outcome, log, .accepted hc hmore,
              .accepted hc' hmore', hend, ha, hb⟩
        | error e =>
          cases r' with
          | ok rows' => cases hanswer
          | error e' =>
            obtain rfl : e = e' := Except.error.inj hanswer
            refine ⟨[⟨change, sql, some e⟩], y, z, .error e, [], .refused hc (.nil y),
              .refused hc' (.nil z), hnext, ?_, ?_⟩
            · rw [List.append_nil]
            · rw [List.append_nil]

theorem apply (table : String) (force : Bool) (r : Report) {p : Rendered}
    (hddl : ∀ sql ∈ p.2, isDdl sql = true) :
    InStep c c' R (Sync.apply c table force r p) (Sync.apply c' table force r p) := by
  obtain ⟨change, statements⟩ := p
  have hall := runAll halike change hddl
  have hfatal : InStep c c' R (sendFatal c table statements) (sendFatal c' table statements) :=
    hall.mapError _
  cases change with
  | recreateTable shape => exact (note _ _ _).bind fun _ => hfatal.bind fun _ => lift (.ok _)
  | createTable shape => exact hfatal.bind fun _ => lift (.ok _)
  | addColumn name f =>
    refine hall.attempt.bind fun outcome => ?_
    cases outcome with
    | ok _ => exact lift (.ok _)
    | error e => exact warn r _
  | createIndex name fields unique =>
    cases force with
    | true => exact hfatal.bind fun _ => lift (.ok r)
    | false =>
      refine hall.attempt.bind fun outcome => ?_
      cases outcome with
      | ok _ => exact lift (.ok r)
      | error e => exact warn r _

theorem applyAll (table : String) (force : Bool) (r : Report) {rendered : List Rendered}
    (hddl : ∀ p ∈ rendered, ∀ sql ∈ p.2, isDdl sql = true) :
    InStep c c' R (Sync.applyAll c table force r rendered)
      (Sync.applyAll c' table force r rendered) := by
  induction rendered generalizing r with
  | nil => exact lift (.ok r)
  | cons p rendered ih =>
    obtain ⟨hfirst, hrest⟩ := List.forall_mem_cons.1 hddl
    simp only [applyAll_cons]
    exact (apply halike table force r hfirst).bind fun r => ih r hrest

theorem carryOut (d : SqlDialect) (table : String) (options : SyncOptions) (r : Report)
    (plan : List Change) :
    InStep c c' R (Sync.carryOut c d table options r plan)
      (Sync.carryOut c' d table options r plan) := by
  intro s t hrelated
  by_cases hwritten : Written d table options.force plan
  · have hddl : ∀ p ∈ renderedOf d table plan, ∀ sql ∈ p.2, isDdl sql = true :=
      fun p hp => Ddl.isDdl_of_render (mem_renderedOf hp).2
    have hrest : InStep c c' R
        (if options.dryRun then pure (r.withPlan d table plan)
          else Sync.applyAll c table options.force (r.withPlan d table plan) (renderedOf d table plan))
        (if options.dryRun then pure (r.withPlan d table plan)
          else Sync.applyAll c' table options.force (r.withPlan d table plan)
            (renderedOf d table plan)) := by
      cases options.dryRun with
      | true => exact lift (.ok _)
      | false => exact applyAll halike table options.force _ hddl
    obtain ⟨as, y, z, outcome, log, hsent, hsent', hend, ha, hb⟩ := hrest
      { s with log := s.log ++ (plannedWarnings d table plan).map Warning.entry }
      { t with log := t.log ++ (plannedWarnings d table plan).map Warning.entry } hrelated
    rw [runFrom_carryOut hwritten, runFrom_carryOut hwritten, ha, hb]
    exact ⟨as, y, z, outcome, (plannedWarnings d table plan).map Warning.entry ++ log, hsent, hsent',
      hend, by rw [List.append_assoc], by rw [List.append_assoc]⟩
  · obtain ⟨change, hmem, hneeded, e, hrefused⟩ := exists_refused_of_not_written hwritten
    obtain ⟨before, first, after, e', rfl, hfails⟩ := exists_fails hmem hneeded hrefused
    exact ⟨[], s.state, t.state, .error e', _, .nil _, .nil _, hrelated, hfails.runFrom_carryOut after r s,
      hfails.runFrom_carryOut after r t⟩

end InStep

end Polystore.Sync

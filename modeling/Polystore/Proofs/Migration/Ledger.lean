import Polystore.Proofs.Migration.Journal

/-!
# Ledgers

A ledger is what a history records, beside the journal of the steps that ran. A call runs the steps of a
plan up to the first failure (`Trace`). What one step does to a ledger is said once (`Advance`); that
the ledger stays truthful and what a whole call does follow by induction over its steps.
-/

namespace Polystore

/-- The records of a history with the steps that ran. -/
structure Ledger where
  records : List MigrationRecord
  events : List Event

/-- A step ran and did what it was to do. -/
def Event.did (e : Event) (step : Step) : Bool :=
  e.step == step && e.succeeded

/-- The up of a name has succeeded, and its down has not succeeded since. -/
def Stands (events : List Event) (name : String) : Prop :=
  ∃ earlier e later, events = earlier ++ e :: later ∧ e.did ⟨.up, name⟩ ∧
    ∀ e' ∈ later, ¬e'.did ⟨.down, name⟩

/-- Only what is not recorded may be applied, and only what is recorded may be reverted. -/
def Step.IsDue (step : Step) (recorded : List String) : Prop :=
  (step.direction = .up → step.name ∉ recorded) ∧ (step.direction = .down → step.name ∈ recorded)

namespace Ledger

def names (L : Ledger) : List String :=
  L.records.map (·.name)

/-- The ledger after a step, with the records that the step leaves. -/
def noted (L : Ledger) (step : Step) (succeeded : Bool) (records : List MigrationRecord) : Ledger where
  records := records
  events := L.events ++ [{ step, succeeded, recorded := L.names }]

/-- What a ledger records is what happened. -/
structure Truthful (L : Ledger) : Prop where
  nodup : L.names.Nodup
  mem_iff : ∀ name, name ∈ L.names ↔ Stands L.events name
  isDue : ∀ e ∈ L.events, e.step.IsDue e.recorded

/-- What a step does to a ledger, by the causes with which steps fail and by what holds of the records that
are written. -/
inductive Advance (F : Step → Error → Prop) (P : MigrationRecord → Prop) :
    Step → Ledger → Option Error → Ledger → Prop where
  | failed {L : Ledger} {step : Step} (hdue : step.IsDue L.names) {cause : Error} (hcause : F step cause) :
      Advance F P step L (some (.step step.direction step.name cause))
        (L.noted step false L.records)
  | applied {L : Ledger} {r : MigrationRecord} {records : List MigrationRecord}
      (hnew : r.name ∉ L.names) (hwritten : P r)
      (hrecords : records.Perm (r :: L.records)) :
      Advance F P ⟨.up, r.name⟩ L none (L.noted ⟨.up, r.name⟩ true records)
  | reverted {L : Ledger} {name : String} {records : List MigrationRecord} (hold : name ∈ L.names)
      (hrecords : records.Perm (L.records.filter fun r => r.name != name)) :
      Advance F P ⟨.down, name⟩ L none (L.noted ⟨.down, name⟩ true records)

/-- The steps of a plan, run one after the other up to the first failure. -/
inductive Trace (F : Step → Error → Prop) (P : MigrationRecord → Prop) :
    List Step → Ledger → Option Error → Ledger → Prop where
  | done (L : Ledger) : Trace F P [] L none L
  | failed {step : Step} (plan : List Step) {L L' : Ledger} {e : Error}
      (hstep : Advance F P step L (some e) L') : Trace F P (step :: plan) L (some e) L'
  | succeeded {step : Step} {plan : List Step} {L L₁ L' : Ledger} {failure : Option Error}
      (hstep : Advance F P step L none L₁) (hrest : Trace F P plan L₁ failure L') :
      Trace F P (step :: plan) L failure L'

variable {F : Step → Error → Prop} {P : MigrationRecord → Prop} {step : Step} {plan : List Step}
  {L L' : Ledger} {failure : Option Error}

/-! ### Truthfulness -/

theorem did_iff {e : Event} : e.did step ↔ e.step = step ∧ e.succeeded := by
  rw [Event.did, Bool.and_eq_true, beq_iff_eq]

theorem stands_append_singleton {events : List Event} {e : Event} {name : String} :
    Stands (events ++ [e]) name ↔
      e.did ⟨.up, name⟩ ∨ Stands events name ∧ ¬e.did ⟨.down, name⟩ := by
  constructor
  · rintro ⟨earlier, x, later, heq, hup, hlater⟩
    -- the last event is the up itself or comes after it
    rcases later.eq_nil_or_concat with rfl | ⟨later, y, rfl⟩
    · obtain ⟨-, hx⟩ := List.append_inj' heq rfl
      cases hx
      exact .inl hup
    · have hsplit : events ++ [e] = (earlier ++ x :: later) ++ [y] := by simpa using heq
      obtain ⟨rfl, hy⟩ := List.append_inj' hsplit rfl
      cases hy
      exact .inr ⟨⟨earlier, x, later, rfl, hup, fun e' he' => hlater e' (by simp [he'])⟩,
        hlater e (by simp)⟩
  · rintro (hup | ⟨⟨earlier, x, later, rfl, hup, hlater⟩, hdown⟩)
    · exact ⟨events, e, [], rfl, hup, by simp⟩
    · refine ⟨earlier, x, later ++ [e], by simp, hup, fun e' he' => ?_⟩
      rcases List.mem_append.1 he' with he' | he'
      · exact hlater e' he'
      · rw [List.mem_singleton] at he'
        subst he'
        exact hdown

theorem truthful_empty : Truthful { records := [], events := [] } where
  nodup := List.nodup_nil
  mem_iff := fun name => by
    constructor
    · intro h
      exact absurd h List.not_mem_nil
    · rintro ⟨earlier, e, later, heq, -⟩
      simp at heq
  isDue := fun _ he => absurd he List.not_mem_nil

theorem Advance.names_applied {name : String} (h : Advance F P ⟨.up, name⟩ L none L') :
    L'.names.Perm (name :: L.names) := by
  cases h with
  | applied _ _ hrecords => exact hrecords.map _

theorem Advance.names_reverted {name : String} (h : Advance F P ⟨.down, name⟩ L none L') :
    L'.names.Perm (L.names.filter (· != name)) := by
  cases h with
  | reverted _ hrecords =>
    have hnames : L.names.filter (· != name) =
        (L.records.filter fun r => r.name != name).map (·.name) := List.filter_map
    rw [hnames]
    exact hrecords.map _

theorem Truthful.advance (hL : L.Truthful) (h : Advance F P step L failure L') : L'.Truthful := by
  have h' := h
  cases h with
  | failed hdue hcause =>
    refine ⟨hL.nodup, fun name => ?_, fun e he => ?_⟩
    · have hdid : ∀ s, ¬Event.did { step, succeeded := false, recorded := L.names } s := by
        simp [Event.did]
      show name ∈ L.names ↔ _
      rw [hL.mem_iff, noted, stands_append_singleton]
      simp [hdid]
    · rcases List.mem_append.1 he with he | he
      · exact hL.isDue e he
      · rw [List.mem_singleton] at he
        subst he
        exact hdue
  | @applied _ r records hnew hwritten hrecords =>
    have hnames := h'.names_applied
    refine ⟨hnames.nodup_iff.2 (List.nodup_cons.2 ⟨hnew, hL.nodup⟩), fun name => ?_, fun e he => ?_⟩
    · rw [hnames.mem_iff, List.mem_cons, hL.mem_iff, noted, stands_append_singleton, did_iff, did_iff]
      simp [eq_comm]
    · rcases List.mem_append.1 he with he | he
      · exact hL.isDue e he
      · rw [List.mem_singleton] at he
        subst he
        exact ⟨fun _ => hnew, fun h => absurd h (by simp)⟩
  | @reverted _ old records hold hrecords =>
    have hnames := h'.names_reverted
    refine ⟨hnames.nodup_iff.2 (hL.nodup.filter _), fun name => ?_, fun e he => ?_⟩
    · rw [hnames.mem_iff, List.mem_filter, hL.mem_iff, noted, stands_append_singleton, did_iff,
        did_iff]
      simp [@eq_comm _ old]
    · rcases List.mem_append.1 he with he | he
      · exact hL.isDue e he
      · rw [List.mem_singleton] at he
        subst he
        exact ⟨fun h => absurd h (by simp), fun _ => hold⟩

theorem Truthful.trace (hL : L.Truthful) (h : Trace F P plan L failure L') : L'.Truthful := by
  induction h with
  | done L => exact hL
  | failed plan hstep => exact hL.advance hstep
  | succeeded hstep _ ih => exact ih (hL.advance hstep)

/-- Where nothing is written, nothing is recorded that was not recorded before. -/
theorem Trace.records_subset (h : Trace F (fun _ => False) plan L failure L') :
    L'.records ⊆ L.records := by
  have hadvance : ∀ {step L L'} {failure : Option Error},
      Advance F (fun _ => False) step L failure L' → L'.records ⊆ L.records := by
    intro step L L' failure hstep
    cases hstep with
    | failed hdue hcause => exact List.Subset.refl _
    | applied hnew hwritten hrecords => exact hwritten.elim
    | reverted hold hrecords => exact List.Subset.trans hrecords.subset List.filter_sublist.subset
  induction h with
  | done L => exact List.Subset.refl _
  | failed plan hstep => exact hadvance hstep
  | succeeded hstep _ ih => exact List.Subset.trans ih (hadvance hstep)

theorem Trace.failure_eq {e : Error} (h : Trace F P plan L (some e) L') :
    ∃ step cause, F step cause ∧ e = .step step.direction step.name cause := by
  generalize hfailure : some e = failure at h
  induction h with
  | done L => cases hfailure
  | @failed step plan L L' e hstep =>
    cases hfailure
    cases hstep with
    | @failed _ _ _ cause hcause => exact ⟨step, cause, hcause, rfl⟩
  | succeeded _ _ ih => exact ih hfailure

theorem Trace.failure_eq_none_of_never (h : Trace F P plan L failure L')
    (hnever : ∀ step cause, ¬F step cause) : failure = none := by
  cases failure with
  | none => rfl
  | some e =>
    obtain ⟨step, cause, hcause, -⟩ := h.failure_eq
    exact absurd hcause (hnever step cause)

/-! ### Reports -/

/-- The names whose ups succeeded, in order. -/
def appliedBy (ran : List Event) : List String :=
  (ran.filter fun e => e.step.direction == .up && e.succeeded).map (·.step.name)

/-- The records of a ledger that no step reverted. -/
def kept (L : Ledger) (ran : List Event) : List MigrationRecord :=
  L.records.filter fun r => !ran.any (·.did ⟨.down, r.name⟩)

/-- What a call did, by the steps that it ran and the records that it wrote. -/
structure Report (F : Step → Error → Prop) (P : MigrationRecord → Prop) (plan : List Step) (L : Ledger)
    (failure : Option Error) (L' : Ledger) (ran : List Event) (written : List MigrationRecord) : Prop where
  events_eq : L'.events = L.events ++ ran
  steps_isPrefix : ran.map (·.step) <+: plan
  /-- Nothing runs after a step that fails. -/
  succeeded_of_followed : ran.Pairwise fun e _ => e.succeeded
  failure_of_failed : ∀ e ∈ ran, e.succeeded = false →
    ∃ cause, F e.step cause ∧ failure = some (.step e.step.direction e.step.name cause)
  complete : failure = none → ran.map (·.step) = plan
  /-- A call that does not come to the end of its plan had a step that failed. -/
  cause : failure ≠ none → ∃ x ∈ ran, x.succeeded = false
  records_perm : L'.records.Perm (L.kept ran ++ written)
  written_names : written.map (·.name) = appliedBy ran
  of_written : ∀ r ∈ written, P r

theorem Report.succeeded_of_none {ran : List Event} {written : List MigrationRecord}
    (h : Report F P plan L none L' ran written) {e : Event} (he : e ∈ ran) : e.succeeded = true := by
  by_contra hfailed
  obtain ⟨cause, -, hcause⟩ := h.failure_of_failed e he (by simpa using hfailed)
  exact absurd hcause (by simp)

theorem kept_of_ups {ran : List Event} (h : ∀ e ∈ ran, e.step.direction = .up) :
    L.kept ran = L.records := by
  refine List.filter_eq_self.2 fun r _ => ?_
  rw [Bool.not_eq_true', List.any_eq_false]
  intro e he hdid
  have hdown := congrArg Step.direction (did_iff.1 hdid).1
  rw [h e he] at hdown
  exact absurd hdown (by simp)

theorem direction_of_steps {ran : List Event} {direction : Direction}
    (hran : ran.map (·.step) <+: plan) (h : ∀ s ∈ plan, s.direction = direction) :
    ∀ e ∈ ran, e.step.direction = direction :=
  fun _ he => h _ (hran.subset (List.mem_map_of_mem he))

theorem kept_append {ran later : List Event} (h : ∀ e ∈ later, e.step.direction = .up) :
    L.kept (ran ++ later) = L.kept ran := by
  have hlater : ∀ name, later.any (·.did ⟨.down, name⟩) = false := by
    intro name
    rw [List.any_eq_false]
    intro e he hdid
    have hdown := congrArg Step.direction (did_iff.1 hdid).1
    rw [h e he] at hdown
    exact absurd hdown (by simp)
  simp only [kept, List.any_append, hlater, Bool.or_false]

theorem kept_cons_down {ran : List Event} {name : String} {recorded : List String} :
    L.kept ({ step := ⟨.down, name⟩, succeeded := true, recorded } :: ran) =
      (L.records.filter fun r => r.name != name).filter
        fun r => !ran.any (·.did ⟨.down, r.name⟩) := by
  rw [kept, List.filter_filter]
  refine List.filter_congr fun r _ => ?_
  rw [List.any_cons, Bool.not_or, Bool.and_comm]
  congr 1
  have hdid : Event.did { step := ⟨.down, name⟩, succeeded := true, recorded } ⟨.down, r.name⟩ =
      (r.name == name) := by
    rw [Bool.eq_iff_iff, did_iff]
    simp [@eq_comm _ name]
  rw [hdid]
  rfl

theorem Report.cons {e : Event} {L₁ : Ledger} {ran : List Event}
    {rest written : List MigrationRecord} (h : Report F P plan L₁ failure L' ran rest)
    (hevents : L₁.events = L.events ++ [e]) (hsucceeded : e.succeeded)
    (hrecords : L'.records.Perm (L.kept (e :: ran) ++ written))
    (hnames : written.map (·.name) = appliedBy (e :: ran))
    (hwritten : ∀ r ∈ written, P r) :
    Report F P (e.step :: plan) L failure L' (e :: ran) written where
  events_eq := by rw [h.events_eq, hevents, List.append_assoc, List.singleton_append]
  steps_isPrefix := (List.prefix_cons_inj _).2 h.steps_isPrefix
  succeeded_of_followed := List.pairwise_cons.2 ⟨fun _ _ => hsucceeded, h.succeeded_of_followed⟩
  failure_of_failed := by
    intro x hx hfailed
    rcases List.mem_cons.1 hx with rfl | hx
    · exact absurd hsucceeded (by simp [hfailed])
    · exact h.failure_of_failed x hx hfailed
  complete := fun hdone => by rw [List.map_cons, h.complete hdone]
  cause := fun hfailure => (h.cause hfailure).imp fun _ hx => ⟨List.mem_cons_of_mem _ hx.1, hx.2⟩
  records_perm := hrecords
  written_names := hnames
  of_written := hwritten

/-- What a run along a plan did, if nothing is reverted after something was applied. -/
theorem exists_report (h : Trace F P plan L failure L')
    (hplan : plan.Pairwise fun a b => a.direction = .up → b.direction = .up) :
    ∃ ran written, Report F P plan L failure L' ran written := by
  induction h with
  | done L =>
    exact ⟨[], [], by simp, by simp, by simp, by simp, fun _ => rfl, by simp,
      by simp [kept], rfl, by simp⟩
  | failed plan hstep =>
    cases hstep with
    | @failed _ _ hdue cause hcause =>
      refine ⟨[_], [], rfl, by simp, by simp, ?_, by simp, by simp, ?_, by simp [appliedBy], by simp⟩
      · exact List.forall_mem_singleton.2 fun _ => ⟨cause, hcause, rfl⟩
      · simp [kept, noted, Event.did]
  | @succeeded step plan L L₁ L' failure hstep _ ih =>
    obtain ⟨hhead, htail⟩ := List.pairwise_cons.1 hplan
    obtain ⟨ran, written, hr⟩ := ih htail
    cases hstep with
    | @applied _ r records hnew hwritten hrecords =>
      refine ⟨_, r :: written, hr.cons rfl rfl ?_ ?_ ?_⟩
      · -- only ups follow, so everything that was recorded stays
        have hups := direction_of_steps hr.steps_isPrefix fun s hs => hhead s hs rfl
        have hkept := hr.records_perm
        rw [kept_of_ups hups] at hkept
        rw [kept_of_ups (List.forall_mem_cons.2 ⟨rfl, hups⟩)]
        exact hkept.trans ((hrecords.append_right written).trans List.perm_middle.symm)
      · rw [List.map_cons, hr.written_names]
        rfl
      · exact List.forall_mem_cons.2 ⟨hwritten, hr.of_written⟩
    | @reverted _ name records hold hrecords =>
      refine ⟨_, written, hr.cons rfl rfl ?_ hr.written_names hr.of_written⟩
      rw [kept_cons_down]
      exact hr.records_perm.trans ((hrecords.filter _).append_right written)

/-- A call that reverts, then one that applies. -/
theorem Report.append {P₁ : MigrationRecord → Prop} {plan₁ : List Step} {L₁ : Ledger}
    {ran₁ ran : List Event} {written : List MigrationRecord} (h₁ : Report F P₁ plan₁ L none L₁ ran₁ [])
    (h : Report F P plan L₁ failure L' ran written) (hups : ∀ s ∈ plan, s.direction = .up) :
    Report F P (plan₁ ++ plan) L failure L' (ran₁ ++ ran) written := by
  have hran := direction_of_steps h.steps_isPrefix hups
  have hsucceeded : ∀ e ∈ ran₁, e.succeeded := fun e he => h₁.succeeded_of_none he
  refine ⟨?_, ?_, ?_, ?_, ?_, ?_, ?_, ?_, h.of_written⟩
  · rw [h.events_eq, h₁.events_eq, List.append_assoc]
  · rw [List.map_append, h₁.complete rfl]
    exact (List.prefix_append_right_inj _).2 h.steps_isPrefix
  · exact List.pairwise_append.2 ⟨h₁.succeeded_of_followed, h.succeeded_of_followed,
      fun e he _ _ => hsucceeded e he⟩
  · intro e he hfailed
    rcases List.mem_append.1 he with he | he
    · exact absurd (hsucceeded e he) (by simp [hfailed])
    · exact h.failure_of_failed e he hfailed
  · intro hdone
    rw [List.map_append, h₁.complete rfl, h.complete hdone]
  · exact fun hfailure => (h.cause hfailure).imp fun _ hx => ⟨List.mem_append_right _ hx.1, hx.2⟩
  · have hrecords := h.records_perm
    rw [kept_of_ups hran] at hrecords
    rw [kept_append hran]
    refine hrecords.trans (List.Perm.append_right written ?_)
    rw [← List.append_nil (L.kept ran₁)]
    exact h₁.records_perm
  · have hnone : appliedBy ran₁ = [] := h₁.written_names.symm
    rw [h.written_names]
    simp only [appliedBy, List.filter_append, List.map_append] at hnone ⊢
    rw [hnone, List.nil_append]

theorem Report.of_failed {later : List Step} {e : Error} {ran : List Event}
    {written : List MigrationRecord} (h : Report F P plan L (some e) L' ran written) :
    Report F P (plan ++ later) L (some e) L' ran written :=
  { h with
    steps_isPrefix := h.steps_isPrefix.trans (List.prefix_append plan later)
    complete := fun hdone => absurd hdone (by simp) }

end Ledger

end Polystore

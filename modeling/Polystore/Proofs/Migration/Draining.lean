import Polystore.Proofs.Migration.Rollback

/-!
# Draining the history

A call of `rollback` reverts the records of the greatest batch, and skips those whose migration is not
registered. Called again and again it ends, since every call but the last one takes a record away. It
does not get past a batch of which nothing is registered, and so a registered migration stays if a
record that is not registered lies above it. `reset` takes every registered migration away.

Main statement: `exists_drained`.
-/

namespace Polystore

variable {σ : Type} {held : Int → Prop} {records : σ → List MigrationRecord}

/-- The down of a migration does not touch the history. -/
def Migration.DownLeaves (records : σ → List MigrationRecord) (x : Migration σ) : Prop :=
  ∀ s, records (x.down.runFrom s).2.state = records s.state

namespace Manager

variable {m : Manager σ}

/-- A call of `rollback` that reverts something. -/
def RollsBack (m : Manager σ) (s s' : Session σ) : Prop :=
  ∃ v, m.rollback.runFrom s = (.ok v, s') ∧ v.rolledBack ≠ []

/-- A number of calls of `rollback`, of which the last one is the first to revert nothing. -/
inductive Drained (m : Manager σ) : Session σ → Nat → Session σ → Prop where
  | stop {s s' : Session σ} {v : MigrationResult} (hrun : m.rollback.runFrom s = (.ok v, s'))
      (hv : v.rolledBack = []) : Drained m s 1 s'
  | again {s s₁ s' : Session σ} {n : Nat} (hstep : m.RollsBack s s₁) (hrest : Drained m s₁ n s') :
      Drained m s (n + 1) s'

/-- The records of a name are all in batches below that of a record that is not registered. -/
def Shielded (m : Manager σ) (rs : List MigrationRecord) (name : String) : Prop :=
  ∃ o ∈ rs, m.find? o.name = none ∧ ∀ r ∈ rs, r.name = name → r.batch < o.batch

instance (m : Manager σ) (rs : List MigrationRecord) (name : String) :
    Decidable (m.Shielded rs name) :=
  inferInstanceAs (Decidable (∃ o ∈ rs, _))

/-- A record that reverting a list of records takes away. -/
def Takes (m : Manager σ) (rs : List MigrationRecord) (r : MigrationRecord) : Prop :=
  (m.find? r.name).isSome ∧ ∃ q ∈ rs, q.name = r.name

instance (m : Manager σ) (rs : List MigrationRecord) (r : MigrationRecord) :
    Decidable (m.Takes rs r) :=
  inferInstanceAs (Decidable (_ ∧ ∃ q ∈ rs, _))

/-! ### Reverting -/

theorem not_takes_of_none {rs : List MigrationRecord} {r : MigrationRecord}
    (h : m.find? r.name = none) : ¬m.Takes rs r := by
  rintro ⟨hregistered, -⟩
  rw [h] at hregistered
  exact Bool.false_ne_true hregistered

theorem takes_cons {r x : MigrationRecord} {rs : List MigrationRecord} :
    m.Takes (r :: rs) x ↔ m.Takes [r] x ∨ m.Takes rs x := by
  simp only [Takes, List.exists_mem_cons_iff, List.not_mem_nil, false_and, exists_false, or_false,
    and_or_left]

theorem filter_takes_nil (left : List MigrationRecord) :
    left.filter (fun x => ¬m.Takes [] x) = left := by
  refine List.filter_eq_self.2 fun x _ => ?_
  rw [decide_eq_true_eq]
  rintro ⟨-, q, hq, -⟩
  exact List.not_mem_nil hq

theorem filter_takes_congr {read rs : List MigrationRecord} (h : ∀ r, r ∈ read ↔ r ∈ rs)
    (left : List MigrationRecord) :
    left.filter (fun x => ¬m.Takes read x) = left.filter (fun x => ¬m.Takes rs x) := by
  refine List.filter_congr fun x _ => ?_
  rw [decide_eq_decide]
  simp only [Takes, h]

section Reverting

variable {c : Connection σ} {d : SqlDialect} (heditor : m.editor = ⟨c, .sql d⟩)
  (hkeeps : KeepsHistory c d m.history held records)

theorem runFrom_runStep_down (x : Migration σ) (s : Session σ) :
    ∃ cause s', (runStep x .down).runFrom s = (Action.outcomeOf (stepFailure x .down cause) (), s') ∧
      s'.state = (x.down.runFrom s).2.state ∧ ∀ e, cause = some e → (x.down.runFrom s).1 = .error e := by
  have hattempt := Action.runFrom_attempt x.down s
  cases hrun : x.down.runFrom s with
  | mk r s₁ =>
    rw [hrun] at hattempt
    cases r with
    | ok v => exact ⟨none, s₁, (Action.runFrom_bind_ok hattempt).trans rfl, rfl, fun _ h => by cases h⟩
    | error e =>
      refine ⟨some e, _, (Action.runFrom_bind_ok hattempt).trans rfl, rfl, fun e' he => ?_⟩
      rw [Option.some.inj he]

include heditor hkeeps in
/-- Reverting a registered record ends with the failure of its down, or forgets its name after what its
down does. -/
theorem runFrom_revertOne {r : MigrationRecord} {x : Migration σ} (hr : m.find? r.name = some x)
    (s : Session σ) :
    ∃ s₀ s₁ : Session σ, s₀.state = s.state ∧
      ((∃ e, (x.down.runFrom s₀).1 = .error e ∧
          (m.revertOne r).runFrom s = (.error (.step .down x.name e), s₁)) ∨
        (m.revertOne r).runFrom s = (.ok true, s₁) ∧
          (records s₁.state).Perm
            ((records (x.down.runFrom s₀).2.state).filter fun y => y.name != r.name)) := by
  let noted : Session σ :=
    { s with log := s.log ++ [⟨.info, .migration, "rolling back migration " ++ x.name⟩] }
  have hnote : (Action.note .info .migration ("rolling back migration " ++ x.name)).runFrom s =
      (.ok (), noted) := Action.runFrom_note ..
  obtain ⟨cause, s₁, hstep, hstate, hcause⟩ := runFrom_runStep_down x noted
  unfold revertOne
  rw [hr]
  cases cause with
  | some e =>
    exact ⟨noted, s₁, rfl, .inl ⟨e, hcause e rfl,
      (Action.runFrom_bind_ok hnote).trans (Action.runFrom_bind_error hstep)⟩⟩
  | none =>
    obtain ⟨s₂, hforget, hperm⟩ := hkeeps.runFrom_forget s₁ x.name
    rw [← heditor] at hforget
    rw [hstate, (name_of_find? hr).2] at hperm
    exact ⟨noted, s₂, rfl, .inr ⟨(Action.runFrom_bind_ok hnote).trans
      ((Action.runFrom_bind_ok hstep).trans ((Action.runFrom_bind_ok hforget).trans rfl)), hperm⟩⟩

include heditor hkeeps in
theorem exists_revertOne {r : MigrationRecord}
    (hleaves : ∀ x, m.find? r.name = some x → x.DownLeaves records) {s : Session σ}
    (hsteps : (m.revertOne r).StepsSucceed s) :
    ∃ s', (m.revertOne r).runFrom s = (.ok (m.find? r.name).isSome, s') ∧
      (records s'.state).Perm ((records s.state).filter fun x => ¬m.Takes [r] x) := by
  cases hr : m.find? r.name with
  | none =>
    unfold revertOne
    rw [hr]
    refine ⟨_, rfl, List.Perm.of_eq (List.filter_eq_self.2 fun x _ => ?_).symm⟩
    rw [decide_eq_true_eq]
    rintro ⟨hx, q, hq, hname⟩
    rw [← hname, List.mem_singleton.1 hq, hr] at hx
    exact Bool.false_ne_true hx
  | some x =>
    obtain ⟨s₀, s', hstate, ⟨e, -, hfailed⟩ | ⟨hrun, hperm⟩⟩ := runFrom_revertOne heditor hkeeps hr s
    · exact absurd (congrArg Prod.fst hfailed) (hsteps .down x.name e)
    · rw [hleaves x hr, hstate] at hperm
      refine ⟨s', hrun, hperm.trans (List.Perm.of_eq (List.filter_congr fun y _ => ?_))⟩
      rw [Bool.eq_iff_iff, bne_iff_ne, decide_eq_true_eq, not_iff_not]
      constructor
      · intro hy
        exact ⟨by rw [hy, hr]; rfl, r, List.mem_singleton_self r, hy.symm⟩
      · rintro ⟨-, q, hq, hqy⟩
        rw [← hqy, List.mem_singleton.1 hq]

include heditor hkeeps in
theorem runs_revertOne {rs : List MigrationRecord}
    (hleaves : ∀ r ∈ rs, ∀ x, m.find? r.name = some x → x.DownLeaves records) {s s' : Session σ}
    {done : List (MigrationRecord × Bool)} {failure : Option Error}
    (hruns : Action.Runs m.revertOne rs s done failure s')
    (hsteps : ∀ direction name cause, failure ≠ some (.step direction name cause)) :
    failure = none ∧ (records s'.state).Perm ((records s.state).filter fun x => ¬m.Takes rs x) := by
  induction hruns with
  | nil s => exact ⟨rfl, List.Perm.of_eq (filter_takes_nil _).symm⟩
  | @ok r rs b done failure s s₁ s₂ hfirst _ ih =>
    obtain ⟨hleavesr, hleaves⟩ := List.forall_mem_cons.1 hleaves
    obtain ⟨s₁', hrun, hperm₁⟩ := exists_revertOne heditor hkeeps hleavesr (.of_ok hfirst)
    obtain ⟨-, rfl⟩ := Prod.mk.inj (hfirst.symm.trans hrun)
    obtain ⟨hnone, hperm⟩ := ih hleaves hsteps
    refine ⟨hnone, (hperm.trans (hperm₁.filter _)).trans (List.Perm.of_eq ?_)⟩
    rw [List.filter_filter]
    refine List.filter_congr fun x _ => ?_
    rw [← Bool.decide_and, decide_eq_decide, @takes_cons _ _ _ _ rs, not_or, and_comm]
  | @error r rs e s s₁ hfirst =>
    have hstepsr : (m.revertOne r).StepsSucceed s := by
      intro direction name cause herror
      rw [hfirst] at herror
      exact hsteps direction name cause (congrArg some (Except.error.inj herror))
    obtain ⟨s₁', hrun, -⟩ :=
      exists_revertOne heditor hkeeps (List.forall_mem_cons.1 hleaves).1 hstepsr
    rw [hfirst] at hrun
    cases hrun

include heditor hkeeps in
theorem exists_revert {rs : List MigrationRecord}
    (hleaves : ∀ r ∈ rs, ∀ x, m.find? r.name = some x → x.DownLeaves records) {s : Session σ}
    (hsteps : (m.revert rs).StepsSucceed s) :
    ∃ s', (m.revert rs).runFrom s = (.ok {
        rolledBack := (rs.reverse.filter fun r => (m.find? r.name).isSome).map (·.name) }, s') ∧
      (records s'.state).Perm ((records s.state).filter fun x => ¬m.Takes rs x) := by
  obtain ⟨done, failure, s', hruns⟩ := Action.exists_runs m.revertOne rs.reverse s
  have hfailure : ∀ direction name cause, failure ≠ some (.step direction name cause) := by
    rintro direction name cause rfl
    exact hsteps.first direction name cause (congrArg Prod.fst (Action.runFrom_filterM hruns))
  obtain ⟨rfl, hperm⟩ := runs_revertOne heditor hkeeps
    (fun r hr => hleaves r (List.mem_reverse.1 hr)) hruns hfailure
  have hdone := hruns.eq_map fun _ _ _ _ => revertOne_eq_isSome
  have hreverted : (done.filter (·.2)).map (·.1) =
      rs.reverse.filter fun r => (m.find? r.name).isSome := by
    rw [hdone, List.filter_map, List.map_map]
    exact List.map_id _
  refine ⟨s', ?_, hperm.trans (List.Perm.of_eq (filter_takes_congr (fun _ => List.mem_reverse) _))⟩
  rw [revert, Action.runFrom_bind_ok (Action.runFrom_filterM hruns), hreverted]
  rfl

include heditor hkeeps in
theorem stepsSucceed_revert (hdowns : ∀ x ∈ m.migrations, ∀ s, (x.down.runFrom s).1 = .ok ())
    (rs : List MigrationRecord) (s : Session σ) : (m.revert rs).StepsSucceed s := by
  have hone : ∀ r s e s', (m.revertOne r).runFrom s ≠ (.error e, s') := by
    intro r s e s' hrun
    cases hr : m.find? r.name with
    | none =>
      unfold revertOne at hrun
      rw [hr] at hrun
      cases hrun
    | some x =>
      obtain ⟨s₀, s₁, -, ⟨e', hfailed, -⟩ | ⟨hok, -⟩⟩ := runFrom_revertOne heditor hkeeps hr s
      · rw [hdowns x (name_of_find? hr).1] at hfailed
        cases hfailed
      · rw [hrun] at hok
        cases hok
  have hnone : ∀ {rs s done failure s'},
      Action.Runs m.revertOne rs s done failure s' → failure = none := by
    intro rs s done failure s' hruns
    induction hruns with
    | nil => rfl
    | ok _ _ ih => exact ih
    | error hfirst => exact absurd hfirst (hone _ _ _ _)
  obtain ⟨done, failure, s', hruns⟩ := Action.exists_runs m.revertOne rs.reverse s
  have hfilterM := Action.runFrom_filterM hruns
  rw [hnone hruns] at hfilterM
  exact .of_ok ((Action.runFrom_bind_ok hfilterM).trans rfl)

/-- The records of the greatest batch. -/
def lastBatch (rs : List MigrationRecord) : List MigrationRecord :=
  rs.filter fun r => ∀ q ∈ rs, q.batch ≤ r.batch

theorem mem_lastBatch {rs : List MigrationRecord} {r : MigrationRecord} :
    r ∈ lastBatch rs ↔ r ∈ rs ∧ ∀ q ∈ rs, q.batch ≤ r.batch := by
  rw [lastBatch, List.mem_filter, decide_eq_true_eq]

theorem lastBatch_perm {read rs : List MigrationRecord} (h : read.Perm rs) :
    (lastBatch read).Perm (lastBatch rs) := by
  simp only [lastBatch, h.mem_iff]
  exact h.filter _

theorem exists_mem_lastBatch {rs : List MigrationRecord} (h : rs ≠ []) : ∃ r, r ∈ lastBatch rs := by
  obtain ⟨last, hlast⟩ := Option.ne_none_iff_exists'.1
    (mt List.max?_eq_none_iff.1 (mt List.map_eq_nil_iff.1 h : rs.map (·.batch) ≠ []))
  obtain ⟨hmem, hle⟩ := List.max?_eq_some_iff.1 hlast
  obtain ⟨r, hr, rfl⟩ := List.mem_map.1 hmem
  exact ⟨r, mem_lastBatch.2 ⟨hr, fun q hq => hle _ (List.mem_map_of_mem hq)⟩⟩

theorem lastBatch_of_max {rs : List MigrationRecord} {last : Int}
    (h : (rs.map (·.batch)).max? = some last) :
    rs.filter (fun r => r.batch == last) = lastBatch rs := by
  obtain ⟨hmem, hle⟩ := List.max?_eq_some_iff.1 h
  obtain ⟨r, hr, rfl⟩ := List.mem_map.1 hmem
  refine List.filter_congr fun x hx => ?_
  rw [Bool.eq_iff_iff, beq_iff_eq, decide_eq_true_eq]
  constructor
  · intro hbatch q hq
    rw [hbatch]
    exact hle _ (List.mem_map_of_mem hq)
  · exact fun hmax => le_antisymm (hle _ (List.mem_map_of_mem hx)) (hmax r hr)

include heditor hkeeps in
theorem exists_executed (s : Session σ) :
    ∃ read s', m.executed.runFrom s = (.ok read, s') ∧ records s'.state = records s.state ∧
      read.Perm (records s.state) := by
  obtain ⟨read, s', hrun, hsame, hperm, -⟩ := hkeeps.runFrom_records s
  rw [← heditor] at hrun
  exact ⟨read, s', hrun, hsame, hperm⟩

include heditor hkeeps in
theorem exists_rollback_eq_revert (s : Session σ) :
    ∃ read s₁, read.Perm (records s.state) ∧ records s₁.state = records s.state ∧
      m.rollback.runFrom s = (m.revert (lastBatch read)).runFrom s₁ := by
  obtain ⟨read, s₁, hread, hsame, hperm⟩ := exists_executed heditor hkeeps s
  cases hmax : (read.map (·.batch)).max? with
  | none =>
    obtain rfl := List.map_eq_nil_iff.1 (List.max?_eq_none_iff.1 hmax)
    exact ⟨[], { s₁ with log := s₁.log ++ [⟨.info, .migration, "nothing to roll back"⟩] }, hperm,
      hsame, (Action.runFrom_bind_ok hread).trans rfl⟩
  | some last =>
    refine ⟨read, s₁, hperm, hsame, (Action.runFrom_bind_ok hread).trans ?_⟩
    rw [hmax, ← lastBatch_of_max hmax]

include heditor hkeeps in
theorem stepsSucceed_rollback (hdowns : ∀ x ∈ m.migrations, ∀ s, (x.down.runFrom s).1 = .ok ())
    (s : Session σ) : m.rollback.StepsSucceed s := by
  obtain ⟨read, s₁, -, -, hrun⟩ := exists_rollback_eq_revert heditor hkeeps s
  exact (Action.StepsSucceed.iff_of_runFrom_eq hrun).2 (stepsSucceed_revert heditor hkeeps hdowns _ s₁)

include heditor hkeeps in
theorem stepsSucceed_reset (hdowns : ∀ x ∈ m.migrations, ∀ s, (x.down.runFrom s).1 = .ok ())
    (s : Session σ) : m.reset.StepsSucceed s := by
  obtain ⟨read, s₁, hread, -, -⟩ := exists_executed heditor hkeeps s
  exact .bind hread (stepsSucceed_revert heditor hkeeps hdowns read s₁)

include heditor hkeeps in
theorem exists_rollback {s : Session σ}
    (hleaves : ∀ r ∈ lastBatch (records s.state), ∀ x, m.find? r.name = some x → x.DownLeaves records)
    (hsteps : m.rollback.StepsSucceed s) :
    ∃ v s', m.rollback.runFrom s = (.ok v, s') ∧
      (v.rolledBack = [] ↔ ∀ r ∈ lastBatch (records s.state), m.find? r.name = none) ∧
      (records s'.state).Perm
        ((records s.state).filter fun x => ¬m.Takes (lastBatch (records s.state)) x) := by
  obtain ⟨read, s₁, hperm, hsame, hrun⟩ := exists_rollback_eq_revert heditor hkeeps s
  have hlast : ∀ r, r ∈ lastBatch read ↔ r ∈ lastBatch (records s.state) :=
    fun r => (lastBatch_perm hperm).mem_iff
  have hstepsrevert := (Action.StepsSucceed.iff_of_runFrom_eq hrun).1 hsteps
  obtain ⟨s', hrevert, hleft⟩ :=
    exists_revert heditor hkeeps (fun r hr => hleaves r ((hlast r).1 hr)) hstepsrevert
  refine ⟨_, s', hrun.trans hrevert, ?_, ?_⟩
  · rw [List.map_eq_nil_iff, List.filter_eq_nil_iff]
    simp only [List.mem_reverse, hlast, Bool.not_eq_true, Option.isSome_eq_false_iff,
      Option.isNone_iff_eq_none]
  · rw [hsame, filter_takes_congr hlast] at hleft
    exact hleft

include heditor hkeeps in
theorem exists_reset (hleaves : ∀ x ∈ m.migrations, x.DownLeaves records) {s : Session σ}
    (hsteps : m.reset.StepsSucceed s) :
    ∃ v s', m.reset.runFrom s = (.ok v, s') ∧
      (records s'.state).Perm ((records s.state).filter fun r => (m.find? r.name).isNone) := by
  obtain ⟨read, s₁, hread, hsame, hperm⟩ := exists_executed heditor hkeeps s
  have hleavesread : ∀ r ∈ read, ∀ x, m.find? r.name = some x → x.DownLeaves records :=
    fun _ _ x hx => hleaves x (name_of_find? hx).1
  obtain ⟨s', hrevert, hleft⟩ := exists_revert heditor hkeeps hleavesread (hsteps.rest hread)
  refine ⟨_, s', (Action.runFrom_bind_ok hread).trans hrevert, hleft.trans (List.Perm.of_eq ?_)⟩
  rw [hsame]
  refine List.filter_congr fun r hr => ?_
  rw [Bool.eq_iff_iff, decide_eq_true_eq, Option.isNone_iff_eq_none, ← Option.not_isSome_iff_eq_none,
    not_iff_not]
  exact ⟨And.left, fun h => ⟨h, r, hperm.mem_iff.2 hr, rfl⟩⟩

end Reverting

/-! ### What calls of `rollback` leave -/

/-- A record that calls of `rollback` do not take away: one that is not registered, or that is
shielded by such a one. -/
def Stays (m : Manager σ) (rs : List MigrationRecord) (r : MigrationRecord) : Prop :=
  m.find? r.name = none ∨ m.Shielded rs r.name

instance (m : Manager σ) (rs : List MigrationRecord) (r : MigrationRecord) :
    Decidable (m.Stays rs r) :=
  inferInstanceAs (Decidable (_ ∨ _))

theorem shielded_congr {left rs : List MigrationRecord} {name : String}
    (h : ∀ r, m.find? r.name = none ∨ r.name = name → (r ∈ left ↔ r ∈ rs)) :
    m.Shielded left name ↔ m.Shielded rs name := by
  constructor
  · rintro ⟨o, ho, hnone, hbelow⟩
    exact ⟨o, (h o (.inl hnone)).1 ho, hnone,
      fun r hr hname => hbelow r ((h r (.inr hname)).2 hr) hname⟩
  · rintro ⟨o, ho, hnone, hbelow⟩
    exact ⟨o, (h o (.inl hnone)).2 ho, hnone,
      fun r hr hname => hbelow r ((h r (.inr hname)).1 hr) hname⟩

/-- Where nothing of the greatest batch is registered, everything stays. -/
theorem stays_of_lastBatch {rs : List MigrationRecord}
    (h : ∀ r ∈ lastBatch rs, m.find? r.name = none) {r : MigrationRecord} (hr : r ∈ rs) :
    m.Stays rs r := by
  obtain ⟨o, ho⟩ := exists_mem_lastBatch (List.ne_nil_of_mem hr)
  obtain ⟨horphan, hgreatest⟩ := mem_lastBatch.1 ho
  refine or_iff_not_imp_left.2 fun hregistered => ⟨o, horphan, h o ho, fun q hq hname => ?_⟩
  refine lt_of_le_of_ne (hgreatest q hq) fun hbatch => hregistered ?_
  -- a record of the name in the greatest batch would not be registered
  rw [← hname]
  exact h q (mem_lastBatch.2 ⟨hq, fun x hx => hbatch ▸ hgreatest x hx⟩)

theorem stays_of_left {left rs : List MigrationRecord}
    (hleft : left.Perm (rs.filter fun x => ¬m.Takes (lastBatch rs) x))
    {r : MigrationRecord} : m.Stays left r ∧ ¬m.Takes (lastBatch rs) r ↔ m.Stays rs r := by
  have hmem : ∀ x, x ∈ left ↔ x ∈ rs ∧ ¬m.Takes (lastBatch rs) x := by
    intro x
    rw [hleft.mem_iff, List.mem_filter, decide_eq_true_eq]
  by_cases htakes : m.Takes (lastBatch rs) r
  · obtain ⟨-, q, hq, hname⟩ := id htakes
    obtain ⟨hq, hgreatest⟩ := mem_lastBatch.1 hq
    refine iff_of_false (fun h => h.2 htakes) ?_
    rintro (hnone | ⟨o, ho, -, hbelow⟩)
    · exact not_takes_of_none hnone htakes
    · exact absurd (hbelow q hq hname) (hgreatest o ho).not_gt
  · rw [and_iff_left htakes]
    refine or_congr_right (shielded_congr fun x hx => ?_)
    rw [hmem, and_iff_left_iff_imp]
    intro _
    rcases hx with hnone | hname
    · exact not_takes_of_none hnone
    · rwa [Takes, hname]

theorem filter_stays_left {left rs : List MigrationRecord}
    (hleft : left.Perm (rs.filter fun x => ¬m.Takes (lastBatch rs) x)) :
    (left.filter fun r => m.Stays left r).Perm (rs.filter fun r => m.Stays rs r) := by
  refine (hleft.filter _).trans (List.Perm.of_eq ?_)
  rw [List.filter_filter]
  refine List.filter_congr fun r _ => ?_
  rw [← Bool.decide_and, decide_eq_decide]
  exact stays_of_left hleft

/-- A call that reverts something leaves fewer records. -/
theorem length_left_lt {left rs : List MigrationRecord}
    (hleft : left.Perm (rs.filter fun x => ¬m.Takes (lastBatch rs) x))
    (h : ¬∀ r ∈ lastBatch rs, m.find? r.name = none) : left.length < rs.length := by
  push Not at h
  obtain ⟨r, hr, hregistered⟩ := h
  rw [hleft.length_eq, List.length_filter_lt_length_iff_exists]
  refine ⟨r, (mem_lastBatch.1 hr).1, ?_⟩
  rw [decide_eq_true_eq, not_not]
  exact ⟨Option.isSome_iff_ne_none.2 hregistered, r, hr, rfl⟩

theorem exists_drained_stays {c : Connection σ} {d : SqlDialect} (heditor : m.editor = ⟨c, .sql d⟩)
    (hkeeps : KeepsHistory c d m.history held records)
    (hleaves : ∀ x ∈ m.migrations, x.DownLeaves records) {s : Session σ}
    (hsteps : ∀ t, Relation.ReflTransGen m.RollsBack s t → m.rollback.StepsSucceed t) :
    ∃ n s', m.Drained s n s' ∧ n ≤ (records s.state).length + 1 ∧
      (records s'.state).Perm ((records s.state).filter fun r => m.Stays (records s.state) r) := by
  induction hlength : (records s.state).length using Nat.strong_induction_on generalizing s with
  | _ length ih =>
    obtain ⟨v, s₁, hrun, hv, hleft⟩ := exists_rollback heditor hkeeps
      (fun _ _ x hx => hleaves x (name_of_find? hx).1) (hsteps s .refl)
    by_cases hlast : ∀ r ∈ lastBatch (records s.state), m.find? r.name = none
    · refine ⟨1, s₁, .stop hrun (hv.2 hlast), Nat.le_add_left 1 _,
        hleft.trans (List.Perm.of_eq (List.filter_congr fun r hr => ?_))⟩
      have hstays := stays_of_lastBatch hlast hr
      rw [decide_eq_decide]
      exact iff_of_true ((stays_of_left hleft).2 hstays).2 hstays
    · have hlt := length_left_lt hleft hlast
      have hstep : m.RollsBack s s₁ := ⟨v, hrun, mt hv.1 hlast⟩
      obtain ⟨n, s', hrest, hn, hstays⟩ :=
        ih _ (hlength ▸ hlt) (fun t ht => hsteps t (.head hstep ht)) rfl
      exact ⟨n + 1, s', .again hstep hrest, by omega, hstays.trans (filter_stays_left hleft)⟩

theorem Drained.unique {s s' t : Session σ} {n k : Nat} (h : m.Drained s n s')
    (h' : m.Drained s k t) : n = k ∧ s' = t := by
  induction h generalizing k with
  | stop hrun hv =>
    cases h' with
    | stop hrun' _ => exact ⟨rfl, (Prod.mk.inj (hrun.symm.trans hrun')).2⟩
    | again hstep' _ =>
      obtain ⟨v', hrun', hv'⟩ := hstep'
      obtain ⟨heq, -⟩ := Prod.mk.inj (hrun.symm.trans hrun')
      exact absurd (Except.ok.inj heq ▸ hv) hv'
  | again hstep _ ih =>
    obtain ⟨v, hrun, hv⟩ := hstep
    cases h' with
    | stop hrun' hv' =>
      obtain ⟨heq, -⟩ := Prod.mk.inj (hrun.symm.trans hrun')
      exact absurd (Except.ok.inj heq ▸ hv') hv
    | again hstep' hrest' =>
      obtain ⟨v', hrun', -⟩ := hstep'
      obtain ⟨-, rfl⟩ := Prod.mk.inj (hrun.symm.trans hrun')
      exact (ih hrest').imp_left (congrArg (· + 1))

theorem Drained.not_exists_clear {s t : Session σ} {k : Nat} (h : m.Drained s k t)
    {r : MigrationRecord} (hr : r ∈ records t.state) (hregistered : m.find? r.name ≠ none) :
    ¬∃ n s', m.Drained s n s' ∧ ∀ r ∈ records s'.state, m.find? r.name = none := by
  rintro ⟨n, s', hdrained, hclear⟩
  obtain ⟨-, rfl⟩ := h.unique hdrained
  exact hregistered (hclear r hr)

/-- Where no down fails or touches the history, calling `rollback` until a call reverts nothing takes
finitely many calls. They leave the names that are not registered and the registered ones below
a batch of such a name, and so they end like a reset exactly if there are none of the latter. -/
theorem exists_drained {c : Connection σ} {d : SqlDialect} (heditor : m.editor = ⟨c, .sql d⟩)
    (hkeeps : KeepsHistory c d m.history held records)
    (hleaves : ∀ x ∈ m.migrations, x.DownLeaves records) {s : Session σ}
    (hsteps : ∀ t, Relation.ReflTransGen m.RollsBack s t → m.rollback.StepsSucceed t)
    (hreset : m.reset.StepsSucceed s) :
    ∃ n s' v t, m.Drained s n s' ∧ n ≤ (records s.state).length + 1 ∧
      (records s'.state).Perm ((records s.state).filter fun r => m.Stays (records s.state) r) ∧
      m.reset.runFrom s = (.ok v, t) ∧
      ((∀ r ∈ records s'.state, m.find? r.name = none) ↔
        ∀ r ∈ records s.state, m.Shielded (records s.state) r.name → m.find? r.name = none) ∧
      ((records s'.state).Perm (records t.state) ↔
        ∀ r ∈ records s.state, m.Shielded (records s.state) r.name → m.find? r.name = none) := by
  obtain ⟨n, s', hdrained, hn, hleft⟩ := exists_drained_stays heditor hkeeps hleaves hsteps
  obtain ⟨v, t, hreset, hclear⟩ := exists_reset heditor hkeeps hleaves hreset
  have hnone : (∀ r ∈ records s'.state, m.find? r.name = none) ↔
      ∀ r ∈ records s.state, m.Shielded (records s.state) r.name → m.find? r.name = none := by
    simp only [hleft.mem_iff, List.mem_filter, decide_eq_true_eq, and_imp]
    exact forall₂_congr fun r _ => ⟨fun h hr => h (.inr hr), fun h hr => hr.elim id h⟩
  refine ⟨n, s', v, t, hdrained, hn, hleft, hreset, hnone, ?_⟩
  rw [← hnone]
  constructor
  · intro hperm r hr
    have hr := (hperm.trans hclear).mem_iff.1 hr
    exact Option.isNone_iff_eq_none.1 (List.mem_filter.1 hr).2
  · intro hall
    refine hleft.trans ((List.Perm.of_eq (List.filter_congr fun r hr => ?_)).trans hclear.symm)
    rw [Bool.eq_iff_iff, decide_eq_true_eq, Option.isNone_iff_eq_none]
    exact ⟨fun hstays => hall r (hleft.mem_iff.2 (List.mem_filter.2 ⟨hr, decide_eq_true hstays⟩)),
      Or.inl⟩

end Manager

namespace Memory

/-! ### Histories with an orphan on top -/

/-- A row of the history, without a time. -/
def rowOf (name : String) (timestamp batch : Int) : MemoryRow where
  name := name
  timestamp := timestamp
  batch := batch
  executedAt := ""

def recorded (rows : List MemoryRow) : Session Memory where
  state := { rows }

theorem down_late : ∀ x ∈ late.migrations, ∀ s, (x.down.runFrom s).1 = .ok () :=
  List.forall_mem_cons.2 ⟨fun _ => rfl, List.forall_mem_singleton.2 fun _ => rfl⟩

theorem downLeaves_late : ∀ x ∈ late.migrations, x.DownLeaves Memory.records :=
  List.forall_mem_cons.2 ⟨fun _ => rfl, List.forall_mem_singleton.2 fun _ => rfl⟩

/-- With an orphan between two batches, calls of `rollback` revert the later one of them. -/
theorem exists_drained_of_late :
    ∃ n s' v t, late.Drained (recorded [rowOf "a" 1 1, orphan 2, rowOf "b" 2 3]) n s' ∧ n ≤ 4 ∧
      (Memory.records s'.state).Perm [(rowOf "a" 1 1).record, (orphan 2).record] ∧
      late.reset.runFrom (recorded [rowOf "a" 1 1, orphan 2, rowOf "b" 2 3]) = (.ok v, t) ∧
      ¬(Memory.records s'.state).Perm (Memory.records t.state) := by
  obtain ⟨n, s', v, t, hdrained, hn, hleft, hreset, -, hiff⟩ := Manager.exists_drained (m := late)
    (s := recorded [rowOf "a" 1 1, orphan 2, rowOf "b" 2 3]) rfl keepsHistory_log downLeaves_late
    (fun t _ => Manager.stepsSucceed_rollback rfl keepsHistory_log down_late t)
    (Manager.stepsSucceed_reset rfl keepsHistory_log down_late _)
  refine ⟨n, s', v, t, hdrained, hn, hleft, hreset, fun hperm => ?_⟩
  have hunregistered := hiff.1 hperm (rowOf "a" 1 1).record List.mem_cons_self (by decide)
  exact absurd hunregistered (by decide)

/-- A manager of a migration whose down adds an orphan to the history. -/
def relogging : Manager Memory where
  editor := log
  history := logShape
  migrations := [migration "b" 2 true,
    { migration "a" 1 true with
      down := .step fun st => (.ok (), { st with rows := st.rows ++ [orphan 3] }) }]
  clock := "2024-01-01T00:00:00+00:00"

theorem down_relogging : ∀ x ∈ relogging.migrations, ∀ s, (x.down.runFrom s).1 = .ok () :=
  List.forall_mem_cons.2 ⟨fun _ => rfl, List.forall_mem_singleton.2 fun _ => rfl⟩

theorem exists_rollback_relogging : ∃ v s',
    relogging.rollback.runFrom (recorded [rowOf "b" 2 1, rowOf "a" 1 2]) = (.ok v, s') ∧
      v.rolledBack = ["a"] ∧
      (Memory.records s'.state).Perm [(rowOf "b" 2 1).record, (orphan 3).record] := by
  obtain ⟨read, s₁, hperm, hsame, hrun⟩ := Manager.exists_rollback_eq_revert (m := relogging) rfl
    keepsHistory_log (recorded [rowOf "b" 2 1, rowOf "a" 1 2])
  have hlast : Manager.lastBatch read = [(rowOf "a" 1 2).record] :=
    List.perm_singleton.1 (Manager.lastBatch_perm hperm)
  obtain ⟨x, hx, hdown⟩ : ∃ x, relogging.find? "a" = some x ∧ ∀ s,
      Memory.records (x.down.runFrom s).2.state = Memory.records s.state ++ [(orphan 3).record] :=
    ⟨_, rfl, fun _ => List.map_append⟩
  obtain ⟨s₀, s', hstate, ⟨e, hfailed, -⟩ | ⟨hrevert, hleft⟩⟩ := Manager.runFrom_revertOne
    (m := relogging) (r := (rowOf "a" 1 2).record) rfl keepsHistory_log hx s₁
  · rw [down_relogging x (Manager.name_of_find? hx).1] at hfailed
    cases hfailed
  · rw [hlast] at hrun
    rw [hdown, hstate, hsame] at hleft
    have hruns : Action.Runs relogging.revertOne [(rowOf "a" 1 2).record] s₁ _ none s' :=
      .ok hrevert (.nil s')
    exact ⟨_, s', hrun.trans ((Action.runFrom_bind_ok (Action.runFrom_filterM hruns)).trans rfl), rfl,
      hleft⟩

/-- An orphan on top of a history keeps what is below it recorded, whether it is there from the start or
a down puts it there. -/
theorem not_drained_of_orphan :
    ((∀ x ∈ late.migrations, ∀ s, (x.down.runFrom s).1 = .ok ()) ∧
      ¬∃ n s', late.Drained (recorded [rowOf "b" 2 1, orphan 2]) n s' ∧
        ∀ r ∈ Memory.records s'.state, late.find? r.name = none) ∧
    ((∀ x ∈ relogging.migrations, ∀ s, (x.down.runFrom s).1 = .ok ()) ∧
      ¬∃ n s', relogging.Drained (recorded [rowOf "b" 2 1, rowOf "a" 1 2]) n s' ∧
        ∀ r ∈ Memory.records s'.state, relogging.find? r.name = none) := by
  refine ⟨⟨down_late, ?_⟩, down_relogging, ?_⟩
  · obtain ⟨n, s', hdrained, -, hleft⟩ := Manager.exists_drained_stays (m := late)
      (s := recorded [rowOf "b" 2 1, orphan 2]) rfl keepsHistory_log downLeaves_late
      fun t _ => Manager.stepsSucceed_rollback rfl keepsHistory_log down_late t
    have hleft : (Memory.records s'.state).Perm [(rowOf "b" 2 1).record, (orphan 2).record] := hleft
    exact hdrained.not_exists_clear (hleft.mem_iff.2 List.mem_cons_self) (by decide)
  · obtain ⟨v₁, s₁, hrun₁, hv₁, hleft₁⟩ := exists_rollback_relogging
    have hlast := Manager.lastBatch_perm hleft₁
    have hnone : ∀ r ∈ Manager.lastBatch (Memory.records s₁.state), relogging.find? r.name = none := by
      intro r hr
      rw [List.mem_singleton.1 (hlast.mem_iff.1 hr)]
      rfl
    obtain ⟨v, s', hrun, hv, hleft⟩ := Manager.exists_rollback (m := relogging) rfl keepsHistory_log
      (fun r hr x hx => absurd ((hnone r hr).symm.trans hx) (by simp))
      (Manager.stepsSucceed_rollback rfl keepsHistory_log down_relogging s₁)
    have hdrained := Manager.Drained.again ⟨v₁, hrun₁, by rw [hv₁]; decide⟩ (.stop hrun (hv.2 hnone))
    have hmem : (rowOf "b" 2 1).record ∈ Memory.records s'.state := by
      rw [hleft.mem_iff, List.mem_filter, decide_eq_true_eq]
      refine ⟨hleft₁.mem_iff.2 List.mem_cons_self, ?_⟩
      rintro ⟨-, q, hq, hname⟩
      rw [List.mem_singleton.1 (hlast.mem_iff.1 hq)] at hname
      exact absurd hname (by decide)
    exact hdrained.not_exists_clear hmem (by decide)

end Memory

end Polystore

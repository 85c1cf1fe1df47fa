import Polystore.Proofs.Migration.Run

/-!
# Calls

The calls that change a history, the steps that each of them plans from the records that it reads, and
what it does: it runs its plan up to the first step that fails, and what ran before is recorded.
-/

namespace Polystore

variable {σ : Type} {held : Int → Prop} {records : σ → List MigrationRecord}

/-- A call on a manager. -/
inductive Call where
  | migrate
  | rollback
  | rollbackTo (name : String)
  | reset
  | fresh

namespace Call

def action (m : Manager σ) : Call → Action σ MigrationResult
  | migrate => m.migrate
  | rollback => m.rollback
  | rollbackTo name => m.rollbackTo name
  | reset => m.reset
  | fresh => m.fresh

/-- The steps that a call plans from the records that it reads. -/
def plan (m : Manager σ) (read : List MigrationRecord) : Call → List Step
  | migrate => Manager.ups (m.notIn read)
  | rollback =>
    m.downs (read.filter fun r => (read.map (·.batch)).max? == some r.batch).reverse
  | rollbackTo name => m.downs ((read.dropWhile fun r => r.name != name).drop 1).reverse
  | reset => m.downs read.reverse
  | fresh => m.downs read.reverse ++ Manager.ups m.ordered

/-- The refusal of a call by the records that it reads: going back to a name that is not recorded. -/
def refusal? (read : List MigrationRecord) : Call → Option Error
  | rollbackTo name => if read.any fun r => r.name == name then none else some (.notApplied name)
  | _ => none

theorem refusal?_cases (read : List MigrationRecord) (call : Call) :
    call.refusal? read = none ∨ ∃ name, call.refusal? read = some (.notApplied name) := by
  cases call with
  | rollbackTo name => exact (ite_eq_or_eq _ _ _).imp_right fun h => ⟨name, h⟩
  | _ => exact .inl rfl

/-- The batch that a call writes is one that a column holds, whatever the call has reverted before. -/
def HasRoom (held : Int → Prop) (rs : List MigrationRecord) : Call → Prop
  | migrate => held (Manager.nextBatch rs)
  | fresh => ∀ left ⊆ rs, held (Manager.nextBatch left)
  | rollback | rollbackTo _ | reset => True

end Call

theorem follows_action (m : Manager σ) (call : Call) :
    Follows (call.action (m.watched records)) (call.action m) := by
  cases call with
  | migrate => exact Manager.follows_migrate records m
  | rollback => exact Manager.follows_rollback records m
  | rollbackTo name => exact Manager.follows_rollbackTo records m name
  | reset => exact Manager.follows_reset records m
  | fresh => exact Manager.follows_fresh records m

/-- What ends well with a journal ends well without one. -/
theorem runFrom_unwatched {m : Manager σ} {call : Call} {s s' : Session (Journaled σ)}
    {v : MigrationResult} (hrun : (call.action (m.watched records)).runFrom s = (.ok v, s')) :
    (call.action m).runFrom s.unwatched = (.ok v, s'.unwatched) := by
  have hfollows : Follows (call.action (m.watched records)) (call.action m) := follows_action m call
  obtain ⟨houtcome, hstate⟩ := hfollows s
  rw [hrun] at houtcome hstate
  exact Prod.ext houtcome.symm hstate.symm

theorem stepsSucceed_watched {m : Manager σ} {call : Call} {s : Session (Journaled σ)} :
    (call.action (m.watched records)).StepsSucceed s ↔ (call.action m).StepsSucceed s.unwatched := by
  have hfollows : Follows (call.action (m.watched records)) (call.action m) := follows_action m call
  unfold Action.StepsSucceed
  rw [(hfollows s).1]

namespace Manager

variable {m : Manager σ}

theorem nextBatch_perm {read old : List MigrationRecord} (h : read.Perm old) :
    nextBatch read = nextBatch old := by
  have hmax : (read.map (·.batch)).max? = (old.map (·.batch)).max? := by
    refine Option.ext fun last => ?_
    rw [List.max?_eq_some_iff, List.max?_eq_some_iff]
    simp only [(h.map _).mem_iff]
  rw [nextBatch, hmax, nextBatch]

theorem lt_nextBatch {read : List MigrationRecord} {r : MigrationRecord} (hr : r ∈ read) :
    r.batch < nextBatch read := by
  have hmem : r.batch ∈ read.map (·.batch) := List.mem_map_of_mem hr
  obtain ⟨last, hlast⟩ := Option.isSome_iff_exists.1 (List.isSome_max?_of_mem hmem)
  have hle := (List.max?_eq_some_iff.1 hlast).2 _ hmem
  rw [nextBatch, hlast, Option.getD_some]
  omega

theorem mem_ordered {x : Migration σ} : x ∈ m.ordered ↔ x ∈ m.migrations :=
  (List.mergeSort_perm _ _).mem_iff

theorem nodup_ordered (h : m.Keeps held records) : (m.ordered.map (·.name)).Nodup :=
  ((List.mergeSort_perm _ _).map _).nodup_iff.2 h.nodup

theorem mem_notIn {read : List MigrationRecord} {x : Migration σ} :
    x ∈ m.notIn read ↔ x ∈ m.migrations ∧ x.name ∉ read.map (·.name) := by
  rw [notIn, List.mem_filter, mem_ordered]
  simp

theorem direction_ups {xs : List (Migration σ)} : ∀ s ∈ ups xs, s.direction = .up := by
  intro s hs
  obtain ⟨x, -, rfl⟩ := List.mem_map.1 hs
  rfl

theorem direction_downs {rs : List MigrationRecord} : ∀ s ∈ m.downs rs, s.direction = .down := by
  intro s hs
  obtain ⟨r, -, rfl⟩ := List.mem_map.1 hs
  rfl

theorem runFrom_migrate (h : m.Keeps held records) {s : Session (Journaled σ)}
    (hroom : held (nextBatch (s.ledger records).records)) :
    ∃ read failure v s', (m.watched records).migrate.runFrom s = (Action.outcomeOf failure v, s') ∧
      read.Perm (s.ledger records).records ∧ (read.Pairwise fun a b => a.comesBefore b) ∧
      Ledger.Trace m.Fails (m.Writes (nextBatch read)) (ups (m.notIn read)) (s.ledger records) failure
        (s'.ledger records) := by
  obtain ⟨read, s₁, hrun, hsame, hperm, hsorted⟩ := h.runFrom_executed s
  obtain ⟨done, failure, s', hruns⟩ := Action.exists_runs
    ((m.watched records).applyOne (nextBatch read)) ((m.notIn read).map (Migration.watched records)) s₁
  have hxs : ∀ x ∈ m.notIn read, x ∈ m.migrations := fun x hx => (mem_notIn.1 hx).1
  have hnew : ∀ x ∈ m.notIn read, x.name ∉ (s₁.ledger records).names := by
    intro x hx
    rw [hsame, Ledger.names, ← (hperm.map _).mem_iff]
    exact (mem_notIn.1 hx).2
  rw [← nextBatch_perm hperm] at hroom
  have htrace := trace_applyOne h hroom hxs ((List.filter_sublist.map _).nodup (nodup_ordered h)) hnew
    hruns
  rw [hsame] at htrace
  have hforM := Action.runFrom_forM hruns
  rw [← notIn_watched] at hforM
  cases failure with
  | none =>
    exact ⟨read, none, _, s', (Action.runFrom_bind_ok hrun).trans
      ((Action.runFrom_bind_ok hforM).trans rfl), hperm, hsorted, htrace⟩
  | some e =>
    exact ⟨read, some e, {}, s', (Action.runFrom_bind_ok hrun).trans
      (Action.runFrom_bind_error hforM), hperm, hsorted, htrace⟩

theorem runFrom_revert (h : m.Keeps held records) {rs : List MigrationRecord}
    (hnodup : (rs.map (·.name)).Nodup) {s : Session (Journaled σ)}
    (hold : ∀ r ∈ rs, r.name ∈ (s.ledger records).names) :
    ∃ failure v s', ((m.watched records).revert rs).runFrom s = (Action.outcomeOf failure v, s') ∧
      ∀ P, Ledger.Trace m.Fails P (m.downs rs.reverse) (s.ledger records) failure
        (s'.ledger records) := by
  obtain ⟨done, failure, s', hruns⟩ :=
    Action.exists_runs (m.watched records).revertOne rs.reverse s
  have hnodup' : (rs.reverse.map (·.name)).Nodup := by
    rw [List.map_reverse]
    exact List.nodup_reverse.2 hnodup
  have hold' : ∀ r ∈ rs.reverse, r.name ∈ (s.ledger records).names :=
    fun r hr => hold r (List.mem_reverse.1 hr)
  have htrace := fun P => trace_revertOne h P hnodup' hold' hruns
  have hfilterM := Action.runFrom_filterM hruns
  cases failure with
  | none => exact ⟨none, _, s', (Action.runFrom_bind_ok hfilterM).trans rfl, htrace⟩
  | some e => exact ⟨some e, {}, s', Action.runFrom_bind_error hfilterM, htrace⟩

theorem drop_dropWhile_of_not_any {read : List MigrationRecord} {name : String}
    (h : ¬(read.any fun r => r.name == name) = true) :
    (read.dropWhile fun r => r.name != name).drop 1 = [] := by
  have hnil : (read.dropWhile fun r => r.name != name) = [] := by
    refine List.dropWhile_eq_nil_iff.2 fun r hr => ?_
    rw [bne_iff_ne]
    exact fun heq => h (List.any_eq_true.2 ⟨r, hr, beq_iff_eq.2 heq⟩)
  rw [hnil, List.drop_nil]

/-- A call that reads the history and reverts some of it. -/
def Reverts (records : σ → List MigrationRecord) (m : Manager σ) (call : Call)
    (s : Session (Journaled σ)) : Prop :=
  ∃ read failure v s',
    (call.action (m.watched records)).runFrom s =
      (Action.outcomeOf ((call.refusal? read).or failure) v, s') ∧
    read.Perm (s.ledger records).records ∧ (read.Pairwise fun a b => a.comesBefore b) ∧
    ∀ P, Ledger.Trace m.Fails P (call.plan m read) (s.ledger records) failure (s'.ledger records)

theorem reverts_of_sublist (h : m.Keeps held records) {call : Call} {s s₁ : Session (Journaled σ)}
    (hnodup : (s.ledger records).names.Nodup) {read rs : List MigrationRecord}
    (hsame : s₁.ledger records = s.ledger records) (hperm : read.Perm (s.ledger records).records)
    (hsorted : read.Pairwise fun a b => a.comesBefore b) (hrs : rs.Sublist read)
    (haccepted : call.refusal? read = none) (hplan : call.plan m read = m.downs rs.reverse)
    (hcall : (call.action (m.watched records)).runFrom s =
      ((m.watched records).revert rs).runFrom s₁) : m.Reverts records call s := by
  have hnames : (read.map (·.name)).Perm (s.ledger records).names := hperm.map _
  have hold : ∀ r ∈ rs, r.name ∈ (s₁.ledger records).names := by
    intro r hr
    rw [hsame, ← hnames.mem_iff]
    exact List.mem_map_of_mem (hrs.subset hr)
  obtain ⟨failure, v, s', hrevert, htrace⟩ :=
    runFrom_revert h ((hrs.map _).nodup (hnames.nodup_iff.2 hnodup)) hold
  refine ⟨read, failure, v, s', ?_, hperm, hsorted, fun P => ?_⟩
  · rw [haccepted, Option.none_or]
    exact hcall.trans hrevert
  · rw [hplan, ← hsame]
    exact htrace P

theorem reverts_reset (h : m.Keeps held records) {s : Session (Journaled σ)}
    (hnodup : (s.ledger records).names.Nodup) : m.Reverts records .reset s := by
  obtain ⟨read, s₁, hrun, hsame, hperm, hsorted⟩ := h.runFrom_executed s
  exact reverts_of_sublist h hnodup hsame hperm hsorted (List.Sublist.refl read) rfl rfl
    (Action.runFrom_bind_ok hrun)

theorem reverts_rollback (h : m.Keeps held records) {s : Session (Journaled σ)}
    (hnodup : (s.ledger records).names.Nodup) : m.Reverts records .rollback s := by
  obtain ⟨read, s₁, hrun, hsame, hperm, hsorted⟩ := h.runFrom_executed s
  cases hlast : (read.map (·.batch)).max? with
  | none =>
    have hnil : read = [] := List.map_eq_nil_iff.1 (List.max?_eq_none_iff.1 hlast)
    refine ⟨read, none, {}, { s₁ with
      log := s₁.log ++ [⟨.info, .migration, "nothing to roll back"⟩] },
      (Action.runFrom_bind_ok hrun).trans ?_, hperm, hsorted, fun P => ?_⟩
    · rw [hlast]
      exact (Action.runFrom_bind_ok (Action.runFrom_note _ _ _ _)).trans rfl
    · rw [hnil, ← hsame]
      exact .done _
  | some last =>
    refine reverts_of_sublist h hnodup hsame hperm hsorted List.filter_sublist rfl rfl
      ((Action.runFrom_bind_ok hrun).trans ?_)
    have hbatch : ∀ r : MigrationRecord, (some last == some r.batch) = (r.batch == last) := by
      intro r
      rw [Bool.eq_iff_iff, beq_iff_eq, beq_iff_eq, Option.some_inj, eq_comm]
    simp only [hlast, hbatch]

theorem reverts_rollbackTo (h : m.Keeps held records) {s : Session (Journaled σ)}
    (hnodup : (s.ledger records).names.Nodup) (name : String) :
    m.Reverts records (.rollbackTo name) s := by
  obtain ⟨read, s₁, hrun, hsame, hperm, hsorted⟩ := h.runFrom_executed s
  by_cases hany : (read.any fun r => r.name == name) = true
  · refine reverts_of_sublist h hnodup hsame hperm hsorted
      ((List.drop_sublist 1 _).trans (List.dropWhile_sublist _)) (if_pos hany) rfl
      ((Action.runFrom_bind_ok hrun).trans ?_)
    rw [if_pos hany]
  · refine ⟨read, none, {}, s₁, (Action.runFrom_bind_ok hrun).trans ?_, hperm, hsorted, fun P => ?_⟩
    · rw [Call.refusal?, if_neg hany, if_neg hany]
      rfl
    · rw [Call.plan, drop_dropWhile_of_not_any hany, ← hsame]
      exact .done _

/-! ### Accounts -/

/-- What a call does from a session: it reads the history, oldest migration first, and runs its plan up
to the first failure, unless it is refused. The records that it writes carry one batch, above that of all
which stay, and `migrate` lets all of them stay. -/
def Accounts (records : σ → List MigrationRecord) (m : Manager σ) (call : Call)
    (s : Session (Journaled σ)) : Prop :=
  ∃ read failure v s' batch ran written,
    (call.action (m.watched records)).runFrom s =
      (Action.outcomeOf ((call.refusal? read).or failure) v, s') ∧
    read.Perm (s.ledger records).records ∧ (read.Pairwise fun a b => a.comesBefore b) ∧
    Ledger.Report m.Fails (m.Writes batch) (call.plan m read) (s.ledger records) failure
      (s'.ledger records) ran written ∧
    (∀ r ∈ (s.ledger records).kept ran, r.batch < batch) ∧
    (call = .migrate → (s.ledger records).kept ran = (s.ledger records).records)

theorem exists_report_of_ups {P : MigrationRecord → Prop} {xs : List (Migration σ)} {L L' : Ledger}
    {failure : Option Error} (h : Ledger.Trace m.Fails P (ups xs) L failure L') :
    ∃ ran written, Ledger.Report m.Fails P (ups xs) L failure L' ran written :=
  Ledger.exists_report h (List.pairwise_of_forall_mem_list fun _ _ b hb _ => direction_ups b hb)

theorem appliedBy_of_ups {P : MigrationRecord → Prop} {xs : List (Migration σ)} {L L' : Ledger}
    {ran : List Event} {written : List MigrationRecord}
    (h : Ledger.Report m.Fails P (ups xs) L none L' ran written) :
    Ledger.appliedBy ran = xs.map (·.name) := by
  have hups := Ledger.direction_of_steps h.steps_isPrefix direction_ups
  have hall : ran.filter (fun e => e.step.direction == .up && e.succeeded) = ran := by
    refine List.filter_eq_self.2 fun e he => ?_
    rw [hups e he, h.succeeded_of_none he]
    rfl
  have hsteps := congrArg (List.map Step.name) (h.complete rfl)
  rw [List.map_map, ups, List.map_map] at hsteps
  rw [Ledger.appliedBy, hall]
  exact hsteps

theorem exists_report_of_downs {P : MigrationRecord → Prop} {rs : List MigrationRecord} {L L' : Ledger}
    {failure : Option Error} (h : Ledger.Trace m.Fails P (m.downs rs) L failure L') :
    ∃ ran, Ledger.Report m.Fails P (m.downs rs) L failure L' ran [] := by
  have hplan : (m.downs rs).Pairwise fun a b => a.direction = .up → b.direction = .up :=
    List.pairwise_of_forall_mem_list fun a ha _ _ hup => by
      rw [direction_downs a ha] at hup
      exact absurd hup (by simp)
  obtain ⟨ran, written, hreport⟩ := Ledger.exists_report h hplan
  have hran := Ledger.direction_of_steps hreport.steps_isPrefix direction_downs
  have hnone : Ledger.appliedBy ran = [] := by
    rw [Ledger.appliedBy, List.filter_eq_nil_iff.2 fun e he => by simp [hran e he]]
    rfl
  have hwritten : written = [] := List.map_eq_nil_iff.1 (hreport.written_names.trans hnone)
  exact ⟨ran, hwritten ▸ hreport⟩

theorem kept_lt_nextBatch {L : Ledger} {read : List MigrationRecord} (hperm : read.Perm L.records)
    (ran : List Event) : ∀ r ∈ L.kept ran, r.batch < nextBatch read :=
  fun _ hr => lt_nextBatch (hperm.mem_iff.2 (List.mem_filter.1 hr).1)

theorem accounts_migrate (h : m.Keeps held records) {s : Session (Journaled σ)}
    (hroom : held (nextBatch (s.ledger records).records)) : m.Accounts records .migrate s := by
  obtain ⟨read, failure, v, s', hrun, hperm, hsorted, htrace⟩ := runFrom_migrate h hroom
  obtain ⟨ran, written, hreport⟩ := exists_report_of_ups htrace
  have hups := Ledger.direction_of_steps hreport.steps_isPrefix direction_ups
  exact ⟨read, failure, v, s', _, ran, written, hrun, hperm, hsorted, hreport,
    kept_lt_nextBatch hperm ran, fun _ => Ledger.kept_of_ups hups⟩

theorem accounts_of_reverts {call : Call} {s : Session (Journaled σ)} (hcall : call ≠ .migrate)
    (hplan : ∀ read, ∃ rs, call.plan m read = m.downs rs) (h : m.Reverts records call s) :
    m.Accounts records call s := by
  obtain ⟨read, failure, v, s', hrun, hperm, hsorted, htrace⟩ := h
  obtain ⟨rs, hrs⟩ := hplan read
  rw [hrs] at htrace
  obtain ⟨ran, hreport⟩ := exists_report_of_downs (htrace (m.Writes (nextBatch read)))
  refine ⟨read, failure, v, s', _, ran, [], hrun, hperm, hsorted, ?_, kept_lt_nextBatch hperm ran,
    fun heq => absurd heq hcall⟩
  rw [hrs]
  exact hreport

/-- After everything registered is reverted, everything registered is pending. -/
theorem notIn_of_reset {P : MigrationRecord → Prop} {read : List MigrationRecord} {L L' : Ledger}
    {ran : List Event} (hperm : read.Perm L.records)
    (hreport : Ledger.Report m.Fails P (m.downs read.reverse) L none L' ran [])
    {rest : List MigrationRecord} (hrest : rest.Perm L'.records) : m.notIn rest = m.ordered := by
  refine List.filter_eq_self.2 fun x hx => ?_
  rw [Bool.not_eq_true', List.any_eq_false]
  intro r hr hname
  rw [beq_iff_eq] at hname
  have hkept : r ∈ L.kept ran := by
    have hmem := hreport.records_perm.mem_iff.1 (hrest.mem_iff.1 hr)
    rwa [List.append_nil] at hmem
  obtain ⟨hold, hstays⟩ := List.mem_filter.1 hkept
  have hregistered : (m.find? r.name).isSome := by
    refine List.find?_isSome.2 ⟨x, mem_ordered.1 hx, ?_⟩
    rw [beq_iff_eq, hname]
  -- so its down was planned, and with the whole plan it has run
  have hplanned : (⟨.down, r.name⟩ : Step) ∈ ran.map (·.step) := by
    rw [hreport.complete rfl]
    exact List.mem_map.2 ⟨r, List.mem_filter.2
      ⟨List.mem_reverse.2 (hperm.mem_iff.2 hold), hregistered⟩, rfl⟩
  obtain ⟨e, he, hstep⟩ := List.mem_map.1 hplanned
  have hdid : ran.any (·.did ⟨.down, r.name⟩) = true :=
    List.any_eq_true.2 ⟨e, he, Ledger.did_iff.2 ⟨hstep, hreport.succeeded_of_none he⟩⟩
  rw [hdid] at hstays
  exact absurd hstays (by simp)

theorem accounts_fresh (h : m.Keeps held records) {s : Session (Journaled σ)}
    (hnodup : (s.ledger records).names.Nodup)
    (hroom : ∀ left ⊆ (s.ledger records).records, held (nextBatch left)) :
    m.Accounts records .fresh s := by
  obtain ⟨read, failure₁, v₁, s₁, hreset, hperm, hsorted, htrace₁⟩ := reverts_reset h hnodup
  cases failure₁ with
  | some e =>
    obtain ⟨ran, hreport⟩ := exists_report_of_downs (htrace₁ (m.Writes (nextBatch read)))
    exact ⟨read, some e, v₁, s₁, _, ran, [], Action.runFrom_bind_error hreset, hperm, hsorted,
      hreport.of_failed, kept_lt_nextBatch hperm ran, fun heq => absurd heq (by simp)⟩
  | none =>
    obtain ⟨ran₁, hreport₁⟩ := exists_report_of_downs (htrace₁ fun _ => False)
    obtain ⟨rest, failure, v, s', hmigrate, hrest, -, htrace⟩ :=
      runFrom_migrate h (hroom _ (htrace₁ fun _ => False).records_subset)
    rw [notIn_of_reset hperm hreport₁ hrest] at htrace
    obtain ⟨ran, written, hreport⟩ := exists_report_of_ups htrace
    have hall := hreport₁.append hreport direction_ups
    have hrun : ∃ v', ((Call.fresh.action (m.watched records)).runFrom s) =
        (Action.outcomeOf failure v', s') := by
      cases failure with
      | none => exact ⟨_, (Action.runFrom_bind_ok hreset).trans
          ((Action.runFrom_bind_ok hmigrate).trans rfl)⟩
      | some e => exact ⟨{}, (Action.runFrom_bind_ok hreset).trans
          (Action.runFrom_bind_error hmigrate)⟩
    obtain ⟨v', hrun⟩ := hrun
    refine ⟨read, failure, v', s', _, _, written, hrun, hperm, hsorted, hall, fun r hr => ?_,
      fun heq => absurd heq (by simp)⟩
    -- what the second call finds is what the first one keeps
    rw [Ledger.kept_append (Ledger.direction_of_steps hreport.steps_isPrefix direction_ups)] at hr
    refine lt_nextBatch (hrest.mem_iff.2 (hreport₁.records_perm.mem_iff.2 ?_))
    rwa [List.append_nil]

theorem accounts (h : m.Keeps held records) {s : Session (Journaled σ)}
    (hnodup : (s.ledger records).names.Nodup) {call : Call}
    (hroom : call.HasRoom held (s.ledger records).records) : m.Accounts records call s := by
  cases call with
  | migrate => exact accounts_migrate h hroom
  | rollback => exact accounts_of_reverts (by simp) (fun _ => ⟨_, rfl⟩) (reverts_rollback h hnodup)
  | rollbackTo name =>
    exact accounts_of_reverts (by simp) (fun _ => ⟨_, rfl⟩) (reverts_rollbackTo h hnodup name)
  | reset => exact accounts_of_reverts (by simp) (fun _ => ⟨_, rfl⟩) (reverts_reset h hnodup)
  | fresh => exact accounts_fresh h hnodup hroom

end Manager

end Polystore

import Polystore.Proofs.Migration.Undo

/-!
# Rolling back

A call of `migrate` records what is pending as one batch, above every batch that it finds. A call of
`rollback` reads all records again, in the order of their places, and reverts those of the greatest
batch. Since migrations run in the order in which records are read, this is the batch that was applied,
and it is taken back in reverse (`rollback_undoes_migrate`).
-/

namespace Polystore

variable {σ : Type} {held : Int → Prop} {records : σ → List MigrationRecord}

/-! ### Taking records back -/

namespace Ledger

variable {F : Step → Error → Prop} {P : MigrationRecord → Prop} {L L' : Ledger}

/-- A run of downs that takes a list of records back from its end: when one of them starts, its own
record and those before it are still there, and of the list no others. -/
structure Unwinds (others taken : List MigrationRecord) (ran : List Event) : Prop where
  steps_eq : ran.map (·.step) = (taken.map (·.name)).reverse.map (Step.mk .down)
  succeeded : ∀ e ∈ ran, e.succeeded
  recorded_perm : ∀ e ∈ ran, ∃ earlier r later, taken = earlier ++ r :: later ∧
    e.step = ⟨.down, r.name⟩ ∧ e.recorded.Perm ((others ++ (earlier ++ [r])).map (·.name))

theorem filter_name_append {rs : List MigrationRecord} {r : MigrationRecord}
    (h : ((rs ++ [r]).map (·.name)).Nodup) :
    (rs ++ [r]).filter (fun x => x.name != r.name) = rs := by
  rw [List.map_append, List.map_singleton] at h
  have hne : ∀ x ∈ rs, (x.name != r.name) = true := by
    intro x hx
    rw [bne_iff_ne]
    exact (List.nodup_append.1 h).2.2 _ (List.mem_map_of_mem hx) _ List.mem_cons_self
  rw [List.filter_append, List.filter_eq_self.2 hne, List.filter_cons_of_neg (by simp),
    List.filter_nil, List.append_nil]

/-- A trace along the downs of records, the last one first, takes them back and leaves the others. -/
theorem exists_unwinds {others taken : List MigrationRecord}
    (hnodup : ((others ++ taken).map (·.name)).Nodup) (hrecords : L.records.Perm (others ++ taken))
    (h : Trace F P ((taken.map (·.name)).reverse.map (Step.mk .down)) L none L') :
    L'.records.Perm others ∧ ∃ ran, L'.events = L.events ++ ran ∧ Unwinds others taken ran := by
  induction taken using List.reverseRecOn generalizing L with
  | nil =>
    cases h with
    | done =>
      rw [List.append_nil] at hrecords
      exact ⟨hrecords, [], (List.append_nil _).symm, rfl, by simp, by simp⟩
  | append_singleton taken r ih =>
    rw [← List.append_assoc] at hnodup hrecords
    rw [List.map_append, List.map_singleton, List.reverse_append, List.reverse_singleton,
      List.singleton_append, List.map_cons] at h
    cases h with
    | succeeded hstep hrest =>
      cases hstep with
      | @reverted _ _ left hold hleft =>
        have hperm : left.Perm (others ++ taken) := by
          have hfilter := hleft.trans (hrecords.filter _)
          rwa [filter_name_append hnodup] at hfilter
        have hsublist := (List.sublist_append_left (others ++ taken) [r]).map (·.name)
        obtain ⟨hothers, ran, hevents, hran⟩ := ih (hsublist.nodup hnodup) hperm hrest
        refine ⟨hothers, _ :: ran, hevents.trans (List.append_assoc _ _ _), ?_, ?_, ?_⟩
        · rw [List.map_cons, hran.steps_eq, List.map_append, List.map_singleton, List.reverse_append,
            List.reverse_singleton, List.singleton_append, List.map_cons]
        · exact List.forall_mem_cons.2 ⟨rfl, hran.succeeded⟩
        · refine List.forall_mem_cons.2 ⟨⟨taken, r, [], rfl, rfl, ?_⟩, fun e he => ?_⟩
          · rw [← List.append_assoc]
            exact hrecords.map _
          · obtain ⟨earlier, x, later, rfl, hstep, hrecorded⟩ := hran.recorded_perm e he
            exact ⟨earlier, x, later ++ [r], by simp, hstep, hrecorded⟩

end Ledger

namespace Manager

variable {m : Manager σ}

/-! ### The next batch -/

/-- The record of a migration that is applied in a batch. -/
def entry (m : Manager σ) (batch : Int) (x : Migration σ) : MigrationRecord where
  name := x.name
  timestamp := x.timestamp
  batch := batch
  executedAt := .str m.clock

/-- The records that a call of `migrate` adds to others, in the order in which it does. -/
def nextRecords (m : Manager σ) (old : List MigrationRecord) : List MigrationRecord :=
  (m.notIn old).map (m.entry (nextBatch old))

theorem names_nextRecords {old : List MigrationRecord} :
    (m.nextRecords old).map (·.name) = (m.notIn old).map (·.name) :=
  List.map_map

theorem notIn_perm {read old : List MigrationRecord} (h : read.Perm old) :
    m.notIn read = m.notIn old := by
  simp only [notIn, h.any_eq]

theorem batch_of_mem_nextRecords {old : List MigrationRecord} {r : MigrationRecord}
    (hr : r ∈ m.nextRecords old) : r.batch = nextBatch old := by
  obtain ⟨x, -, rfl⟩ := List.mem_map.1 hr
  rfl

theorem nodup_nextRecords (h : m.Keeps held records) (old : List MigrationRecord) :
    ((m.nextRecords old).map (·.name)).Nodup := by
  rw [names_nextRecords]
  exact (List.filter_sublist.map _).nodup (nodup_ordered h)

theorem nodup_append_nextRecords (h : m.Keeps held records) {old : List MigrationRecord}
    (hold : (old.map (·.name)).Nodup) : ((old ++ m.nextRecords old).map (·.name)).Nodup := by
  rw [List.map_append, List.nodup_append]
  refine ⟨hold, nodup_nextRecords h old, fun name hname name' hname' => ?_⟩
  rw [names_nextRecords] at hname'
  obtain ⟨x, hx, rfl⟩ := List.mem_map.1 hname'
  rintro rfl
  exact (mem_notIn.1 hx).2 hname

theorem registered_nextRecords (h : m.Keeps held records) (old : List MigrationRecord) :
    ∀ r ∈ m.nextRecords old, (m.find? r.name).isSome := by
  intro r hr
  obtain ⟨x, hx, rfl⟩ := List.mem_map.1 hr
  exact Option.isSome_iff_exists.2 ⟨x, find?_of_mem h (mem_notIn.1 hx).1⟩

theorem pairwise_ordered : m.ordered.Pairwise fun x y => x.runsBefore y := by
  refine List.pairwise_mergeSort (fun x y z hxy hyz => ?_) (fun x y => ?_) m.migrations
  · rw [Migration.place_le] at hxy hyz ⊢
    exact hxy.trans hyz
  · rw [Bool.or_eq_true, Migration.place_le, Migration.place_le]
    exact le_total _ _

theorem pairwise_nextRecords (old : List MigrationRecord) :
    (m.nextRecords old).Pairwise fun a b => a.comesBefore b :=
  List.pairwise_map.2 (pairwise_ordered.filter _)

/-- Records of a batch are those of the next one if they have the names of what is pending. -/
theorem eq_nextRecords (h : m.Keeps held records) {old written : List MigrationRecord}
    (hnames : written.map (·.name) = (m.notIn old).map (·.name))
    (hwritten : ∀ r ∈ written, m.Writes (nextBatch old) r) : written = m.nextRecords old := by
  let entryOf (name : String) : Option MigrationRecord :=
    (m.find? name).map (m.entry (nextBatch old))
  have hentry : ∀ x ∈ m.migrations, entryOf x.name = some (m.entry (nextBatch old) x) := by
    intro x hx
    show Option.map _ (m.find? x.name) = _
    rw [find?_of_mem h hx]
    rfl
  have hleft : written.map some = (written.map (·.name)).map entryOf := by
    rw [List.map_map]
    refine List.map_congr_left fun r hr => ?_
    obtain ⟨x, hx, rfl⟩ := hwritten r hr
    exact (hentry x hx).symm
  have hright : (m.nextRecords old).map some = ((m.notIn old).map (·.name)).map entryOf := by
    rw [nextRecords, List.map_map, List.map_map]
    exact List.map_congr_left fun x hx => (hentry x (mem_notIn.1 hx).1).symm
  refine List.map_injective_iff.2 (Option.some_injective _) ?_
  rw [hleft, hright, hnames]

/-! ### Finding the batch again -/

theorem max?_batch {old read : List MigrationRecord} (hpending : m.nextRecords old ≠ [])
    (hperm : read.Perm (old ++ m.nextRecords old)) :
    (read.map (·.batch)).max? = some (nextBatch old) := by
  obtain ⟨r, hr⟩ := List.exists_mem_of_ne_nil _ hpending
  rw [List.max?_eq_some_iff]
  constructor
  · exact List.mem_map.2
      ⟨r, hperm.mem_iff.2 (List.mem_append_right _ hr), batch_of_mem_nextRecords hr⟩
  · intro batch hbatch
    obtain ⟨x, hx, rfl⟩ := List.mem_map.1 hbatch
    rcases List.mem_append.1 (hperm.mem_iff.1 hx) with hx | hx
    · exact (lt_nextBatch hx).le
    · exact (batch_of_mem_nextRecords hx).le

theorem filter_batch (h : m.Keeps held records) {old read : List MigrationRecord}
    (hperm : read.Perm (old ++ m.nextRecords old))
    (hsorted : read.Pairwise fun a b => a.comesBefore b) :
    (read.filter fun r => r.batch == nextBatch old) = m.nextRecords old := by
  have hold : (old.filter fun r => r.batch == nextBatch old) = [] :=
    List.filter_eq_nil_iff.2 fun r hr => by simpa using (lt_nextBatch hr).ne
  have hnew : ((m.nextRecords old).filter fun r => r.batch == nextBatch old) = m.nextRecords old :=
    List.filter_eq_self.2 fun r hr => beq_iff_eq.2 (batch_of_mem_nextRecords hr)
  have hfilter := hperm.filter fun r => r.batch == nextBatch old
  rw [List.filter_append, hold, hnew, List.nil_append] at hfilter
  -- two records of the batch that come before each other are one
  refine hfilter.eq_of_pairwise (fun a b ha hb hab hba => ?_) (hsorted.filter _)
    (pairwise_nextRecords old)
  rw [MigrationRecord.place_le] at hab hba
  have hplace := toLex_inj.1 (le_antisymm hab hba)
  exact List.inj_on_of_nodup_map (nodup_nextRecords h old) (hfilter.mem_iff.1 ha) hb
    (Prod.mk.inj hplace).2

/-! ### Results -/

theorem executed_of_migrate (h : m.Keeps held records) {s s' : Session (Journaled σ)}
    {v : MigrationResult} (hrun : (m.watched records).migrate.runFrom s = (.ok v, s')) :
    v = { executed := (m.notIn (s.ledger records).records).map (·.name) } := by
  obtain ⟨read, s₁, hread, -, hperm, -⟩ := h.runFrom_executed s
  obtain ⟨read', s₁', hread', hrun⟩ := Action.exists_of_bind_ok hrun
  rw [hread] at hread'
  cases hread'
  obtain ⟨_, _, -, hrun⟩ := Action.exists_of_bind_ok hrun
  rw [notIn_watched, List.map_map, notIn_perm hperm] at hrun
  exact (Except.ok.inj (Prod.mk.inj hrun).1).symm

theorem revertOne_eq_isSome {r : MigrationRecord} {b : Bool} {s s' : Session σ}
    (hrun : (m.revertOne r).runFrom s = (.ok b, s')) : b = (m.find? r.name).isSome := by
  unfold revertOne at hrun
  cases hfind : m.find? r.name with
  | none =>
    rw [hfind] at hrun
    obtain ⟨_, _, -, hrun⟩ := Action.exists_of_bind_ok hrun
    exact (Except.ok.inj (Prod.mk.inj hrun).1).symm
  | some x =>
    rw [hfind] at hrun
    obtain ⟨_, _, -, hrun⟩ := Action.exists_of_bind_ok hrun
    obtain ⟨_, _, -, hrun⟩ := Action.exists_of_bind_ok hrun
    obtain ⟨_, _, -, hrun⟩ := Action.exists_of_bind_ok hrun
    exact (Except.ok.inj (Prod.mk.inj hrun).1).symm

theorem rolledBack_of_revert {rs : List MigrationRecord}
    (hregistered : ∀ r ∈ rs, (m.find? r.name).isSome) {s s' : Session σ} {v : MigrationResult}
    (hrun : (m.revert rs).runFrom s = (.ok v, s')) :
    v = { rolledBack := (rs.map (·.name)).reverse } := by
  obtain ⟨done, failure, t, hruns⟩ := Action.exists_runs m.revertOne rs.reverse s
  have hfilterM := Action.runFrom_filterM hruns
  cases failure with
  | some e =>
    rw [revert, Action.runFrom_bind_error hfilterM] at hrun
    exact absurd (Prod.mk.inj hrun).1 (by simp)
  | none =>
    have hdone := hruns.eq_map fun _ _ _ _ => revertOne_eq_isSome
    have hall : (done.filter (·.2)).map (·.1) = rs.reverse := by
      rw [hdone, List.filter_map, List.map_map]
      refine (List.map_id _).trans (List.filter_eq_self.2 fun r hr => ?_)
      exact hregistered r (List.mem_reverse.1 hr)
    rw [revert, Action.runFrom_bind_ok hfilterM, hall, List.map_reverse] at hrun
    exact (Except.ok.inj (Prod.mk.inj hrun).1).symm

/-! ### Calls that end well -/

/-- A call ends well with a result, with a journal and without one. -/
def Returns (records : σ → List MigrationRecord) (m : Manager σ) (call : Call)
    (s : Session (Journaled σ)) (v : MigrationResult) (s' : Session (Journaled σ)) : Prop :=
  (call.action (m.watched records)).runFrom s = (.ok v, s') ∧
    (call.action m).runFrom s.unwatched = (.ok v, s'.unwatched)

theorem returns_of_watched {call : Call} {s s' : Session (Journaled σ)} {v : MigrationResult}
    (hrun : (call.action (m.watched records)).runFrom s = (.ok v, s')) :
    m.Returns records call s v s' :=
  ⟨hrun, runFrom_unwatched hrun⟩

theorem exists_returns_migrate (h : m.Keeps held records) {s : Session (Journaled σ)}
    (hsteps : (Call.migrate.action m).StepsSucceed s.unwatched) {old : List MigrationRecord}
    (hold : (s.ledger records).records = old) (hroom : Call.migrate.HasRoom held old) :
    ∃ s', m.Returns records .migrate s { executed := (m.nextRecords old).map (·.name) } s' ∧
      (s'.ledger records).records.Perm (old ++ m.nextRecords old) := by
  obtain ⟨read, failure, v, s', hrun, hperm, -, htrace⟩ := runFrom_migrate h (hold ▸ hroom)
  obtain rfl := htrace.failure_eq_none hrun (stepsSucceed_watched.2 hsteps)
  rw [hold] at hperm
  rw [nextBatch_perm hperm, notIn_perm hperm] at htrace
  have hv := executed_of_migrate h hrun
  rw [hold, ← names_nextRecords] at hv
  obtain ⟨ran, written, hreport⟩ := exists_report_of_ups htrace
  have hwritten : written = m.nextRecords old :=
    eq_nextRecords h (hreport.written_names.trans (appliedBy_of_ups hreport)) hreport.of_written
  have hrecords := hreport.records_perm
  rw [Ledger.kept_of_ups (Ledger.direction_of_steps hreport.steps_isPrefix direction_ups), hold,
    hwritten] at hrecords
  subst hv
  exact ⟨s', returns_of_watched hrun, hrecords⟩

theorem exists_returns_rollback (h : m.Keeps held records) {s : Session (Journaled σ)}
    (hsteps : (Call.rollback.action m).StepsSucceed s.unwatched)
    {old : List MigrationRecord} (hnodup : (old.map (·.name)).Nodup)
    (hpending : m.nextRecords old ≠ [])
    (hrecords : (s.ledger records).records.Perm (old ++ m.nextRecords old)) :
    ∃ s' ran, m.Returns records .rollback s
        { rolledBack := ((m.nextRecords old).map (·.name)).reverse } s' ∧
      (s'.ledger records).records.Perm old ∧
      (s'.ledger records).events = (s.ledger records).events ++ ran ∧
      Ledger.Unwinds old (m.nextRecords old) ran := by
  obtain ⟨read, s₁, hread, hsame, hperm, hsorted⟩ := h.runFrom_executed s
  have hperm := hperm.trans hrecords
  have hrollback : (m.watched records).rollback.runFrom s =
      ((m.watched records).revert (m.nextRecords old)).runFrom s₁ := by
    refine (Action.runFrom_bind_ok hread).trans ?_
    rw [max?_batch hpending hperm]
    show ((m.watched records).revert (read.filter fun r => r.batch == nextBatch old)).runFrom s₁ = _
    rw [filter_batch h hperm hsorted]
  have hrecorded : ∀ r ∈ m.nextRecords old, r.name ∈ (s₁.ledger records).names := by
    intro r hr
    rw [hsame]
    exact List.mem_map_of_mem (hrecords.mem_iff.2 (List.mem_append_right _ hr))
  obtain ⟨failure, v, s', hrevert, htrace⟩ := runFrom_revert h (nodup_nextRecords h old) hrecorded
  have htrace := htrace fun _ => False
  obtain rfl := htrace.failure_eq_none (hrollback.trans hrevert) (stepsSucceed_watched.2 hsteps)
  have hregistered := registered_nextRecords h old
  have hv : v = { rolledBack := ((m.nextRecords old).map (·.name)).reverse } := by
    refine rolledBack_of_revert (fun r hr => ?_) hrevert
    rw [find?_watched, Option.isSome_map]
    exact hregistered r hr
  rw [downs_of_registered fun r hr => hregistered r (List.mem_reverse.1 hr), List.map_reverse,
    hsame] at htrace
  obtain ⟨hrestored, ran, hevents, hran⟩ :=
    Ledger.exists_unwinds (nodup_append_nextRecords h hnodup) hrecords htrace
  subst hv
  exact ⟨s', ran, returns_of_watched (hrollback.trans hrevert), hrestored, hevents, hran⟩

/-! ### Round trips -/

/-- A call of `migrate` records a batch beside old records, and the call of `rollback` that follows it
takes exactly this batch back, the last migration first. -/
structure RoundTrip (records : σ → List MigrationRecord) (m : Manager σ)
    (s s₁ s₂ : Session (Journaled σ)) (old batch : List MigrationRecord) : Prop where
  migrates : m.Returns records .migrate s { executed := batch.map (·.name) } s₁
  rollsBack : m.Returns records .rollback s₁ { rolledBack := (batch.map (·.name)).reverse } s₂
  recorded : (s₁.ledger records).records.Perm (old ++ batch)
  restored : (s₂.ledger records).records.Perm old
  unwinds : ∃ ran, (s₂.ledger records).events = (s₁.ledger records).events ++ ran ∧
    Ledger.Unwinds old batch ran

theorem stepsSucceed_migrate_rollback (h : m.Keeps held records) {s : Session (Journaled σ)}
    {old : List MigrationRecord} (hold : (s.ledger records).records = old)
    (hnodup : (old.map (·.name)).Nodup) (hroom : Call.migrate.HasRoom held old)
    (hnever : ∀ step cause, ¬m.Fails step cause) :
    (do let _ ← m.migrate; m.rollback).StepsSucceed s.unwatched := by
  have hrun : ∃ v s', (Call.migrate.action (m.watched records)).runFrom s = (.ok v, s') :=
    exists_migrate h (hold ▸ hroom) hnever
  obtain ⟨v, s', hok⟩ := hrun
  obtain ⟨s₁, hmigrate, hrecords⟩ :=
    exists_returns_migrate h (stepsSucceed_watched.1 (.of_ok hok)) hold hroom
  have hnodup₁ : (s₁.ledger records).names.Nodup :=
    (hrecords.map _).nodup_iff.2 (nodup_append_nextRecords h hnodup)
  have hrollback : (Call.rollback.action m).StepsSucceed s₁.unwatched :=
    stepsSucceed_of_reverts (reverts_rollback h hnodup₁) hnever
  exact .bind hmigrate.2 hrollback

theorem exists_migrate_of_applied {c : Connection σ} {d : SqlDialect} (heditor : m.editor = ⟨c, .sql d⟩)
    (hkeeps : KeepsHistory c d m.history held records) {s : Session σ}
    (happlied : ∀ x ∈ m.migrations, x.name ∈ (records s.state).map (·.name)) :
    ∃ s', m.migrate.runFrom s = (.ok {}, s') ∧ records s'.state = records s.state := by
  obtain ⟨read, s', hread, hsame, hperm, -⟩ := hkeeps.runFrom_records s
  rw [← heditor] at hread
  have hnone : m.notIn read = [] := by
    rw [notIn_perm hperm, List.eq_nil_iff_forall_not_mem]
    intro x hx
    obtain ⟨hx, hnew⟩ := mem_notIn.1 hx
    exact hnew (happlied x hx)
  refine ⟨s', (Action.runFrom_bind_ok hread).trans ?_, hsame⟩
  rw [hnone]
  rfl

end Manager

/-! ### Histories with an orphan -/

namespace Memory

/-- A row of a migration that is not registered. -/
def orphan (batch : Int) : MemoryRow where
  name := "x"
  timestamp := 5
  batch := batch
  executedAt := ""

theorem not_mem_orphan (batch : Int) {name : String} (h : name ≠ "x") :
    name ∉ [(orphan batch).record].map (·.name) :=
  fun hmem => h (List.mem_singleton.1 hmem)

def recording (rows : List MemoryRow) : Session (Journaled Memory) :=
  Session.watched { state := { rows } } []

/-- A manager of a migration whose up clears the history. -/
def clearing : Manager Memory where
  editor := log
  history := logShape
  migrations := [{ name := "a", timestamp := 1, up := .step fun _ => (.ok (), {}), down := pure () }]
  clock := "2024-01-01T00:00:00+00:00"

theorem not_roundTrip_clearing {s₁ s₂ : Session (Journaled Memory)} {batch : List MigrationRecord} :
    ¬clearing.RoundTrip Memory.records (recording [orphan 1]) s₁ s₂ [(orphan 1).record] batch := by
  intro h
  have hcleared : (clearing.rollback.runFrom
      (clearing.migrate.runFrom (recording [orphan 1]).unwatched).2).2.state.rows.length = 0 := by
    decide +kernel
  have hmigrate : (clearing.migrate.runFrom (recording [orphan 1]).unwatched).2 = s₁.unwatched :=
    congrArg Prod.snd h.migrates.2
  have hrollback : (clearing.rollback.runFrom s₁.unwatched).2 = s₂.unwatched :=
    congrArg Prod.snd h.rollsBack.2
  rw [hmigrate, hrollback] at hcleared
  have hlength : s₂.unwatched.state.rows.length = 1 := by
    rw [← List.length_map (f := MemoryRow.record)]
    exact h.restored.length_eq
  rw [hcleared] at hlength
  exact absurd hlength (by decide)

end Memory

namespace Manager

variable {m : Manager σ}

/-- Where no step fails, `rollback` undoes a call of `migrate` that finds something pending, whatever
else the history records, if no step touches the history. If nothing is pending, `migrate` leaves all
records as they are. -/
theorem rollback_undoes_migrate {c : Connection σ} {d : SqlDialect} (heditor : m.editor = ⟨c, .sql d⟩)
    (hkeeps : KeepsHistory c d m.history held records) (hnames : (m.migrations.map (·.name)).Nodup)
    {s : Session (Journaled σ)} {old : List MigrationRecord} (hold : (s.ledger records).records = old)
    (hrecorded : (old.map (·.name)).Nodup) :
    ((∃ x ∈ m.migrations, x.name ∉ old.map (·.name)) → Call.migrate.HasRoom held old →
      (do let _ ← m.migrate; m.rollback).StepsSucceed s.unwatched →
      (∀ x ∈ m.migrations, x.Fits held records) →
      ∃ s₁ s₂, m.RoundTrip records s s₁ s₂ old (m.nextRecords old)) ∧
    ((∀ x ∈ m.migrations, x.name ∈ old.map (·.name)) →
      ∃ s₁, m.migrate.runFrom s.unwatched = (.ok {}, s₁) ∧ records s₁.state = old) := by
  refine ⟨fun ⟨x, hx, hnew⟩ hroom hsteps hfits => ?_, fun happlied => ?_⟩
  · have h : m.Keeps held records := ⟨⟨c, d, heditor, hkeeps⟩, hnames, hfits⟩
    have hpending : m.nextRecords old ≠ [] :=
      List.ne_nil_of_mem (List.mem_map_of_mem (mem_notIn.2 ⟨hx, hnew⟩))
    obtain ⟨s₁, hmigrate, hrecords⟩ := exists_returns_migrate h hsteps.first hold hroom
    have hrolls : (Call.rollback.action m).StepsSucceed s₁.unwatched := hsteps.rest hmigrate.2
    obtain ⟨s₂, ran, hrollback, hrestored, hevents, hran⟩ :=
      exists_returns_rollback h hrolls hrecorded hpending hrecords
    exact ⟨s₁, s₂, hmigrate, hrollback, hrecords, hrestored, ran, hevents, hran⟩
  · subst hold
    exact exists_migrate_of_applied heditor hkeeps happlied

end Manager

/-- The round trip leaves a record of a migration that is not registered, and where everything is applied
nothing changes. -/
theorem rollback_undoes_migrate_of_orphan :
    (∃ s₁ s₂, Memory.late.RoundTrip Memory.records (Memory.recording [Memory.orphan 7]) s₁ s₂
      [(Memory.orphan 7).record] (Memory.late.nextRecords [(Memory.orphan 7).record])) ∧
    ∃ s₁, Memory.early.migrate.runFrom
        (Memory.recording [⟨"b", 2, 1, ""⟩, Memory.orphan 7]).unwatched = (.ok {}, s₁) ∧
      Memory.records s₁.state =
        [(MemoryRow.mk "b" 2 1 "").record, (Memory.orphan 7).record] := by
  constructor
  · have hpending : ∃ x ∈ Memory.late.migrations, x.name ∉ [(Memory.orphan 7).record].map (·.name) :=
      ⟨_, List.mem_cons_self, Memory.not_mem_orphan 7 (by decide)⟩
    have hfits : ∀ x ∈ Memory.late.migrations, x.Fits Memory.held Memory.records :=
      List.forall_mem_cons.2 ⟨Memory.fits_migration _ (by decide) _,
        List.forall_mem_singleton.2 (Memory.fits_migration _ (by decide) _)⟩
    have hkeeps : Memory.late.Keeps Memory.held Memory.records :=
      ⟨⟨_, _, rfl, Memory.keepsHistory_log⟩, by decide, hfits⟩
    have hroom : Call.migrate.HasRoom Memory.held [(Memory.orphan 7).record] := by
      show Memory.held 8
      decide
    have hold : ((Memory.recording [Memory.orphan 7]).ledger Memory.records).records =
        [(Memory.orphan 7).record] := rfl
    have hsteps := Manager.stepsSucceed_migrate_rollback hkeeps hold (by decide) hroom
      Memory.not_fails_late
    exact (Manager.rollback_undoes_migrate rfl Memory.keepsHistory_log (by decide) hold (by decide)).1
      hpending hroom hsteps hfits
  · have hold : ((Memory.recording [⟨"b", 2, 1, ""⟩, Memory.orphan 7]).ledger Memory.records).records =
        [(MemoryRow.mk "b" 2 1 "").record, (Memory.orphan 7).record] := rfl
    exact (Manager.rollback_undoes_migrate rfl Memory.keepsHistory_log (by decide) hold (by decide)).2
      (List.forall_mem_singleton.2 (by decide))

/-- A step that takes a record of the history away breaks the round trip. -/
theorem not_rollback_undoes_migrate :
    KeepsHistory Memory.log.connection { engine := .sqlite } Memory.logShape Memory.held Memory.records ∧
    (∀ x ∈ Memory.clearing.migrations, Memory.held x.timestamp) ∧
    Call.migrate.HasRoom Memory.held [(Memory.orphan 1).record] ∧
    (∃ x ∈ Memory.clearing.migrations, x.name ∉ [(Memory.orphan 1).record].map (·.name)) ∧
    (do let _ ← Memory.clearing.migrate; Memory.clearing.rollback).StepsSucceed
      (Memory.recording [Memory.orphan 1]).unwatched ∧
    ¬∃ s₁ s₂, Memory.clearing.RoundTrip Memory.records (Memory.recording [Memory.orphan 1]) s₁ s₂
      [(Memory.orphan 1).record] (Memory.clearing.nextRecords [(Memory.orphan 1).record]) := by
  have hroom : Call.migrate.HasRoom Memory.held [(Memory.orphan 1).record] := by
    show Memory.held 2
    decide
  have hok : ((do let _ ← Memory.clearing.migrate; Memory.clearing.rollback).runFrom
      (Memory.recording [Memory.orphan 1]).unwatched).1.isOk = true := by
    decide +kernel
  exact ⟨Memory.keepsHistory_log, List.forall_mem_singleton.2 (by decide), hroom,
    ⟨_, List.mem_cons_self, Memory.not_mem_orphan 1 (by decide)⟩, .of_isOk hok,
    fun ⟨_, _, h⟩ => Memory.not_roundTrip_clearing h⟩

end Polystore

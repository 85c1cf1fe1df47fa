import Polystore.Proofs.Migration.Order
import Polystore.Proofs.Migration.Truth

/-!
# The order of reverting

Migrations are applied batch by batch, and reverted against the order of their places. The two agree
exactly if no migration has been applied after one that comes later in that order.
-/

namespace Polystore

variable {σ : Type} {held : Int → Prop} {records : σ → List MigrationRecord}

/-- The states that successful calls of `add` and `migrate` reach from an empty history. -/
inductive Migrated (ed : Editor σ) (table : String) (held : Int → Prop)
    (records : σ → List MigrationRecord) : Manager σ → Session (Journaled σ) → Prop where
  | start {m : Manager σ} {s : Session σ} {clock : String} {migrations : List (Migration σ)}
      (hfits : ∀ x ∈ migrations, x.Fits held records)
      (hm : Manager.create ed clock table migrations = .ok m) (hempty : records s.state = []) :
      Migrated ed table held records m (s.watched [])
  | add {m m' : Manager σ} {s : Session (Journaled σ)} {x : Migration σ}
      (h : Migrated ed table held records m s) (hfits : x.Fits held records) (hm : m.add x = .ok m') :
      Migrated ed table held records m' s
  | migrate {m : Manager σ} {s s' : Session (Journaled σ)} {v : MigrationResult}
      (h : Migrated ed table held records m s)
      (hroom : Call.migrate.HasRoom held (s.ledger records).records)
      (hrun : (m.watched records).migrate.runFrom s = (.ok v, s')) :
      Migrated ed table held records m s'

theorem Migrated.reachable {ed : Editor σ} {table : String} {m : Manager σ}
    {s : Session (Journaled σ)} (h : Migrated ed table held records m s) :
    Reachable ed table held records m s := by
  induction h with
  | start hfits hm hempty => exact .start hfits hm hempty
  | add _ hfits hm ih => exact .add ih hfits hm
  | @migrate m s s' v _ hroom hrun ih =>
    have hcall := Reachable.call ih hroom
    have hstate : ((Call.migrate.action (m.watched records)).runFrom s).2 = s' :=
      congrArg Prod.snd hrun
    rwa [hstate] at hcall

/-- A call ends well and runs the downs of names, the last one first, and nothing else. -/
def Undoes (records : σ → List MigrationRecord) (m : Manager σ) (call : Call)
    (s : Session (Journaled σ)) (names : List String) : Prop :=
  ∃ v s' ran, (call.action (m.watched records)).runFrom s = (.ok v, s') ∧
    (call.action m).runFrom s.unwatched = (.ok v, s'.unwatched) ∧
    (s'.ledger records).events = (s.ledger records).events ++ ran ∧
    ran.map (·.step) = names.reverse.map (Step.mk .down) ∧ ∀ e ∈ ran, e.succeeded

theorem undoes_unique {m : Manager σ} {call : Call} {s : Session (Journaled σ)}
    {names names' : List String} (h : Undoes records m call s names)
    (h' : Undoes records m call s names') : names = names' := by
  obtain ⟨v, s₁, ran, hrun, -, hevents, hsteps, -⟩ := h
  obtain ⟨v', s₂, ran', hrun', -, hevents', hsteps', -⟩ := h'
  rw [hrun] at hrun'
  obtain ⟨-, rfl⟩ := Prod.mk.inj hrun'
  rw [hevents] at hevents'
  have hran := List.append_cancel_left hevents'
  rw [← hran, hsteps] at hsteps'
  have hinjective : Function.Injective (Step.mk .down) := fun _ _ heq => (Step.mk.inj heq).2
  exact List.reverse_injective (hinjective.list_map hsteps')

namespace Manager

variable {m : Manager σ}

/-! ### Histories that only grow -/

/-- What is recorded has been applied and not reverted, and is registered. -/
structure Grows (records : σ → List MigrationRecord) (m : Manager σ) (s : Session (Journaled σ)) :
    Prop where
  names_perm : (s.ledger records).names.Perm (Ledger.appliedBy (s.ledger records).events)
  registered : ∀ r ∈ (s.ledger records).records,
    ∃ x ∈ m.migrations, x.name = r.name ∧ x.timestamp = r.timestamp

theorem mem_of_add {x y : Migration σ} {m' : Manager σ} (hm : m.add x = .ok m')
    (hy : y ∈ m.migrations) : y ∈ m'.migrations := by
  unfold add at hm
  split at hm
  · exact absurd hm throw_ne_ok
  · rw [pure_eq_ok] at hm
    subst hm
    exact List.mem_append_left _ hy

theorem grows_migrate (h : m.Keeps held records) {s s' : Session (Journaled σ)} {v : MigrationResult}
    (hroom : Call.migrate.HasRoom held (s.ledger records).records)
    (hrun : (m.watched records).migrate.runFrom s = (.ok v, s')) (hs : m.Grows records s) :
    m.Grows records s' ∧ ∃ read, read.Perm (s.ledger records).records ∧
      Ledger.appliedBy (s'.ledger records).events =
        Ledger.appliedBy (s.ledger records).events ++ (m.notIn read).map (·.name) ∧
      ∀ r ∈ (s'.ledger records).records,
        r ∈ (s.ledger records).records ∨ r.batch = nextBatch read := by
  obtain ⟨read, failure, v', s₁, hrun', hperm, -, htrace⟩ := runFrom_migrate h hroom
  rw [hrun] at hrun'
  obtain ⟨houtcome, rfl⟩ := Prod.mk.inj hrun'
  cases failure with
  | some e => exact absurd houtcome (by simp [Action.outcomeOf])
  | none =>
    obtain ⟨ran, written, hreport⟩ := exists_report_of_ups htrace
    have hups := Ledger.direction_of_steps hreport.steps_isPrefix direction_ups
    have hrecords := hreport.records_perm
    rw [Ledger.kept_of_ups hups] at hrecords
    have happlied : Ledger.appliedBy (s'.ledger records).events =
        Ledger.appliedBy (s.ledger records).events ++ Ledger.appliedBy ran := by
      rw [hreport.events_eq, Ledger.appliedBy, List.filter_append, List.map_append]
      rfl
    refine ⟨⟨?_, fun r hr => ?_⟩, read, hperm, ?_, fun r hr => ?_⟩
    · rw [happlied, ← hreport.written_names]
      refine (hrecords.map _).trans ?_
      rw [List.map_append]
      exact hs.names_perm.append_right _
    · rcases List.mem_append.1 (hrecords.mem_iff.1 hr) with hr | hr
      · exact hs.registered r hr
      · obtain ⟨x, hx, rfl⟩ := hreport.of_written r hr
        exact ⟨x, hx, rfl, rfl⟩
    · rw [happlied, appliedBy_of_ups hreport]
    · refine (List.mem_append.1 (hrecords.mem_iff.1 hr)).imp_right fun hr => ?_
      obtain ⟨x, -, rfl⟩ := hreport.of_written r hr
      rfl

theorem exists_migrate (h : m.Keeps held records) {s : Session (Journaled σ)}
    (hroom : Call.migrate.HasRoom held (s.ledger records).records)
    (hnever : ∀ step cause, ¬m.Fails step cause) :
    ∃ v s', (m.watched records).migrate.runFrom s = (.ok v, s') := by
  obtain ⟨read, failure, v, s', hrun, -, -, htrace⟩ := runFrom_migrate h hroom
  obtain rfl := htrace.failure_eq_none_of_never hnever
  exact ⟨v, s', hrun⟩

theorem stepsSucceed_of_reverts {call : Call} {s : Session (Journaled σ)}
    (hcall : m.Reverts records call s) (hnever : ∀ step cause, ¬m.Fails step cause) :
    (call.action m).StepsSucceed s.unwatched := by
  obtain ⟨read, failure, v, s', hrun, -, -, htrace⟩ := hcall
  obtain rfl := (htrace fun _ => False).failure_eq_none_of_never hnever
  suffices h : (call.action (m.watched records)).StepsSucceed s from stepsSucceed_watched.1 h
  intro direction name cause herror
  rw [hrun] at herror
  rcases call.refusal?_cases read with haccepted | ⟨name', hrefused⟩
  · rw [haccepted] at herror
    cases herror
  · rw [hrefused] at herror
    cases herror

end Manager

theorem Migrated.grows {c : Connection σ} {d : SqlDialect} {shape : TableShape} {table : String}
    {m : Manager σ} {s : Session (Journaled σ)} (hshape : History.shape table = .ok shape)
    (hkeeps : KeepsHistory c d shape held records) (h : Migrated ⟨c, .sql d⟩ table held records m s) :
    m.Grows records s := by
  induction h with
  | @start m s clock migrations _ _ hempty =>
    have hrecords : ((s.watched []).ledger records).records = [] := hempty
    refine ⟨?_, ?_⟩
    · rw [Ledger.names, hrecords]
      exact List.Perm.refl _
    · rw [hrecords]
      exact fun r hr => absurd hr List.not_mem_nil
  | add _ _ hm ih =>
    refine ⟨ih.names_perm, fun r hr => ?_⟩
    obtain ⟨x, hx, hname⟩ := ih.registered r hr
    exact ⟨x, Manager.mem_of_add hm hx, hname⟩
  | migrate h hroom hrun ih =>
    exact (Manager.grows_migrate (h.reachable.keeps hshape hkeeps) hroom hrun ih).1

/-! ### Reverting -/

namespace Manager

variable {m : Manager σ}

theorem downs_of_registered {rs : List MigrationRecord}
    (h : ∀ r ∈ rs, (m.find? r.name).isSome) :
    m.downs rs = (rs.map (·.name)).map (Step.mk .down) := by
  rw [downs, List.filter_eq_self.2 h, List.map_map]
  rfl

theorem names_of_read (h : m.Keeps held records) {s : Session (Journaled σ)} (hs : m.Grows records s)
    {read : List MigrationRecord} (hperm : read.Perm (s.ledger records).records)
    (hsorted : read.Pairwise fun a b => a.comesBefore b) :
    (read.map (·.name)).Perm (Ledger.appliedBy (s.ledger records).events) ∧
      (read.map (·.name)).Pairwise fun a b => m.place a ≤ m.place b := by
  refine ⟨(hperm.map _).trans hs.names_perm, ?_⟩
  rw [List.pairwise_map]
  refine hsorted.imp_of_mem fun ha hb hab => ?_
  obtain ⟨x, hx, hname, htime⟩ := hs.registered _ (hperm.mem_iff.1 ha)
  obtain ⟨y, hy, hname', htime'⟩ := hs.registered _ (hperm.mem_iff.1 hb)
  rw [← hname, ← hname', place_of_mem h hx, place_of_mem h hy, Migration.place, Migration.place,
    hname, hname', htime, htime']
  exact MigrationRecord.place_le.1 hab

/-- Where everything recorded is registered and no step of the call fails, it undoes what it chooses of the
records that it reads. -/
theorem undoes_of_reverts (h : m.Keeps held records) {s : Session (Journaled σ)}
    (hs : m.Grows records s) {call : Call} (hcall : m.Reverts records call s)
    (haccepted : ∀ read : List MigrationRecord, read.Perm (s.ledger records).records →
      call.refusal? read = none)
    (hsteps : (call.action m).StepsSucceed s.unwatched)
    (choose : List MigrationRecord → List MigrationRecord)
    (hchoose : ∀ read, (choose read).Sublist read)
    (hplan : ∀ read, call.plan m read = m.downs (choose read).reverse) :
    ∃ read, read.Perm (s.ledger records).records ∧ (read.Pairwise fun a b => a.comesBefore b) ∧
      Undoes records m call s ((choose read).map (·.name)) := by
  obtain ⟨read, failure, v, s', hrun, hperm, hsorted, htrace⟩ := hcall
  refine ⟨read, hperm, hsorted, ?_⟩
  have htrace := htrace fun _ => False
  rw [haccepted read hperm, Option.none_or] at hrun
  obtain rfl := htrace.failure_eq_none hrun (stepsSucceed_watched.2 hsteps)
  have hregistered : ∀ r ∈ (choose read).reverse, (m.find? r.name).isSome := by
    intro r hr
    obtain ⟨x, hx, hname, -⟩ :=
      hs.registered r (hperm.mem_iff.1 ((hchoose read).subset (List.mem_reverse.1 hr)))
    rw [← hname, find?_of_mem h hx]
    rfl
  have hplanned := hplan read
  rw [downs_of_registered hregistered] at hplanned
  rw [hplan] at htrace
  obtain ⟨ran, hreport⟩ := exists_report_of_downs htrace
  refine ⟨v, s', ran, hrun, runFrom_unwatched hrun, hreport.events_eq, ?_,
    fun e he => hreport.succeeded_of_none he⟩
  rw [hreport.complete rfl, ← hplan, hplanned, List.map_reverse]

end Manager

/-! ### A migration that is registered late -/

namespace Memory

def early : Manager Memory where
  editor := log
  history := logShape
  migrations := [migration "b" 2 true]
  clock := "2024-01-01T00:00:00+00:00"

/-- The manager with a migration that comes before the one that is applied. -/
def late : Manager Memory :=
  { early with migrations := [migration "b" 2 true, migration "a" 1 true] }

theorem create_early : Manager.create log "2024-01-01T00:00:00+00:00" "log"
    [migration "b" 2 true] = .ok early := by
  rw [Manager.create, shape_log]
  rfl

theorem add_late : early.add (migration "a" 1 true) = .ok late := by
  rfl

theorem step_migration (name : String) (timestamp : Int) (direction : Direction) (s : Session Memory) :
    (((migration name timestamp true).step direction).runFrom s).1 = .ok () := by
  cases direction
  · rfl
  · rfl

theorem not_fails_late (step : Step) (cause : Error) : ¬late.Fails step cause := by
  rintro ⟨x, hx, -, s, hfails⟩
  have hok : ∀ x ∈ late.migrations, ∀ direction s, ((x.step direction).runFrom s).1 = .ok () :=
    List.forall_mem_cons.2 ⟨step_migration "b" 2, List.forall_mem_singleton.2 (step_migration "a" 1)⟩
  rw [hok x hx] at hfails
  cases hfails

theorem not_fails_early (step : Step) (cause : Error) : ¬early.Fails step cause := by
  rintro ⟨x, hx, h⟩
  exact not_fails_late step cause ⟨x, List.mem_cons.2 (.inl (List.mem_singleton.1 hx)), h⟩

theorem hasRoom_of_ones {rs : List MigrationRecord} (h : ∀ r ∈ rs, r.batch = 1) :
    Call.migrate.HasRoom Memory.held rs := by
  show Memory.held (Manager.nextBatch rs)
  rw [Manager.nextBatch]
  cases hlast : (rs.map (·.batch)).max? with
  | none =>
    rw [Option.getD_none]
    decide
  | some last =>
    obtain ⟨r, hr, hbatch⟩ := List.mem_map.1 (List.max?_eq_some_iff.1 hlast).1
    rw [← hbatch, h r hr, Option.getD_some]
    decide

theorem exists_migrated {m : Manager Memory} {s : Session (Journaled Memory)}
    (h : Migrated log "log" Memory.held Memory.records m s) (hnever : ∀ step cause, ¬m.Fails step cause)
    (hones : ∀ r ∈ (s.ledger Memory.records).records, r.batch = 1) :
    ∃ s' read, Migrated log "log" Memory.held Memory.records m s' ∧
      read.Perm (s.ledger Memory.records).records ∧
      Ledger.appliedBy s'.state.events =
        Ledger.appliedBy s.state.events ++ (m.notIn read).map (·.name) ∧
      ∀ r ∈ (s'.ledger Memory.records).records,
        r ∈ (s.ledger Memory.records).records ∨ r.batch = Manager.nextBatch read := by
  have hkeeps := h.reachable.keeps shape_log keepsHistory_log
  have hroom := hasRoom_of_ones hones
  obtain ⟨v, s', hrun⟩ := Manager.exists_migrate hkeeps hroom hnever
  obtain ⟨-, read, hread⟩ :=
    Manager.grows_migrate hkeeps hroom hrun (h.grows shape_log keepsHistory_log)
  exact ⟨s', read, .migrate h hroom hrun, hread⟩

theorem exists_early : ∃ s, Migrated log "log" Memory.held Memory.records early s ∧
    Ledger.appliedBy s.state.events = ["b"] ∧
    ∀ r ∈ (s.ledger Memory.records).records, r.batch = 1 := by
  have hstart : Migrated log "log" Memory.held Memory.records early (Session.watched { state := {} } []) :=
    .start (List.forall_mem_singleton.2 (fits_migration _ (by decide) _)) create_early rfl
  obtain ⟨s, read, h, hperm, happlied, hbatch⟩ :=
    exists_migrated hstart not_fails_early fun r hr => absurd hr List.not_mem_nil
  have hread : read = [] := hperm.eq_nil
  have hpending : (early.notIn read).map (·.name) = ["b"] := by
    rw [hread, Manager.notIn, Manager.ordered, early, List.mergeSort_singleton]
    rfl
  refine ⟨s, h, happlied.trans hpending, fun r hr => ?_⟩
  rcases hbatch r hr with hr | hr
  · exact absurd hr List.not_mem_nil
  · rw [hr, hread]
    rfl

/-- The migration that comes first is applied last. -/
theorem exists_late : ∃ s, Migrated log "log" Memory.held Memory.records late s ∧
    Ledger.appliedBy s.state.events = ["b", "a"] := by
  obtain ⟨s, hearly, happlied, hones⟩ := exists_early
  have hadd : Migrated log "log" Memory.held Memory.records late s :=
    .add hearly (fits_migration _ (by decide) _) add_late
  obtain ⟨s', read, h, hperm, happlied', -⟩ := exists_migrated hadd not_fails_late hones
  have hnames : (read.map (·.name)).Perm ["b"] :=
    (hperm.map _).trans (happlied ▸ (hearly.grows shape_log keepsHistory_log).names_perm)
  have hpending : (late.notIn read).map (·.name) = ["a"] := by
    have hrecorded : ∀ name, (read.any fun r => r.name == name) = (name == "b") := by
      intro name
      rw [Bool.eq_iff_iff, List.any_eq_true, beq_iff_eq, ← List.mem_singleton (b := "b"),
        ← hnames.mem_iff, List.mem_map]
      simp
    have hperm : (late.notIn read).Perm [migration "a" 1 true] := by
      rw [Manager.notIn]
      simp only [hrecorded]
      exact (List.mergeSort_perm _ _).filter _
    rw [List.perm_singleton.1 hperm]
    rfl
  rw [happlied, hpending] at happlied'
  exact ⟨s', h, happlied'⟩

end Memory

/-! ### Last in, first out -/

variable {c : Connection σ} {d : SqlDialect} {shape : TableShape} {table : String}
  {m : Manager σ} {s : Session (Journaled σ)}

theorem Migrated.exists_undoes (hshape : History.shape table = .ok shape)
    (hkeeps : KeepsHistory c d shape held records) (h : Migrated ⟨c, .sql d⟩ table held records m s) :
    ∃ sorted : List String, sorted.Perm (Ledger.appliedBy s.state.events) ∧
      (sorted.Pairwise fun a b => m.place a ≤ m.place b) ∧
      (m.reset.StepsSucceed s.unwatched → Undoes records m .reset s sorted) ∧
      ∀ name ∈ Ledger.appliedBy s.state.events, (m.rollbackTo name).StepsSucceed s.unwatched →
        Undoes records m (.rollbackTo name) s ((sorted.dropWhile fun a => a != name).drop 1) := by
  have hm := h.reachable.keeps hshape hkeeps
  have hnodup := (h.reachable.truthful hshape hkeeps).nodup
  have hs := h.grows hshape hkeeps
  obtain ⟨read, -, -, -, hread, hreadsorted⟩ := hm.runFrom_executed s
  obtain ⟨hperm, hsorted⟩ := Manager.names_of_read hm hs hread hreadsorted
  have hsame : ∀ {read' : List MigrationRecord}, read'.Perm (s.ledger records).records →
      (read'.Pairwise fun a b => a.comesBefore b) → read'.map (·.name) = read.map (·.name) := by
    intro read' hread' hsorted'
    obtain ⟨hperm', hsorted'⟩ := Manager.names_of_read hm hs hread' hsorted'
    exact Manager.eq_of_pairwise (hperm'.trans hperm.symm) hsorted' hsorted
  refine ⟨read.map (·.name), hperm, hsorted, fun hsteps => ?_, fun name hname hsteps => ?_⟩
  · obtain ⟨read', hread', hsorted', hreset⟩ := Manager.undoes_of_reverts hm hs
      (Manager.reverts_reset hm hnodup) (fun _ _ => rfl) hsteps id (fun _ => List.Sublist.refl _)
      fun _ => rfl
    rw [← hsame hread' hsorted']
    exact hreset
  · have haccepted : ∀ read : List MigrationRecord, read.Perm (s.ledger records).records →
        (Call.rollbackTo name).refusal? read = none := by
      intro read hread
      obtain ⟨r, hr, hrname⟩ := List.mem_map.1 (hs.names_perm.mem_iff.2 hname)
      have hany : (read.any fun r => r.name == name) = true :=
        List.any_eq_true.2 ⟨r, hread.mem_iff.2 hr, beq_iff_eq.2 hrname⟩
      exact if_pos hany
    obtain ⟨read', hread', hsorted', hrollback⟩ := Manager.undoes_of_reverts hm hs
      (Manager.reverts_rollbackTo hm hnodup name) haccepted hsteps
      (fun read => (read.dropWhile fun r => r.name != name).drop 1)
      (fun _ => (List.drop_sublist 1 _).trans (List.dropWhile_sublist _)) fun _ => rfl
    rw [← hsame hread' hsorted', List.dropWhile_map, ← List.map_drop]
    exact hrollback

/-- After calls of `add` and `migrate` that succeed, `reset` reverts last in, first out exactly if the ups
have run in the order of timestamps and names, and `rollbackTo` exactly if this holds from its migration on
and nothing before it comes later; in both cases if no down fails. -/
theorem undoes_last_in_first_out_iff (hshape : History.shape table = .ok shape)
    (hkeeps : KeepsHistory c d shape held records) (h : Migrated ⟨c, .sql d⟩ table held records m s) :
    (m.reset.StepsSucceed s.unwatched →
      (Undoes records m .reset s (Ledger.appliedBy s.state.events) ↔
        (Ledger.appliedBy s.state.events).Pairwise m.InOrder)) ∧
    ∀ earlier name later, Ledger.appliedBy s.state.events = earlier ++ name :: later →
      (m.rollbackTo name).StepsSucceed s.unwatched →
      (Undoes records m (.rollbackTo name) s later ↔
        (∀ a ∈ earlier, m.InOrder a name) ∧ (name :: later).Pairwise m.InOrder) := by
  have hm := h.reachable.keeps hshape hkeeps
  have hnodup := (h.reachable.truthful hshape hkeeps).nodup
  have hs := h.grows hshape hkeeps
  have hregistered : ∀ a ∈ Ledger.appliedBy s.state.events, a ∈ m.migrations.map (·.name) := by
    intro a ha
    obtain ⟨r, hr, rfl⟩ := List.mem_map.1 (hs.names_perm.mem_iff.2 ha)
    obtain ⟨x, hx, hname, -⟩ := hs.registered r hr
    exact List.mem_map.2 ⟨x, hx, hname⟩
  obtain ⟨sorted, hperm, hsorted, hreset, hrollback⟩ := h.exists_undoes hshape hkeeps
  refine ⟨fun hsteps => ?_, fun earlier name later hsplit hsteps => ?_⟩
  · have hreset := hreset hsteps
    rw [Manager.pairwise_inOrder_iff hm hregistered]
    constructor
    · intro hlast
      rw [undoes_unique hlast hreset]
      exact hsorted
    · intro hpairwise
      rw [← Manager.eq_of_pairwise hperm hsorted hpairwise]
      exact hreset
  · have hrollback := hrollback name (hsplit ▸ List.mem_append_right _ List.mem_cons_self) hsteps
    have hnodup' : (Ledger.appliedBy s.state.events).Nodup := hs.names_perm.nodup_iff.1 hnodup
    rw [hsplit] at hregistered hperm hnodup'
    have hname := hregistered name (List.mem_append_right _ List.mem_cons_self)
    have hearlier : (∀ a ∈ earlier, m.InOrder a name) ↔ ∀ a ∈ earlier, m.place a ≤ m.place name :=
      forall₂_congr fun a ha => Manager.inOrder_iff hm (hregistered a (List.mem_append_left _ ha)) hname
    rw [Manager.pairwise_inOrder_iff hm fun a ha => hregistered a (List.mem_append_right _ ha),
      hearlier, ← Manager.later_eq_iff hperm hnodup' hsorted]
    constructor
    · exact fun hlast => undoes_unique hlast hrollback
    · intro heq
      rw [heq]
      exact hrollback

namespace Memory

theorem stepsSucceed_late {s : Session (Journaled Memory)}
    (h : Migrated log "log" Memory.held Memory.records late s) :
    (Call.reset.action late).StepsSucceed s.unwatched ∧
      ∀ name, ((Call.rollbackTo name).action late).StepsSucceed s.unwatched := by
  have hkeeps := h.reachable.keeps shape_log keepsHistory_log
  have hnodup := (h.reachable.truthful shape_log keepsHistory_log).nodup
  exact ⟨Manager.stepsSucceed_of_reverts (Manager.reverts_reset hkeeps hnodup) not_fails_late,
    fun name => Manager.stepsSucceed_of_reverts (Manager.reverts_rollbackTo hkeeps hnodup name)
      not_fails_late⟩

end Memory

/-- Out of order the equivalence holds too. -/
theorem undoes_last_in_first_out_iff_of_late :
    ∃ s, Migrated Memory.log "log" Memory.held Memory.records Memory.late s ∧
      (Undoes Memory.records Memory.late .reset s (Ledger.appliedBy s.state.events) ↔
        (Ledger.appliedBy s.state.events).Pairwise Memory.late.InOrder) ∧
      ∀ earlier name later, Ledger.appliedBy s.state.events = earlier ++ name :: later →
        (Undoes Memory.records Memory.late (.rollbackTo name) s later ↔
          (∀ a ∈ earlier, Memory.late.InOrder a name) ∧
            (name :: later).Pairwise Memory.late.InOrder) := by
  obtain ⟨s, h, -⟩ := Memory.exists_late
  obtain ⟨hreset, hrollback⟩ := Memory.stepsSucceed_late h
  have hiff := undoes_last_in_first_out_iff Memory.shape_log Memory.keepsHistory_log h
  exact ⟨s, h, hiff.1 hreset, fun earlier name later hsplit =>
    hiff.2 earlier name later hsplit (hrollback name)⟩

/-- A migration that is registered late is applied last, and reverted last too; going back to the one
before it leaves it. -/
theorem not_last_in_first_out_of_late :
    ∃ s, Migrated Memory.log "log" Memory.held Memory.records Memory.late s ∧
      Ledger.appliedBy s.state.events = ["b", "a"] ∧
      Undoes Memory.records Memory.late .reset s ["a", "b"] ∧
      ¬Undoes Memory.records Memory.late .reset s ["b", "a"] ∧
      Undoes Memory.records Memory.late (.rollbackTo "b") s [] ∧
      ¬Undoes Memory.records Memory.late (.rollbackTo "b") s ["a"] := by
  obtain ⟨s, h, happlied⟩ := Memory.exists_late
  obtain ⟨hreset, hrollback⟩ := Memory.stepsSucceed_late h
  obtain ⟨sorted, hperm, hsorted, hundoes, hundoesTo⟩ :=
    h.exists_undoes Memory.shape_log Memory.keepsHistory_log
  have hundoes := hundoes hreset
  rw [happlied] at hperm hundoesTo
  have hplaces : ["a", "b"].Pairwise fun a b => Memory.late.place a ≤ Memory.late.place b := by
    have hle : Memory.late.place "a" ≤ Memory.late.place "b" :=
      Prod.Lex.toLex_le_toLex.2 (.inl (by decide))
    exact List.pairwise_pair.2 hle
  have hsame : sorted = ["a", "b"] :=
    Manager.eq_of_pairwise (hperm.trans (List.Perm.swap "a" "b" [])) hsorted hplaces
  have hundoesTo := hundoesTo "b" List.mem_cons_self (hrollback "b")
  rw [hsame] at hundoes hundoesTo
  refine ⟨s, h, happlied, hundoes, fun hlast => ?_, hundoesTo, fun hlast => ?_⟩
  · exact absurd (undoes_unique hlast hundoes) (by decide)
  · exact absurd (undoes_unique hlast hundoesTo) (by decide)

end Polystore

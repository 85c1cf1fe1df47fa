import Polystore.Proofs.Migration.Bookkeeping
import Polystore.Proofs.Migration.Rollback

/-!
# Registration

Migrations are registered in some order, and run in the order of their places. Names are distinct, so no
two migrations have one place, and the order in which they run is the same in whichever order they were
registered.

Main statement: `migrates_alike`.
-/

namespace Polystore

variable {σ : Type}

namespace Manager

variable {m m' : Manager σ}

/-! ### One order -/

theorem eq_of_place_eq (h : (m.migrations.map (·.name)).Nodup) {x y : Migration σ}
    (hx : x ∈ m.migrations) (hy : y ∈ m.migrations) (hplace : x.place = y.place) : x = y :=
  List.inj_on_of_nodup_map h hx hy (Prod.mk.inj (toLex_inj.1 hplace)).2

theorem ordered_eq_of_perm (h : (m.migrations.map (·.name)).Nodup)
    (hperm : m'.migrations.Perm m.migrations) : m'.ordered = m.ordered := by
  have hordered : m'.ordered.Perm m.ordered :=
    (List.mergeSort_perm _ _).trans (hperm.trans (List.mergeSort_perm _ _).symm)
  refine hordered.eq_of_pairwise (fun x y hx hy hxy hyx => ?_) pairwise_ordered pairwise_ordered
  exact eq_of_place_eq h (hperm.mem_iff.1 (mem_ordered.1 hx)) (mem_ordered.1 hy)
    (le_antisymm (Migration.place_le.1 hxy) (Migration.place_le.1 hyx))

theorem pairwise_place_ordered (h : (m.migrations.map (·.name)).Nodup) :
    m.ordered.Pairwise fun x y => x.place < y.place := by
  have hnodup : m.ordered.Nodup :=
    ((List.mergeSort_perm _ _).nodup_iff).2 (List.Nodup.of_map _ h)
  refine (pairwise_ordered.and hnodup).imp_of_mem fun hx hy hxy => ?_
  exact lt_of_le_of_ne (Migration.place_le.1 hxy.1) fun hplace =>
    hxy.2 (eq_of_place_eq h (mem_ordered.1 hx) (mem_ordered.1 hy) hplace)

/-! ### Registering -/

/-- A manager of some migrations given at once, and of others added later. -/
def register (editor : Editor σ) (clock table : String) (given added : List (Migration σ)) :
    Except Error (Manager σ) := do
  let m ← create editor clock table given
  added.foldlM add m

theorem add_eq {x : Migration σ} (h : x.name ∉ m.migrations.map (·.name)) :
    m.add x = .ok { m with migrations := m.migrations ++ [x] } := by
  have hfree : m.find? x.name = none := by
    refine List.find?_eq_none.2 fun y hy hname => h ?_
    rw [← beq_iff_eq.1 hname]
    exact List.mem_map_of_mem hy
  rw [add, hfree]
  rfl

theorem foldlM_add_eq {xs : List (Migration σ)} (h : ((m.migrations ++ xs).map (·.name)).Nodup) :
    xs.foldlM add m = .ok { m with migrations := m.migrations ++ xs } := by
  induction xs generalizing m with
  | nil => rw [List.append_nil]; rfl
  | cons x xs ih =>
    have hfree : x.name ∉ m.migrations.map (·.name) := by
      rw [List.map_append, List.nodup_append] at h
      exact fun hmem => h.2.2 _ hmem _ List.mem_cons_self rfl
    rw [List.append_cons] at h ⊢
    rw [List.foldlM_cons, add_eq hfree]
    exact ih h

theorem register_eq (editor : Editor σ) (clock table : String) {given added : List (Migration σ)}
    (h : ((given ++ added).map (·.name)).Nodup) :
    register editor clock table given added = (History.shape table).map fun history =>
      { editor, history, clock, migrations := given ++ added } := by
  unfold register create
  cases History.shape table with
  | error e => rfl
  | ok history =>
    have hgiven : given.foldlM add { editor, history, clock } =
        .ok { editor, history, clock, migrations := given } :=
      foldlM_add_eq (m := { editor, history, clock })
        ((List.sublist_append_left given added).map _ |>.nodup h)
    have hadded : added.foldlM add { editor, history, clock, migrations := given } =
        .ok { editor, history, clock, migrations := given ++ added } :=
      foldlM_add_eq (m := { editor, history, clock, migrations := given }) h
    show (given.foldlM add { editor, history, clock } >>= fun m => added.foldlM add m) = _
    rw [hgiven]
    exact hadded

/-! ### Running -/

/-- Two managers that differ at most in the order in which their migrations were registered. -/
structure Alike (m m' : Manager σ) : Prop where
  editor : m'.editor = m.editor
  history : m'.history = m.history
  clock : m'.clock = m.clock
  perm : m'.migrations.Perm m.migrations

theorem Alike.ran (h : Alike m m') {deed : Deed} {s s' : Session σ} {failure : Option Error}
    (hran : deed.Ran m s failure s') : deed.Ran m' s failure s' := by
  obtain ⟨heditor, hhistory, hclock, hperm⟩ := h
  cases deed with
  | read found =>
    unfold Deed.Ran executed at *
    rwa [heditor, hhistory]
  | step st =>
    obtain ⟨x, hx, hrun⟩ := hran
    exact ⟨x, hperm.mem_iff.2 hx, hrun⟩
  | record name batch =>
    obtain ⟨x, hx, hname, hrun⟩ := hran
    refine ⟨x, hperm.mem_iff.2 hx, hname, ?_⟩
    rwa [heditor, hhistory, hclock]
  | forget name =>
    unfold Deed.Ran at *
    rwa [heditor, hhistory]

theorem Alike.course (h : Alike m m') {deeds : List Deed} {s s' : Session σ}
    (hcourse : Course m deeds s s') : Course m' deeds s s' := by
  induction hcourse with
  | nil hnoted => exact .nil hnoted
  | cons hnoted hdone _ ih => exact .cons hnoted (h.ran hdone) ih

theorem Alike.ending (h : Alike m m') {α : Type} {plan : List Deed} {s : Session σ}
    {failure : Option (Deed × Error)} {r : Except Error α × Session σ}
    (hending : Ending m plan none s failure r) : Ending m' plan none s failure r := by
  cases hending with
  | completed hcourse => exact .completed (h.course hcourse)
  | failed hplan hcourse hfailed hnoted => exact .failed hplan (h.course hcourse) (h.ran hfailed) hnoted

theorem Alike.notIn_eq (h : Alike m m') (hnodup : (m.migrations.map (·.name)).Nodup)
    (read : List MigrationRecord) : m'.notIn read = m.notIn read := by
  rw [notIn, notIn, ordered_eq_of_perm hnodup h.perm]

theorem Alike.migrate_eq (h : Alike m m') (hnodup : (m.migrations.map (·.name)).Nodup) :
    m'.migrate = m.migrate := by
  unfold migrate applyOne executed
  simp only [h.notIn_eq hnodup, h.editor, h.history, h.clock]

theorem Alike.pending_eq (h : Alike m m') (hnodup : (m.migrations.map (·.name)).Nodup) :
    m'.pending = m.pending := by
  unfold pending executed
  simp only [h.notIn_eq hnodup, h.editor, h.history]

theorem pending_of_migrate {s s' : Session σ} {v : MigrationResult}
    (h : m.migrate.runFrom s = (.ok v, s')) :
    ∃ pending s₁, m.pending.runFrom s = (.ok pending, s₁) ∧ v.executed = pending.map (·.name) := by
  obtain ⟨read, s₁, hread, h⟩ := Action.exists_of_bind_ok h
  obtain ⟨_, s₂, -, h⟩ := Action.exists_of_bind_ok h
  obtain ⟨hv, -⟩ := Prod.mk.inj h
  cases hv
  exact ⟨m.notIn read, s₁, (Action.runFrom_bind_ok hread).trans rfl, rfl⟩

/-- Reading the history, and then applying migrations in a new batch: each of them runs its up and is
recorded at once. -/
def applying (read : List MigrationRecord) (pending : List (Migration σ)) : List Deed :=
  .read read :: pending.flatMap fun x => [.step ⟨.up, x.name⟩, .record x.name (nextBatch read)]

theorem deedsOnce_migrate (m : Manager σ) (read : List MigrationRecord) :
    Call.migrate.deedsOnce m read = applying read (m.notIn read) := by
  rw [Call.deedsOnce, Call.plan, ups, List.flatMap_map]
  rfl

/-- Migrations with distinct names are registered in two orders, some of them given at once and the others
added later. Either the history table has no name, and both registrations are refused for it; or both
succeed. Then `migrate` ends in the same way from every state, whichever steps fail: it reads the history
and goes through the same migrations, those that are not recorded, in the strict order of timestamp and
name, and runs and records each of them in the same batch up to the same failure. Where it ends well it
has executed what `pending` gives before the call. -/
theorem migrates_alike (editor : Editor σ) (clock table : String)
    {given added given' added' : List (Migration σ)}
    (hdistinct : ((given ++ added).map (·.name)).Nodup)
    (horder : (given' ++ added').Perm (given ++ added)) :
    (∃ e, History.shape table = .error e ∧ register editor clock table given added = .error e ∧
      register editor clock table given' added' = .error e) ∨
    ∃ m m', register editor clock table given added = .ok m ∧
      register editor clock table given' added' = .ok m' ∧
      ∀ s : Session σ, m'.migrate.runFrom s = m.migrate.runFrom s ∧
        m'.pending.runFrom s = m.pending.runFrom s ∧
        (∃ (read : List MigrationRecord) (pending : List (Migration σ))
            (failure : Option (Deed × Error)),
          (∀ x, x ∈ pending ↔ x ∈ given ++ added ∧ x.name ∉ read.map (·.name)) ∧
          (pending.Pairwise fun x y => x.place < y.place) ∧
          Ending m (applying read pending) none s failure (m.migrate.runFrom s) ∧
          Ending m' (applying read pending) none s failure (m'.migrate.runFrom s)) ∧
        ∀ v s', m.migrate.runFrom s = (.ok v, s') →
          ∃ pending s₁, m.pending.runFrom s = (.ok pending, s₁) ∧
            v.executed = pending.map (·.name) := by
  have hdistinct' : ((given' ++ added').map (·.name)).Nodup := (horder.map _).nodup_iff.2 hdistinct
  rw [register_eq editor clock table hdistinct, register_eq editor clock table hdistinct']
  cases hshape : History.shape table with
  | error e => exact .inl ⟨e, rfl, rfl, rfl⟩
  | ok history =>
    let m : Manager σ := { editor, history, clock, migrations := given ++ added }
    let m' : Manager σ := { editor, history, clock, migrations := given' ++ added' }
    have halike : Alike m m' := ⟨rfl, rfl, rfl, horder⟩
    have hmigrate : m'.migrate = m.migrate := halike.migrate_eq hdistinct
    refine .inr ⟨m, m', rfl, rfl, fun s => ⟨by rw [hmigrate], by rw [halike.pending_eq hdistinct], ?_,
      fun v s' => pending_of_migrate⟩⟩
    obtain ⟨read, failure, hending⟩ := ending_migrate m s
    rw [deedsOnce_migrate] at hending
    have hending' := halike.ending hending
    rw [← hmigrate] at hending'
    exact ⟨read, m.notIn read, failure, fun x => mem_notIn,
      (pairwise_place_ordered hdistinct).filter _, hending, hending'⟩

end Manager

namespace Memory

/-- Two migrations of one timestamp: `a` runs before `b`, which fails. -/
def tiedA : Migration Memory := migration "a" 1 true

def tiedB : Migration Memory := migration "b" 1 false

/-- Given at once with `b` first, or with `b` added after `a`, they are registered in different orders and
run alike. -/
theorem migrates_alike_of_tie :
    (([tiedB, tiedA] ++ []).map Migration.name).Nodup ∧ ([tiedA] ++ [tiedB]).Perm ([tiedB, tiedA] ++ []) ∧
    ∃ m m', Manager.register log "now" "log" [tiedB, tiedA] [] = .ok m ∧
      Manager.register log "now" "log" [tiedA] [tiedB] = .ok m' ∧
      m.migrations.map (·.name) = ["b", "a"] ∧ m'.migrations.map (·.name) = ["a", "b"] ∧
      ∀ s, m'.migrate.runFrom s = m.migrate.runFrom s := by
  have hdistinct : (([tiedB, tiedA] ++ []).map Migration.name).Nodup := by
    show ["b", "a"].Nodup
    decide
  have horder : ([tiedA] ++ [tiedB]).Perm ([tiedB, tiedA] ++ []) := List.Perm.swap tiedB tiedA []
  refine ⟨hdistinct, horder, ?_⟩
  rcases Manager.migrates_alike log "now" "log" hdistinct horder with ⟨e, hshape, -⟩ | ⟨m, m', hm, hm', h⟩
  · rw [shape_log] at hshape
    cases hshape
  · refine ⟨m, m', hm, hm', ?_, ?_, fun s => (h s).1⟩
    · rw [Manager.register_eq log "now" "log" hdistinct, shape_log] at hm
      cases hm
      rfl
    · rw [Manager.register_eq log "now" "log" ((horder.map _).nodup_iff.2 hdistinct), shape_log] at hm'
      cases hm'
      rfl

end Memory

end Polystore

import Polystore.Proofs.Migration.Call
import Polystore.Proofs.Migration.Memory

/-!
# The history tells the truth

From an empty history, whatever is registered and whichever calls are made, and wherever their steps
fail, the history records exactly what is applied.
-/

namespace Polystore

variable {σ : Type} {held : Int → Prop} {records : σ → List MigrationRecord}

namespace Manager

variable {m : Manager σ}

/-! ### Calls -/

theorem truthful_of_reverts {call : Call} {s : Session (Journaled σ)}
    (hs : (s.ledger records).Truthful) (h : m.Reverts records call s) :
    (((call.action (m.watched records)).runFrom s).2.ledger records).Truthful := by
  obtain ⟨read, failure, v, s', hrun, -, -, htrace⟩ := h
  rw [hrun]
  exact hs.trace (htrace fun _ => False)

theorem truthful_migrate (h : m.Keeps held records) {s : Session (Journaled σ)}
    (hroom : held (nextBatch (s.ledger records).records)) (hs : (s.ledger records).Truthful) :
    (((m.watched records).migrate.runFrom s).2.ledger records).Truthful := by
  obtain ⟨read, failure, v, s', hrun, -, -, htrace⟩ := runFrom_migrate h hroom
  rw [hrun]
  exact hs.trace htrace

/-- What `reset` leaves was recorded before, so that there is still room for a batch. -/
theorem truthful_fresh (h : m.Keeps held records) {s : Session (Journaled σ)}
    (hroom : ∀ left ⊆ (s.ledger records).records, held (nextBatch left))
    (hs : (s.ledger records).Truthful) :
    (((m.watched records).fresh.runFrom s).2.ledger records).Truthful := by
  obtain ⟨read, failure, v, s₁, hrun, -, -, htrace⟩ := reverts_reset h hs.nodup
  have hs₁ := hs.trace (htrace fun _ => False)
  cases failure with
  | some e =>
    have hfresh : (m.watched records).fresh.runFrom s = _ := Action.runFrom_bind_error hrun
    rw [hfresh]
    exact hs₁
  | none =>
    have hfresh : (m.watched records).fresh.runFrom s = _ := Action.runFrom_bind_ok hrun
    rw [hfresh]
    exact Action.state_bind (I := fun s => (s.ledger records).Truthful)
      (truthful_migrate h (hroom _ (htrace fun _ => False).records_subset) hs₁) fun _ _ hs₂ => hs₂

theorem truthful_action (h : m.Keeps held records) {s : Session (Journaled σ)}
    (hs : (s.ledger records).Truthful) {call : Call}
    (hroom : call.HasRoom held (s.ledger records).records) :
    (((call.action (m.watched records)).runFrom s).2.ledger records).Truthful := by
  cases call with
  | migrate => exact truthful_migrate h hroom hs
  | rollback => exact truthful_of_reverts hs (reverts_rollback h hs.nodup)
  | rollbackTo name => exact truthful_of_reverts hs (reverts_rollbackTo h hs.nodup name)
  | reset => exact truthful_of_reverts hs (reverts_reset h hs.nodup)
  | fresh => exact truthful_fresh h hroom hs

/-! ### Registration -/

theorem keeps_add {x : Migration σ} {m' : Manager σ} (h : m.Keeps held records) (hx : x.Fits held records)
    (hm : m.add x = .ok m') : m'.Keeps held records := by
  unfold add at hm
  split at hm
  · exact absurd hm throw_ne_ok
  · rename_i hfree
    rw [pure_eq_ok] at hm
    subst hm
    refine ⟨h.keeps, ?_, ?_⟩
    · rw [List.map_append, List.map_singleton, List.nodup_append_comm]
      refine List.nodup_cons.2 ⟨fun hmem => hfree ?_, h.nodup⟩
      obtain ⟨y, hy, hname⟩ := List.mem_map.1 hmem
      exact List.find?_isSome.2 ⟨y, hy, beq_iff_eq.2 hname⟩
    · intro y hy
      rcases List.mem_append.1 hy with hy | hy
      · exact h.fits y hy
      · rw [List.mem_singleton] at hy
        exact hy ▸ hx

theorem keeps_foldlM_add {xs : List (Migration σ)} {m m' : Manager σ} (h : m.Keeps held records)
    (hxs : ∀ x ∈ xs, x.Fits held records) (hm : xs.foldlM add m = .ok m') : m'.Keeps held records := by
  induction xs generalizing m with
  | nil => exact Except.ok.inj hm ▸ h
  | cons x xs ih =>
    obtain ⟨hx, hxs⟩ := List.forall_mem_cons.1 hxs
    rw [List.foldlM_cons] at hm
    obtain ⟨m₁, hm₁, hm⟩ := bind_eq_ok.1 hm
    exact ih (keeps_add h hx hm₁) hxs hm

theorem keeps_create {c : Connection σ} {d : SqlDialect} {shape : TableShape} {clock table : String}
    {xs : List (Migration σ)} (hshape : History.shape table = .ok shape)
    (hkeeps : KeepsHistory c d shape held records) (hxs : ∀ x ∈ xs, x.Fits held records)
    (hm : create ⟨c, .sql d⟩ clock table xs = .ok m) : m.Keeps held records := by
  unfold create at hm
  rw [hshape] at hm
  obtain ⟨shape', hshape', hm⟩ := bind_eq_ok.1 hm
  cases hshape'
  have hstart : Keeps held records { editor := ⟨c, .sql d⟩, history := shape, clock } :=
    ⟨⟨c, d, rfl, hkeeps⟩, List.nodup_nil, fun x hx => absurd hx List.not_mem_nil⟩
  exact keeps_foldlM_add hstart hxs hm

end Manager

/-! ### Reachable states -/

/-- The states that managers of one history reach from an empty one. Migrations are added and all of
them replaced between calls, and the calls end as they may. -/
inductive Reachable (ed : Editor σ) (table : String) (held : Int → Prop)
    (records : σ → List MigrationRecord) : Manager σ → Session (Journaled σ) → Prop where
  | start {m : Manager σ} {s : Session σ} {clock : String} {migrations : List (Migration σ)}
      (hfits : ∀ x ∈ migrations, x.Fits held records)
      (hm : Manager.create ed clock table migrations = .ok m) (hempty : records s.state = []) :
      Reachable ed table held records m (s.watched [])
  | add {m m' : Manager σ} {s : Session (Journaled σ)} {x : Migration σ}
      (h : Reachable ed table held records m s) (hfits : x.Fits held records) (hm : m.add x = .ok m') :
      Reachable ed table held records m' s
  | replace {m m' : Manager σ} {s : Session (Journaled σ)} {clock : String}
      {migrations : List (Migration σ)} (h : Reachable ed table held records m s)
      (hfits : ∀ x ∈ migrations, x.Fits held records)
      (hm : Manager.create ed clock table migrations = .ok m') : Reachable ed table held records m' s
  | call {m : Manager σ} {s : Session (Journaled σ)} (h : Reachable ed table held records m s)
      {call : Call} (hroom : call.HasRoom held (s.ledger records).records) :
      Reachable ed table held records m ((call.action (m.watched records)).runFrom s).2

variable {c : Connection σ} {d : SqlDialect} {shape : TableShape} {table : String}
  {m : Manager σ} {s : Session (Journaled σ)}

theorem Reachable.keeps (hshape : History.shape table = .ok shape)
    (hkeeps : KeepsHistory c d shape held records) (h : Reachable ⟨c, .sql d⟩ table held records m s) :
    m.Keeps held records := by
  induction h with
  | start hfits hm _ => exact Manager.keeps_create hshape hkeeps hfits hm
  | add _ hfits hm ih => exact Manager.keeps_add ih hfits hm
  | replace _ hfits hm _ => exact Manager.keeps_create hshape hkeeps hfits hm
  | call _ _ ih => exact ih

theorem Reachable.truthful (hshape : History.shape table = .ok shape)
    (hkeeps : KeepsHistory c d shape held records) (h : Reachable ⟨c, .sql d⟩ table held records m s) :
    (s.ledger records).Truthful := by
  induction h with
  | start _ _ hempty =>
    have hledger := Ledger.truthful_empty
    rw [← hempty] at hledger
    exact hledger
  | add _ _ _ ih => exact ih
  | replace _ _ _ ih => exact ih
  | call h hroom ih => exact Manager.truthful_action (h.keeps hshape hkeeps) ih hroom

/-- In every reachable state a ledger is truthful, and every call accounts for what it does there;
without the journal it does the same. -/
theorem history_tells_the_truth (hshape : History.shape table = .ok shape)
    (hkeeps : KeepsHistory c d shape held records) (h : Reachable ⟨c, .sql d⟩ table held records m s) :
    (s.ledger records).Truthful ∧ ∀ call : Call,
      (call.HasRoom held (s.ledger records).records → m.Accounts records call s) ∧
      Follows (call.action (m.watched records)) (call.action m) :=
  have htruthful := h.truthful hshape hkeeps
  ⟨htruthful, fun call => ⟨Manager.accounts (h.keeps hshape hkeeps) htruthful.nodup,
    follows_action m call⟩⟩

/-- After the call that fails. -/
def Memory.afterFailure : Session (Journaled Memory) :=
  ((Call.migrate.action (Memory.manager.watched Memory.records)).runFrom
    (Session.watched { state := {} } [])).2

/-- One of two migrations is applied, and the other one fails. -/
theorem history_tells_the_truth_of_failure :
    Reachable Memory.log "log" Memory.held Memory.records Memory.manager Memory.afterFailure ∧
    (Memory.afterFailure.ledger Memory.records).Truthful ∧ ∀ call : Call,
      (call.HasRoom Memory.held (Memory.afterFailure.ledger Memory.records).records →
        Memory.manager.Accounts Memory.records call Memory.afterFailure) ∧
      Follows (call.action (Memory.manager.watched Memory.records)) (call.action Memory.manager) := by
  have hfits : ∀ x ∈ [Memory.migration "b" 2 false, Memory.migration "a" 1 true],
      x.Fits Memory.held Memory.records :=
    List.forall_mem_cons.2 ⟨Memory.fits_migration _ (by decide) _,
      List.forall_mem_singleton.2 (Memory.fits_migration _ (by decide) _)⟩
  have hroom : Call.migrate.HasRoom Memory.held [] := by
    show Memory.held 1
    decide
  have hreach : Reachable Memory.log "log" Memory.held Memory.records Memory.manager
      Memory.afterFailure :=
    .call (.start hfits Memory.create_manager rfl) hroom
  exact ⟨hreach, history_tells_the_truth Memory.shape_log Memory.keepsHistory_log hreach⟩

end Polystore

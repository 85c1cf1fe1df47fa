import Polystore.Proofs.Action
import Polystore.Proofs.Migration.Statements

/-!
# Faithful histories

A connection keeps a history if it answers the statements of the history from the records that its state
holds, and changes them as the statements say. The history is then read, extended and cut without fail.
Its columns of numbers hold some numbers exactly, and only of these it is asked that they can be written.
-/

namespace Polystore

/-- Records are read by timestamp, then by name. -/
def MigrationRecord.comesBefore (a b : MigrationRecord) : Bool :=
  a.timestamp < b.timestamp || (a.timestamp == b.timestamp && !(b.name < a.name : Bool))

variable {σ : Type}

/-- A connection succeeds in the statements of a history and answers them faithfully, where `records`
are the ones that a state holds and `held` the numbers that a column holds exactly. -/
structure KeepsHistory (c : Connection σ) (d : SqlDialect) (shape : TableShape) (held : Int → Prop)
    (records : σ → List MigrationRecord) : Prop where
  creates : ∃ sql, Ddl.createTable d shape = .ok sql ∧
    ∀ s, ∃ rows s', (c.run sql .null).runFrom s = (.ok rows, s') ∧ records s'.state = records s.state
  reads : ∀ quoted, d.quote shape.name = .ok quoted →
    ∀ s, ∃ rows read s',
      (c.run (History.selectText quoted) (.list [])).runFrom s = (.ok rows, s') ∧
      records s'.state = records s.state ∧ rows.mapM History.recordOf = .ok read ∧
      read.Perm (records s.state) ∧ read.Pairwise fun a b => a.comesBefore b
  /-- A name is the key of the table, so that one which is recorded cannot be added. -/
  inserts : ∀ quoted, d.quote shape.name = .ok quoted →
    ∀ s (r : MigrationRecord) text, r.executedAt = .str text → held r.timestamp → held r.batch →
      r.name ∉ (records s.state).map (·.name) → ∃ rows s',
      (c.run (History.insertText d quoted) (.list (History.cells r))).runFrom s = (.ok rows, s') ∧
      (records s'.state).Perm (r :: records s.state)
  deletes : ∀ quoted, d.quote shape.name = .ok quoted →
    ∀ s name, ∃ rows s',
      (c.run (History.deleteText d quoted) (.list [.str name])).runFrom s = (.ok rows, s') ∧
      (records s'.state).Perm ((records s.state).filter fun r => r.name != name)

namespace KeepsHistory

variable {c : Connection σ} {d : SqlDialect} {shape : TableShape} {held : Int → Prop}
  {records : σ → List MigrationRecord}

theorem exists_quote (h : KeepsHistory c d shape held records) :
    ∃ quoted, d.quote shape.name = .ok quoted := by
  obtain ⟨sql, hsql, -⟩ := h.creates
  exact History.quote_of_createTable hsql

theorem runFrom_ensure (h : KeepsHistory c d shape held records) (s : Session σ) :
    ∃ s', (History.ensure ⟨c, .sql d⟩ shape).runFrom s = (.ok (), s') ∧
      records s'.state = records s.state := by
  obtain ⟨sql, hsql, hrun⟩ := h.creates
  obtain ⟨rows, s', hrows, hsame⟩ := hrun s
  have hstatements : (Ddl.createTable d shape).map (fun text => [text]) = .ok [sql] := by
    rw [hsql]
    rfl
  refine ⟨s', ?_, hsame⟩
  refine (Action.runFrom_bind_ok (v := d) rfl).trans ?_
  refine (Action.runFrom_bind_ok (v := [sql]) (congrArg (·, s) hstatements)).trans ?_
  refine (Action.runFrom_bind_ok (v := ()) ?_).trans rfl
  exact (Action.runFrom_bind_ok hrows).trans rfl

theorem runFrom_records (h : KeepsHistory c d shape held records) (s : Session σ) :
    ∃ read s', (History.records ⟨c, .sql d⟩ shape).runFrom s = (.ok read, s') ∧
      records s'.state = records s.state ∧ read.Perm (records s.state) ∧
      read.Pairwise fun a b => a.comesBefore b := by
  obtain ⟨quoted, hquoted⟩ := h.exists_quote
  obtain ⟨s₁, hensure, hsame₁⟩ := h.runFrom_ensure s
  obtain ⟨rows, read, s₂, hrun, hsame₂, hread, hperm, hsorted⟩ := h.reads quoted hquoted s₁
  refine ⟨read, s₂, ?_, hsame₂.trans hsame₁, hsame₁ ▸ hperm, hsorted⟩
  refine (Action.runFrom_bind_ok hensure).trans ?_
  refine (Action.runFrom_bind_ok (congrArg (·, s₁) (History.select_eq hquoted))).trans ?_
  refine (Action.runFrom_bind_ok hrun).trans ?_
  exact congrArg (·, s₂) hread

theorem runFrom_record (h : KeepsHistory c d shape held records) (s : Session σ) (r : MigrationRecord)
    {text : String} (htext : r.executedAt = .str text) (htime : held r.timestamp) (hbatch : held r.batch)
    (hnew : r.name ∉ (records s.state).map (·.name)) :
    ∃ s', (History.record ⟨c, .sql d⟩ shape r).runFrom s = (.ok (), s') ∧
      (records s'.state).Perm (r :: records s.state) := by
  obtain ⟨quoted, hquoted⟩ := h.exists_quote
  obtain ⟨rows, s', hrun, hperm⟩ := h.inserts quoted hquoted s r text htext htime hbatch hnew
  refine ⟨s', ?_, hperm⟩
  refine (Action.runFrom_bind_ok (congrArg (·, s) (History.insert_eq hquoted r))).trans ?_
  exact (Action.runFrom_bind_ok hrun).trans rfl

theorem runFrom_forget (h : KeepsHistory c d shape held records) (s : Session σ) (name : String) :
    ∃ s', (History.forget ⟨c, .sql d⟩ shape name).runFrom s = (.ok (), s') ∧
      (records s'.state).Perm ((records s.state).filter fun r => r.name != name) := by
  obtain ⟨quoted, hquoted⟩ := h.exists_quote
  obtain ⟨rows, s', hrun, hperm⟩ := h.deletes quoted hquoted s name
  refine ⟨s', ?_, hperm⟩
  refine (Action.runFrom_bind_ok (congrArg (·, s) (History.delete_eq hquoted name))).trans ?_
  exact (Action.runFrom_bind_ok hrun).trans rfl

end KeepsHistory

end Polystore

import Polystore.Proofs.Migration.Order

/-!
# Histories in memory

A table in memory that keeps the history of migrations.
-/

namespace Polystore

/-- A row of a history table in memory. -/
structure MemoryRow where
  name : String
  timestamp : Int
  batch : Int
  executedAt : String

namespace MemoryRow

def cells (row : MemoryRow) : Row :=
  [.str row.name, .int row.timestamp, .int row.batch, .str row.executedAt]

def record (row : MemoryRow) : MigrationRecord where
  name := row.name
  timestamp := row.timestamp
  batch := row.batch
  executedAt := .str row.executedAt

theorem recordOf_cells (row : MemoryRow) : History.recordOf row.cells = .ok row.record := by
  have htime : (if (Value.str row.executedAt).truthy then Value.str row.executedAt else .str "") =
      .str row.executedAt := by
    by_cases h : row.executedAt = "" <;> simp [Value.truthy, h]
  exact congrArg (fun v => Except.ok (MigrationRecord.mk row.name row.timestamp row.batch v)) htime

end MemoryRow

/-- A history table in memory, with the answer to the statement that ran last. -/
structure Memory where
  rows : List MemoryRow := []
  answer : Option (List Row) := none

namespace Memory

def records (st : Memory) : List MigrationRecord :=
  st.rows.map (·.record)

/-- The rows, oldest migration first. -/
def sorted (st : Memory) : List MemoryRow :=
  st.rows.mergeSort fun a b => a.record.comesBefore b.record

/-- Adds a row under a name that is not taken. -/
def insert (st : Memory) : List Value → Except Error Unit × Memory
  | [.str name, .int timestamp, .int batch, .str executedAt] =>
    if st.rows.any fun row => row.name == name then
      (.error (.refused "UNIQUE constraint failed"), st)
    else (.ok (), { rows := st.rows ++ [{ name, timestamp, batch, executedAt }] })
  | _ => (.error (.refused "datatype mismatch"), st)

def delete (st : Memory) : List Value → Except Error Unit × Memory
  | [.str name] => (.ok (), { rows := st.rows.filter fun row => row.name != name })
  | _ => (.error (.refused "datatype mismatch"), st)

/-- A connection that knows the statements of the history of a quoted table and does nothing in any
other. -/
def connection (d : SqlDialect) (quoted : String) : Connection Memory where
  openCursor := fun st => (.ok (), st)
  execute := fun sql parameters st =>
    if sql = History.selectText quoted then
      (.ok (), { st with answer := some (st.sorted.map (·.cells)) })
    else if sql = History.insertText d quoted then st.insert (parameters.getD [])
    else if sql = History.deleteText d quoted then st.delete (parameters.getD [])
    else (.ok (), { st with answer := none })
  fetch := fun st => (.ok st.answer, st)
  closeCursor := fun st => (.ok (), st)
  query := fun _ st => (.ok (), st)

/-- Up to a bound, a column of 64-bit floating-point numbers holds every whole number. -/
def held (n : Int) : Prop :=
  n.natAbs ≤ 2 ^ 53

instance : DecidablePred held :=
  fun n => inferInstanceAs (Decidable (n.natAbs ≤ 2 ^ 53))

variable {d : SqlDialect} {quoted : String}

theorem runFrom_run {sql : String} (values : List Value) {s : Session Memory} {st : Memory}
    (h : (connection d quoted).execute sql (if values.isEmpty then none else some values) s.state =
      (.ok (), st)) :
    ((connection d quoted).run sql (.list values)).runFrom s =
      (.ok (st.answer.getD []), { s with state := st }) := by
  have hsend : ((connection d quoted).send sql (.list values)).runFrom s =
      (.ok (), { s with state := st }) := by
    cases values with
    | nil =>
      refine (Action.runFrom_step ((connection d quoted).execute sql none) s).trans ?_
      rw [show (connection d quoted).execute sql none s.state = _ from h]
    | cons v vs =>
      refine (Action.runFrom_bind_ok (v := v :: vs) rfl).trans
        ((Action.runFrom_step ((connection d quoted).execute sql (some (v :: vs))) s).trans ?_)
      rw [show (connection d quoted).execute sql (some (v :: vs)) s.state = _ from h]
  have hbody : ((do
      (connection d quoted).send sql (.list values)
      let rows ← Action.step (connection d quoted).fetch
      pure (rows.getD [])) : Action Memory (List Row)).runFrom s =
        (.ok (st.answer.getD []), { s with state := st }) :=
    (Action.runFrom_bind_ok hsend).trans rfl
  have hattempt := Action.runFrom_attempt ((do
      (connection d quoted).send sql (.list values)
      let rows ← Action.step (connection d quoted).fetch
      pure (rows.getD [])) : Action Memory (List Row)) s
  rw [hbody] at hattempt
  exact (Action.runFrom_bind_ok (v := ()) rfl).trans ((Action.runFrom_bind_ok hattempt).trans rfl)

/-! ### Statements -/

theorem head?_append {a b : String} {c : Char} (h : a.toList.head? = some c) :
    (a ++ b).toList.head? = some c := by
  rw [String.toList_append, List.head?_append, h]
  rfl

theorem head?_selectText : (History.selectText quoted).toList.head? = some 'S' :=
  head?_append (head?_append (head?_append (head?_append (head?_append (head?_append rfl)))))

theorem head?_insertText : (History.insertText d quoted).toList.head? = some 'I' :=
  head?_append (head?_append (head?_append (head?_append (head?_append (head?_append rfl)))))

theorem head?_deleteText : (History.deleteText d quoted).toList.head? = some 'D' :=
  head?_append (head?_append (head?_append rfl))

theorem head?_createTable {shape : TableShape} {sql : String}
    (h : Ddl.createTable d shape = .ok sql) : sql.toList.head? = some 'C' := by
  unfold Ddl.createTable at h
  obtain ⟨_, -, h⟩ := bind_eq_ok.1 h
  obtain ⟨_, -, h⟩ := bind_eq_ok.1 h
  obtain ⟨_, -, h⟩ := bind_eq_ok.1 h
  rw [pure_eq_ok] at h
  rw [← h]
  exact head?_append (head?_append (head?_append (head?_append rfl)))

theorem ne_of_head? {a b : String} {x y : Char} (ha : a.toList.head? = some x)
    (hb : b.toList.head? = some y) (hxy : x ≠ y) : a ≠ b := by
  rintro rfl
  exact hxy (Option.some.inj (ha.symm.trans hb))

theorem execute_select (parameters : Option (List Value)) (st : Memory) :
    (connection d quoted).execute (History.selectText quoted) parameters st =
      (.ok (), { st with answer := some (st.sorted.map (·.cells)) }) :=
  if_pos rfl

theorem execute_insert (parameters : Option (List Value)) (st : Memory) :
    (connection d quoted).execute (History.insertText d quoted) parameters st =
      st.insert (parameters.getD []) := by
  have hselect : History.insertText d quoted ≠ History.selectText quoted :=
    ne_of_head? head?_insertText head?_selectText (by decide)
  simp only [connection, hselect, ↓reduceIte]

theorem execute_delete (parameters : Option (List Value)) (st : Memory) :
    (connection d quoted).execute (History.deleteText d quoted) parameters st =
      st.delete (parameters.getD []) := by
  have hselect : History.deleteText d quoted ≠ History.selectText quoted :=
    ne_of_head? head?_deleteText head?_selectText (by decide)
  have hinsert : History.deleteText d quoted ≠ History.insertText d quoted :=
    ne_of_head? head?_deleteText head?_insertText (by decide)
  simp only [connection, hselect, hinsert, ↓reduceIte]

theorem execute_create {shape : TableShape} {sql : String} (h : Ddl.createTable d shape = .ok sql)
    (parameters : Option (List Value)) (st : Memory) :
    (connection d quoted).execute sql parameters st = (.ok (), { st with answer := none }) := by
  have hhead := head?_createTable h
  have hselect : sql ≠ History.selectText quoted := ne_of_head? hhead head?_selectText (by decide)
  have hinsert : sql ≠ History.insertText d quoted := ne_of_head? hhead head?_insertText (by decide)
  have hdelete : sql ≠ History.deleteText d quoted := ne_of_head? hhead head?_deleteText (by decide)
  simp only [connection, hselect, hinsert, hdelete, ↓reduceIte]

/-! ### Faithfulness -/

theorem mapM_recordOf (rows : List MemoryRow) :
    (rows.map (·.cells)).mapM History.recordOf = .ok (rows.map (·.record)) := by
  induction rows with
  | nil => rfl
  | cons row rows ih =>
    rw [List.map_cons, List.mapM_cons, MemoryRow.recordOf_cells, ih]
    rfl

theorem pairwise_sorted (st : Memory) :
    (st.sorted.map (·.record)).Pairwise fun a b => a.comesBefore b := by
  rw [List.pairwise_map]
  refine List.pairwise_mergeSort (fun a b c hab hbc => ?_) (fun a b => ?_) st.rows
  · rw [MigrationRecord.place_le] at hab hbc ⊢
    exact hab.trans hbc
  · rw [Bool.or_eq_true, MigrationRecord.place_le, MigrationRecord.place_le]
    exact le_total _ _

/-- A table in memory keeps the history of every dialect that can create its table. -/
theorem keepsHistory_connection {shape : TableShape} {sql : String}
    (hsql : Ddl.createTable d shape = .ok sql) (hquoted : d.quote shape.name = .ok quoted) :
    KeepsHistory (connection d quoted) d shape held records where
  creates := by
    refine ⟨sql, hsql, fun s => ⟨[], { s with state := { s.state with answer := none } }, ?_, rfl⟩⟩
    exact runFrom_run [] (execute_create hsql none s.state)
  reads := by
    intro quoted' hquoted' s
    rw [hquoted] at hquoted'
    cases hquoted'
    exact ⟨_, s.state.sorted.map MemoryRow.record, _, runFrom_run [] (execute_select none s.state), rfl,
      mapM_recordOf s.state.sorted, (List.mergeSort_perm _ _).map _, pairwise_sorted s.state⟩
  inserts := by
    intro quoted' hquoted' s r text htext _ _ hnew
    rw [hquoted] at hquoted'
    cases hquoted'
    obtain ⟨name, timestamp, batch, _⟩ := r
    cases htext
    have hfree : (s.state.rows.any fun row => row.name == name) = false := by
      rw [List.any_eq_false]
      intro row hrow hname
      exact hnew (List.mem_map.2 ⟨_, List.mem_map_of_mem hrow, beq_iff_eq.1 hname⟩)
    have hinsert : s.state.insert [.str name, .int timestamp, .int batch, .str text] =
        (.ok (), { rows := s.state.rows ++ [{ name, timestamp, batch, executedAt := text }] }) :=
      if_neg (by simp [hfree])
    refine ⟨_, _, runFrom_run _ ((execute_insert _ _).trans hinsert), ?_⟩
    show (List.map _ (_ ++ _)).Perm _
    rw [List.map_append]
    exact List.perm_append_singleton _ _
  deletes := by
    intro quoted' hquoted' s name
    rw [hquoted] at hquoted'
    cases hquoted'
    refine ⟨_, _, runFrom_run [.str name] (execute_delete _ _), ?_⟩
    show (List.map (·.record) (s.state.rows.filter _)).Perm _
    rw [records, List.filter_map]
    exact List.Perm.refl _

/-! ### A manager -/

/-- The shape of a history table that is called `log`. -/
def logShape : TableShape where
  name := "log"
  fields := [
    ("name", { type := .text, required := .bool true }),
    ("timestamp", { type := .number, required := .bool true }),
    ("batch", { type := .number, required := .bool true }),
    ("executed_at", { type := .text })]
  primaryKey := "name"

def log : Editor Memory where
  connection := connection { engine := .sqlite } "\"log\""
  dialect := .sql { engine := .sqlite }

theorem keepsHistory_log : KeepsHistory log.connection { engine := .sqlite } logShape held records := by
  have hsql : ∃ sql, Ddl.createTable { engine := .sqlite } logShape = .ok sql := ⟨_, by rfl⟩
  obtain ⟨sql, hsql⟩ := hsql
  exact keepsHistory_connection hsql (by rfl)

/-- A migration without steps of its own, whose up may be refused. -/
def migration (name : String) (timestamp : Int) (succeeds : Bool) : Migration Memory where
  name := name
  timestamp := timestamp
  up := if succeeds then pure () else throw (.refused "no such table")
  down := pure ()

theorem fits_migration (name : String) {timestamp : Int} (htime : held timestamp) (succeeds : Bool) :
    (migration name timestamp succeeds).Fits held records := by
  refine ⟨fun direction s => ?_, htime⟩
  cases direction
  · cases succeeds
    · rfl
    · rfl
  · rfl

theorem shape_log : History.shape "log" = .ok logShape := by rfl

/-- A manager of two migrations, of which the second one to run fails. -/
def manager : Manager Memory where
  editor := log
  history := logShape
  migrations := [migration "b" 2 false, migration "a" 1 true]
  clock := "2024-01-01T00:00:00+00:00"

theorem create_manager : Manager.create log "2024-01-01T00:00:00+00:00" "log"
    [migration "b" 2 false, migration "a" 1 true] = .ok manager := by
  rw [Manager.create, shape_log]
  rfl

end Memory

end Polystore

import Polystore.Proofs.Connection.Cursor
import Polystore.Proofs.Migration.Call
import Polystore.Proofs.Sync.Apply
import Polystore.Sync.Document

/-!
# Programs over a connection

A client reaches its store through synchronization, introspection, and the operations of editors and
migration managers, in any order, with any handling of errors, and with steps of migrations that are
clients themselves.

Whatever a client does comes down to statements that are run one at a time and tables that are read.
A preorder on the states that these two respect is therefore respected by every client (`Client.moves`).
For traced connections this gives the main statement, `orderly_of_client`: whichever calls fail, every
cursor that is opened is closed once, before the next one is opened, and not touched again.
-/

namespace Polystore

open Polystore.Action (Moves)

variable {σ α β : Type}

/-- Running a statement and reading a table lead to a state that is related to the first one. -/
structure Connection.Respects (c : Connection σ) (R : σ → σ → Prop) : Prop where
  run (sql : String) (parameters : Value) : (c.run sql parameters).Moves R
  postgres (table schema : String) : (Introspect.postgres c table schema).Moves R
  mysql (table : String) (database : Option String) : (Introspect.mysql c table database).Moves R
  sqlite (table : String) : (Introspect.sqlite c table).Moves R

namespace Connection.Respects

variable {c : Connection σ} {R : σ → σ → Prop}

/-! ### Reading tables -/

theorem table (h : c.Respects R) (d : SqlDialect) (name : String) :
    (Introspect.table c d name).Moves R := by
  unfold Introspect.table
  split
  · exact h.postgres name d.schemaName
  · exact h.mysql name d.database
  · exact h.sqlite name

variable [IsPreorder σ R]

theorem ofDialect (h : c.Respects R) (d : Dialect) (name : String) :
    (Introspect.ofDialect c d name).Moves R := by
  cases d with
  | sql d => exact h.table d name
  | document => exact .lift (.error _)

theorem ofCatalog (h : c.Respects R) (catalog table : String)
    (options : Entries String (Option String)) :
    (Introspect.ofCatalog c catalog table options).Moves R := by
  unfold Introspect.ofCatalog
  cases options.keys.find? fun name => some name != Introspect.catalogOption? catalog with
  | some name =>
    dsimp only
    split <;> exact .lift (.error _)
  | none =>
    dsimp only
    split
    · exact h.postgres _ _
    · exact h.mysql _ _
    · exact h.sqlite _
    · exact .lift (.error _)

/-! ### Editors -/

theorem runAll (h : c.Respects R) (statements : List String) : (c.runAll statements).Moves R :=
  .forM fun sql _ => (h.run sql .null).bind fun _ => .lift (.ok ())

theorem send (h : c.Respects R) (d : Dialect) (render : SqlDialect → Except Error (List String)) :
    (Editor.send ⟨c, d⟩ render).Moves R :=
  (Moves.lift _).bind fun _ => (Moves.lift _).bind fun statements => h.runAll statements

theorem execute (h : c.Respects R) (d : Dialect) (sql : String) (parameters : Value) :
    (Editor.execute ⟨c, d⟩ sql parameters).Moves R := by
  unfold Editor.execute
  split
  · exact h.run sql .null
  · exact (Moves.lift _).bind fun values => h.run sql (.list values)

theorem hasTable (h : c.Respects R) (d : Dialect) (name : String) :
    (Editor.hasTable ⟨c, d⟩ name).Moves R :=
  (Moves.lift _).bind fun d => (h.table d name).bind fun t => .lift (.ok t.present)

theorem createTable (h : c.Respects R) (d : Dialect) (shape : TableShape) :
    (Editor.createTable ⟨c, d⟩ shape).Moves R :=
  (h.send d _).bind fun _ => .forM fun _ _ => h.send d _

theorem addColumn (h : c.Respects R) (d : Dialect) (table name : String) (definition : Value) :
    (Editor.addColumn ⟨c, d⟩ table name definition).Moves R :=
  (Moves.lift _).bind fun _ => h.send d _

theorem createIndex (h : c.Respects R) (d : Dialect) (table : String) (fields unique : Value)
    (name : Option String) : (Editor.createIndex ⟨c, d⟩ table fields unique name).Moves R :=
  (Moves.lift _).bind fun index => (h.send d _).bind fun _ =>
    .lift (.ok (Plan.indexName table index (Plan.nameLimit d)))

/-! ### Managers -/

theorem records (h : c.Respects R) (d : Dialect) (shape : TableShape) :
    (History.records ⟨c, d⟩ shape).Moves R :=
  (h.send d _).bind fun _ => (Moves.lift _).bind fun query =>
    (h.run query.sql _).bind fun _ => .lift _

theorem record (h : c.Respects R) (d : Dialect) (shape : TableShape) (r : MigrationRecord) :
    (History.record ⟨c, d⟩ shape r).Moves R :=
  (Moves.lift _).bind fun statement => (h.run statement.sql _).bind fun _ => .lift (.ok ())

theorem forget (h : c.Respects R) (d : Dialect) (shape : TableShape) (name : String) :
    (History.forget ⟨c, d⟩ shape name).Moves R :=
  (Moves.lift _).bind fun statement => (h.run statement.sql _).bind fun _ => .lift (.ok ())

end Connection.Respects

namespace Manager

variable {m : Manager σ} {R : σ → σ → Prop} [IsPreorder σ R]

theorem moves_executed (h : m.editor.connection.Respects R) : m.executed.Moves R :=
  h.records m.editor.dialect m.history

theorem moves_pending (h : m.editor.connection.Respects R) : m.pending.Moves R :=
  (moves_executed h).bind fun records => .lift (.ok (m.notIn records))

theorem moves_status (h : m.editor.connection.Respects R) : m.status.Moves R :=
  (moves_executed h).bind fun records => .lift (.ok (records, m.notIn records))

theorem moves_runStep {x : Migration σ} {direction : Direction} (hstep : (x.step direction).Moves R) :
    (runStep x direction).Moves R := by
  refine hstep.attempt.bind fun outcome => ?_
  cases outcome with
  | ok _ => exact .lift (.ok ())
  | error e => exact (Moves.note _ _ _).bind fun _ => .lift (.error _)

theorem moves_applyOne (h : m.editor.connection.Respects R) (batch : Int) {x : Migration σ}
    (hup : (x.step .up).Moves R) : (m.applyOne batch x).Moves R :=
  (Moves.note _ _ _).bind fun _ => (moves_runStep hup).bind fun _ =>
    h.record m.editor.dialect m.history
      { name := x.name, timestamp := x.timestamp, batch, executedAt := .str m.clock }

theorem moves_revertOne (h : m.editor.connection.Respects R)
    (hdown : ∀ x ∈ m.migrations, (x.step .down).Moves R) (r : MigrationRecord) :
    (m.revertOne r).Moves R := by
  unfold revertOne
  cases hfind : m.find? r.name with
  | none => exact (Moves.note _ _ _).bind fun _ => .lift (.ok false)
  | some x =>
    exact (Moves.note _ _ _).bind fun _ =>
      (moves_runStep (hdown x (List.mem_of_find?_eq_some hfind))).bind fun _ =>
        (h.forget m.editor.dialect m.history x.name).bind fun _ => .lift (.ok true)

variable (h : m.editor.connection.Respects R)
  (hsteps : ∀ x ∈ m.migrations, ∀ direction, (x.step direction).Moves R)

include h hsteps

theorem moves_migrate : m.migrate.Moves R :=
  (moves_executed h).bind fun _ => (Moves.forM fun x hx =>
    moves_applyOne h _ (hsteps x (mem_notIn.1 hx).1 .up)).bind fun _ => .lift (.ok _)

theorem moves_revert (records : List MigrationRecord) : (m.revert records).Moves R :=
  (Moves.filterM (moves_revertOne h fun x hx => hsteps x hx .down) _).bind fun _ => .lift (.ok _)

theorem moves_reset : m.reset.Moves R :=
  (moves_executed h).bind fun records => moves_revert h hsteps records

theorem moves_action (call : Call) : (call.action m).Moves R := by
  cases call with
  | migrate => exact moves_migrate h hsteps
  | rollback =>
    refine (moves_executed h).bind fun records => ?_
    split
    · exact (Moves.note _ _ _).bind fun _ => .lift (.ok ({} : MigrationResult))
    · exact moves_revert h hsteps _
  | rollbackTo name =>
    refine (moves_executed h).bind fun records => ?_
    split
    · exact moves_revert h hsteps _
    · exact .lift (.error _)
  | reset => exact moves_reset h hsteps
  | fresh =>
    exact (moves_reset h hsteps).bind fun _ => (moves_migrate h hsteps).bind fun _ => .lift (.ok _)

end Manager

/-! ### Synchronization -/

namespace Sync

variable {c : Connection σ} {R : σ → σ → Prop} [IsPreorder σ R]

theorem moves_warn (r : Report) (w : Warning) : (r.warn w : Action σ Report).Moves R :=
  (Moves.note _ _ _).bind fun _ => .lift (.ok _)

theorem moves_warnAll (r : Report) (ws : List Warning) : (r.warnAll ws : Action σ Report).Moves R :=
  .foldlM moves_warn ws r

theorem moves_existingTable (h : c.Respects R) (d : SqlDialect) (table : String) (r : Report) :
    (existingTable c d table r).Moves R := by
  refine (h.table d table).attempt.bind fun outcome => ?_
  cases outcome with
  | ok t => exact .lift (.ok (t, r))
  | error e =>
    show Moves R (if _ then _ else _)
    split
    · exact (moves_warn r _).bind fun r => .lift (.ok (ExistingTable.absent, r))
    · exact .lift (.error e)

theorem moves_rendering (d : SqlDialect) (table : String) (force : Bool) (r : Report) :
    (rendering d table force r : Action σ _).Moves R := by
  unfold rendering
  split
  · exact (moves_warnAll r _).bind fun r => .lift (.ok (_, r))
  · exact (moves_warnAll r _).bind fun _ => .lift (.error _)

theorem moves_apply (h : c.Respects R) (table : String) (force : Bool) (r : Report) (p : Rendered) :
    (apply c table force r p).Moves R := by
  obtain ⟨change, statements⟩ := p
  have hall := h.runAll statements
  have hfatal : (sendFatal c table statements).Moves R := hall.mapError _
  cases change with
  | recreateTable shape => exact (Moves.note _ _ _).bind fun _ => hfatal.bind fun _ => .lift (.ok _)
  | createTable shape => exact hfatal.bind fun _ => .lift (.ok _)
  | addColumn name f =>
    refine hall.attempt.bind fun outcome => ?_
    cases outcome with
    | ok _ => exact .lift (.ok _)
    | error e => exact moves_warn r _
  | createIndex name fields unique =>
    cases force with
    | true => exact hfatal.bind fun _ => .lift (.ok r)
    | false =>
      refine hall.attempt.bind fun outcome => ?_
      cases outcome with
      | ok _ => exact .lift (.ok r)
      | error e => exact moves_warn r _

theorem moves_relational (h : c.Respects R) (d : SqlDialect) (shape : TableShape)
    (options : SyncOptions) : (relational c d shape options).Moves R := by
  refine (moves_existingTable h d shape.name {}).bind fun read => (Moves.lift _).bind fun plan =>
    (moves_rendering d shape.name options.force _).bind fun rendered =>
      (moves_warnAll _ _).bind fun r => ?_
  split
  · exact .lift (.ok r)
  · exact .foldlM (fun r p => moves_apply h shape.name options.force r p) _ r

theorem moves_ensure (collection : String) :
    (DocumentStore.ensure .absent collection : Action σ Unit).Moves R := by
  refine (Moves.step fun x => refl x).bind fun names => ?_
  split
  · exact .lift (.ok ())
  · exact .step fun x => refl x

theorem moves_document (shape : TableShape) (options : SyncOptions) :
    (document (.absent : DocumentStore σ) shape options).Moves R := by
  have happly : ∀ r change,
      (applyToCollection (.absent : DocumentStore σ) shape.name r change).Moves R := by
    intro r change
    cases change with
    | recreateTable _ =>
      have hdrop : (Action.step ((.absent : DocumentStore σ).drop shape.name)).Moves R :=
        .step fun x => refl x
      exact (Moves.note _ _ _).bind fun _ =>
        (Moves.mapError _ (hdrop.bind fun _ => moves_ensure shape.name)).bind fun _ => .lift (.ok _)
    | createIndex name fields unique =>
      have hcreate : (Action.step
          ((.absent : DocumentStore σ).createIndex shape.name fields unique (some name))).Moves R :=
        .step fun x => refl x
      refine hcreate.attempt.bind fun outcome => ?_
      cases outcome with
      | ok _ => exact .lift (.ok r)
      | error e => exact moves_warn r _
    | createTable | addColumn => exact .lift (.ok r)
  have hplan := fun r : Report => Moves.foldlM happly r.plan r
  unfold document
  split
  · exact .lift (.ok _)
  · dsimp only
    split
    · exact (moves_ensure shape.name).bind fun _ => hplan _
    · exact hplan _

theorem moves_synchronize (h : c.Respects R) (d : Dialect) (shape : TableShape)
    (options : SyncOptions) : (synchronize c d shape options).Moves R := by
  cases d with
  | sql d => exact moves_relational h d shape options
  | document => exact moves_document shape options

end Sync

/-! ### Clients -/

/-- A program that reaches the store behind a connection by the operations of the library only. -/
inductive Client (c : Connection σ) : {α : Type} → Action σ α → Prop where
  | lift {α : Type} (r : Except Error α) : Client c (Action.lift r)
  | note (level : LogLevel) (source : LogSource) (text : String) :
      Client c (Action.note level source text)
  | bind {α β : Type} {a : Action σ α} {f : α → Action σ β} (hfirst : Client c a)
      (hrest : ∀ v, Client c (f v)) : Client c (a >>= f)
  | attempt {α : Type} {a : Action σ α} (h : Client c a) : Client c a.attempt
  | mapError {α : Type} {a : Action σ α} (f : Error → Error) (h : Client c a) :
      Client c (a.mapError f)
  | run (sql : String) (parameters : Value) : Client c (c.run sql parameters)
  | synchronize (d : Dialect) (shape : TableShape) (options : SyncOptions) :
      Client c (Sync.synchronize c d shape options)
  | introspect (d : Dialect) (table : String) : Client c (Introspect.ofDialect c d table)
  | introspectCatalog (catalog table : String) (options : Entries String (Option String)) :
      Client c (Introspect.ofCatalog c catalog table options)
  | execute (d : Dialect) (sql : String) (parameters : Value) :
      Client c (Editor.execute ⟨c, d⟩ sql parameters)
  | hasTable (d : Dialect) (table : String) : Client c (Editor.hasTable ⟨c, d⟩ table)
  | createTable (d : Dialect) (shape : TableShape) : Client c (Editor.createTable ⟨c, d⟩ shape)
  | dropTable (d : Dialect) (table : String) : Client c (Editor.dropTable ⟨c, d⟩ table)
  | renameTable (d : Dialect) (old new : String) : Client c (Editor.renameTable ⟨c, d⟩ old new)
  | addColumn (d : Dialect) (table column : String) (definition : Value) :
      Client c (Editor.addColumn ⟨c, d⟩ table column definition)
  | dropColumn (d : Dialect) (table column : String) :
      Client c (Editor.dropColumn ⟨c, d⟩ table column)
  | renameColumn (d : Dialect) (table old new : String) :
      Client c (Editor.renameColumn ⟨c, d⟩ table old new)
  | createIndex (d : Dialect) (table : String) (fields unique : Value) (name : Option String) :
      Client c (Editor.createIndex ⟨c, d⟩ table fields unique name)
  | dropIndex (d : Dialect) (table index : String) : Client c (Editor.dropIndex ⟨c, d⟩ table index)
  | executed {m : Manager σ} (hm : m.editor.connection = c) : Client c m.executed
  | pending {m : Manager σ} (hm : m.editor.connection = c) : Client c m.pending
  | status {m : Manager σ} (hm : m.editor.connection = c) : Client c m.status
  /-- The steps of the migrations are clients of the same connection. -/
  | call {m : Manager σ} (hm : m.editor.connection = c)
      (hsteps : ∀ x ∈ m.migrations, ∀ direction, Client c (x.step direction)) (call : Call) :
      Client c (call.action m)

theorem Client.moves {c : Connection σ} {R : σ → σ → Prop} [IsPreorder σ R] (h : c.Respects R)
    {a : Action σ α} (ha : Client c a) : a.Moves R := by
  induction ha with
  | lift r => exact .lift r
  | note level source text => exact .note level source text
  | bind _ _ ihfirst ihrest => exact ihfirst.bind ihrest
  | attempt _ ih => exact ih.attempt
  | mapError f _ ih => exact ih.mapError f
  | run sql parameters => exact h.run sql parameters
  | synchronize d shape options => exact Sync.moves_synchronize h d shape options
  | introspect d table => exact h.ofDialect d table
  | introspectCatalog catalog table options => exact h.ofCatalog catalog table options
  | execute d sql parameters => exact h.execute d sql parameters
  | hasTable d table => exact h.hasTable d table
  | createTable d shape => exact h.createTable d shape
  | addColumn d table column definition => exact h.addColumn d table column definition
  | createIndex d table fields unique name => exact h.createIndex d table fields unique name
  | dropTable d | renameTable d | dropColumn d | renameColumn d | dropIndex d => exact h.send d _
  | executed hm => exact Manager.moves_executed (hm ▸ h)
  | pending hm => exact Manager.moves_pending (hm ▸ h)
  | status hm => exact Manager.moves_status (hm ▸ h)
  | call hm _ call ih => exact Manager.moves_action (hm ▸ h) ih call

/-! ### Clients of traced connections -/

theorem Action.between_fromCatalog (c : Connection σ) (columnsQuery indexesQuery : String)
    (parameters : List Value) :
    (Introspect.fromCatalog c.traced columnsQuery indexesQuery parameters).Moves Traced.Between := by
  have hrows : ∀ sql, (Introspect.catalogRows c.traced sql parameters).Moves Traced.Within :=
    fun sql => Introspect.moves_catalogRows (within_execute sql _) within_fetch
  exact Introspect.moves_fromCatalog (fun _ => between_withCursor) (hrows _) (hrows _)

theorem Connection.respects_traced (c : Connection σ) : c.traced.Respects Traced.Between where
  run sql parameters := by
    have hsend : (c.traced.send sql parameters).Moves Traced.Within := by
      unfold Connection.send
      split
      · exact (Moves.lift _).bind fun values => Action.within_execute sql (some values)
      · exact Action.within_execute sql none
    exact Action.between_withCursor (hsend.bind fun _ => Action.within_fetch.bind fun rows =>
      .lift (.ok (rows.getD [])))
  postgres table schema := .mapError _ (Action.between_fromCatalog c _ _ _)
  mysql table database := .mapError _ (Action.between_fromCatalog c _ _ _)
  sqlite table := Introspect.moves_sqlite (fun _ => Action.between_queryRows) table

/-- The trace that a program leaves from a store. -/
def traceOf (a : Action (Traced σ) α) (x : σ) : List CursorEvent :=
  (a.runFrom { state := { store := x } }).2.state.trace

/-- Whatever a client does, whichever calls the connection refuses, and however it ends: each cursor that
was opened is closed exactly once, before the next one is opened, and not touched again. The queries of
SQLite's catalog are the only ones without such a cursor. -/
theorem orderly_of_client {c : Connection σ} {a : Action (Traced σ) α} (ha : Client c.traced a)
    (x : σ) : Orderly (traceOf a x) := by
  obtain ⟨trace, htrace, hlifetimes⟩ := ha.moves c.respects_traced { state := { store := x } }
  have heq : traceOf a x = trace := htrace.trans (List.nil_append _)
  exact heq ▸ hlifetimes.orderly

/-- A connection that counts statements and refuses one of them, by its number. -/
def Connection.refusing (number : Nat) : Connection Nat where
  openCursor n := (.ok (), n)
  execute _ _ n := (if n = number then .error (.refused "locked") else .ok (), n + 1)
  fetch n := (.ok none, n)
  closeCursor n := (.ok (), n)
  query _ n := (.ok (), n)

/-- A statement that is refused, and the reading of a table all the same. -/
def updateAndRead (c : Connection σ) : Action σ ExistingTable := do
  let _ ← (Editor.execute ⟨c, .sql { engine := .postgresql }⟩ "UPDATE t" .null).attempt
  Introspect.ofDialect c (.sql { engine := .postgresql }) "t"

theorem orderly_of_client_of_refused :
    (∃ query, traceOf (updateAndRead (Connection.refusing 0).traced) 0 =
      [.opened 1, .executed 1 "UPDATE t", .closed 1,
        .opened 2, .executed 2 query, .fetched 2, .closed 2]) ∧
    Client (Connection.refusing 0).traced (updateAndRead (Connection.refusing 0).traced) ∧
    Orderly (traceOf (updateAndRead (Connection.refusing 0).traced) 0) := by
  have hclient : Client (Connection.refusing 0).traced (updateAndRead (Connection.refusing 0).traced) :=
    (Client.execute _ "UPDATE t" .null).attempt.bind fun _ => .introspect _ "t"
  exact ⟨⟨_, rfl⟩, hclient, orderly_of_client hclient 0⟩

/-- The cursors through which SQLite's catalog is read are not closed. -/
theorem not_closedOnce_of_pragma :
    let c := (Connection.refusing 0).traced
    let read := Introspect.ofDialect c (.sql { engine := .sqlite }) "t"
    Client c read ∧
      ¬ ∀ n, (∃ e ∈ traceOf read 0, e.Obtains n) → ClosedOnce n (traceOf read 0) := by
  intro c read
  refine ⟨.introspect _ "t", fun h => ?_⟩
  have htrace : ∃ query, traceOf read 0 = [.queried 1 query, .fetched 1] :=
    ⟨_, rfl⟩
  obtain ⟨query, heq⟩ := htrace
  rw [heq] at h
  obtain ⟨start, used, -, -, before, after, hsplit, -⟩ := h 1 ⟨.queried 1 query, by simp, rfl⟩
  have hclosed : CursorEvent.closed 1 ∈ [.queried 1 query, .fetched 1] := by
    rw [hsplit]
    simp
  simp at hclosed

end Polystore

import Polystore.Migration.Manager
import Polystore.Proofs.Action

/-!
# Watching migrations run

A journaled store notes each step of a migration that runs on it, with the names that are recorded when
the step starts. The history does not see the journal, and the watched migrations of a manager do what
the manager's own do.
-/

namespace Polystore

/-- A step of a migration, by name. -/
structure Step where
  direction : Direction
  name : String
  deriving DecidableEq

/-- A step that ran. -/
structure Event where
  step : Step
  succeeded : Bool
  /-- The names that were recorded when the step started. -/
  recorded : List String

/-- A store with a journal. -/
structure Journaled (σ : Type) where
  store : σ
  events : List Event := []

variable {σ α β : Type}

def Session.unwatched (s : Session (Journaled σ)) : Session σ :=
  { state := s.state.store, log := s.log }

def Session.watched (s : Session σ) (events : List Event) : Session (Journaled σ) :=
  { state := { store := s.state, events }, log := s.log }

/-- A request that is made beside the journal. -/
def Journaled.beside (f : σ → Except Error α × σ) (j : Journaled σ) :
    Except Error α × Journaled σ :=
  ((f j.store).1, { j with store := (f j.store).2 })

def Connection.watched (c : Connection σ) : Connection (Journaled σ) where
  openCursor := Journaled.beside c.openCursor
  execute := fun sql parameters => Journaled.beside (c.execute sql parameters)
  fetch := Journaled.beside c.fetch
  closeCursor := Journaled.beside c.closeCursor
  query := fun sql => Journaled.beside (c.query sql)

def Editor.watched (ed : Editor σ) : Editor (Journaled σ) where
  connection := ed.connection.watched
  dialect := ed.dialect

/-- A step that notes its run in the journal. -/
def Action.watched (records : σ → List MigrationRecord) (step : Step) (a : Action σ Unit) :
    Action (Journaled σ) Unit :=
  .ofFun fun s =>
    let r := a.runFrom s.unwatched
    (r.1, r.2.watched (s.state.events ++
      [{ step, succeeded := r.1.isOk, recorded := (records s.state.store).map (·.name) }]))

def Migration.watched (records : σ → List MigrationRecord) (x : Migration σ) :
    Migration (Journaled σ) where
  name := x.name
  timestamp := x.timestamp
  up := x.up.watched records ⟨.up, x.name⟩
  down := x.down.watched records ⟨.down, x.name⟩

def Manager.watched (records : σ → List MigrationRecord) (m : Manager σ) : Manager (Journaled σ) where
  editor := m.editor.watched
  history := m.history
  migrations := m.migrations.map (Migration.watched records)
  clock := m.clock

/-! ### Programs that do not see the journal -/

/-- A program over a journaled store does what another program does, beside the journal. -/
def Unseen (a : Action (Journaled σ) α) (b : Action σ α) : Prop :=
  ∀ s, a.runFrom s =
    ((b.runFrom s.unwatched).1, (b.runFrom s.unwatched).2.watched s.state.events)

namespace Unseen

theorem runFrom_eq {a : Action (Journaled σ) α} {b : Action σ α} (h : Unseen a b)
    {s : Session (Journaled σ)} {r : Except Error α} {t : Session σ}
    (hb : b.runFrom s.unwatched = (r, t)) : a.runFrom s = (r, t.watched s.state.events) := by
  rw [h s, hb]

theorem lift (r : Except Error α) : Unseen (.lift r) (.lift r : Action σ α) :=
  fun _ => rfl

theorem step (f : σ → Except Error α × σ) :
    Unseen (Action.step (Journaled.beside f)) (Action.step f) :=
  fun _ => rfl

theorem bind {a : Action (Journaled σ) α} {b : Action σ α} {f : α → Action (Journaled σ) β}
    {g : α → Action σ β} (h : Unseen a b) (hrest : ∀ v, Unseen (f v) (g v)) :
    Unseen (a >>= f) (b >>= g) := by
  intro s
  cases hb : b.runFrom s.unwatched with
  | mk r t =>
    have ha := h.runFrom_eq hb
    cases r with
    | ok v =>
      rw [Action.runFrom_bind_ok ha, Action.runFrom_bind_ok hb, hrest v]
      rfl
    | error e => rw [Action.runFrom_bind_error ha, Action.runFrom_bind_error hb]

theorem attempt {a : Action (Journaled σ) α} {b : Action σ α} (h : Unseen a b) :
    Unseen a.attempt b.attempt := by
  intro s
  rw [Action.runFrom_attempt, Action.runFrom_attempt, h s]

theorem run (c : Connection σ) (sql : String) (parameters : Value) :
    Unseen (c.watched.run sql parameters) (c.run sql parameters) := by
  have hsend : Unseen (c.watched.send sql parameters) (c.send sql parameters) := by
    unfold Connection.send
    split
    · exact (lift _).bind fun _ => step _
    · exact step _
  have hbody := hsend.bind fun _ => (step c.fetch).bind fun rows => lift (.ok (rows.getD []))
  exact (step c.openCursor).bind fun _ => hbody.attempt.bind fun r =>
    (step c.closeCursor).bind fun _ => lift r

theorem ensure (ed : Editor σ) (shape : TableShape) :
    Unseen (History.ensure ed.watched shape) (History.ensure ed shape) := by
  refine (lift _).bind fun _ => (lift _).bind fun statements => ?_
  induction statements with
  | nil => exact lift (.ok ())
  | cons sql statements ih =>
    exact ((run ed.connection sql .null).bind fun _ => lift (.ok ())).bind fun _ => ih

theorem records (ed : Editor σ) (shape : TableShape) :
    Unseen (History.records ed.watched shape) (History.records ed shape) :=
  (ensure ed shape).bind fun _ => (lift _).bind fun query =>
    (run ed.connection query.sql _).bind fun _ => lift _

theorem record (ed : Editor σ) (shape : TableShape) (r : MigrationRecord) :
    Unseen (History.record ed.watched shape r) (History.record ed shape r) :=
  (lift _).bind fun statement => (run ed.connection statement.sql _).bind fun _ => lift (.ok ())

theorem forget (ed : Editor σ) (shape : TableShape) (name : String) :
    Unseen (History.forget ed.watched shape name) (History.forget ed shape name) :=
  (lift _).bind fun statement => (run ed.connection statement.sql _).bind fun _ => lift (.ok ())

end Unseen

/-! ### Programs that write the journal -/

/-- A program over a journaled store does to the store what another program does. -/
def Follows (a : Action (Journaled σ) α) (b : Action σ α) : Prop :=
  ∀ s, (a.runFrom s).1 = (b.runFrom s.unwatched).1 ∧
    (a.runFrom s).2.unwatched = (b.runFrom s.unwatched).2

theorem Unseen.follows {a : Action (Journaled σ) α} {b : Action σ α} (h : Unseen a b) :
    Follows a b := by
  intro s
  rw [h s]
  exact ⟨rfl, rfl⟩

namespace Follows

theorem pure (v : α) : Follows (pure v) (pure v : Action σ α) :=
  fun _ => ⟨rfl, rfl⟩

theorem throw (e : Error) : Follows (throw e) (throw e : Action σ α) :=
  fun _ => ⟨rfl, rfl⟩

theorem note (level : LogLevel) (source : LogSource) (text : String) :
    Follows (.note level source text) (.note level source text : Action σ Unit) :=
  fun _ => ⟨rfl, rfl⟩

theorem step (records : σ → List MigrationRecord) (x : Migration σ) (direction : Direction) :
    Follows ((x.watched records).step direction) (x.step direction) := by
  cases direction
  · exact fun _ => ⟨rfl, rfl⟩
  · exact fun _ => ⟨rfl, rfl⟩

theorem bind {a : Action (Journaled σ) α} {b : Action σ α} {f : α → Action (Journaled σ) β}
    {g : α → Action σ β} (h : Follows a b) (hrest : ∀ v, Follows (f v) (g v)) :
    Follows (a >>= f) (b >>= g) := by
  intro s
  obtain ⟨houtcome, hstate⟩ := h s
  cases ha : a.runFrom s with
  | mk r s₁ =>
    cases hb : b.runFrom s.unwatched with
    | mk r' t =>
      rw [ha, hb] at houtcome hstate
      cases houtcome
      cases hstate
      cases r with
      | ok v =>
        rw [Action.runFrom_bind_ok ha, Action.runFrom_bind_ok hb]
        exact hrest v s₁
      | error e =>
        rw [Action.runFrom_bind_error ha, Action.runFrom_bind_error hb]
        exact ⟨rfl, rfl⟩

theorem attempt {a : Action (Journaled σ) α} {b : Action σ α} (h : Follows a b) :
    Follows a.attempt b.attempt := by
  intro s
  obtain ⟨houtcome, hstate⟩ := h s
  rw [Action.runFrom_attempt, Action.runFrom_attempt, houtcome]
  exact ⟨rfl, hstate⟩

theorem forM_map {f : β → Action (Journaled σ) Unit} {g : α → Action σ Unit} {k : α → β}
    (h : ∀ v, Follows (f (k v)) (g v)) (vs : List α) :
    Follows ((vs.map k).forM f) (vs.forM g) := by
  induction vs with
  | nil => exact pure ()
  | cons v vs ih => exact (h v).bind fun _ => ih

theorem filterM {f : α → Action (Journaled σ) Bool} {g : α → Action σ Bool}
    (h : ∀ v, Follows (f v) (g v)) (vs : List α) :
    Follows (vs.filterM f) (vs.filterM g) := by
  have haux : ∀ kept, Follows (List.filterAuxM f vs kept) (List.filterAuxM g vs kept) := by
    induction vs with
    | nil => exact fun kept => pure kept
    | cons v vs ih => exact fun kept => (h v).bind fun b => ih _
  exact (haux []).bind fun kept => pure kept.reverse

end Follows

/-! ### Watched managers -/

namespace Manager

variable (records : σ → List MigrationRecord) (m : Manager σ)

theorem find?_watched (name : String) :
    (m.watched records).find? name = (m.find? name).map (Migration.watched records) :=
  List.find?_map

theorem ordered_watched :
    (m.watched records).ordered = m.ordered.map (Migration.watched records) :=
  Eq.symm <| List.map_mergeSort (f := Migration.watched records) (r := Migration.runsBefore)
    (s := Migration.runsBefore) fun _ _ _ _ => rfl

theorem notIn_watched (read : List MigrationRecord) :
    (m.watched records).notIn read = (m.notIn read).map (Migration.watched records) := by
  rw [notIn, ordered_watched, List.filter_map]
  rfl

theorem follows_runStep (x : Migration σ) (direction : Direction) :
    Follows (runStep (x.watched records) direction) (runStep x direction) := by
  refine (Follows.step records x direction).attempt.bind fun r => ?_
  cases r with
  | ok v => exact .pure ()
  | error e => exact (Follows.note _ _ _).bind fun _ => .throw _

theorem follows_applyOne (batch : Int) (x : Migration σ) :
    Follows ((m.watched records).applyOne batch (x.watched records)) (m.applyOne batch x) :=
  (Follows.note _ _ _).bind fun _ => (follows_runStep records x .up).bind fun _ =>
    (Unseen.record m.editor m.history
      { name := x.name, timestamp := x.timestamp, batch, executedAt := .str m.clock }).follows

theorem follows_revertOne (r : MigrationRecord) :
    Follows ((m.watched records).revertOne r) (m.revertOne r) := by
  unfold revertOne
  rw [find?_watched]
  cases m.find? r.name with
  | none => exact (Follows.note _ _ _).bind fun _ => .pure false
  | some x =>
    exact (Follows.note _ _ _).bind fun _ => (follows_runStep records x .down).bind fun _ =>
      (Unseen.forget m.editor m.history x.name).follows.bind fun _ => .pure true

theorem follows_executed : Follows (m.watched records).executed m.executed :=
  (Unseen.records m.editor m.history).follows

theorem follows_migrate : Follows (m.watched records).migrate m.migrate := by
  refine (follows_executed records m).bind fun read => ?_
  have hnames : ((m.notIn read).map (Migration.watched records)).map (·.name) =
      (m.notIn read).map (·.name) := List.map_map
  rw [notIn_watched]
  show Follows (_ >>= fun _ => Pure.pure
    ({ executed := ((m.notIn read).map (Migration.watched records)).map (·.name) } :
      MigrationResult)) _
  rw [hnames]
  exact (Follows.forM_map (follows_applyOne records m _) _).bind fun _ => .pure _

theorem follows_revert (read : List MigrationRecord) :
    Follows ((m.watched records).revert read) (m.revert read) :=
  (Follows.filterM (follows_revertOne records m) _).bind fun _ => .pure _

theorem follows_rollback : Follows (m.watched records).rollback m.rollback := by
  refine (follows_executed records m).bind fun read => ?_
  cases (read.map (·.batch)).max? with
  | none => exact (Follows.note _ _ _).bind fun _ => .pure _
  | some last => exact follows_revert records m _

theorem follows_rollbackTo (name : String) :
    Follows ((m.watched records).rollbackTo name) (m.rollbackTo name) := by
  refine (follows_executed records m).bind fun read => ?_
  split
  · exact follows_revert records m _
  · exact .throw _

theorem follows_reset : Follows (m.watched records).reset m.reset :=
  (follows_executed records m).bind fun _ => follows_revert records m _

theorem follows_fresh : Follows (m.watched records).fresh m.fresh :=
  (follows_reset records m).bind fun _ => (follows_migrate records m).bind fun _ => .pure _

end Manager

end Polystore

import Polystore.Migration.History

/-!
# Running migrations

Registered migrations are applied in the order of their timestamps and names, one batch for each run,
and reverted newest first. A failing step ends the run; what ran before it stays recorded.
-/

namespace Polystore

/-- A reversible change of the store. -/
structure Migration (σ : Type) where
  name : String
  timestamp : Int
  up : Action σ Unit
  down : Action σ Unit

namespace Migration

variable {σ : Type}

/-- The step of a direction. -/
def step (m : Migration σ) : Direction → Action σ Unit
  | .up => m.up
  | .down => m.down

/-- Migrations run by timestamp, then by name. -/
def runsBefore (a b : Migration σ) : Bool :=
  a.timestamp < b.timestamp || (a.timestamp == b.timestamp && !(b.name < a.name : Bool))

/-- A sortable name from a time and a description: letters and digits in lower case, all else as single
underscores. -/
def nameOf (now : DateTime) (description : String) : String :=
  let isSlug (c : Char) : Bool := c.isDigit || c.isLower
  let marked := (Text.lower description).toList.map fun c => if isSlug c then c else ' '
  String.ofList (now.stamp ++ '_' :: ['_'].intercalate (Text.words marked))

end Migration

/-- What a run of migrations did, by name. -/
structure MigrationResult where
  executed : List String := []
  rolledBack : List String := []
  pending : List String := []
  deriving Repr

/-- Registered migrations with the store they run on. Records carry the text of `clock` as their time. -/
structure Manager (σ : Type) where
  editor : Editor σ
  history : TableShape
  migrations : List (Migration σ) := []
  clock : String

namespace Manager

variable {σ : Type}

/-- The registered migration of a name. -/
def find? (m : Manager σ) (name : String) : Option (Migration σ) :=
  m.migrations.find? fun x => x.name == name

/-- Registers a migration under a name that is not taken. -/
def add (m : Manager σ) (x : Migration σ) : Except Error (Manager σ) :=
  if (m.find? x.name).isSome then throw (.duplicateMigration x.name)
  else pure { m with migrations := m.migrations ++ [x] }

/-- A manager over a history table, with migrations registered in order. -/
def create (editor : Editor σ) (clock table : String) (migrations : List (Migration σ)) :
    Except Error (Manager σ) := do
  let history ← History.shape table
  migrations.foldlM add { editor, history, clock }

/-- The registered migrations in the order in which they run. -/
def ordered (m : Manager σ) : List (Migration σ) :=
  m.migrations.mergeSort Migration.runsBefore

def executed (m : Manager σ) : Action σ (List MigrationRecord) :=
  History.records m.editor m.history

/-- The registered migrations that records do not name, in the order in which they run. -/
def notIn (m : Manager σ) (records : List MigrationRecord) : List (Migration σ) :=
  m.ordered.filter fun x => !records.any fun r => r.name == x.name

def pending (m : Manager σ) : Action σ (List (Migration σ)) := do
  let records ← m.executed
  pure (m.notIn records)

/-- The applied and the pending migrations. -/
def status (m : Manager σ) : Action σ (List MigrationRecord × List (Migration σ)) := do
  let records ← m.executed
  pure (records, m.notIn records)

/-- Runs a step of a migration; its failure is logged and wrapped. -/
def runStep (x : Migration σ) (direction : Direction) : Action σ Unit := do
  match ← (x.step direction).attempt with
  | .ok _ => pure ()
  | .error e =>
    .note .error .migration
      ("migration " ++ x.name ++ " (" ++ direction.name ++ ") failed: " ++ e.message)
    throw (.step direction x.name e)

/-- The batch of the next run. -/
def nextBatch (records : List MigrationRecord) : Int :=
  ((records.map (·.batch)).max?).getD 0 + 1

/-- Applies a migration and records it. -/
def applyOne (m : Manager σ) (batch : Int) (x : Migration σ) : Action σ Unit := do
  .note .info .migration ("running migration " ++ x.name ++ " (batch " ++ toString batch ++ ")")
  runStep x .up
  History.record m.editor m.history
    { name := x.name, timestamp := x.timestamp, batch, executedAt := .str m.clock }

/-- Applies every pending migration as one batch. -/
def migrate (m : Manager σ) : Action σ MigrationResult := do
  let records ← m.executed
  let pending := m.notIn records
  pending.forM (m.applyOne (nextBatch records))
  pure { executed := pending.map (·.name) }

/-- Reverts one recorded migration and forgets it; one that is not registered is skipped. Tells whether
it was reverted. -/
def revertOne (m : Manager σ) (r : MigrationRecord) : Action σ Bool := do
  match m.find? r.name with
  | none =>
    .note .warning .migration
      ("migration " ++ r.name ++ " is recorded but not registered; skipped")
    pure false
  | some x =>
    .note .info .migration ("rolling back migration " ++ x.name)
    runStep x .down
    History.forget m.editor m.history x.name
    pure true

/-- Reverts recorded migrations, the last one first. -/
def revert (m : Manager σ) (records : List MigrationRecord) : Action σ MigrationResult := do
  let reverted ← records.reverse.filterM m.revertOne
  pure { rolledBack := reverted.map (·.name) }

/-- Reverts the most recent batch. -/
def rollback (m : Manager σ) : Action σ MigrationResult := do
  let records ← m.executed
  match (records.map (·.batch)).max? with
  | none =>
    .note .info .migration "nothing to roll back"
    pure {}
  | some last => m.revert (records.filter fun r => r.batch == last)

/-- Reverts every migration after the one of a name. -/
def rollbackTo (m : Manager σ) (name : String) : Action σ MigrationResult := do
  let records ← m.executed
  if records.any fun r => r.name == name then
    m.revert ((records.dropWhile fun r => r.name != name).drop 1)
  else throw (.notApplied name)

/-- Reverts every applied migration. -/
def reset (m : Manager σ) : Action σ MigrationResult := do
  let records ← m.executed
  m.revert records

/-- Reverts everything, then applies every migration. -/
def fresh (m : Manager σ) : Action σ MigrationResult := do
  let reverted ← m.reset
  let result ← m.migrate
  pure { result with rolledBack := reverted.rolledBack }

end Manager

end Polystore

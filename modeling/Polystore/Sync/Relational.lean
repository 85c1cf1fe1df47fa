import Polystore.Introspect
import Polystore.Sync.Report

/-!
# Synchronizing relational tables

A table is read from the store, its changes are planned and rendered, and the statements are sent one
after the other. A refused column or index is a warning; a refused table, or any refusal of a forced
run, ends the synchronization.
-/

namespace Polystore.Sync

variable {σ : Type}

/-- A change with its statements. -/
abbrev Rendered := Change × List String

/-- The warning that replaces the failure to read a table. -/
def readFailure (table : String) (e : Error) : Warning :=
  { kind := .introspectionFailure
    message := "could not introspect table '" ++ table ++ "', assuming it is absent: " ++ e.detail
    target := table }

/-- The table as the store reports it; one that cannot be read counts as absent, with a warning. -/
def existingTable (c : Connection σ) (d : SqlDialect) (table : String) (r : Report) :
    Action σ (ExistingTable × Report) := do
  match ← (Introspect.table c d table).attempt with
  | .ok t => pure (t, r)
  | .error e =>
    if e.isA .introspection then
      let r ← r.warn (readFailure table e)
      pure (.absent, r)
    else throw e

/-- The warning that replaces an index without statements. -/
def unrenderable (table name : String) (e : Error) : Warning :=
  { kind := .indexCreationFailed
    message := "cannot render index '" ++ name ++ "' on '" ++ table ++ "': " ++ e.detail
    target := name }

/-- An index that cannot be written is left out of a run that is not forced. -/
def skippedIndex? (force : Bool) (change : Change) (e : Error) : Option String :=
  match change with
  | .createIndex name .. => if force || e.kind?.isNone then none else some name
  | _ => none

/-- The statements of planned changes, and warnings for the indexes that are left out. -/
def renderAll (d : SqlDialect) (table : String) (force : Bool) :
    List Change → Except Error (List Rendered × List Warning)
  | [] => pure ([], [])
  | change :: changes =>
    match Ddl.render d table change with
    | .ok statements => do
      let (rendered, warnings) ← renderAll d table force changes
      pure ((change, statements) :: rendered, warnings)
    | .error e =>
      match skippedIndex? force change e with
      | none => throw e
      | some name => do
        let (rendered, warnings) ← renderAll d table force changes
        pure (rendered, unrenderable table name e :: warnings)

/-- The warnings for an unfinished rendering: those of the changes before the one that fails. -/
def warningsBefore (d : SqlDialect) (table : String) (force : Bool) : List Change → List Warning
  | [] => []
  | change :: changes =>
    match Ddl.render d table change with
    | .ok _ => warningsBefore d table force changes
    | .error e =>
      match skippedIndex? force change e with
      | none => []
      | some name => unrenderable table name e :: warningsBefore d table force changes

/-- The warning for a required column that existing rows have no value for. -/
def fallbackWarning? : Change → Option Warning
  | .addColumn name f =>
    if f.lacksValue then
      some {
        kind := .nullableFallback
        message := "required column '" ++ name ++ "' added as nullable: existing rows have no " ++
          "value and no literal default is declared"
        target := name }
    else none
  | _ => none

/-- Sends statements whose refusal ends the synchronization. -/
def sendFatal (c : Connection σ) (table : String) (statements : List String) : Action σ Unit :=
  (c.runAll statements).mapError (.tableNotSynced table)

/-- The warning for a refused column. -/
def columnRefused (table name : String) (e : Error) : Warning :=
  { kind := .partialAlterFailure
    message := "failed to add column '" ++ name ++ "' to '" ++ table ++ "': " ++ e.message
    target := name }

/-- The warning for a refused index. -/
def indexRefused (table name : String) (e : Error) : Warning :=
  { kind := .indexCreationFailed
    message := "failed to create index '" ++ name ++ "' on '" ++ table ++ "': " ++ e.message
    target := name }

/-- Notes that the table was made. -/
def Report.tableMade (r : Report) (table what : String) : Report :=
  { r with created := true, changes := r.changes ++ ["Table '" ++ table ++ "' " ++ what] }

/-- Carries out one change. -/
def apply (c : Connection σ) (table : String) (force : Bool) (r : Report) :
    Rendered → Action σ Report
  | (.recreateTable _, statements) => do
    .note .warning .sync ("dropping and recreating table " ++ table)
    sendFatal c table statements
    pure (r.tableMade table "dropped and recreated")
  | (.createTable _, statements) => do
    sendFatal c table statements
    pure (r.tableMade table "created")
  | (.addColumn name _, statements) => do
    match ← (c.runAll statements).attempt with
    | .ok _ => pure { r with altered := true, changes := r.changes ++ ["Added column '" ++ name ++ "'"] }
    | .error e => r.warn (columnRefused table name e)
  | (.createIndex name .., statements) => do
    if force then
      sendFatal c table statements
      pure r
    else
      match ← (c.runAll statements).attempt with
      | .ok _ => pure r
      | .error e => r.warn (indexRefused table name e)

/-- Carries out changes, one after the other. -/
def applyAll (c : Connection σ) (table : String) (force : Bool) (r : Report)
    (changes : List Rendered) : Action σ Report :=
  changes.foldlM (apply c table force) r

/-- Renders planned changes and logs the warnings that this gives, also if a later one fails. -/
def rendering (d : SqlDialect) (table : String) (force : Bool) (r : Report) :
    Action σ (List Rendered × Report) := do
  match renderAll d table force r.plan with
  | .ok (rendered, warnings) =>
    let r ← r.warnAll warnings
    pure (rendered, r)
  | .error e =>
    let _ ← r.warnAll (warningsBefore d table force r.plan)
    throw e

/-- Reconciles a declared shape with the table of a relational store. -/
def relational (c : Connection σ) (d : SqlDialect) (shape : TableShape) (options : SyncOptions) :
    Action σ Report := do
  let (existing, r) ← existingTable c d shape.name {}
  let plan ← .lift (Plan.changes shape existing options (.sql d))
  let (rendered, r) ← rendering d shape.name options.force { r with plan }
  let r ← r.warnAll (rendered.filterMap fun (change, _) => fallbackWarning? change)
  if options.dryRun then pure r else applyAll c shape.name options.force r rendered

end Polystore.Sync

import Polystore.Connection.Collections
import Polystore.Sync.Relational

/-!
# Synchronizing collections

A document store has no columns: its collection is made sure of, or made anew on request, and the
declared indexes are created.
-/

namespace Polystore.Sync

variable {σ : Type}

/-- The changes for a collection: all its indexes, and the collection itself in a forced run. -/
def collectionPlan (shape : TableShape) (force : Bool) : List Change :=
  (if force then [.recreateTable shape] else []) ++ Plan.indexChanges shape .absent 0

/-- Drops a collection and creates it. -/
def recreate (store : DocumentStore σ) (collection : String) : Action σ Unit := do
  Action.step (store.drop collection)
  store.ensure collection

/-- Carries out one change. -/
def applyToCollection (store : DocumentStore σ) (collection : String) (r : Report) :
    Change → Action σ Report
  | .recreateTable _ => do
    .note .warning .sync ("dropping and recreating collection " ++ collection)
    (recreate store collection).mapError (.collectionNotSynced collection)
    pure (r.tableMade collection "dropped and recreated")
  | .createIndex name fields unique => do
    match ← (Action.step (store.createIndex collection fields unique (some name))).attempt with
    | .ok _ => pure r
    | .error e => r.warn (indexRefused collection name e)
  | _ => pure r

/-- Reconciles a declared shape with the collection of a document store. -/
def document (store : DocumentStore σ) (shape : TableShape) (options : SyncOptions) :
    Action σ Report := do
  let r : Report := { plan := collectionPlan shape options.force }
  if options.dryRun then pure r
  else
    if !options.force then store.ensure shape.name
    r.plan.foldlM (applyToCollection store shape.name) r

/-- Reconciles a declared shape with the table of a store of any dialect. For the dialect of the document
store collections are asked for, which the connection does not have. -/
def synchronize (c : Connection σ) (d : Dialect) (shape : TableShape) (options : SyncOptions) :
    Action σ Report :=
  match d with
  | .sql d => relational c d shape options
  | .document => document .absent shape options

end Polystore.Sync

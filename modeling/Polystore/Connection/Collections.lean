import Polystore.Connection.Basic

/-!
# Document stores

A document store manages collections and their indexes; it may refuse any request.
-/

namespace Polystore

/-- The behaviour of a document store: how it answers each request in each of its states. -/
structure DocumentStore (σ : Type) where
  listNames : σ → Except Error (List String) × σ
  create : String → σ → Except Error Unit × σ
  drop : String → σ → Except Error Unit × σ
  /-- Creates an index of a collection over fields, unique or not, perhaps under a name. -/
  createIndex : String → List (String × Int) → Value → Option String → σ → Except Error Unit × σ

namespace DocumentStore

variable {σ : Type}

/-- Creates a collection unless the store lists it. -/
def ensure (store : DocumentStore σ) (collection : String) : Action σ Unit := do
  let names ← Action.step store.listNames
  if names.contains collection then pure () else Action.step (store.create collection)

/-- A relational store has no collections, whatever it is asked. -/
def absent : DocumentStore σ :=
  let refuse {α : Type} (operation : String) (s : σ) : Except Error α × σ :=
    (.error (.fault (.noCollections operation)), s)
  { listNames := refuse "ensure_collection"
    create := fun _ => refuse "ensure_collection"
    drop := fun _ => refuse "drop_collection"
    createIndex := fun _ _ _ _ => refuse "create_index" }

end DocumentStore

end Polystore

/-!
# Kinds of errors

The hierarchy in which callers tell errors apart: each kind belongs to a wider one, up to that of the
whole library.
-/

namespace Polystore

/-- The kinds of errors; each but the first belongs to a wider one. -/
inductive Kind where
  | library
  | compile
  | invalidFilter
  | invalidUpdate
  | unsupported
  | invalidName
  | tooDeep
  | schema
  | invalidSchema
  | unresolvedDefault
  | sync
  | introspection
  | migration
  deriving DecidableEq, Repr

namespace Kind

def all : List Kind :=
  [.library, .compile, .invalidFilter, .invalidUpdate, .unsupported, .invalidName, .tooDeep, .schema,
   .invalidSchema, .unresolvedDefault, .sync, .introspection, .migration]

/-- The next wider kind. -/
def parent? : Kind → Option Kind
  | library => none
  | compile => some library
  | invalidFilter => some compile
  | invalidUpdate => some compile
  | unsupported => some compile
  | invalidName => some compile
  | tooDeep => some compile
  | schema => some library
  | invalidSchema => some schema
  | unresolvedDefault => some schema
  | sync => some library
  | introspection => some sync
  | migration => some library

/-- A kind and all wider ones, narrowest first; no chain is longer than three. -/
def lineage (k : Kind) : List Kind :=
  k :: match k.parent? with
    | none => []
    | some p => p :: p.parent?.toList

theorem library_mem_lineage (k : Kind) : library ∈ k.lineage := by
  cases k <;> decide

end Kind

end Polystore

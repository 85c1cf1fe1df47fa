import Polystore.Text.Case

/-!
# Existing tables

What a store reports about a table. Names are found in any letter case, since stores may fold it.
-/

namespace Polystore

/-- A column as a store reports it. -/
structure ExistingColumn where
  name : String
  rawType : String
  nullable : Bool := true
  deriving Repr

/-- The state of a table in a store; `indexes` holds each name once. -/
structure ExistingTable where
  present : Bool
  columns : List ExistingColumn := []
  indexes : List String := []
  deriving Repr

namespace ExistingTable

/-- A table that does not exist. -/
def absent : ExistingTable :=
  { present := false }

def columnNames (t : ExistingTable) : List String :=
  t.columns.map (·.name)

/-- Two names are the same in any letter case. -/
def sameName (a b : String) : Bool :=
  Text.lower a == Text.lower b

def hasColumn (t : ExistingTable) (name : String) : Bool :=
  t.columns.any fun c => sameName c.name name

def hasIndex (t : ExistingTable) (name : String) : Bool :=
  t.indexes.any fun i => sameName i name

end ExistingTable

end Polystore

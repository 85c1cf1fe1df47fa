import Polystore.Entries
import Polystore.Shape.Field
import Polystore.Shape.Index

/-!
# Table shapes

The declared form of a table: its fields in order, its primary key and its indexes. Every field that
an index names is declared or is the primary key.
-/

namespace Polystore

/-- A declared table. -/
structure TableShape where
  name : String
  fields : Entries String Field
  indexes : List Index := []
  primaryKey : String := "_id"
  deriving Repr

namespace TableShape

/-- The first field that an index names and that is neither declared nor the primary key. -/
def unknownIndexField? (s : TableShape) : Option String :=
  (s.indexes.flatMap Index.fieldNames).find? fun f => !(s.fields.has f || f == s.primaryKey)

/-- Refuses a shape without a name or with an index over an unknown field. -/
def check (s : TableShape) : Except Error TableShape :=
  if s.name = "" then throw (.schema .unnamedTable)
  else match s.unknownIndexField? with
    | some f => throw (.schema (.unknownIndexField s.name f))
    | none => pure s

/-- The shape that field definitions give. With `timestamps`, two fields hold the times at which a row
was created and last written. -/
def ofDefinitions (name : String) (definitions : Entries String Value) (timestamps : Bool)
    (indexes : List Index) (primaryKey : String) : Except Error TableShape := do
  let declared : Entries String Field ←
    (Entries.ofList definitions).mapM fun d => (Field.ofDefinition d.2).map (d.1, ·)
  let fields : Entries String Field :=
    if timestamps then (declared.put "createdAt" .writeTime).put "updatedAt" .writeTime else declared
  check { name, fields, indexes, primaryKey }

def find? (s : TableShape) (name : String) : Option Field :=
  s.fields.get? name

/-- A shape with one field declared anew or in addition. -/
def withField (s : TableShape) (name : String) (f : Field) : Except Error TableShape :=
  check { s with fields := s.fields.put name f }

def size (s : TableShape) : Nat :=
  s.fields.length

/-- A shape in one line. -/
def shown (s : TableShape) : String :=
  "TableShape(" ++ Text.literal s.name ++ ", fields=" ++
    (Value.list (s.fields.keys.map .str)).shown ++ ")"

end TableShape

end Polystore

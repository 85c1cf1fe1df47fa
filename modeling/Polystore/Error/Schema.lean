import Polystore.Error.Fault
import Polystore.Name

/-!
# What is wrong with a table

The causes for which shapes and their use are refused, the catalog queries that can fail, and the two
directions of a migration step.
-/

namespace Polystore

/-- A table shape, or a use of it, that is malformed. -/
inductive SchemaFault where
  | unknownType (value : Value)
  | typeMissing (definition : Value)
  | unknownOption (key : Value)
  | noIndexFields
  | indexDirection (field : String) (direction : Int)
  | unnamedTable
  | unknownIndexField (table field : String)
  | noNativeType (type : FieldType) (dialect : String)
  | nonFiniteDefault (value : Value)
  | notEncodable (value : Value) (cause : Fault)
  | noLiteral (className : String)
  | undeclaredField (field : Name) (shape : String)
  | shapeRequired
  deriving Repr

namespace SchemaFault

def message : SchemaFault → String
  | unknownType _ => "unsupported field type"
  | typeMissing _ => "field definition has no type"
  | unknownOption _ => "unknown field definition key"
  | noIndexFields => "index has no fields"
  | indexDirection .. => "invalid index direction"
  | unnamedTable => "table name cannot be empty"
  | unknownIndexField .. => "index references unknown field"
  | noNativeType .. => "unsupported field type for dialect"
  | nonFiniteDefault _ => "invalid default value"
  | notEncodable .. => "invalid default value"
  | noLiteral _ => "invalid default value"
  | undeclaredField .. => "unknown field"
  | shapeRequired => "shape validation requires a shape"

def detail : SchemaFault → String
  | unknownType v => "cannot map " ++ v.shown ++ " to a field type"
  | typeMissing d => "definition " ++ d.shown ++ " is missing 'type'"
  | unknownOption k => "key " ++ k.shown ++ " is not a recognized field option"
  | noIndexFields => "composite index declared without fields"
  | indexDirection field direction =>
    "index direction for " ++ Text.literal field ++ " must be 1 or -1, got " ++ toString direction
  | unnamedTable => "TableShape created without a name"
  | unknownIndexField table field =>
    "index on " ++ Text.literal table ++ " references undeclared field " ++ Text.literal field
  | noNativeType type dialect =>
    "no native type for " ++ type.shown ++ " on dialect " ++ Text.literal dialect
  | nonFiniteDefault v => "non-finite float default " ++ v.shown
  | notEncodable v _ => "default " ++ v.shown ++ " is not JSON serializable"
  | noLiteral c => "default of type " ++ c ++ " has no SQL literal form"
  | undeclaredField field shape =>
    "field " ++ field.shown ++ " is not declared on " ++ Text.literal shape
  | shapeRequired => "validate_shape=True requires a TableShape to be provided"

end SchemaFault

/-- The catalog whose query failed. -/
inductive CatalogQuery where
  | tables (schema table : String)
  | informationSchema (table : String)
  | pragma (table : String)
  deriving Repr

namespace CatalogQuery

def table : CatalogQuery → String
  | tables _ t => t
  | informationSchema t => t
  | pragma t => t

def subject : CatalogQuery → String
  | tables schema t => "catalog query for " ++ schema ++ "." ++ t
  | informationSchema t => "information_schema query for " ++ Text.literal t
  | pragma t => "PRAGMA on " ++ Text.literal t

end CatalogQuery

/-- The step of a migration. -/
inductive Direction where
  | up
  | down
  deriving DecidableEq, Repr

namespace Direction

def name : Direction → String
  | up => "up"
  | down => "down"

end Direction

end Polystore

import Polystore.Identifier

/-!
# Dialects

The relational engines and the document store, and everything in which they differ: placeholders,
quoting, limits, native types and the forms of a few statements.
-/

namespace Polystore

/-- A relational engine. -/
inductive Engine where
  | postgresql
  | mysql
  | sqlite
  deriving DecidableEq, Repr

/-- How a statement refers to its parameters. -/
inductive PlaceholderStyle where
  | numbered
  | qmark
  | format
  deriving DecidableEq, Repr

namespace PlaceholderStyle

def all : List PlaceholderStyle :=
  [.numbered, .qmark, .format]

def name : PlaceholderStyle → String
  | numbered => "numbered"
  | qmark => "qmark"
  | format => "format"

def ofName? (s : String) : Option PlaceholderStyle :=
  all.find? fun p => p.name == s

/-- The placeholder of the parameter with a number. -/
def placeholder (number : Nat) : PlaceholderStyle → String
  | numbered => "$" ++ toString number
  | qmark => "?"
  | format => "%s"

end PlaceholderStyle

/-- How an engine spells the literals of column defaults. -/
structure DefaultStyle where
  trueLiteral : String := "TRUE"
  falseLiteral : String := "FALSE"
  /-- What follows a JSON literal. -/
  jsonCast : String := ""
  /-- A JSON literal stands in parentheses. -/
  parenthesizeJson : Bool := false
  deriving Repr

/-- The name of the document store. -/
def documentStoreName : String := "mongodb"

namespace Engine

def all : List Engine :=
  [.postgresql, .mysql, .sqlite]

def name : Engine → String
  | postgresql => "postgresql"
  | mysql => "mysql"
  | sqlite => "sqlite"

def ofName? (s : String) : Option Engine :=
  all.find? fun e => e.name == s

/-- The placeholder style that the engine's drivers commonly use. -/
def placeholderStyle : Engine → PlaceholderStyle
  | postgresql => .numbered
  | mysql => .format
  | sqlite => .qmark

/-- The spelling of column defaults. -/
def defaultStyle : Engine → DefaultStyle
  | postgresql => { jsonCast := "::jsonb" }
  | mysql => { trueLiteral := "1", falseLiteral := "0", parenthesizeJson := true }
  | sqlite => { trueLiteral := "1", falseLiteral := "0" }

/-- The character around quoted identifiers. -/
def quoteMark : Engine → Char
  | mysql => Char.ofNat 0x60
  | _ => '"'

/-- The greatest length of an identifier; 0 is no limit. -/
def maxIdentifierLength : Engine → Nat
  | postgresql => 63
  | mysql => 64
  | sqlite => 0

/-- An index can be created under the condition that it does not exist. -/
def hasConditionalIndex : Engine → Bool
  | mysql => false
  | _ => true

/-- What follows the table in a statement that drops it. -/
def dropTableSuffix : Engine → String
  | postgresql => " CASCADE"
  | _ => ""

/-- The clause that makes a backslash the escape of a `LIKE` pattern. -/
def likeEscape : Engine → String
  | postgresql => " ESCAPE E'\\\\'"
  | mysql => " ESCAPE '\\\\'"
  | sqlite => " ESCAPE '\\'"

/-- The limit that an engine needs beside an offset where none was given. -/
def limitForOffset : Engine → Option String
  | postgresql => none
  | mysql => some "18446744073709551615"
  | sqlite => some "-1"

end Engine

namespace FieldType

/-- The column type of a field type. -/
def columnType : FieldType → Engine → String
  | text, .postgresql => "VARCHAR(255)"
  | text, .mysql => "VARCHAR(255)"
  | text, .sqlite => "TEXT"
  | number, .postgresql => "DOUBLE PRECISION"
  | number, .mysql => "DOUBLE"
  | number, .sqlite => "REAL"
  | boolean, .postgresql => "BOOLEAN"
  | boolean, .mysql => "TINYINT(1)"
  | boolean, .sqlite => "INTEGER"
  | timestamp, .postgresql => "TIMESTAMP"
  | timestamp, .mysql => "DATETIME"
  | timestamp, .sqlite => "TEXT"
  | reference, .postgresql => "VARCHAR(36)"
  | reference, .mysql => "VARCHAR(36)"
  | reference, .sqlite => "TEXT"
  | structured, e => jsonType e
  | array, e => jsonType e
  | mixed, e => jsonType e
where
  /-- The column type of values in JSON. -/
  jsonType : Engine → String
    | .postgresql => "JSONB"
    | .mysql => "JSON"
    | .sqlite => "TEXT"

/-- The name of a field type in the document store. -/
def documentType : FieldType → String
  | text => "string"
  | number => "double"
  | boolean => "bool"
  | timestamp => "date"
  | structured => "object"
  | array => "array"
  | reference => "objectId"
  | mixed => "mixed"

/-- The native type of a field type in the store of a name. -/
def nativeType (t : FieldType) (store : String) : Except Error String :=
  match Engine.ofName? store with
  | some e => pure (t.columnType e)
  | none =>
    if store = documentStoreName then pure t.documentType
    else throw (.schema (.noNativeType t store))

end FieldType

/-- A relational dialect: an engine with the choices that a caller makes. -/
structure SqlDialect where
  engine : Engine
  placeholders : PlaceholderStyle := engine.placeholderStyle
  /-- The namespace that holds the tables on PostgreSQL. -/
  schemaName : String := "public"
  /-- The database that holds the tables on MySQL, if not the connection's own. -/
  database : Option String := none
  deriving Repr

namespace SqlDialect

def name (d : SqlDialect) : String :=
  d.engine.name

/-- Refuses a name that is no identifier of the engine. -/
def validateName (d : SqlDialect) (name : String) : Except Error Unit :=
  Identifier.validate d.engine.maxIdentifierLength name

/-- A name between the engine's quote characters. -/
def quote (d : SqlDialect) (name : String) : Except Error String :=
  Identifier.quote d.engine.quoteMark name

/-- A valid name, quoted if it is a reserved word. -/
def renderField (d : SqlDialect) (name : String) : Except Error String := do
  d.validateName name
  if Identifier.isReserved name then d.quote name else pure name

/-- Refuses a value that is no text as a name. What is wrong with names is wrong with such a value as
far as it has a meaning: an empty value, a collection that holds the null character, and a collection
with more members than a name may have characters. -/
def nameError (limit : Int) (name : Value) : Error :=
  if !name.truthy then .name .empty
  else match name.members? with
    | none => .fault (.notText name.qualifiedClassName)
    | some members =>
      if members.any (Value.isKey "\x00") then
        .showing [name] (.name (.nullByte Identifier.fieldNames name.shown))
      else if Identifier.exceeds limit members.length then
        .showing [name] (.name (.tooLong name.plain limit))
      else .fault (.notText name.qualifiedClassName)

/-- A name given as a value: a text is checked like any name, and no other value can be a name. -/
def renderName (d : SqlDialect) (name : Value) : Except Error String :=
  match name.text? with
  | some s => d.renderField s
  | none => throw (nameError d.engine.maxIdentifierLength name)

/-- A valid name, quoted. -/
def quoteValid (d : SqlDialect) (name : String) : Except Error String := do
  d.validateName name
  d.quote name

end SqlDialect

/-- The dialect of a store. -/
inductive Dialect where
  | sql (dialect : SqlDialect)
  | document
  deriving Repr

namespace Dialect

def name : Dialect → String
  | sql d => d.name
  | document => documentStoreName

/-- The names of all dialects, sorted. -/
def available : List String :=
  ["mongodb", "mysql", "postgresql", "sqlite"]

/-- The dialect of a name, with the choices left to the engine. -/
def ofName (s : String) : Except Error Dialect :=
  match Engine.ofName? s with
  | some e => pure (sql { engine := e })
  | none =>
    if s = documentStoreName then pure document
    else throw (.fault (.unknownDialect (Text.literal s) available))

/-- The placeholder style of a name. -/
def styleOf (s : String) : Except Error PlaceholderStyle :=
  match PlaceholderStyle.ofName? s with
  | some p => pure p
  | none => throw (.fault (.unknownPlaceholderStyle s))

/-- The dialect of a name, with the choices that a caller makes in place of the engine's. -/
def configured (name : String) (style schemaName database : Option String) :
    Except Error Dialect := do
  match ← ofName name with
  | document => pure document
  | sql d =>
    let placeholders ← match style with
      | some s => styleOf s
      | none => pure d.placeholders
    pure (sql { d with placeholders, schemaName := schemaName.getD d.schemaName, database })

/-- The relational dialect; a document store has no SQL. -/
def relational : Dialect → Except Error SqlDialect
  | sql d => pure d
  | document => throw (.fault .noSql)

end Dialect

end Polystore

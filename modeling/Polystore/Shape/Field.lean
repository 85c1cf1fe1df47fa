import Polystore.Text.Case
import Polystore.Value.Conversion

/-!
# Field declarations

What a table shape says about one field, and how a declaration is read from a definition: a bare type
or a mapping of options.
-/

namespace Polystore

namespace FieldType

/-- The field type that a class of values stands for. -/
def ofTag? : TypeTag → Option FieldType
  | .str => some .text
  | .int => some .number
  | .float => some .number
  | .decimal => some .number
  | .bool => some .boolean
  | .dateTime => some .timestamp
  | .date => some .timestamp
  | .dict => some .structured
  | .list => some .array
  | .tuple => some .array
  | .bytes => none
  | .set => none
  | .object => none

/-- Names of field types besides their own. -/
def aliases : List (String × FieldType) :=
  [("objectid", .reference), ("string", .text), ("date", .timestamp), ("object", .structured),
   ("json", .structured)]

/-- The field type of a type's name, in any letter case. -/
def ofTypeName? (s : String) : Option FieldType :=
  let key := Text.lower s
  match aliases.find? fun a => a.1 == key with
  | some a => some a.2
  | none => ofName? key

/-- The field type that a definition names. -/
def ofDefinition? : Value → Option FieldType
  | .fieldType t => some t
  | .typeTag t => ofTag? t
  | .str s => ofTypeName? s
  | _ => none

def ofDefinition (v : Value) : Except Error FieldType :=
  match ofDefinition? v with
  | some t => pure t
  | none => throw (.showing [v] (.schema (.unknownType v)))

/-- A value can be stored in a field of the type, as far as the type tells. -/
def accepts (t : FieldType) (v : Value) : Bool :=
  v.isNull ||
  match t with
  | text => v.text?.isSome
  | number => v.isNumeric
  | boolean => match v with
    | .bool _ => true
    | _ => false
  | timestamp => match v with
    | .dateTime _ => true
    | .date _ => true
    | v => v.text?.isSome
  | structured => v.entries?.isSome
  | reference => match v with
    | .bool _ => false
    | v => v.entries?.isNone && v.sequence?.isNone
  | array => true
  | mixed => true

end FieldType

/-- What a field holds if a row does not give it. -/
inductive Default where
  | absent
  /-- The time at which the row is written. -/
  | currentTime
  | given (value : Value)
  deriving Repr

namespace Default

def isPresent : Default → Bool
  | absent => false
  | _ => true

/-- The default is computed when a row is written. -/
def isDeferred : Default → Bool
  | absent => false
  | currentTime => true
  | given v => v.callable

/-- The value of a default that is known when the table is created. -/
def literal? : Default → Option Value
  | given v => if v.callable then none else some v
  | _ => none

end Default

/-- The declaration of one field. Apart from the type, options are kept as they were given. -/
structure Field where
  type : FieldType
  required : Value := .bool false
  unique : Value := .bool false
  indexed : Value := .bool false
  default : Default := .absent
  enumValues : Value := .tuple []
  min : Value := .null
  max : Value := .null
  minLength : Value := .null
  maxLength : Value := .null
  pattern : Value := .null
  ref : Value := .null
  deriving Repr

namespace Field

/-- The options of a definition. -/
def optionNames : List String :=
  ["type", "required", "unique", "index", "default", "enum", "min", "max", "minlength", "maxlength",
   "match", "ref"]

def isOption (key : Value) : Bool :=
  match key.text? with
  | some s => optionNames.contains s
  | none => false

/-- The source of a pattern option. -/
def patternSource : Value → Except Error Value
  | .null => pure .null
  | .str s => pure (.str s)
  | .fieldType t => pure (.fieldType t)
  | .pattern p => pure (if p.overOctets then .bytes p.octets else .str p.source)
  | .typeTag t => throw (.fault (.notPattern ("type object '" ++ t.qualifiedName ++ "'")))
  | v => throw (.fault (.notPattern ("'" ++ v.qualifiedClassName ++ "' object")))

/-- The elements of an enumeration option. -/
def enumeration : Option Value → Except Error Value
  | none => pure (.tuple [])
  | some v => v.elements.map .tuple

/-- The declaration that a mapping of options gives. -/
def ofOptions (options : List (Value × Value)) : Except Error Field := do
  let get (name : String) (absent : Value) : Value := (Value.lookup name options).getD absent
  match Value.lookup "type" options with
  | none => throw (.showing [.map options] (.schema (.typeMissing (.map options))))
  | some typeOption =>
    match options.find? fun o => !isOption o.1 with
    | some o => throw (.showing [o.1] (.schema (.unknownOption o.1)))
    | none =>
      let type ← FieldType.ofDefinition typeOption
      let enumValues ← enumeration (Value.lookup "enum" options)
      let pattern ← patternSource (get "match" .null)
      pure {
        type
        required := get "required" (.bool false)
        unique := get "unique" (.bool false)
        indexed := get "index" (.bool false)
        default := match Value.lookup "default" options with
          | some v => .given v
          | none => .absent
        enumValues
        min := get "min" .null
        max := get "max" .null
        minLength := get "minlength" .null
        maxLength := get "maxlength" .null
        pattern
        ref := get "ref" .null }

/-- The declaration that a definition gives. -/
def ofDefinition (definition : Value) : Except Error Field :=
  match definition.entries? with
  | some options => ofOptions options
  | none => (FieldType.ofDefinition definition).map fun type => { type }

/-- A timestamp that a row gets when it is written. -/
def writeTime : Field :=
  { type := .timestamp, default := .currentTime }

/-- Rows that exist have no value for the field if it is added: it is required, and no literal default
other than null fills it. -/
def lacksValue (f : Field) : Bool :=
  f.required.truthy &&
  match f.default.literal? with
  | some v => v.isNull
  | none => true

end Field

end Polystore

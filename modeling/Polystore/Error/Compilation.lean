import Polystore.Filter.Operator
import Polystore.Name

/-!
# What is wrong with a filter or an update

The causes for which names, patterns, filters and updates are refused, each with a `message` for users
and a `detail` for logs.
-/

namespace Polystore

/-- A name that is no identifier. -/
inductive NameFault where
  | nullByte (context shown : String)
  | empty
  | tooLong (name : String) (limit : Int)
  | malformed (name : String)
  deriving Repr

namespace NameFault

def message : NameFault → String
  | nullByte context _ => context ++ " cannot contain null bytes"
  | empty => "field name cannot be empty"
  | tooLong .. => "field name too long"
  | malformed _ => "invalid field name format"

def detail : NameFault → String
  | nullByte context shown => "null byte found in " ++ context ++ ": " ++ shown
  | empty => "empty field name provided"
  | tooLong name limit => "field name '" ++ name ++ "' exceeds " ++ toString limit ++ " characters"
  | malformed name => "field name '" ++ name ++ "' contains invalid characters"

end NameFault

/-- A pattern or condition that a store cannot express. -/
inductive UnsupportedFault where
  | danglingEscape (pattern : String)
  | characterClass (c : Char) (pattern : String)
  | anchor (c : Char) (pattern : String)
  | metacharacter (c : Char) (pattern : String)
  | flags (flags : PatternFlags) (field : Name)
  | option (c : Char) (field : Name)
  | operator (symbol dialect : String)
  deriving Repr

namespace UnsupportedFault

def message : UnsupportedFault → String
  | operator .. => "operator not supported by dialect"
  | _ => "pattern not supported by dialect"

def detail : UnsupportedFault → String
  | danglingEscape p => "pattern " ++ Text.literal p ++ " ends with a dangling escape"
  | characterClass c p =>
    "character class '\\" ++ String.singleton c ++ "' in pattern " ++ Text.literal p ++
      " cannot be expressed as a substring match"
  | anchor c p =>
    "anchor " ++ Text.literal (String.singleton c) ++ " in pattern " ++ Text.literal p ++
      " is not preserved by substring match"
  | metacharacter c p =>
    "regex metacharacter " ++ Text.literal (String.singleton c) ++ " in pattern " ++
      Text.literal p ++ " cannot be expressed as a substring match"
  | flags fs field =>
    "pattern flags " ++ "|".intercalate fs.unsupportedNames ++ " on " ++ field.shown ++
      " are not supported"
  | option c field =>
    "pattern option " ++ Text.literal (String.singleton c) ++ " on " ++ field.shown ++
      " is not supported"
  | operator symbol dialect => "operator " ++ symbol ++ " has no " ++ dialect ++ " rendering"

end UnsupportedFault

/-- A filter, or the options of a read, that is malformed. -/
inductive FilterFault where
  | notMapping (className : String)
  | keyNotText (key : Value)
  | mixedKeys (field : Name)
  | unknownGroup (key : String)
  | groupOperand (key className : String)
  | optionsAlone (field : Name)
  | optionsNotText (field : Name)
  | unknownOperator (key : String) (field : Name)
  | listExpected (op : Filter.Operator) (field : Name) (className : String)
  | booleanExpected (op : Filter.Operator) (field : Name) (value : Value)
  | patternExpected (op : Filter.Operator) (field : Name)
  | textPatternExpected (op : Filter.Operator) (field : Name)
  | nullOperand (op : Filter.Operator) (field : Name)
  | typeMismatch (value : Value) (field : Name) (type : FieldType)
  | countExpected (option : String) (value : Value)
  | sortEntry (name direction : Value)
  | projectionFlag (name flag : Value)
  deriving Repr

namespace FilterFault

def message : FilterFault → String
  | notMapping _ => "invalid filter"
  | keyNotText _ => "invalid filter"
  | mixedKeys _ => "invalid filter"
  | unknownGroup _ => "invalid operator"
  | unknownOperator .. => "invalid operator"
  | typeMismatch .. => "value does not match declared field type"
  | _ => "invalid operand"

def detail : FilterFault → String
  | notMapping c => "filter must be a mapping, got " ++ c
  | keyNotText k => "filter keys must be strings, got " ++ k.shown
  | mixedKeys field => "condition on " ++ field.shown ++ " mixes operators and plain keys"
  | unknownGroup key => "unknown top-level operator " ++ Text.literal key
  | groupOperand key c => key ++ " expects a list of filters, got " ++ c
  | optionsAlone field =>
    Filter.optionsKey ++ " on " ++ field.shown ++ " requires " ++ Filter.Operator.regex.symbol
  | optionsNotText field =>
    Filter.optionsKey ++ " on " ++ field.shown ++ " must be a string"
  | unknownOperator key field =>
    "unknown operator " ++ Text.literal key ++ " on field " ++ field.shown
  | listExpected op field c =>
    op.symbol ++ " on " ++ field.shown ++ " expects a list, got " ++ c
  | booleanExpected op field v =>
    op.symbol ++ " on " ++ field.shown ++ " expects a boolean, got " ++ v.shown
  | patternExpected op field =>
    op.symbol ++ " on " ++ field.shown ++ " expects a string or compiled pattern"
  | textPatternExpected op field =>
    op.symbol ++ " on " ++ field.shown ++ " expects a text pattern"
  | nullOperand op field =>
    op.symbol ++ " on " ++ field.shown ++ " cannot compare against null"
  | typeMismatch v field type =>
    "value " ++ v.shown ++ " for " ++ field.shown ++ " does not match declared type " ++
      type.name
  | countExpected option v => option ++ " must be a non-negative integer, got " ++ v.shown
  | sortEntry name direction => "invalid sort entry " ++ name.shown ++ ": " ++ direction.shown
  | projectionFlag name flag =>
    "projection flag for " ++ name.shown ++ " must be 0 or 1, got " ++ flag.shown

end FilterFault

/-- An update that is malformed, or that a store cannot express. -/
inductive UpdateFault where
  | notMapping (className : String)
  | keyNotText (key : Value)
  | mixedKeys
  | noOperations (keys : List Value)
  | unknownOperator (key : String)
  | mappingExpected (key className : String)
  | namesExpected (key className : String)
  | invalidField (key : String) (name : Value)
  | numberExpected (key : String) (name : Name) (value : Value)
  | arrayChange (dialect : String)
  | nothingToSet
  | nothingToDo
  | emptyDocument
  deriving Repr

namespace UpdateFault

def message : UpdateFault → String
  | unknownOperator _ => "invalid operator"
  | mappingExpected .. => "invalid operand"
  | namesExpected .. => "invalid operand"
  | invalidField .. => "invalid operand"
  | numberExpected .. => "invalid operand"
  | _ => "invalid update"

def detail : UpdateFault → String
  | notMapping c => "update must be a mapping, got " ++ c
  | keyNotText k => "update keys must be strings, got " ++ k.shown
  | mixedKeys => "update mixes operator keys and plain field names"
  | noOperations keys => "update " ++ (Value.list keys).shown ++ " produced no operations"
  | unknownOperator key => "unknown update operator " ++ Text.literal key
  | mappingExpected key c => key ++ " expects a mapping of fields, got " ++ c
  | namesExpected key c => key ++ " expects a mapping or list of fields, got " ++ c
  | invalidField key name => key ++ " has invalid field name " ++ name.shown
  | numberExpected key name v =>
    key ++ " on " ++ name.shown ++ " expects a number, got " ++ v.shown
  | arrayChange dialect => "array append/detach is not representable on " ++ dialect
  | nothingToSet => "update has no fields to set"
  | nothingToDo => "update has no operations"
  | emptyDocument => "insert requires a non-empty mapping of fields"

end UpdateFault

end Polystore

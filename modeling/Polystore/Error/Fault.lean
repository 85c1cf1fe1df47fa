import Polystore.Text.Digit
import Polystore.Text.Literal

/-!
# Faults

Operations asked of values that do not offer them. A fault is no refusal of this library's own: it
tells that a caller passed data of a wrong sort, and it belongs to a family and not to a kind.
-/

namespace Polystore

/-- An operation that a value does not offer. -/
inductive Fault where
  /-- There are no elements to walk through. -/
  | notIterable (className : String)
  /-- A name has to be a text. -/
  | notText (className : String)
  /-- A whole number was wanted. -/
  | notNumeric (className : String)
  /-- A text that is no whole number. -/
  | notInteger (shown : String)
  /-- A whole number that is too long to be read from text, with its number of digits, or to be
  written. -/
  | tooManyDigits (found : Option Nat)
  /-- A not-a-number has no whole part. -/
  | notANumber (decimal : Bool)
  /-- An infinity has no whole part. -/
  | endless (decimal : Bool)
  /-- A signaling not-a-number was compared. -/
  | signaling
  /-- Two values of classes without a common order. -/
  | unordered (className other : String)
  /-- A collection cannot be the key of a mapping. -/
  | unhashable (className : String)
  /-- A row or pair has another number of parts than wanted. -/
  | partCount (wanted got : Nat)
  /-- A row has fewer columns than wanted. -/
  | missingColumn
  /-- A pattern was wanted. -/
  | notPattern (subject : String)
  /-- An operator that is no more than its symbol. -/
  | bareOperator
  /-- The key of a native filter holds a group, and no operator can be added. -/
  | misplacedOperator
  /-- The key of a native filter holds a value or operators, and no group can be added. -/
  | misplacedGroup
  /-- A value without a JSON form. -/
  | notEncodable (className : String)
  /-- Placeholders are numbered from one. -/
  | startIndex (index : Int)
  | unknownDialect (shown : String) (available : List String)
  | unknownPlaceholderStyle (style : String)
  | unknownChange (shown : String)
  | unknownCatalog (name : String)
  | unexpectedOption (name : String)
  /-- The document store has no SQL. -/
  | noSql
  /-- A relational store has no collections; the operation on them that was asked for. -/
  | noCollections (operation : String)
  deriving Repr

/-- The families of faults. -/
inductive FaultFamily where
  | wrongType
  | wrongValue
  | missingPart
  | outOfRange
  | overflow
  | incomparable
  deriving DecidableEq, Repr

namespace Fault

/-- The family of a fault. -/
def family : Fault → FaultFamily
  | notIterable _ => .wrongType
  | notText _ => .wrongType
  | notNumeric _ => .wrongType
  | notInteger _ => .wrongValue
  | tooManyDigits _ => .wrongValue
  | notANumber _ => .wrongValue
  | endless _ => .overflow
  | signaling => .incomparable
  | unordered .. => .wrongType
  | unhashable _ => .wrongType
  | partCount .. => .wrongValue
  | missingColumn => .outOfRange
  | notPattern _ => .missingPart
  | bareOperator => .missingPart
  | misplacedOperator => .wrongType
  | misplacedGroup => .missingPart
  | notEncodable _ => .wrongType
  | startIndex _ => .wrongValue
  | unknownDialect .. => .wrongValue
  | unknownPlaceholderStyle _ => .wrongValue
  | unknownChange _ => .wrongType
  | unknownCatalog _ => .missingPart
  | unexpectedOption _ => .wrongType
  | noSql => .missingPart
  | noCollections _ => .missingPart

def message : Fault → String
  | notIterable c => "'" ++ c ++ "' object is not iterable"
  | notText c => "expected string or bytes-like object, got '" ++ c ++ "'"
  | notNumeric c =>
    "int() argument must be a string, a bytes-like object or a real number, not '" ++ c ++ "'"
  | notInteger s =>
    "invalid literal for int() with base 10: " ++ String.ofList (s.toList.take 200)
  | tooManyDigits found =>
    "Exceeds the limit (" ++ toString Text.maxDigits ++ " digits) for integer string conversion" ++
      (match found with
        | some n => ": value has " ++ toString n ++ " digits"
        | none => "") ++
      "; use sys.set_int_max_str_digits() to increase the limit"
  | notANumber false => "cannot convert float NaN to integer"
  | notANumber true => "cannot convert NaN to integer"
  | endless false => "cannot convert float infinity to integer"
  | endless true => "cannot convert Infinity to integer"
  | signaling => "[<class 'decimal.InvalidOperation'>]"
  | unordered c d => "'<' not supported between instances of '" ++ c ++ "' and '" ++ d ++ "'"
  | unhashable c => "unhashable type: '" ++ c ++ "'"
  | partCount wanted got =>
    if got < wanted then
      "not enough values to unpack (expected " ++ toString wanted ++ ", got " ++ toString got ++ ")"
    else "too many values to unpack (expected " ++ toString wanted ++ ")"
  | missingColumn => "tuple index out of range"
  | notPattern subject => subject ++ " has no attribute 'pattern'"
  | bareOperator => "'str' object has no attribute 'value'"
  | misplacedOperator => "list indices must be integers or slices, not str"
  | misplacedGroup => "the key does not hold a list"
  | notEncodable c => "Object of type " ++ c ++ " is not JSON serializable"
  | startIndex n => "start_index must be >= 1, got " ++ toString n
  | unknownDialect s available =>
    "unknown dialect: " ++ s ++ ". Available: " ++ ", ".intercalate available
  | unknownPlaceholderStyle s => Text.literal s ++ " is not a valid PlaceholderStyle"
  | unknownChange s => "unknown change " ++ s
  | unknownCatalog s => "unknown catalog: " ++ Text.literal s
  | unexpectedOption s => "unexpected option: " ++ Text.literal s
  | noSql => "the document store has no SQL"
  | noCollections op => "'DBAPIBackend' object has no attribute '" ++ op ++ "'"

end Fault

end Polystore

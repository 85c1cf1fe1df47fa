import Polystore.Error
import Polystore.Text.Json

/-!
# JSON text of a value

The compact JSON encoding of texts, numbers, truth values, null, sequences and mappings. Keys that
are numbers, truth values or null are written as texts.
-/

namespace Polystore.Value

/-- A floating-point number in JSON; the special numbers have names there. -/
def jsonFloat (x : Binary64) : List Char :=
  match x with
  | .nan => "NaN".toList
  | .infinite neg => Decimal.signText neg ++ "Infinity".toList
  | x => x.text.toList

/-- A whole number in JSON. -/
def jsonInt (n : Int) : Except Fault String :=
  if Text.isWritable n then pure (toString n) else throw (.tooManyDigits none)

/-- The text of a mapping's key. -/
def jsonKey : Value → Except Fault (List Char)
  | str s => pure (Text.jsonString s)
  | fieldType t => pure (Text.jsonString t.name)
  | null => pure (Text.jsonString "null")
  | bool b => pure (Text.jsonString (if b then "true" else "false"))
  | int n => (jsonInt n).map Text.jsonString
  | float x => pure (Text.jsonString (String.ofList (jsonFloat x)))
  | v => throw (.notEncodable v.className)

mutual

/-- The JSON text of a value. -/
def json : Value → Except Fault (List Char)
  | null => pure "null".toList
  | bool b => pure (if b then "true" else "false").toList
  | int n => (jsonInt n).map String.toList
  | float x => pure (jsonFloat x)
  | str s => pure (Text.jsonString s)
  | fieldType t => pure (Text.jsonString t.name)
  | list xs => do
    let parts ← jsonItems xs
    pure ('[' :: ([','].intercalate parts ++ [']']))
  | tuple xs => do
    let parts ← jsonItems xs
    pure ('[' :: ([','].intercalate parts ++ [']']))
  | map es => do
    let parts ← jsonEntries es
    pure ('\x7b' :: ([','].intercalate parts ++ ['\x7d']))
  | v => throw (.notEncodable v.className)

def jsonItems : List Value → Except Fault (List (List Char))
  | [] => pure []
  | x :: xs => do
    let first ← x.json
    let rest ← jsonItems xs
    pure (first :: rest)

def jsonEntries : List (Value × Value) → Except Fault (List (List Char))
  | [] => pure []
  | (k, v) :: es => do
    let key ← jsonKey k
    let value ← v.json
    let rest ← jsonEntries es
    pure ((key ++ ':' :: value) :: rest)

end

end Polystore.Value

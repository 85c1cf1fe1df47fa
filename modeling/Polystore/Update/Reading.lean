import Polystore.Filter.Operator
import Polystore.Update.Spec
import Polystore.Value.Conversion

/-!
# Reading updates

An update is a mapping of operators with the fields that they change, or of fields with their new
values. `read` turns it into a specification in the order of the keys.
-/

namespace Polystore.Update

/-- The keys of an update as names; the first that is none is refused. -/
def keyNames : List Value → Except Error (List Name)
  | [] => pure []
  | k :: ks =>
    match Name.ofValue? k with
    | none => throw (.showing [k] (.update (.keyNotText k)))
    | some n => (keyNames ks).map (n :: ·)

/-- The name of a field under an operator: a text that is not empty and no operator key. -/
def fieldName (operator : String) (name : Value) : Except Error Name :=
  match Name.ofValue? name with
  | some n =>
    if n.text = "" || Filter.isOperatorKey n.text then throw (.update (.invalidField operator name))
    else pure n
  | none => throw (.showing [name] (.update (.invalidField operator name)))

/-- The names of fields to remove: the keys of a mapping or the elements of a list. -/
def removalNames (operator : String) (operand : Value) : Except Error (List Name) :=
  match operand with
  | .map es => (es.map (·.1)).mapM (fieldName operator)
  | .list xs => xs.mapM (fieldName operator)
  | .tuple xs => xs.mapM (fieldName operator)
  | v => throw (.update (.namesExpected operator v.className))

/-- One field under an operator; what is added to a field must be a number. -/
def readField (operator : String) (b : Bucket) (e : Value × Value) :
    Except Error (Name × Value) := do
  let name ← fieldName operator e.1
  if b = .increment ∧ e.2.isNumeric = false then
    throw (.showing [e.2] (.update (.numberExpected operator name e.2)))
  pure (name, e.2)

/-- The fields of one operator with their operands. -/
def readOperand (operator : String) (b : Bucket) (operand : Value) :
    Except Error (Entries Name Value) :=
  match b with
  | .remove => (removalNames operator operand).map fun names => names.map fun n => (n, .null)
  | b =>
    match operand with
    | .map es => es.mapM (readField operator b)
    | v => throw (.update (.mappingExpected operator v.className))

/-- Adds the operations of operators, one after the other. -/
def readOperators (spec : Spec) : Entries Name Value → Except Error Spec
  | [] => pure spec
  | (key, operand) :: es =>
    match Bucket.ofOperator? key.text with
    | none => throw (.update (.unknownOperator key.text))
    | some b => do
      let fields ← readOperand key.text b operand
      readOperators (spec.placeAll b fields) es

/-- The operations of a mapping. Without operator keys every field is assigned its value; operator keys
and field names do not mix. -/
def readEntries (es : List (Value × Value)) : Except Error Spec := do
  let names ← keyNames (es.map (·.1))
  let entries : Entries Name Value := names.zip (es.map (·.2))
  if !entries.keys.any Filter.isOperatorKey then pure (Spec.empty.placeAll .assign entries)
  else if !entries.keys.all Filter.isOperatorKey then throw (.update .mixedKeys)
  else
    let spec ← readOperators .empty entries
    if spec.isEmpty then throw (.update (.noOperations (es.map (·.1)))) else pure spec

/-- The operations of an update; the empty mapping has none. -/
def read (update : Value) : Except Error Spec :=
  match update with
  | .map es => readEntries es
  | v => throw (.update (.notMapping v.className))

end Polystore.Update

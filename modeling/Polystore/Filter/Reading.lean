import Polystore.Filter.Node
import Polystore.Value.Conversion

/-!
# Reading filters

A filter is a mapping: a key is a field name with a literal or a mapping of operators, or a connective
with a list of sub-filters. `read` turns it into condition nodes in the order of the keys; groups may
nest up to a limit.
-/

namespace Polystore.Filter

/-- How deep groups may nest if the caller does not say. -/
def defaultDepthLimit : Int := 32

/-- The key of a mapping is an operator key. -/
def isOperatorEntry (e : Value × Value) : Bool :=
  match e.1.text? with
  | some s => isOperatorKey s
  | none => false

/-- The operators of a field's value: `none` for a literal. A mapping with operator keys holds nothing
else. -/
def operators? (field : Name) (v : Value) : Except Error (Option (List (Value × Value))) :=
  match v with
  | .map es =>
    if es.isEmpty then pure none
    else if es.all isOperatorEntry then pure (some es)
    else if es.any isOperatorEntry then throw (.filter (.mixedKeys field))
    else pure none
  | _ => pure none

/-- The condition of one operator with its operand. -/
def leafOf (field : Name) (op : Operator) (operand : Value) (options : Name) :
    Except Error Leaf :=
  match op with
  | .isIn | .notIn =>
    match operand.sequence? with
    | some xs => pure { field, operator := op, value := .list xs }
    | none => throw (.filter (.listExpected op field operand.className))
  | .exists =>
    match operand with
    | .bool b => pure { field, operator := op, value := .bool b }
    | v => do
      if ← v.isOneOf [0, 1] then pure { field, operator := op, value := .bool v.truthy }
      else throw (.showing [v] (.filter (.booleanExpected op field v)))
  | .regex =>
    match operand with
    | .str s => pure { field, operator := op, value := .str s, options }
    | .fieldType t => pure { field, operator := op, value := .fieldType t, options }
    | .pattern p => pure { field, operator := op, value := .pattern p, options }
    | _ => throw (.filter (.patternExpected op field))
  | op => pure { field, operator := op, value := operand }

/-- The pattern options of an operator mapping; they need a pattern beside them. -/
def optionsOf (field : Name) (operators : List (Value × Value)) : Except Error Name :=
  match Value.lookup optionsKey operators with
  | none => pure (.plain "")
  | some v =>
    if (Value.lookup Operator.regex.symbol operators).isNone then
      throw (.filter (.optionsAlone field))
    else match Name.ofValue? v with
      | some options => pure options
      | none => throw (.filter (.optionsNotText field))

/-- The conditions of the operators of a field, in order. -/
def readOperators (field options : Name) : List (Value × Value) → Except Error (List Node)
  | [] => pure []
  | (k, v) :: es => do
    let key := k.text?.getD ""
    if key = optionsKey then readOperators field options es
    else match Operator.ofSymbol? key with
      | none => throw (.filter (.unknownOperator key field))
      | some op => do
        let l ← leafOf field op v options
        let rest ← readOperators field options es
        pure (.leaf l :: rest)

/-- The conditions of a field: an equality for a literal, or one condition per operator. -/
def readField (field : Name) (v : Value) : Except Error (List Node) := do
  match ← operators? field v with
  | none => pure [.leaf { field, operator := .eq, value := v }]
  | some es => do
    let options ← optionsOf field es
    readOperators field options es

/-- The error for a depth beyond the limit. A depth counts groups that are there, so that of the two
numbers only a negative limit can have too many digits to be shown. -/
def depthError (depth : Nat) (limit : Int) : Error :=
  if limit < 0 then .showing [.int limit] (.tooDeep depth limit) else .tooDeep depth limit

/-- Refuses a depth beyond the limit. -/
def checkDepth (depth : Nat) (limit : Int) : Except Error Unit :=
  if (depth : Int) > limit then throw (depthError depth limit) else pure ()

mutual

/-- The nodes of a filter that stands `depth` groups deep. -/
def readAt (limit : Int) (depth : Nat) : Value → Except Error (List Node)
  | .map es => do
    checkDepth depth limit
    readEntries limit depth es
  | v => do
    checkDepth depth limit
    throw (.filter (.notMapping v.className))

def readEntries (limit : Int) (depth : Nat) : List (Value × Value) → Except Error (List Node)
  | [] => pure []
  | (k, v) :: es => do
    match Name.ofValue? k with
    | none => throw (.showing [k] (.filter (.keyNotText k)))
    | some name =>
      let first ←
        if isOperatorKey name.text then
          match Connective.ofSymbol? name.text with
          | none => throw (.filter (.unknownGroup name.text))
          | some c => do
            let children ← readGroup limit depth name.text v
            pure [Node.group c children]
        else readField name v
      let rest ← readEntries limit depth es
      pure (first ++ rest)

/-- The children of a group. -/
def readGroup (limit : Int) (depth : Nat) (key : String) : Value → Except Error (List (List Node))
  | .list xs => readChildren limit depth xs
  | .tuple xs => readChildren limit depth xs
  | v => throw (.filter (.groupOperand key v.className))

def readChildren (limit : Int) (depth : Nat) : List Value → Except Error (List (List Node))
  | [] => pure []
  | x :: xs => do
    let child ← readAt limit (depth + 1) x
    let rest ← readChildren limit depth xs
    pure (child :: rest)

end

/-- The nodes of a filter whose groups nest at most `limit` deep; null is the filter without
conditions. -/
def readWithin (limit : Int) (filter : Value) : Except Error (List Node) :=
  if filter.isNull then pure [] else readAt limit 0 filter

/-- The nodes of a filter under the usual limit. -/
def read (filter : Value) : Except Error (List Node) :=
  readWithin defaultDepthLimit filter

end Polystore.Filter

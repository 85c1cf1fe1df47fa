import Polystore.Text.Blank
import Polystore.Value.Conversion

/-!
# Options of a read

Sort orders and projections in all their spellings, and the counts that page through a result.
-/

namespace Polystore.Query

/-- One field of a sort order. -/
structure SortEntry where
  field : Value
  descending : Bool
  deriving Repr

/-- The direction as a number: 1 ascending, -1 descending. -/
def SortEntry.direction (e : SortEntry) : Int :=
  if e.descending then -1 else 1

/-- One field of a projection, to show or to leave out. -/
structure ProjectionEntry where
  field : Value
  included : Bool
  deriving Repr

/-- The fields that a text names, separated by blanks; a minus sign marks one. -/
def markedNames (s : String) : List (String × Bool) :=
  (Text.words s.toList).map fun w =>
    match w with
    | '-' :: name => (String.ofList name, true)
    | name => (String.ofList name, false)

/-- A pair of a field and a direction; the direction is 1 or -1. -/
def sortEntry : List Value → Except Error SortEntry
  | [field, direction] => do
    let refused : Error := .showing [field, direction] (.filter (.sortEntry field direction))
    if !field.truthy then throw refused
    if ← direction.isOneOf [1, -1] then pure { field, descending := direction.isInt (-1) }
    else throw refused
  | parts => throw (.fault (.partCount 2 parts.length))

/-- The pairs of a sort order. -/
def sortPairs (sort : Value) : Except Error (List (List Value)) :=
  match sort.text? with
  | some s =>
    pure ((markedNames s).map fun (name, marked) => [.str name, .int (if marked then -1 else 1)])
  | none =>
    match sort.entries? with
    | some es => pure (es.map fun (k, v) => [k, v])
    | none => do
      let pairs ← sort.elements
      pairs.mapM Value.elements

/-- A sort order: a mapping, a list of pairs, or a text of names with a minus sign before the
descending ones. -/
def normalizeSort (sort : Value) : Except Error (List SortEntry) := do
  if !sort.truthy then pure []
  else
    let pairs ← sortPairs sort
    pairs.mapM sortEntry

/-- Writes an entry in the place of an earlier one for the same field, or at the end. -/
def putEntry (entries : List ProjectionEntry) (e : ProjectionEntry) : List ProjectionEntry :=
  if entries.any fun o => o.field.sameKey e.field then
    entries.map fun o => if o.field.sameKey e.field then { o with included := e.included } else o
  else entries ++ [e]

/-- One entry of a mapping; the flag is 0 or 1. -/
def flaggedEntry (e : Value × Value) : Except Error ProjectionEntry := do
  if ← e.2.isOneOf [0, 1] then pure { field := e.1, included := e.2.isInt 1 }
  else throw (.showing [e.1, e.2] (.filter (.projectionFlag e.1 e.2)))

/-- A projection: a mapping of flags, a list of names, or a text of names with a minus sign before the
excluded ones. -/
def normalizeProjection (select : Value) : Except Error (List ProjectionEntry) := do
  if !select.truthy then pure []
  else match select.text? with
    | some s =>
      pure ((markedNames s).foldl
        (fun acc (name, marked) => putEntry acc { field := .str name, included := !marked }) [])
    | none =>
      match select.entries? with
      | some es => es.mapM flaggedEntry
      | none => do
        let names ← select.elements
        names.forM Value.checkKey
        pure (names.foldl (fun acc n => putEntry acc { field := n, included := true }) [])

/-- A projection as a mapping of flags. -/
def projectionValue (entries : List ProjectionEntry) : Value :=
  .map (entries.map fun e => (e.field, .int (if e.included then 1 else 0)))

/-- What a read asks for besides its filter. -/
structure Options where
  sort : Value := .null
  limit : Option Nat := none
  skip : Option Nat := none
  select : Value := .null
  deriving Repr

/-- A count that may be left out. -/
def count (name : String) (v : Value) : Except Error (Option Nat) :=
  match v with
  | .null => pure none
  | .int n =>
    if n < 0 then throw (.showing [v] (.filter (.countExpected name v))) else pure (some n.toNat)
  | v => throw (.showing [v] (.filter (.countExpected name v)))

/-- The options given as values; the counts are checked at once. -/
def Options.ofValues (sort limit skip select : Value) : Except Error Options := do
  let limit ← count "limit" limit
  let skip ← count "skip" skip
  pure { sort, limit, skip, select }

end Polystore.Query

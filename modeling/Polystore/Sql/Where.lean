import Polystore.Filter.Node
import Polystore.Sql.Predicate
import Polystore.Value.Conversion

/-!
# Filters as SQL conditions

Each condition of a filter becomes a test of its column, and each group a parenthesised expression. A
filter is refused at the first condition that has no SQL form; the refusal tells which values the
conditions before it have bound.
-/

namespace Polystore.Sql

/-- An error together with the values that were bound before it. -/
structure Refusal where
  error : Error
  bound : List Value := []

/-- The refusal of a part that follows other bound values. -/
def Refusal.after (earlier : List Value) (r : Refusal) : Refusal :=
  { r with bound := earlier ++ r.bound }

/-- The comparison of an operator. -/
def comparison? : Filter.Operator → Option Comparison
  | .eq => some .eq
  | .ne => some .ne
  | .gt => some .gt
  | .gte => some .ge
  | .lt => some .lt
  | .lte => some .le
  | _ => none

/-- A comparison with a value; null can only be tested for equality. -/
def comparisonTest (column : String) (l : Filter.Leaf) (op : Comparison) :
    Except Error Predicate :=
  if l.value.isNull then
    match op with
    | .eq => pure (.nullTest column true)
    | .ne => pure (.nullTest column false)
    | _ => throw (.filter (.nullOperand l.operator l.field))
  else pure (.compare column op l.value)

/-- A test against a list of values. Null among them is tested apart, because no list of SQL holds it. -/
def membershipTest (column : String) (negated : Bool) (values : List Value) : Predicate :=
  let present := values.filter fun v => !v.isNull
  if values.isEmpty then .constant negated
  else if present.isEmpty then .nullTest column (!negated)
  else if present.length = values.length then .membership column negated present
  else if negated then
    .grouped (.both [.membership column true present, .nullTest column false])
  else .grouped (.either [.membership column false present, .nullTest column true])

/-- The source of a pattern, and whether its flags ask to ignore the case. -/
def patternSource (l : Filter.Leaf) : Except Error (Value × Bool) :=
  match l.value with
  | .pattern p =>
    if p.flags.unsupportedNames.isEmpty then
      pure (if p.overOctets then .bytes p.octets else .str p.source, p.flags.ignoreCase)
    else throw (.unsupported (.flags p.flags l.field))
  | v => pure (v, false)

/-- Whether options ask to ignore the case; two other options do not matter to a substring. -/
def readOptions (field : Name) (ignoreCase : Bool) : List Char → Except Error Bool
  | [] => pure ignoreCase
  | c :: cs =>
    if c = 'i' then readOptions field true cs
    else if c = 'm' || c = 's' then readOptions field ignoreCase cs
    else throw (.unsupported (.option c field))

/-- A pattern as a substring test. -/
def patternTest (column : String) (l : Filter.Leaf) : Except Error Predicate := do
  let (source, fromFlags) ← patternSource l
  let ignoreCase ← readOptions l.field fromFlags l.options.text.toList
  match source.text? with
  | none => throw (.filter (.textPatternExpected l.operator l.field))
  | some s =>
    let content ← Substring.ofPattern s
    pure (.contains column content ignoreCase)

/-- The test of one condition. -/
def leafTest (d : SqlDialect) (l : Filter.Leaf) : Except Error Predicate := do
  let column ← d.renderField l.field.text
  match comparison? l.operator with
  | some op => comparisonTest column l op
  | none =>
    match l.operator with
    | .exists => pure (.nullTest column (!l.value.truthy))
    | .isIn => (l.value.elements).map (membershipTest column false)
    | .notIn => (l.value.elements).map (membershipTest column true)
    | .regex => patternTest column l
    | op => throw (.unsupported (.operator op.symbol d.name))

/-- A group as an expression in parentheses; without children it always holds. -/
def groupTest (c : Filter.Connective) : List (Nat × Predicate) → Predicate
  | [] => .constant true
  | children =>
    let parts := children.map fun (size, p) => if size > 1 then Predicate.grouped p else p
    .grouped (match c with
      | .and => .both parts
      | .or => .either parts)

mutual

/-- The expression of a node. -/
def nodeTest (d : SqlDialect) : Filter.Node → Except Refusal Predicate
  | .leaf l => (leafTest d l).mapError fun e => { error := e }
  | .group c children => (childTests d children).map (groupTest c)

/-- The expressions of a list of nodes. -/
def nodeTests (d : SqlDialect) : List Filter.Node → Except Refusal (List Predicate)
  | [] => pure []
  | n :: ns => do
    let p ← nodeTest d n
    let ps ← (nodeTests d ns).mapError (Refusal.after p.values)
    pure (p :: ps)

/-- The expressions of the children of a group, each with the number of its nodes. -/
def childTests (d : SqlDialect) : List (List Filter.Node) → Except Refusal (List (Nat × Predicate))
  | [] => pure []
  | child :: children => do
    let ps ← nodeTests d child
    let p := Predicate.conjunction ps
    let rest ← (childTests d children).mapError (Refusal.after p.values)
    pure ((child.length, p) :: rest)

end

/-- The expression of a filter. -/
def condition (d : SqlDialect) (nodes : List Filter.Node) : Except Refusal Predicate :=
  (nodeTests d nodes).map Predicate.conjunction

end Polystore.Sql

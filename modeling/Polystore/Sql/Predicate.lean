import Polystore.Sql.Fragment
import Polystore.Substring

/-!
# SQL conditions

The boolean expressions that filters become, and their text.

Main statement: `values_fragment` says that the text of an expression binds the values of the
expression, in their order.
-/

namespace Polystore.Sql

/-- A comparison of a column with a value. -/
inductive Comparison where
  | eq
  | ne
  | gt
  | ge
  | lt
  | le
  deriving DecidableEq, Repr

def Comparison.symbol : Comparison → String
  | eq => "="
  | ne => "!="
  | gt => ">"
  | ge => ">="
  | lt => "<"
  | le => "<="

/-- A boolean expression; `grouped` stands in parentheses. -/
inductive Predicate where
  | constant (holds : Bool)
  | nullTest (column : String) (isNull : Bool)
  | compare (column : String) (op : Comparison) (operand : Value)
  | membership (column : String) (negated : Bool) (candidates : List Value)
  /-- The column contains a text. -/
  | contains (column : String) (content : String) (ignoreCase : Bool)
  | both (parts : List Predicate)
  | either (parts : List Predicate)
  | grouped (inner : Predicate)
  deriving Repr

namespace Predicate

/-- Everything in a list holds; an empty list always does. -/
def conjunction : List Predicate → Predicate
  | [] => constant true
  | ps => both ps

/-- The test that a column contains a text, by a `LIKE` pattern. -/
def containsFragment (engine : Engine) (column content : String) (ignoreCase : Bool) : Fragment :=
  let slot := Piece.slot (.str (Substring.containing content))
  (match engine, ignoreCase with
    | .postgresql, true => [.text (column ++ " ILIKE "), slot]
    | _, true => [.text ("LOWER(" ++ column ++ ") LIKE LOWER("), slot, .text ")"]
    | _, false => [.text (column ++ " LIKE "), slot]) ++
  if Substring.needsEscape content then [.text engine.likeEscape] else []

/-- The test of a column against a list of values. -/
def membershipFragment (column : String) (negated : Bool) (candidates : List Value) : Fragment :=
  .text (column ++ if negated then " NOT IN (" else " IN (") ::
    (Fragment.joinWith ", " (candidates.map fun v => [.slot v]) ++ [.text ")"])

mutual

/-- The text of an expression. -/
def fragment (engine : Engine) : Predicate → Fragment
  | constant true => [.text "1=1"]
  | constant false => [.text "1=0"]
  | nullTest column true => [.text (column ++ " IS NULL")]
  | nullTest column false => [.text (column ++ " IS NOT NULL")]
  | compare column op operand => [.text (column ++ " " ++ op.symbol ++ " "), .slot operand]
  | membership column negated candidates => membershipFragment column negated candidates
  | contains column content ignoreCase => containsFragment engine column content ignoreCase
  | both ps => Fragment.joinWith " AND " (fragments engine ps)
  | either ps => Fragment.joinWith " OR " (fragments engine ps)
  | grouped p => .text "(" :: (fragment engine p ++ [.text ")"])

def fragments (engine : Engine) : List Predicate → List Fragment
  | [] => []
  | p :: ps => fragment engine p :: fragments engine ps

end

mutual

/-- The values bound to an expression, in text order. -/
def values : Predicate → List Value
  | compare _ _ operand => [operand]
  | membership _ _ candidates => candidates
  | contains _ content _ => [.str (Substring.containing content)]
  | both ps => valuesOfAll ps
  | either ps => valuesOfAll ps
  | grouped p => p.values
  | _ => []

def valuesOfAll : List Predicate → List Value
  | [] => []
  | p :: ps => p.values ++ valuesOfAll ps

end

theorem values_containsFragment (engine : Engine) (column content : String) (ignoreCase : Bool) :
    (containsFragment engine column content ignoreCase).values =
      [.str (Substring.containing content)] := by
  unfold containsFragment
  rw [Fragment.values_append]
  have hclause : Fragment.values
      (if Substring.needsEscape content then [.text engine.likeEscape] else []) = [] := by
    split <;> rfl
  rw [hclause, List.append_nil]
  cases engine <;> cases ignoreCase <;> rfl

theorem values_membershipFragment (column : String) (negated : Bool) (candidates : List Value) :
    (membershipFragment column negated candidates).values = candidates := by
  simp [membershipFragment, Fragment.values, Fragment.values_append,
    Fragment.values_joinWith_slots]

mutual

theorem values_fragment (engine : Engine) : (p : Predicate) →
    (p.fragment engine).values = p.values
  | constant holds => by cases holds <;> rfl
  | nullTest _ isNull => by cases isNull <;> rfl
  | compare .. => rfl
  | membership column negated candidates => by
    simp [fragment, values, values_membershipFragment]
  | contains column content ignoreCase => by
    simp [fragment, values, values_containsFragment]
  | both ps => by
    simp [fragment, values, Fragment.values_joinWith, values_fragments engine ps]
  | either ps => by
    simp [fragment, values, Fragment.values_joinWith, values_fragments engine ps]
  | grouped p => by
    simp [fragment, values, Fragment.values, Fragment.values_append, values_fragment engine p]

theorem values_fragments (engine : Engine) : (ps : List Predicate) →
    (fragments engine ps).flatMap Fragment.values = valuesOfAll ps
  | [] => rfl
  | p :: ps => by
    simp [fragments, valuesOfAll, values_fragment engine p, values_fragments engine ps]

end

end Predicate

end Polystore.Sql

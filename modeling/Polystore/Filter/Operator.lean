/-!
# Filter operators

The operators of a condition on one field, the connectives of condition groups, and how both are
spelled in a filter.
-/

namespace Polystore.Filter

/-- What a condition asks of its field. A condition that was not read from a filter may carry another
symbol, which no store understands. -/
inductive Operator where
  | eq
  | ne
  | gt
  | gte
  | lt
  | lte
  | isIn
  | notIn
  | regex
  | exists
  | other (symbol : String)
  deriving DecidableEq, Repr

namespace Operator

/-- The operators that a filter can use. -/
def all : List Operator :=
  [.eq, .ne, .gt, .gte, .lt, .lte, .isIn, .notIn, .regex, .exists]

/-- The key of an operator in a filter. -/
def symbol : Operator → String
  | eq => "$eq"
  | ne => "$ne"
  | gt => "$gt"
  | gte => "$gte"
  | lt => "$lt"
  | lte => "$lte"
  | isIn => "$in"
  | notIn => "$nin"
  | regex => "$regex"
  | «exists» => "$exists"
  | other s => s

/-- The operator of a key in a filter. -/
def ofSymbol? (s : String) : Option Operator :=
  all.find? fun op => op.symbol == s

/-- The operator that a symbol stands for, known or not. -/
def ofSymbol (s : String) : Operator :=
  (ofSymbol? s).getD (other s)

/-- Operators whose operand is a list of candidates. -/
def isMembership : Operator → Bool
  | isIn => true
  | notIn => true
  | _ => false

theorem ofSymbol?_symbol {op : Operator} (h : op ∈ all) : ofSymbol? op.symbol = some op := by
  simp only [all, List.mem_cons, List.not_mem_nil, or_false] at h
  rcases h with rfl | rfl | rfl | rfl | rfl | rfl | rfl | rfl | rfl | rfl <;> decide

end Operator

/-- How a group joins its sub-filters. -/
inductive Connective where
  | and
  | or
  deriving DecidableEq, Repr

namespace Connective

/-- The key of a connective in a filter. -/
def symbol : Connective → String
  | and => "$and"
  | or => "$or"

/-- The connective of a key in a filter. -/
def ofSymbol? (s : String) : Option Connective :=
  [and, or].find? fun c => c.symbol == s

theorem ofSymbol?_symbol (c : Connective) : ofSymbol? c.symbol = some c := by
  cases c <;> decide

end Connective

/-- The key that carries the options of a pattern condition. -/
def optionsKey : String := "$options"

/-- The character that tells operator keys from field names. -/
def operatorMark : Char := '$'

/-- A key is an operator key if it starts with the operator mark. -/
def isOperatorKey (s : String) : Bool :=
  s.toList.head? == some operatorMark

end Polystore.Filter

import Polystore.Dialect

/-!
# SQL text with parameters

A fragment is SQL text with slots for the values bound to it. Rendering numbers the slots in text order.

Main statements: `values_append` and `render_append` say that fragments compose, the second one with
its slots numbered after those of the first; `values_joinWith` says that a separator binds nothing.
-/

namespace Polystore.Sql

/-- A piece of SQL: text, or the place of a bound value. -/
inductive Piece where
  | text (s : String)
  | slot (v : Value)
  deriving Repr

/-- SQL text with slots. -/
abbrev Fragment := List Piece

namespace Fragment

/-- The bound values in text order. -/
def values : Fragment → List Value
  | [] => []
  | .text _ :: ps => values ps
  | .slot v :: ps => v :: values ps

/-- The text of a fragment whose first slot has the number `next`. -/
def render (style : PlaceholderStyle) (next : Nat) : Fragment → String
  | [] => ""
  | .text s :: ps => s ++ render style next ps
  | .slot _ :: ps => style.placeholder next ++ render style (next + 1) ps

/-- Fragments one after the other with a text between them. -/
def joinWith (separator : String) : List Fragment → Fragment
  | [] => []
  | [f] => f
  | f :: g :: fs => f ++ .text separator :: joinWith separator (g :: fs)

theorem values_append (f g : Fragment) : values (f ++ g) = values f ++ values g := by
  induction f with
  | nil => rfl
  | cons p f ih => cases p <;> simp [values, ih]

theorem render_append (style : PlaceholderStyle) (next : Nat) (f g : Fragment) :
    render style next (f ++ g) =
      render style next f ++ render style (next + (values f).length) g := by
  induction f generalizing next with
  | nil => simp [render, values]
  | cons p f ih =>
    cases p with
    | text s => simp [render, values, ih, String.append_assoc]
    | slot v => simp [render, values, ih, String.append_assoc, Nat.add_assoc, Nat.add_comm 1]

theorem values_joinWith (separator : String) (fs : List Fragment) :
    values (joinWith separator fs) = fs.flatMap values := by
  induction fs with
  | nil => rfl
  | cons f fs ih =>
    cases fs with
    | nil => simp [joinWith]
    | cons g fs => rw [joinWith, values_append, values, ih, List.flatMap_cons (x := f)]

/-- The values of a list of slots. -/
theorem values_joinWith_slots (separator : String) (vs : List Value) :
    values (joinWith separator (vs.map fun v => [.slot v])) = vs := by
  rw [values_joinWith]
  induction vs with
  | nil => rfl
  | cons v vs ih => simpa [values] using ih

end Fragment

end Polystore.Sql

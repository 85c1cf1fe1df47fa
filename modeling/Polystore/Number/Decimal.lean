import Polystore.Text.Digit

/-!
# Decimal numbers

Numbers with a decimal coefficient and exponent, the infinities and the not-a-numbers, with the text
form of the general decimal arithmetic: positional while the exponent is at most zero and at most
five zeros follow the point, scientific otherwise. Two numerals of one number have one `normal` form.
-/

namespace Polystore

/-- A decimal numeral; a finite one is `coefficient · 10 ^ exponent`. -/
inductive Decimal where
  | finite (negative : Bool) (coefficient : Nat) (exponent : Int)
  | infinite (negative : Bool)
  | nan (negative signaling : Bool) (payload : Nat)
  deriving DecidableEq, Repr

namespace Decimal

/-- The sign of a numeral as it is written. -/
def signText (negative : Bool) : List Char :=
  if negative then ['-'] else []

/-- A signed exponent, with a sign in every case. -/
def exponentText (e : Int) : List Char :=
  (if e < 0 then '-' else '+') :: (toString e.natAbs).toList

/-- Digits with the decimal point after the first `point` of them; zeros fill what is missing. -/
def placePoint (digits : List Char) (point : Int) : List Char :=
  if point ≤ 0 then '0' :: '.' :: (List.replicate point.natAbs '0' ++ digits)
  else if (digits.length : Int) ≤ point then
    digits ++ List.replicate (point.toNat - digits.length) '0'
  else digits.take point.toNat ++ '.' :: digits.drop point.toNat

/-- A finite numeral without its sign. -/
def finiteText (coefficient : Nat) (exponent : Int) : List Char :=
  let digits := (toString coefficient).toList
  let left := exponent + digits.length
  if exponent ≤ 0 ∧ left > -6 then placePoint digits left
  else placePoint digits 1 ++ 'E' :: exponentText (left - 1)

/-- The written form of a numeral. -/
def text : Decimal → String
  | finite neg c e => String.ofList (signText neg ++ finiteText c e)
  | infinite neg => String.ofList (signText neg ++ "Infinity".toList)
  | nan neg signaling payload =>
    String.ofList (signText neg ++ (if signaling then ['s'] else []) ++ "NaN".toList ++
      (if payload = 0 then [] else (toString payload).toList))

/-- Splits off a minus sign. -/
def readSign : List Char → Bool × List Char
  | '-' :: cs => (true, cs)
  | cs => (false, cs)

/-- Digits with or without a point, as coefficient and exponent. -/
def readPointed (cs : List Char) : Option (Nat × Int) :=
  let whole := cs.takeWhile (· != '.')
  let part := (cs.dropWhile (· != '.')).drop 1
  (Text.readNatural (whole ++ part)).map fun n => (n, -(part.length : Int))

/-- Digits with or without a point and an exponent that the character `mark` opens. -/
def readScaled (mark : Char) (cs : List Char) : Option (Nat × Int) := do
  let (n, e) ← readPointed (cs.takeWhile (· != mark))
  match (cs.dropWhile (· != mark)).drop 1 with
  | [] => some (n, e)
  | scale => (Text.readInteger scale).map fun s => (n, e + s)

/-- Digits or nothing. -/
def readPayload : List Char → Option Nat
  | [] => some 0
  | cs => Text.readNatural cs

/-- Reads a written numeral. -/
def ofText? (s : String) : Option Decimal :=
  let (neg, cs) := readSign s.toList
  if cs = "Infinity".toList then some (infinite neg)
  else if cs.take 3 = "NaN".toList then (readPayload (cs.drop 3)).map (nan neg false)
  else if cs.take 4 = "sNaN".toList then (readPayload (cs.drop 4)).map (nan neg true)
  else (readScaled 'E' cs).map fun (n, e) => finite neg n e

/-- Moves the zeros at the end of a coefficient into the exponent. -/
def strip (coefficient : Nat) (exponent : Int) : Nat × Int :=
  if coefficient = 0 then (0, 0)
  else if coefficient % 10 = 0 then strip (coefficient / 10) (exponent + 1)
  else (coefficient, exponent)
termination_by coefficient
decreasing_by omega

/-- One form for all numerals of a number: no zeros at the end, and no sign on zero. -/
def normal : Decimal → Decimal
  | finite neg c e => let (c, e) := strip c e; finite (neg && c != 0) c e
  | d => d

/-- Whole numbers are decimal numbers. -/
def ofInt (n : Int) : Decimal :=
  finite (n < 0) n.natAbs 0

theorem le_strip {c : Nat} (h : c ≠ 0) (e : Int) : e ≤ (strip c e).2 := by
  fun_induction strip c e with
  | case1 => exact absurd rfl h
  | case2 c e _ hzero ih =>
    have := ih (by omega)
    omega
  | case3 => exact Int.le_refl _

/-- Stripping keeps the number. -/
theorem strip_mul_pow (c : Nat) (e : Int) :
    (strip c e).1 * Nat.pow 10 ((strip c e).2 - e).toNat = c := by
  fun_induction strip c e with
  | case1 => exact Nat.zero_mul _
  | case2 c e hc hzero ih =>
    have hle : e + 1 ≤ (strip (c / 10) (e + 1)).2 := le_strip (by omega) _
    have hplaces : ((strip (c / 10) (e + 1)).2 - e).toNat =
        ((strip (c / 10) (e + 1)).2 - (e + 1)).toNat + 1 := by omega
    have hpow (k : Nat) : Nat.pow 10 (k + 1) = Nat.pow 10 k * 10 := rfl
    rw [hplaces, hpow, ← Nat.mul_assoc, ih]
    omega
  | case3 c e hc hzero => simp

theorem normal_ofInt_injective {m n : Int} (h : (ofInt m).normal = (ofInt n).normal) : m = n := by
  obtain ⟨hsign, hcoefficient, hexponent⟩ : (_ ∧ _ ∧ _) := by
    simpa only [ofInt, normal, finite.injEq] using h
  have habs : m.natAbs = n.natAbs := by
    rw [← strip_mul_pow m.natAbs 0, ← strip_mul_pow n.natAbs 0, hcoefficient, hexponent]
  by_cases hzero : n.natAbs = 0
  · omega
  · have hne : (strip n.natAbs 0).1 ≠ 0 := by
      intro hstrip
      have hmul := strip_mul_pow n.natAbs 0
      rw [hstrip, Nat.zero_mul] at hmul
      omega
    rw [habs] at hsign
    rw [bne_iff_ne.2 hne, Bool.and_true, Bool.and_true, decide_eq_decide] at hsign
    omega

/-- A signaling not-a-number cannot be compared. -/
def isSignaling : Decimal → Bool
  | nan _ signaling _ => signaling
  | _ => false

def isNaN : Decimal → Bool
  | nan .. => true
  | _ => false

/-- Only zero counts as nothing. -/
def isZero : Decimal → Bool
  | finite _ c _ => c == 0
  | _ => false

/-- Equality of numbers: a not-a-number differs from every number. -/
def sameNumber (x y : Decimal) : Bool :=
  match x, y with
  | nan .., _ => false
  | _, nan .. => false
  | x, y => x.normal == y.normal

/-- A finite number scaled to a whole one by `10 ^ places`, for numbers with at most so many places. -/
def scaled (places : Nat) : Decimal → Int
  | finite neg c e =>
    let n := c * Nat.pow 10 (e + places).toNat
    if neg then -(n : Int) else n
  | _ => 0

/-- The number of places after the point. -/
def places : Decimal → Nat
  | finite _ _ e => (-e).toNat
  | _ => 0

/-- Order of numbers: a not-a-number is not less than any number. -/
def less (x y : Decimal) : Bool :=
  match x, y with
  | nan .., _ => false
  | _, nan .. => false
  | infinite neg, infinite neg' => neg && !neg'
  | infinite neg, _ => neg
  | _, infinite neg => !neg
  | x, y =>
    let p := max x.places y.places
    x.scaled p < y.scaled p

/-- The whole part of a finite number, toward zero. -/
def trunc? : Decimal → Option Int
  | finite neg c e =>
    let scale := Nat.pow 10 e.natAbs
    let n := if e < 0 then c / scale else c * scale
    some (if neg then -(n : Int) else n)
  | _ => none

end Decimal

end Polystore

import Polystore.Number.Decimal

/-!
# Binary floating-point numbers

A finite number of the 64-bit format is held as the shortest decimal numeral that reads back as it,
which is also how it is written: positional while the point falls within sixteen digits and at most
three zeros follow it, scientific otherwise. `exact` is the number that the numeral stands for.
-/

namespace Polystore

/-- A 64-bit floating-point number; a finite one is the number nearest to `digits · 10 ^ exponent`. -/
inductive Binary64 where
  | finite (negative : Bool) (digits : Nat) (exponent : Int)
  | infinite (negative : Bool)
  | nan
  deriving DecidableEq, Repr

namespace Binary64

/-- The exponent of the scientific form: a sign and at least two digits. -/
def exponentText (e : Int) : List Char :=
  'e' :: (if e < 0 then '-' else '+') :: Text.paddedDigits 2 e.natAbs

/-- A finite numeral without its sign. -/
def finiteText (digits : Nat) (exponent : Int) : List Char :=
  let ds := (toString digits).toList
  let point := exponent + ds.length
  if digits = 0 then ['0', '.', '0']
  else if -4 < point ∧ point ≤ 16 then
    Decimal.placePoint ds point ++ (if (ds.length : Int) ≤ point then ['.', '0'] else [])
  else
    (if ds.length ≤ 1 then ds else Decimal.placePoint ds 1) ++ exponentText (point - 1)

/-- The written form of a number. -/
def text : Binary64 → String
  | finite neg ds e => String.ofList (Decimal.signText neg ++ finiteText ds e)
  | infinite neg => String.ofList (Decimal.signText neg ++ "inf".toList)
  | nan => "nan"

/-- Reads a written number. -/
def ofText? (s : String) : Option Binary64 :=
  let (neg, cs) := Decimal.readSign s.toList
  if cs = "inf".toList then some (infinite neg)
  else if cs = "nan".toList then some nan
  else (Decimal.readScaled 'e' cs).map fun (n, e) =>
    let (n, e) := Decimal.strip n e
    finite neg n e

/-- The quotient rounded to the nearest whole number, a half to the even one. -/
def roundDiv (n d : Nat) : Nat :=
  let q := n / d
  let r := n % d
  if 2 * r > d ∨ (2 * r = d ∧ q % 2 = 1) then q + 1 else q

/-- The 64-bit number `m · 2 ^ e` nearest to the positive quotient `n / d`. -/
def nearest (n d : Nat) : Nat × Int :=
  let scaled (e : Int) : Nat × Nat :=
    let scale := Nat.pow 2 e.natAbs
    if e < 0 then (n * scale, d) else (n, d * scale)
  let low : Int := (n.log2 : Int) - d.log2 - 53
  let fit := if (scaled low).1 / (scaled low).2 < Nat.pow 2 53 then low else low + 1
  let e := max fit (-1074)
  (roundDiv (scaled e).1 (scaled e).2, e)

/-- The exact value of a number, as a decimal numeral. -/
def exact : Binary64 → Decimal
  | finite neg ds e =>
    if ds = 0 then .finite neg 0 0
    else
      let scale := Nat.pow 10 e.natAbs
      let (m, q) := if e < 0 then nearest ds scale else nearest (ds * scale) 1
      if q < 0 then .finite neg (m * Nat.pow 5 q.natAbs) q
      else .finite neg (m * Nat.pow 2 q.natAbs) 0
  | infinite neg => .infinite neg
  | nan => .nan false false 0

def isZero : Binary64 → Bool
  | finite _ ds _ => ds == 0
  | _ => false

def isFinite : Binary64 → Bool
  | finite .. => true
  | _ => false

end Binary64

end Polystore

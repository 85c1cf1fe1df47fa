import Polystore.Text.Blank

/-!
# Digits

Decimal digits of every script and of the hexadecimal system, and whole numbers read from text.
-/

namespace Polystore.Text

/-- The zeros of the decimal digit runs of Unicode 14 above ASCII; each run has its ten digits in
order. -/
def zeroDigits : List Nat :=
  [0x660, 0x6f0, 0x7c0, 0x966, 0x9e6, 0xa66, 0xae6, 0xb66, 0xbe6, 0xc66, 0xce6, 0xd66, 0xde6,
   0xe50, 0xed0, 0xf20, 0x1040, 0x1090, 0x17e0, 0x1810, 0x1946, 0x19d0, 0x1a80, 0x1a90, 0x1b50,
   0x1bb0, 0x1c40, 0x1c50, 0xa620, 0xa8d0, 0xa900, 0xa9d0, 0xa9f0, 0xaa50, 0xabf0, 0xff10,
   0x104a0, 0x10d30, 0x11066, 0x110f0, 0x11136, 0x111d0, 0x112f0, 0x11450, 0x114d0, 0x11650,
   0x116c0, 0x11730, 0x118e0, 0x11950, 0x11c50, 0x11d50, 0x11da0, 0x16a60, 0x16ac0, 0x16b50,
   0x1d7ce, 0x1d7d8, 0x1d7e2, 0x1d7ec, 0x1d7f6, 0x1e140, 0x1e2f0, 0x1e950, 0x1fbf0]

/-- The value of a decimal digit of any script. -/
def digitValue? (c : Char) : Option Nat :=
  if c.isDigit then some (c.toNat - 0x30)
  else (zeroDigits.find? fun z => z ≤ c.toNat && c.toNat < z + 10).map (c.toNat - ·)

/-- Digits after the number `value`, where one underscore may stand between two digits. -/
def readDigits (value : Nat) : List Char → Option Nat
  | [] => some value
  | '_' :: c :: cs => (digitValue? c).bind fun d => readDigits (10 * value + d) cs
  | c :: cs => (digitValue? c).bind fun d => readDigits (10 * value + d) cs

/-- Digits, starting with one. -/
def readNatural : List Char → Option Nat
  | [] => none
  | c :: cs => (digitValue? c).bind fun d => readDigits d cs

/-- The blanks that may stand around a number: all but the information separators. -/
def isNumberBlank (c : Char) : Bool :=
  isBlank c && !(0x1c ≤ c.toNat && c.toNat ≤ 0x1f)

/-- A text without the blanks around a number. -/
def trimNumber (cs : List Char) : List Char :=
  ((cs.dropWhile isNumberBlank).reverse.dropWhile isNumberBlank).reverse

/-- A whole number: blanks, a sign or none, digits, blanks. -/
def readInteger (cs : List Char) : Option Int :=
  match trimNumber cs with
  | '-' :: rest => (readNatural rest).map fun n => -(n : Int)
  | '+' :: rest => (readNatural rest).map Int.ofNat
  | rest => (readNatural rest).map Int.ofNat

/-- The greatest number of digits with which a whole number is read from or written as text. -/
def maxDigits : Nat := 4300

/-- The digits at the start of a number, with the underscores between them; blanks and a sign may
stand before them. -/
def digitRun (cs : List Char) : List Char :=
  let unsigned := match trimNumber cs with
    | '-' :: rest => rest
    | '+' :: rest => rest
    | rest => rest
  unsigned.takeWhile fun c => c == '_' || (digitValue? c).isSome

/-- The number of digits at the start of a number, if they are well formed and too many. -/
def excessDigits? (cs : List Char) : Option Nat :=
  let run := digitRun cs
  let size := (run.filter (· != '_')).length
  if (readNatural run).isSome && maxDigits < size then some size else none

/-- A whole number has few enough digits to be written. -/
def isWritable (n : Int) : Bool :=
  (Nat.toDigits 10 n.natAbs).length ≤ maxDigits

/-- The character of a hexadecimal digit, in lower case. -/
def hexDigit (n : Nat) : Char :=
  if n < 10 then Char.ofNat (0x30 + n) else Char.ofNat (0x57 + n)

/-- The last `width` hexadecimal digits of a number. -/
def hexDigits : (width : Nat) → Nat → List Char
  | 0, _ => []
  | width + 1, n => hexDigits width (n / 16) ++ [hexDigit (n % 16)]

/-- The value of a hexadecimal digit; other characters count as zero. -/
def hexValue (c : Char) : Nat :=
  if c.isDigit then c.toNat - 0x30
  else if 'a' ≤ c ∧ c ≤ 'f' then c.toNat - 0x57
  else if 'A' ≤ c ∧ c ≤ 'F' then c.toNat - 0x37
  else 0

/-- The octets that pairs of hexadecimal digits spell. -/
def readOctets : List Char → List UInt8
  | a :: b :: cs => UInt8.ofNat (16 * hexValue a + hexValue b) :: readOctets cs
  | _ => []

/-- The decimal digits of a number, with zeros in front up to `width` digits. -/
def paddedDigits (width n : Nat) : List Char :=
  let digits := (toString n).toList
  List.replicate (width - digits.length) '0' ++ digits

theorem length_hexDigits (width n : Nat) : (hexDigits width n).length = width := by
  induction width generalizing n with
  | zero => rfl
  | succ width ih => simp [hexDigits, ih]

end Polystore.Text

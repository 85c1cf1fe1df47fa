import Polystore.Error

/-!
# Reading values as numbers, texts and collections

Which number a value is, its plain text, what a value gives when it is walked through, and when two values
are one key of a mapping. Numbers of all kinds are compared by their exact value.
-/

namespace Polystore.Value

/-- The exact number that a value is. -/
def number? : Value → Option Decimal
  | bool b => some (.ofInt (if b then 1 else 0))
  | int n => some (.ofInt n)
  | float x => some x.exact
  | decimal d => some d
  | _ => none

def isDecimal : Value → Bool
  | decimal _ => true
  | _ => false

/-- The value is the whole number `n`. -/
def isInt (n : Int) (v : Value) : Bool :=
  match v.number? with
  | some d => d.sameNumber (.ofInt n)
  | none => false

theorem isInt_int_iff {m n : Int} : (int m).isInt n = true ↔ m = n := by
  constructor
  · exact fun h => Decimal.normal_ofInt_injective (eq_of_beq h)
  · rintro rfl
    exact beq_self_eq_true _

/-- The value is one of some whole numbers; a signaling not-a-number refuses the comparison. -/
def isOneOf (ns : List Int) (v : Value) : Except Error Bool :=
  match v with
  | decimal d =>
    if d.isSignaling then throw (.fault .signaling) else pure (ns.any fun n => v.isInt n)
  | _ => pure (ns.any fun n => v.isInt n)

/-- The whole part of a number. -/
def truncated (fromDecimal : Bool) (d : Decimal) : Except Error Int :=
  match d with
  | .nan .. => throw (.fault (.notANumber fromDecimal))
  | .infinite _ => throw (.fault (.endless fromDecimal))
  | d => pure (d.trunc?.getD 0)

/-- The whole number that a text spells; a number with too many digits is not read, whatever stands
behind them. -/
def integerOfText (cs : List Char) (shown : String) : Except Error Int :=
  match Text.excessDigits? cs with
  | some n => throw (.fault (.tooManyDigits (some n)))
  | none =>
    match Text.readInteger cs with
    | some n => pure n
    | none => throw (.fault (.notInteger shown))

/-- The character of an octet in ASCII; beyond ASCII it is neither a digit nor a blank. -/
def asciiOf (b : UInt8) : Char :=
  if b < 0x80 then Char.ofNat b.toNat else '?'

/-- The whole number that octets spell in ASCII; at most two hundred of them are shown. -/
def integerOfOctets (bs : List UInt8) : Except Error Int :=
  integerOfText (bs.map asciiOf) (Text.octetLiteral (bs.take 200))

/-- A number's whole part, or the whole number that a text spells. -/
def toInt (v : Value) : Except Error Int :=
  match v with
  | bool b => pure (if b then 1 else 0)
  | int n => pure n
  | float x => truncated false x.exact
  | decimal d => truncated true d
  | str s => integerOfText s.toList v.shown
  | fieldType t => integerOfText t.name.toList v.shown
  | bytes bs => integerOfOctets bs
  | v => throw (.fault (.notNumeric v.qualifiedClassName))

/-- The plain text of a value; whole numbers of too many digits have none. -/
def toText (v : Value) : Except Error String :=
  if v.isShowable then pure v.plain else throw (.fault (.tooManyDigits none))

theorem toText_of_isShowable {v : Value} (h : v.isShowable = true) : v.toText = .ok v.plain :=
  if_pos h

theorem toText_of_not_isShowable {v : Value} (h : v.isShowable = false) :
    v.toText = .error (.fault (.tooManyDigits none)) :=
  if_neg fun hshown => Bool.noConfusion (hshown.symm.trans h)

theorem toText_eq_ok {v : Value} {s : String} : v.toText = .ok s ↔ v.isShowable = true ∧ v.plain = s := by
  cases h : v.isShowable with
  | true => rw [toText_of_isShowable h, Except.ok.injEq, and_iff_right rfl]
  | false => rw [toText_of_not_isShowable h]; exact iff_of_false nofun fun hs => Bool.noConfusion hs.1

/-- The characters of a text, as texts. -/
def characters (s : String) : List Value :=
  s.toList.map fun c => str (String.singleton c)

/-- What a value gives when it is walked through: a mapping its keys, a text its characters. -/
def elements (v : Value) : Except Error (List Value) :=
  match v with
  | str s => pure (characters s)
  | fieldType t => pure (characters t.name)
  | bytes bs => pure (bs.map fun b => int b.toNat)
  | v =>
    match v.members? with
    | some xs => pure xs
    | none => throw (.fault (.notIterable v.qualifiedClassName))

/-- Two values that are not sequences are the same. -/
def sameAtom (v w : Value) : Bool :=
  match v.number?, w.number? with
  | some a, some b => a.sameNumber b
  | none, none =>
    match v, w with
    | null, null => true
    | bytes a, bytes b => a == b
    | dateTime a, dateTime b => a.sameTime b
    | date a, date b => a == b
    | pattern a, pattern b => a == b
    | typeTag a, typeTag b => a == b
    | v, w =>
      match v.text?, w.text? with
      | some a, some b => a == b
      | _, _ => false
  | _, _ => false

mutual

/-- Two values are one key of a mapping. -/
def sameKey : Value → Value → Bool
  | tuple xs, tuple ys => sameKeys xs ys
  | v, w => v.sameAtom w

def sameKeys : List Value → List Value → Bool
  | [], [] => true
  | x :: xs, y :: ys => x.sameKey y && sameKeys xs ys
  | _, _ => false

end

mutual

/-- Collections that can change, and signaling not-a-numbers, are no keys. -/
def checkKey : Value → Except Error Unit
  | tuple xs => checkKeys xs
  | decimal d => if d.isSignaling then throw (.fault (.unhashable "Decimal")) else pure ()
  | list _ => throw (.fault (.unhashable "list"))
  | set _ => throw (.fault (.unhashable "set"))
  | map _ => throw (.fault (.unhashable "dict"))
  | _ => pure ()

def checkKeys : List Value → Except Error Unit
  | [] => pure ()
  | x :: xs => do
    x.checkKey
    checkKeys xs

end

/-- Numbers that are not truth values. -/
def isNumeric : Value → Bool
  | int _ => true
  | float _ => true
  | decimal _ => true
  | _ => false

end Polystore.Value

import Polystore.Text.Digit

/-!
# Dates and times

Calendar dates and times of day, with or without an offset from universal time, and their ISO 8601
text.
-/

namespace Polystore

/-- A calendar date. -/
structure Date where
  year : Nat
  month : Nat
  day : Nat
  deriving DecidableEq, Repr

/-- A date with a time of day; `offset` counts microseconds from universal time. -/
structure DateTime where
  date : Date
  hour : Nat
  minute : Nat
  second : Nat
  microsecond : Nat
  offset : Option Int
  deriving DecidableEq, Repr

namespace Date

/-- `2024-01-31` -/
def text (d : Date) : List Char :=
  Text.paddedDigits 4 d.year ++ '-' :: (Text.paddedDigits 2 d.month ++
    '-' :: Text.paddedDigits 2 d.day)

/-- Reads the ten characters of a date. -/
def ofText? (cs : List Char) : Option Date := do
  match cs with
  | [a, b, c, d, '-', e, f, '-', g, h] =>
    some ⟨← Text.readNatural [a, b, c, d], ← Text.readNatural [e, f], ← Text.readNatural [g, h]⟩
  | _ => none

/-- The number of days before a date, counted from the first day of a year 0. -/
def dayNumber (d : Date) : Int :=
  let y : Int := if d.month ≤ 2 then d.year - 1 else d.year
  let m : Int := if d.month ≤ 2 then d.month + 9 else d.month - 3
  365 * y + y / 4 - y / 100 + y / 400 + (153 * m + 2) / 5 + d.day

end Date

namespace DateTime

/-- A fraction of a second, left out when it is zero. -/
def fractionText (microsecond : Nat) : List Char :=
  if microsecond = 0 then [] else '.' :: Text.paddedDigits 6 microsecond

/-- `+05:30`, with seconds and a fraction where they are not zero. -/
def offsetText (offset : Int) : List Char :=
  let total := offset.natAbs
  let seconds := total / 1000000
  let micros := total % 1000000
  (if offset < 0 then '-' else '+') :: (Text.paddedDigits 2 (seconds / 3600) ++
    ':' :: (Text.paddedDigits 2 (seconds / 60 % 60) ++
      (if seconds % 60 = 0 ∧ micros = 0 then []
        else ':' :: (Text.paddedDigits 2 (seconds % 60) ++ fractionText micros))))

/-- The ISO text of a time, with `separator` between date and time of day. -/
def textWith (separator : Char) (t : DateTime) : List Char :=
  t.date.text ++ separator :: (Text.paddedDigits 2 t.hour ++ ':' :: (Text.paddedDigits 2 t.minute ++
    ':' :: (Text.paddedDigits 2 t.second ++ fractionText t.microsecond ++
      match t.offset with
      | none => []
      | some o => offsetText o)))

/-- `2024-01-31T10:20:30.000001+00:00` -/
def text (t : DateTime) : List Char :=
  t.textWith 'T'

/-- Reads `.000001` or nothing. -/
def readFraction : List Char → Option Nat
  | [] => some 0
  | '.' :: cs =>
    let digits := cs.take 6
    (Text.readNatural digits).map (· * Nat.pow 10 (6 - digits.length))
  | _ => none

/-- Reads `10:20`, `10:20:30` or `10:20:30.000001` as seconds and microseconds. -/
def readClock (cs : List Char) : Option (Nat × Nat) := do
  match cs with
  | [a, b, ':', c, d] =>
    some (3600 * (← Text.readNatural [a, b]) + 60 * (← Text.readNatural [c, d]), 0)
  | a :: b :: ':' :: c :: d :: ':' :: e :: f :: rest =>
    some (3600 * (← Text.readNatural [a, b]) + 60 * (← Text.readNatural [c, d]) +
      (← Text.readNatural [e, f]), ← readFraction rest)
  | _ => none

/-- Reads an offset, or nothing. -/
def readOffset : List Char → Option (Option Int)
  | [] => some none
  | ['Z'] => some (some 0)
  | '+' :: cs => (readClock cs).map fun (s, u) => some ((s : Int) * 1000000 + u)
  | '-' :: cs => (readClock cs).map fun (s, u) => some (-((s : Int) * 1000000 + u))
  | _ => none

/-- Reads the ISO text of a time. -/
def ofText? (cs : List Char) : Option DateTime := do
  let date ← Date.ofText? (cs.take 10)
  let rest := cs.drop 11
  let isOffset (c : Char) : Bool := c == '+' || c == '-' || c == 'Z'
  let (s, u) ← readClock (rest.takeWhile fun c => !isOffset c)
  let offset ← readOffset (rest.dropWhile fun c => !isOffset c)
  some ⟨date, s / 3600, s / 60 % 60, s % 60, u, offset⟩

/-- The time on one line of microseconds, less the offset. -/
def instant (t : DateTime) : Int :=
  (((t.date.dayNumber * 24 + t.hour) * 60 + t.minute) * 60 + t.second) * 1000000 + t.microsecond -
    t.offset.getD 0

/-- Two times are the same if both have an offset and they are at one instant, or neither has one. -/
def sameTime (s t : DateTime) : Bool :=
  s.offset.isSome == t.offset.isSome && s.instant == t.instant

/-- The digits of date and time, sortable within the years of four digits: `20240131_102030`. -/
def stamp (t : DateTime) : List Char :=
  (toString t.date.year).toList ++ Text.paddedDigits 2 t.date.month ++
    Text.paddedDigits 2 t.date.day ++ '_' :: (Text.paddedDigits 2 t.hour ++
      Text.paddedDigits 2 t.minute ++ Text.paddedDigits 2 t.second)

end DateTime

end Polystore

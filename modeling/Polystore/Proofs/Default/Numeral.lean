import Mathlib
import Polystore.Number.Binary64

/-!
# Numerals

The numerals of SQL, those of JSON among them, and the numbers that are written as one.

Main statements: `isJsonNumber_int`, `isJsonNumber_decimal` and `isJsonNumber_float` on finite numbers, and
`isNumeral_decimal_iff`.
-/

namespace Polystore

/-- The numeral stands for a number. -/
def Decimal.isFinite : Decimal → Bool
  | .finite .. => true
  | _ => false

namespace Numeral

/-! ### Grammar -/

def Digits (cs : List Char) : Prop :=
  cs ≠ [] ∧ ∀ c ∈ cs, c.isDigit = true

/-- Digits with or without a point, which may also stand before or behind all of them. -/
inductive IsMantissa : List Char → Prop where
  | whole {whole : List Char} (h : Digits whole) : IsMantissa whole
  | pointed {whole part : List Char} (h : Digits whole) (hpart : ∀ c ∈ part, c.isDigit = true) :
      IsMantissa (whole ++ '.' :: part)
  | part {part : List Char} (h : Digits part) : IsMantissa ('.' :: part)

def IsSign (cs : List Char) : Prop :=
  cs = [] ∨ cs = ['+'] ∨ cs = ['-']

/-- The exponent of a numeral, if it has one. -/
inductive IsScale : List Char → Prop where
  | none : IsScale []
  | some {mark : Char} {sign exponent : List Char} (hmark : mark = 'e' ∨ mark = 'E')
      (hsign : IsSign sign) (h : Digits exponent) : IsScale (mark :: (sign ++ exponent))

/-- A numeral of SQL. -/
inductive IsNumeral : List Char → Prop where
  | intro {sign mantissa scale : List Char} (hsign : IsSign sign) (hmantissa : IsMantissa mantissa)
      (hscale : IsScale scale) : IsNumeral (sign ++ mantissa ++ scale)

/-- Digits without needless zeros in front. -/
def IsWhole (cs : List Char) : Prop :=
  Digits cs ∧ (cs.head? = some '0' → cs = ['0'])

/-- A mantissa of JSON has digits before the point, and behind it if it has one. -/
inductive IsJsonMantissa : List Char → Prop where
  | whole {whole : List Char} (h : IsWhole whole) : IsJsonMantissa whole
  | pointed {whole part : List Char} (h : IsWhole whole) (hpart : Digits part) :
      IsJsonMantissa (whole ++ '.' :: part)

/-- A numeral of JSON, which has no sign but a minus. -/
inductive IsJsonNumber : List Char → Prop where
  | intro {mantissa scale : List Char} (negative : Bool) (hmantissa : IsJsonMantissa mantissa)
      (hscale : IsScale scale) : IsJsonNumber (Decimal.signText negative ++ mantissa ++ scale)

variable {cs ds : List Char}

theorem isSign_signText (negative : Bool) : IsSign (Decimal.signText negative) := by
  cases negative
  · exact .inl rfl
  · exact .inr (.inr rfl)

theorem IsJsonMantissa.isMantissa (h : IsJsonMantissa cs) : IsMantissa cs := by
  cases h with
  | whole h => exact .whole h.1
  | pointed h hpart => exact .pointed h.1 hpart.2

theorem IsJsonNumber.isNumeral (h : IsJsonNumber cs) : IsNumeral cs := by
  cases h with
  | intro negative hmantissa hscale => exact .intro (isSign_signText negative) hmantissa.isMantissa hscale

/-! ### The characters of numerals -/

/-- A digit, a sign, a point or the mark of an exponent. -/
def isNumeralChar (c : Char) : Bool :=
  c.isDigit || c == '+' || c == '-' || c == '.' || c == 'e' || c == 'E'

theorem isNumeralChar_of_isDigit {c : Char} (h : c.isDigit = true) : isNumeralChar c = true := by
  simp [isNumeralChar, h]

theorem IsSign.chars (h : IsSign cs) : ∀ c ∈ cs, isNumeralChar c = true := by
  rcases h with rfl | rfl | rfl <;> simp [isNumeralChar]

theorem IsMantissa.chars (h : IsMantissa cs) : ∀ c ∈ cs, isNumeralChar c = true := by
  have hpoint : isNumeralChar '.' = true := by decide
  cases h with
  | whole h => exact fun c hc => isNumeralChar_of_isDigit (h.2 c hc)
  | pointed h hpart =>
    exact List.forall_mem_append.2 ⟨fun c hc => isNumeralChar_of_isDigit (h.2 c hc),
      List.forall_mem_cons.2 ⟨hpoint, fun c hc => isNumeralChar_of_isDigit (hpart c hc)⟩⟩
  | part h => exact List.forall_mem_cons.2 ⟨hpoint, fun c hc => isNumeralChar_of_isDigit (h.2 c hc)⟩

theorem IsScale.chars (h : IsScale cs) : ∀ c ∈ cs, isNumeralChar c = true := by
  cases h with
  | none => exact List.forall_mem_nil _
  | some hmark hsign h =>
    refine List.forall_mem_cons.2 ⟨?_, List.forall_mem_append.2
      ⟨hsign.chars, fun c hc => isNumeralChar_of_isDigit (h.2 c hc)⟩⟩
    rcases hmark with rfl | rfl <;> decide

theorem IsNumeral.chars (h : IsNumeral cs) : ∀ c ∈ cs, isNumeralChar c = true := by
  cases h with
  | intro hsign hmantissa hscale =>
    exact List.forall_mem_append.2 ⟨List.forall_mem_append.2 ⟨hsign.chars, hmantissa.chars⟩, hscale.chars⟩

/-! ### Digits of numbers -/

theorem isDigit_of_mem_zeros {count : Nat} : ∀ c ∈ List.replicate count '0', c.isDigit = true := by
  intro c hc
  rw [List.eq_of_mem_replicate hc]
  decide

theorem digits_toString (n : Nat) : Digits (toString n).toList := by
  rw [Nat.toString_eq_repr, Nat.toList_repr]
  exact ⟨Nat.toDigits_ne_nil, fun c hc => Nat.isDigit_of_mem_toDigits (by decide) (by decide) hc⟩

theorem head?_toString (n : Nat) (hn : n ≠ 0) : (toString n).toList.head? ≠ some '0' := by
  rw [Nat.toString_eq_repr, Nat.toList_repr]
  induction n using Nat.strongRecOn with
  | ind n ih =>
    by_cases hsmall : n < 10
    · rw [Nat.toDigits_of_lt_base hsmall]
      interval_cases n
      · exact absurd rfl hn
      all_goals decide
    · rw [Nat.toDigits_of_base_le (by decide) (by omega),
        List.head?_append_of_ne_nil _ Nat.toDigits_ne_nil]
      exact ih (n / 10) (by omega) (by omega)

theorem isWhole_toString (n : Nat) : IsWhole (toString n).toList := by
  refine ⟨digits_toString n, fun hzero => ?_⟩
  by_cases hn : n = 0
  · subst hn
    rfl
  · exact absurd hzero (head?_toString n hn)

theorem digits_paddedDigits (width n : Nat) : Digits (Text.paddedDigits width n) := by
  refine ⟨fun hnil => ?_, List.forall_mem_append.2 ⟨isDigit_of_mem_zeros, (digits_toString n).2⟩⟩
  exact (digits_toString n).1 (List.append_eq_nil_iff.1 hnil).2

/-! ### Placing the point -/

/-- A mantissa is written where the point falls before digits or among them, and where no zeros are
missing behind them. -/
theorem isJsonMantissa_placePoint (h : IsWhole ds) {point : Int} (hpoint : point ≤ ds.length) :
    IsJsonMantissa (Decimal.placePoint ds point) := by
  unfold Decimal.placePoint
  split_ifs with hbefore hbehind
  · have hzero : IsWhole ['0'] := ⟨by simp [Digits], fun _ => rfl⟩
    exact .pointed hzero ⟨by simp [h.1.1], List.forall_mem_append.2 ⟨isDigit_of_mem_zeros, h.1.2⟩⟩
  · have hnone : point.toNat - ds.length = 0 := by omega
    rw [hnone, List.replicate_zero, List.append_nil]
    exact .whole h
  · have htake : IsWhole (ds.take point.toNat) := by
      refine ⟨⟨fun hnil => ?_, fun c hc => h.1.2 c (List.mem_of_mem_take hc)⟩, fun hhead => ?_⟩
      · rcases List.take_eq_nil_iff.1 hnil with hzero | hnil
        · omega
        · exact h.1.1 hnil
      · rw [List.head?_take, if_neg (by omega)] at hhead
        -- a zero in front would be the only digit
        rw [h.2 hhead, List.length_singleton] at hbehind
        omega
    refine .pointed htake ⟨fun hnil => ?_, fun c hc => h.1.2 c (List.mem_of_mem_drop hc)⟩
    rw [List.drop_eq_nil_iff] at hnil
    omega

/-- Where the point falls behind the digits, zeros are written up to it and one behind it. -/
theorem isJsonMantissa_placePoint_behind (h : Digits ds) (hhead : ds.head? ≠ some '0') {point : Int}
    (hpoint : ds.length ≤ point) : IsJsonMantissa (Decimal.placePoint ds point ++ ['.', '0']) := by
  have hpos := List.length_pos_iff.2 h.1
  have hwhole : IsWhole (ds ++ List.replicate (point.toNat - ds.length) '0') := by
    refine ⟨⟨by simp [h.1], List.forall_mem_append.2 ⟨h.2, isDigit_of_mem_zeros⟩⟩, fun hzero => ?_⟩
    rw [List.head?_append_of_ne_nil _ h.1] at hzero
    exact absurd hzero hhead
  rw [Decimal.placePoint, if_neg (by omega), if_pos hpoint]
  exact .pointed hwhole (by simp [Digits])

theorem isJsonNumber_of_mantissa (negative : Bool) (h : IsJsonMantissa cs) :
    IsJsonNumber (Decimal.signText negative ++ cs) := by
  have hnumber := IsJsonNumber.intro negative h .none
  rwa [List.append_nil] at hnumber

/-! ### Numbers -/

theorem isJsonNumber_int (n : Int) : IsJsonNumber (toString n).toList := by
  cases n with
  | ofNat n => exact isJsonNumber_of_mantissa false (.whole (isWhole_toString n))
  | negSucc n =>
    have htext : toString (Int.negSucc n) = "-" ++ toString (n + 1) := rfl
    rw [htext, String.toList_append]
    exact isJsonNumber_of_mantissa true (.whole (isWhole_toString (n + 1)))

theorem isScale_decimal (e : Int) : IsScale ('E' :: Decimal.exponentText e) := by
  have hsign : IsSign [if e < 0 then '-' else '+'] := by
    split_ifs
    · exact .inr (.inr rfl)
    · exact .inr (.inl rfl)
  exact .some (.inr rfl) hsign (digits_toString e.natAbs)

theorem isJsonNumber_decimal {d : Decimal} (h : d.isFinite = true) : IsJsonNumber d.text.toList := by
  cases d with
  | finite negative c e =>
    have hwhole := isWhole_toString c
    rw [Decimal.text, String.toList_ofList]
    unfold Decimal.finiteText
    dsimp only
    split_ifs with hplain
    · exact isJsonNumber_of_mantissa negative (isJsonMantissa_placePoint hwhole (by omega))
    · have hlength : (1 : Int) ≤ (toString c).toList.length := by
        have hpos := List.length_pos_iff.2 hwhole.1.1
        omega
      rw [← List.append_assoc]
      exact .intro negative (isJsonMantissa_placePoint hwhole hlength) (isScale_decimal _)
  | _ => exact Bool.noConfusion h

theorem isScale_float (e : Int) : IsScale (Binary64.exponentText e) := by
  have hsign : IsSign [if e < 0 then '-' else '+'] := by
    split_ifs
    · exact .inr (.inr rfl)
    · exact .inr (.inl rfl)
  exact .some (.inl rfl) hsign (digits_paddedDigits 2 e.natAbs)

theorem isJsonNumber_float {x : Binary64} (h : x.isFinite = true) : IsJsonNumber x.text.toList := by
  have hzeros : IsJsonMantissa (['0'] ++ '.' :: ['0']) :=
    .pointed ⟨by simp [Digits], fun _ => rfl⟩ (by simp [Digits])
  cases x with
  | finite negative digits e =>
    have hdigits := digits_toString digits
    have hpos := List.length_pos_iff.2 hdigits.1
    rw [Binary64.text, String.toList_ofList]
    unfold Binary64.finiteText
    dsimp only
    split_ifs with hzero hplain hfill hshort
    · exact isJsonNumber_of_mantissa negative hzeros
    · exact isJsonNumber_of_mantissa negative
        (isJsonMantissa_placePoint_behind hdigits (head?_toString digits hzero) hfill)
    · refine isJsonNumber_of_mantissa negative ?_
      rw [List.append_nil]
      exact isJsonMantissa_placePoint (isWhole_toString digits) (by omega)
    · rw [← List.append_assoc]
      exact .intro negative (.whole (isWhole_toString digits)) (isScale_float _)
    · rw [← List.append_assoc]
      exact .intro negative (isJsonMantissa_placePoint (isWhole_toString digits) (by omega))
        (isScale_float _)
  | _ => exact Bool.noConfusion h

theorem isNumeral_decimal_iff (d : Decimal) : IsNumeral d.text.toList ↔ d.isFinite = true := by
  have hword : ∀ {c : Char}, c ∈ d.text.toList → isNumeralChar c = false → ¬IsNumeral d.text.toList :=
    fun hc hchar h => absurd (h.chars _ hc) (by rw [hchar]; exact Bool.false_ne_true)
  refine ⟨fun h => ?_, fun h => (isJsonNumber_decimal h).isNumeral⟩
  cases d with
  | finite => rfl
  | infinite negative =>
    have hmem : 'I' ∈ (Decimal.infinite negative).text.toList := by
      rw [Decimal.text, String.toList_ofList]
      exact List.mem_append_right _ (by decide)
    exact absurd h (hword hmem (by decide))
  | nan negative signaling payload =>
    have hmem : 'N' ∈ (Decimal.nan negative signaling payload).text.toList := by
      rw [Decimal.text, String.toList_ofList]
      exact List.mem_append_left _ (List.mem_append_right _ (by decide))
    exact absurd h (hword hmem (by decide))

end Numeral

end Polystore

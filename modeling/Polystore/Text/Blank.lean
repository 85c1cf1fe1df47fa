import Polystore.Text.CodePoints

/-!
# Blanks and words

The blank characters of Unicode, and a text cut at runs of them.

Main statements: no word is empty (`ne_nil_of_mem_words`) and no word holds a blank
(`not_isBlank_of_mem_words`).
-/

namespace Polystore.Text

/-- The blanks: the separators of ASCII with the four information separators, the next-line and
no-break characters, and the spaces and line separators of the other scripts. -/
def blankRanges : List (Nat × Nat) :=
  [(0x09, 0x0d), (0x1c, 0x20), (0x85, 0x85), (0xa0, 0xa0), (0x1680, 0x1680), (0x2000, 0x200a),
   (0x2028, 0x2029), (0x202f, 0x202f), (0x205f, 0x205f), (0x3000, 0x3000)]

def isBlank (c : Char) : Bool :=
  inRanges blankRanges c

/-- A word under construction, kept last character first; the empty one is no word. -/
def closeWord : List Char → List (List Char)
  | [] => []
  | c :: cs => [(c :: cs).reverse]

/-- The words of a text after the part `current` of a word. -/
def wordsAfter (current : List Char) : List Char → List (List Char)
  | [] => closeWord current
  | c :: cs =>
    if isBlank c then closeWord current ++ wordsAfter [] cs else wordsAfter (c :: current) cs

/-- The words of a text: the maximal runs of characters that are not blank. -/
def words (cs : List Char) : List (List Char) :=
  wordsAfter [] cs

/-- A text with each run of blanks made one space and none at its ends. -/
def squeeze (s : String) : String :=
  String.ofList ([' '].intercalate (words s.toList))

theorem isBlank_of_isWhitespace {c : Char} (h : c.isWhitespace = true) : isBlank c = true := by
  simp only [Char.isWhitespace, Bool.or_eq_true, decide_eq_true_eq] at h
  rcases h with ((rfl | rfl) | rfl) | rfl <;> decide

theorem mem_closeWord {w cur : List Char} (h : w ∈ closeWord cur) : w = cur.reverse ∧ cur ≠ [] := by
  cases cur with
  | nil => simp [closeWord] at h
  | cons c cs => exact ⟨by simpa [closeWord] using h, by simp⟩

theorem ne_nil_of_mem_wordsAfter {cs cur w : List Char} (h : w ∈ wordsAfter cur cs) : w ≠ [] := by
  induction cs generalizing cur with
  | nil => obtain ⟨rfl, hne⟩ := mem_closeWord h; simpa using hne
  | cons c cs ih =>
    rw [wordsAfter] at h
    split at h
    · rcases List.mem_append.1 h with h | h
      · obtain ⟨rfl, hne⟩ := mem_closeWord h; simpa using hne
      · exact ih h
    · exact ih h

theorem ne_nil_of_mem_words {cs w : List Char} (h : w ∈ words cs) : w ≠ [] :=
  ne_nil_of_mem_wordsAfter h

theorem not_isBlank_of_mem_wordsAfter {cs cur w : List Char} (hcur : ∀ c ∈ cur, isBlank c = false)
    (h : w ∈ wordsAfter cur cs) : ∀ c ∈ w, isBlank c = false := by
  induction cs generalizing cur with
  | nil => obtain ⟨rfl, _⟩ := mem_closeWord h; simpa using hcur
  | cons d cs ih =>
    rw [wordsAfter] at h
    split at h
    · rcases List.mem_append.1 h with h | h
      · obtain ⟨rfl, _⟩ := mem_closeWord h; simpa using hcur
      · exact ih (by simp) h
    · rename_i hd
      exact ih (by intro c hc; rcases List.mem_cons.1 hc with rfl | hc <;> simp_all) h

theorem not_isBlank_of_mem_words {cs w : List Char} (h : w ∈ words cs) :
    ∀ c ∈ w, isBlank c = false :=
  not_isBlank_of_mem_wordsAfter (by simp) h

end Polystore.Text

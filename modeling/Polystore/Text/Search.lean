/-!
# Searching text

Where one text begins with, or contains, another.
-/

namespace Polystore.Text

/-- A text contains another as consecutive characters. -/
def occursIn (part : List Char) : List Char → Bool
  | [] => part.isEmpty
  | c :: cs => part.isPrefixOf (c :: cs) || occursIn part cs

/-- The rest of a text after the first place where a part occurs. -/
def after? (part : List Char) : List Char → Option (List Char)
  | [] => if part.isEmpty then some [] else none
  | c :: cs =>
    if part.isPrefixOf (c :: cs) then some ((c :: cs).drop part.length) else after? part cs

def contains (s part : String) : Bool :=
  occursIn part.toList s.toList

def startsWith (s part : String) : Bool :=
  part.toList.isPrefixOf s.toList

theorem occursIn_iff_infix (part cs : List Char) : occursIn part cs = true ↔ part <:+: cs := by
  induction cs with
  | nil => simp [occursIn]
  | cons c cs ih =>
    simp only [occursIn, Bool.or_eq_true, List.isPrefixOf_iff_prefix, ih]
    constructor
    · rintro (h | h)
      · exact h.isInfix
      · exact h.trans (List.suffix_cons c cs).isInfix
    · exact fun h => List.infix_cons_iff.1 h

end Polystore.Text

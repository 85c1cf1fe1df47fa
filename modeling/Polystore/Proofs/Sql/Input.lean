import Polystore.Proofs.Sql.Placeholder

/-!
# SQL text with values for its placeholders

A reader of a statement looks for the placeholders in its text and takes the values bound to them. The
text of a fragment reads as the characters and the values of the fragment (`inputs?_render`), whatever
the style of the placeholders and wherever their numbers start.
-/

namespace Polystore.Sql

/-- A character of a text, or the value that a placeholder in it stands for. -/
inductive Input where
  | char (c : Char)
  | value (v : Value)

/-- The characters of a text. -/
def chars (s : String) : List Input :=
  s.toList.map .char

theorem chars_append (s t : String) : chars (s ++ t) = chars s ++ chars t := by
  simp [chars]

theorem chars_intercalate (separator : String) (ss : List String) :
    chars (separator.intercalate ss) = (chars separator).intercalate (ss.map chars) := by
  induction ss with
  | nil => rfl
  | cons s ss ih =>
    cases ss with
    | nil => simp
    | cons t ss =>
      rw [String.intercalate_cons_cons, chars_append, chars_append, ih]
      simp only [List.map_cons, List.intercalate_cons_cons]

/-- How many characters of a placeholder follow its mark. -/
def tailLength : PlaceholderStyle → List Char → Nat
  | .numbered, cs => (cs.takeWhile Char.isDigit).length
  | .qmark, _ => 0
  | .format, _ => 1

/-- A text with values for its placeholders. A placeholder stands for the value with the number that it
shows; if it shows none, the numbers are given out in text order, from `next` on. -/
def inputs? (style : PlaceholderStyle) (value? : Nat → Option Value) :
    Nat → List Char → Option (List Input)
  | _, [] => some []
  | next, c :: cs =>
    match style.leading? (c :: cs) with
    | some label => do
      let v ← value? (label.getD next)
      let rest ← inputs? style value? (next + 1) cs
      some (.value v :: rest.drop (tailLength style cs))
    | none => (inputs? style value? next cs).map (.char c :: ·)

/-- The characters and values of a fragment. -/
def Fragment.inputs : Fragment → List Input
  | [] => []
  | .text s :: f => chars s ++ inputs f
  | .slot v :: f => .value v :: inputs f

theorem Fragment.inputs_append (f g : Fragment) : inputs (f ++ g) = inputs f ++ inputs g := by
  induction f with
  | nil => rfl
  | cons p f ih => cases p <;> simp [inputs, ih]

theorem Fragment.inputs_joinWith (separator : String) (fs : List Fragment) :
    inputs (joinWith separator fs) = (chars separator).intercalate (fs.map inputs) := by
  induction fs with
  | nil => rfl
  | cons f fs ih =>
    cases fs with
    | nil => simp [joinWith]
    | cons g fs =>
      rw [joinWith, inputs_append, inputs, ih]
      simp only [List.map_cons, List.intercalate_cons_cons, List.append_assoc]

section Inputs

variable {style : PlaceholderStyle} {value? : Nat → Option Value}

theorem inputs?_append_of_not_isMark {cs : List Char}
    (h : ∀ c ∈ cs, PlaceholderStyle.isMark c = false) (next : Nat) (rest : List Char) :
    inputs? style value? next (cs ++ rest) =
      (inputs? style value? next rest).map (cs.map .char ++ ·) := by
  induction cs with
  | nil => simp
  | cons c cs ih =>
    rw [List.cons_append, inputs?, PlaceholderStyle.leading?_of_not_isMark (h c (by simp)),
      ih fun d hd => h d (by simp [hd])]
    simp only [Option.map_map]
    rfl

/-- A written placeholder reads as the value with its number, if no digit follows it. -/
theorem inputs?_placeholder_append {next : Nat} {v : Value} (hv : value? next = some v)
    {rest : List Char} (hrest : PlaceholderStyle.startsWithDigit rest = false) :
    inputs? style value? next ((style.placeholder next).toList ++ rest) =
      (inputs? style value? (next + 1) rest).map (.value v :: ·) := by
  cases style with
  | numbered =>
    have hdigits : ∀ c ∈ Nat.toDigits 10 next, c.isDigit = true := fun c hc =>
      Nat.isDigit_of_mem_toDigits (by omega) (by omega) hc
    rw [PlaceholderStyle.toList_placeholder_numbered, List.cons_append, inputs?,
      PlaceholderStyle.leading?, PlaceholderStyle.takeWhile_isDigit_append hdigits hrest,
      Nat.ofDigitChars_ten_toDigits, inputs?_append_of_not_isMark fun c hc =>
        PlaceholderStyle.not_isMark_of_isDigit (hdigits c hc)]
    simp only [Option.getD_some, hv, tailLength,
      PlaceholderStyle.takeWhile_isDigit_append hdigits hrest]
    cases inputs? .numbered value? (next + 1) rest <;> simp
  | qmark =>
    rw [PlaceholderStyle.toList_placeholder_qmark]
    simp only [List.cons_append, List.nil_append, inputs?, PlaceholderStyle.leading?,
      Option.getD_none, hv, tailLength]
    cases inputs? .qmark value? (next + 1) rest <;> simp
  | format =>
    have hs : PlaceholderStyle.format.leading? ('s' :: rest) = none :=
      PlaceholderStyle.leading?_of_not_isMark (by decide) rest
    rw [PlaceholderStyle.toList_placeholder_format]
    simp only [List.cons_append, List.nil_append]
    rw [inputs?, inputs?, hs]
    simp only [PlaceholderStyle.leading?, Option.getD_none, hv, tailLength]
    cases inputs? .format value? (next + 1) rest <;> simp

theorem inputs?_render {f : Fragment} (h : f.Clear) {next : Nat}
    (hvalues : ∀ i < f.values.length, value? (next + i) = f.values[i]?) :
    inputs? style value? next (f.render style next).toList = some f.inputs := by
  induction f generalizing next with
  | nil => rfl
  | cons p f ih =>
    cases p with
    | text s =>
      rw [Fragment.render, String.toList_append, inputs?_append_of_not_isMark h.1,
        ih h.2 hvalues]
      rfl
    | slot v =>
      have hv : value? next = some v := hvalues 0 (Nat.succ_pos _)
      have hrest : ∀ i < (Fragment.values f).length,
          value? (next + 1 + i) = (Fragment.values f)[i]? := by
        intro i hi
        rw [Nat.add_right_comm, Nat.add_assoc]
        exact hvalues (i + 1) (Nat.succ_lt_succ hi)
      rw [Fragment.render, String.toList_append,
        inputs?_placeholder_append hv (Fragment.not_startsWithDigit_render h.1 _), ih h.2 hrest]
      rfl

end Inputs

end Polystore.Sql

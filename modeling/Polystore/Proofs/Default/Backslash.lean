import Mathlib
import Polystore.DefaultLiteral

/-!
# Backslashes in default literals

MySQL reads a backslash inside a string literal as an escape, while a default is written with nothing but
its quotes doubled.

Main statements: `isLiteralOf_render_iff` says which defaults read back as what they are, and
`not_isLiteralOf_render` shows a text that ends its literal early and a list whose JSON text is lost.
-/

namespace Polystore.DefaultLiteral

open Identifier (doubleQuotes)

/-! ### Reading a literal -/

/-- What a backslash in front of a character stands for. A wildcard of patterns keeps its backslash, and
a character without a meaning of its own stands for itself. -/
def escaped : Char → List Char
  | '0' => [Char.ofNat 0]
  | 'b' => [Char.ofNat 8]
  | 'n' => ['\n']
  | 'r' => ['\r']
  | 't' => ['\t']
  | 'Z' => [Char.ofNat 26]
  | '%' => ['\\', '%']
  | '_' => ['\\', '_']
  | c => [c]

/-- Reads the inside of a literal up to the quote that ends it, and the rest. A doubled quote is a quote,
and a backslash escapes the character behind it. -/
def readInside : List Char → Option (List Char × List Char)
  | [] => none
  | [c] => if c = '\'' then some ([], []) else none
  | c :: d :: cs =>
    if c = '\\' then (readInside cs).map fun r => (escaped d ++ r.1, r.2)
    else if c = '\'' then
      if d = '\'' then (readInside cs).map fun r => ('\'' :: r.1, r.2) else some ([], d :: cs)
    else (readInside (d :: cs)).map fun r => (c :: r.1, r.2)

/-- Reads a literal, and the rest. -/
def readLiteral : List Char → Option (List Char × List Char)
  | [] => none
  | c :: cs => if c = '\'' then readInside cs else none

/-- A text is one literal of a content and nothing else, between parentheses or not. -/
def IsLiteralOf (parenthesized : Bool) (text content : List Char) : Prop :=
  if parenthesized then ∃ body, text = '(' :: body ∧ readLiteral body = some (content, [')'])
  else readLiteral text = some (content, [])

theorem readInside_escape (d : Char) (cs : List Char) :
    readInside ('\\' :: d :: cs) = (readInside cs).map fun r => (escaped d ++ r.1, r.2) := by
  simp [readInside]

theorem readInside_doubled (cs : List Char) :
    readInside ('\'' :: '\'' :: cs) = (readInside cs).map fun r => ('\'' :: r.1, r.2) := by
  simp [readInside]

theorem readInside_close {rest : List Char} (h : rest.head? ≠ some '\'') :
    readInside ('\'' :: rest) = some ([], rest) := by
  cases rest with
  | nil => rfl
  | cons d cs =>
    have hd : d ≠ '\'' := by simpa using h
    simp [readInside, hd]

theorem readInside_plain {c : Char} (hslash : c ≠ '\\') (hquote : c ≠ '\'') (cs : List Char) :
    readInside (c :: cs) = (readInside cs).map fun r => (c :: r.1, r.2) := by
  cases cs with
  | nil => simp [readInside, hquote]
  | cons d cs => simp [readInside, hslash, hquote]

/-! ### Backslashes that are kept -/

/-- Every backslash of a text stands in front of a wildcard of patterns. -/
def OnlyBeforeWildcards (cs : List Char) : Prop :=
  ∀ before after, cs = before ++ '\\' :: after → after.head? = some '%' ∨ after.head? = some '_'

theorem onlyBeforeWildcards_nil : OnlyBeforeWildcards [] := by
  intro before after h
  exact absurd h (by simp)

theorem onlyBeforeWildcards_cons {c : Char} {cs : List Char} :
    OnlyBeforeWildcards (c :: cs) ↔
      (c = '\\' → cs.head? = some '%' ∨ cs.head? = some '_') ∧ OnlyBeforeWildcards cs := by
  constructor
  · intro h
    refine ⟨?_, fun before after hcs => h (c :: before) after (by rw [hcs]; rfl)⟩
    rintro rfl
    exact h [] cs rfl
  · rintro ⟨hhead, htail⟩ before after h
    cases before with
    | nil =>
      obtain ⟨rfl, rfl⟩ := List.cons.inj h
      exact hhead rfl
    | cons b before =>
      obtain ⟨-, hcs⟩ := List.cons.inj h
      exact htail before after hcs

theorem exists_escaped_eq {d : Char} (hwildcard : d ≠ '%' ∧ d ≠ '_') (hslash : d ≠ '\\') :
    ∃ e, escaped d = [e] ∧ e ≠ '\\' := by
  unfold escaped
  split
  all_goals first
    | exact ⟨_, rfl, by decide⟩
    | exact absurd rfl hwildcard.1
    | exact absurd rfl hwildcard.2
    | exact ⟨d, rfl, hslash⟩

theorem count_escaped_le (d : Char) : (escaped d).count '\\' ≤ 1 + [d].count '\\' := by
  by_cases hwildcard : d = '%' ∨ d = '_'
  · rcases hwildcard with rfl | rfl <;> decide
  · by_cases hslash : d = '\\'
    · subst hslash
      decide
    · obtain ⟨e, he, hne⟩ := exists_escaped_eq (not_or.1 hwildcard) hslash
      rw [he, List.count_eq_zero_of_not_mem (by simpa using hne.symm)]
      exact Nat.zero_le _

theorem count_le_of_readInside {cs content rest : List Char}
    (h : readInside cs = some (content, rest)) :
    content.count '\\' + rest.count '\\' ≤ cs.count '\\' := by
  fun_induction readInside cs generalizing content rest with
  | case1 => exact absurd h (by simp)
  | case2 => simp_all
  | case3 => exact absurd h (by simp)
  | case4 d cs ih =>
    obtain ⟨r, hr, heq⟩ := Option.map_eq_some_iff.1 h
    obtain ⟨rfl, rfl⟩ := Prod.mk.inj heq
    have hrest := ih hr
    have hd := count_escaped_le d
    simp only [List.count_append, List.count_cons, List.count_nil, beq_self_eq_true, ↓reduceIte] at *
    omega
  | case5 cs _ ih =>
    obtain ⟨r, hr, heq⟩ := Option.map_eq_some_iff.1 h
    obtain ⟨rfl, rfl⟩ := Prod.mk.inj heq
    have hrest := ih hr
    simp only [List.count_cons] at *
    omega
  | case6 d cs =>
    obtain ⟨rfl, rfl⟩ := Prod.mk.inj (Option.some.inj h)
    simp only [List.count_cons, List.count_nil]
    omega
  | case7 c d cs _ _ ih =>
    obtain ⟨r, hr, heq⟩ := Option.map_eq_some_iff.1 h
    obtain ⟨rfl, rfl⟩ := Prod.mk.inj heq
    have hrest := ih hr
    simp only [List.count_cons] at *
    omega

theorem doubleQuotes_cons_self (cs : List Char) :
    doubleQuotes '\'' ('\'' :: cs) = '\'' :: '\'' :: doubleQuotes '\'' cs :=
  if_pos rfl

theorem doubleQuotes_cons_of_ne {c : Char} (h : c ≠ '\'') (cs : List Char) :
    doubleQuotes '\'' (c :: cs) = c :: doubleQuotes '\'' cs :=
  if_neg h

theorem count_doubleQuotes (cs : List Char) :
    (doubleQuotes '\'' cs).count '\\' = cs.count '\\' := by
  induction cs with
  | nil => rfl
  | cons c cs ih =>
    by_cases h : c = '\''
    · subst h
      rw [doubleQuotes_cons_self, List.count_cons_of_ne (by decide), List.count_cons_of_ne (by decide),
        List.count_cons_of_ne (by decide), ih]
    · rw [doubleQuotes_cons_of_ne h, List.count_cons, List.count_cons, ih]

/-! ### Reading back -/

theorem map_append_eq_some (front : List Char) {x : Option (List Char × List Char)}
    {cs rest : List Char} :
    (x.map fun r => (front ++ r.1, r.2)) = some (front ++ cs, rest) ↔ x = some (cs, rest) := by
  constructor
  · intro h
    obtain ⟨r, hr, heq⟩ := Option.map_eq_some_iff.1 h
    obtain ⟨hcs, rfl⟩ := Prod.mk.inj heq
    rw [hr, ← List.append_cancel_left hcs]
  · rintro rfl
    rfl

theorem eq_of_readInside_escape {d : Char} (hwildcard : d ≠ '%' ∧ d ≠ '_') {tail cs rest : List Char}
    (h : readInside ('\\' :: d :: tail) = some ('\\' :: cs, rest)) :
    d = '\\' ∧ readInside tail = some (cs, rest) := by
  rw [readInside_escape] at h
  by_cases hslash : d = '\\'
  · subst hslash
    exact ⟨rfl, (map_append_eq_some ['\\']).1 h⟩
  · obtain ⟨e, he, hne⟩ := exists_escaped_eq hwildcard hslash
    obtain ⟨r, -, heq⟩ := Option.map_eq_some_iff.1 h
    obtain ⟨hcs, -⟩ := Prod.mk.inj heq
    rw [he] at hcs
    exact absurd (List.cons.inj hcs).1 hne

theorem readInside_backslash_ne {cs rest : List Char}
    (h : ¬(cs.head? = some '%' ∨ cs.head? = some '_')) :
    readInside ('\\' :: (doubleQuotes '\'' cs ++ '\'' :: rest)) ≠ some ('\\' :: cs, rest) := by
  intro hread
  cases cs with
  | nil => exact absurd (eq_of_readInside_escape (by decide) hread).1 (by decide)
  | cons d cs =>
    have hwildcard : d ≠ '%' ∧ d ≠ '_' := by simpa using h
    by_cases hquote : d = '\''
    · subst hquote
      rw [doubleQuotes_cons_self] at hread
      exact absurd (eq_of_readInside_escape hwildcard hread).1 (by decide)
    · rw [doubleQuotes_cons_of_ne hquote, List.cons_append] at hread
      obtain ⟨rfl, hrest⟩ := eq_of_readInside_escape hwildcard hread
      -- the escaped backslash has been read as the first of two, and nothing can be the second one
      have hcount := count_le_of_readInside hrest
      rw [List.count_append, count_doubleQuotes, List.count_cons_self, List.count_cons_of_ne (by decide)]
        at hcount
      omega

/-- A literal reads back as what was put between doubled quotes exactly if that has no backslash but in
front of a wildcard. -/
theorem readInside_doubleQuotes_iff (content : List Char) {rest : List Char}
    (h : rest.head? ≠ some '\'') :
    readInside (doubleQuotes '\'' content ++ '\'' :: rest) = some (content, rest) ↔
      OnlyBeforeWildcards content := by
  match content with
  | [] => exact iff_of_true (readInside_close h) onlyBeforeWildcards_nil
  | c :: cs =>
    rw [onlyBeforeWildcards_cons]
    by_cases hslash : c = '\\'
    · subst hslash
      rw [doubleQuotes_cons_of_ne (by decide), List.cons_append]
      by_cases hhead : cs.head? = some '%' ∨ cs.head? = some '_'
      · obtain ⟨d, ds, rfl, hd⟩ : ∃ d ds, cs = d :: ds ∧ (d = '%' ∨ d = '_') := by
          cases cs with
          | nil => simp at hhead
          | cons d ds => exact ⟨d, ds, rfl, by simpa using hhead⟩
        have hescaped : escaped d = ['\\', d] := by rcases hd with rfl | rfl <;> rfl
        have hquote : d ≠ '\'' := by rcases hd with rfl | rfl <;> decide
        have hplain : d ≠ '\\' := by rcases hd with rfl | rfl <;> decide
        rw [doubleQuotes_cons_of_ne hquote, List.cons_append, readInside_escape, hescaped,
          onlyBeforeWildcards_cons]
        refine (map_append_eq_some ['\\', d]).trans ((readInside_doubleQuotes_iff ds h).trans ?_)
        exact ⟨fun hds => ⟨fun _ => hhead, fun heq => absurd heq hplain, hds⟩, fun hall => hall.2.2⟩
      · exact iff_of_false (readInside_backslash_ne hhead) fun hall => hhead (hall.1 rfl)
    · refine Iff.trans ?_ ((readInside_doubleQuotes_iff cs h).trans
        ⟨fun hcs => ⟨fun heq => absurd heq hslash, hcs⟩, And.right⟩)
      by_cases hquote : c = '\''
      · subst hquote
        rw [doubleQuotes_cons_self, List.cons_append, List.cons_append, readInside_doubled]
        exact map_append_eq_some ['\'']
      · rw [doubleQuotes_cons_of_ne hquote, List.cons_append, readInside_plain hslash hquote]
        exact map_append_eq_some [c]
termination_by content.length

/-! ### Defaults -/

/-- Sequences and mappings are written in JSON. -/
def inJson (v : Value) : Bool :=
  v.sequence?.isSome || v.entries?.isSome

/-- What the literal of a default has to hold: the JSON text of a sequence or a mapping that has one, and
otherwise a text itself. -/
def IsContent (v : Value) (content : List Char) : Prop :=
  if inJson v then v.json = .ok content else v.text?.map String.toList = some content

theorem toList_quoted (content : List Char) :
    (String.ofList (quoted content)).toList = '\'' :: (doubleQuotes '\'' content ++ ['\'']) :=
  String.toList_ofList

theorem toList_jsonLiteral_mysql (json : List Char) :
    (jsonLiteral Engine.mysql.defaultStyle json).toList =
      '(' :: '\'' :: (doubleQuotes '\'' json ++ ['\'', ')']) := by
  have htext : jsonLiteral Engine.mysql.defaultStyle json =
      "(" ++ (String.ofList (quoted json) ++ "") ++ ")" := rfl
  rw [htext, String.append_empty, String.toList_append, String.toList_append, toList_quoted]
  simp

theorem render_of_text {v : Value} {s : String} (h : v.text? = some s) (style : DefaultStyle) :
    render style v = .ok (String.ofList (quoted s.toList)) := by
  cases v <;> cases h <;> rfl

theorem render_of_json {v : Value} {json : List Char} (hv : inJson v = true) (h : v.json = .ok json)
    (style : DefaultStyle) : render style v = .ok (jsonLiteral style json) := by
  have hencoded : encoded style v = .ok (jsonLiteral style json) := by
    rw [encoded, h]
    rfl
  cases v with
  | list => exact hencoded
  | tuple => exact hencoded
  | map => exact hencoded
  | _ => exact absurd hv Bool.false_ne_true

/-- A default that is a text or is written in JSON is a literal of MySQL that holds it exactly if
backslashes stand in front of wildcards only. -/
theorem isLiteralOf_render_iff {v : Value} {content : List Char} (h : IsContent v content) :
    ∃ text, render Engine.mysql.defaultStyle v = .ok text ∧
      (IsLiteralOf (inJson v) text.toList content ↔ OnlyBeforeWildcards content) := by
  unfold IsContent at h
  by_cases hv : inJson v = true
  · rw [if_pos hv] at h
    have hread : OnlyBeforeWildcards content ↔
        readInside (doubleQuotes '\'' content ++ '\'' :: [')']) = some (content, [')']) :=
      (readInside_doubleQuotes_iff content (by decide)).symm
    refine ⟨_, render_of_json hv h _, ?_⟩
    rw [toList_jsonLiteral_mysql, IsLiteralOf, if_pos hv, hread]
    constructor
    · rintro ⟨body, hbody, hliteral⟩
      obtain ⟨-, rfl⟩ := List.cons.inj hbody
      exact hliteral
    · exact fun hliteral => ⟨_, rfl, hliteral⟩
  · rw [if_neg hv] at h
    obtain ⟨s, hs, rfl⟩ := Option.map_eq_some_iff.1 h
    refine ⟨_, render_of_text hs _, ?_⟩
    rw [toList_quoted, IsLiteralOf, if_neg hv]
    exact readInside_doubleQuotes_iff s.toList (by decide)

/-- Percent signs may be escaped in a default. -/
theorem isLiteralOf_render_percent :
    IsContent (.str "50\\%") ['5', '0', '\\', '%'] ∧
    ∃ text, render Engine.mysql.defaultStyle (.str "50\\%") = .ok text ∧
      (IsLiteralOf (inJson (.str "50\\%")) text.toList ['5', '0', '\\', '%'] ↔
        OnlyBeforeWildcards ['5', '0', '\\', '%']) :=
  have h : IsContent (.str "50\\%") ['5', '0', '\\', '%'] := by rfl
  ⟨h, isLiteralOf_render_iff h⟩

/-- A text ends its literal with its own quote, and a quote in a list is lost from its JSON text. -/
theorem not_isLiteralOf_render :
    (IsContent (.str "\\'x") ['\\', '\'', 'x'] ∧
      ∃ text, render Engine.mysql.defaultStyle (.str "\\'x") = .ok text ∧
        readLiteral text.toList = some (['\''], ['x', '\'']) ∧
        ¬IsLiteralOf (inJson (.str "\\'x")) text.toList ['\\', '\'', 'x']) ∧
    (IsContent (.list [.str "\""]) ['[', '"', '\\', '"', '"', ']'] ∧
      ∃ text, render Engine.mysql.defaultStyle (.list [.str "\""]) = .ok text ∧
        ¬IsLiteralOf (inJson (.list [.str "\""])) text.toList ['[', '"', '\\', '"', '"', ']']) := by
  refine ⟨⟨by rfl, "'\\''x'", by rfl, by decide, fun h => ?_⟩, by rfl, "('[\"\\\"\"]')", by rfl, ?_⟩
  · have hread : readLiteral "'\\''x'".toList = some (['\\', '\'', 'x'], []) := h
    exact absurd hread (by decide)
  · rintro ⟨body, hbody, hread⟩
    have htext : "('[\"\\\"\"]')".toList = '(' :: "'[\"\\\"\"]')".toList := by decide
    obtain ⟨-, rfl⟩ := List.cons.inj (htext.symm.trans hbody)
    exact absurd hread (by decide)

end Polystore.DefaultLiteral

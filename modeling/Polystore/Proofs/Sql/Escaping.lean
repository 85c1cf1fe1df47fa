import Polystore.Proofs.Refusal
import Polystore.Proofs.Sql.Column
import Polystore.Substring

/-!
# Escaped texts

A text is escaped for a pattern by backslashes before the characters that have a meaning in patterns, and
before any others that are neither letters nor digits. A pattern is reduced to a text exactly if it is one of
the escaped forms of the text. A run of backslashes is read in one way only, because the backslash has a
meaning itself and never stands bare.

Main statement: `ofPattern_undoes_escaping`.
-/

namespace Polystore.Substring

open Text (isAlphanumeric)

/-- The characters with a meaning in patterns. -/
def specials : List Char :=
  ['^', '$', '*', '+', '?', '\x7b', '\x7d', '.', '(', ')', '[', ']', '|', '\\']

/-- A text and one of its escaped forms. -/
inductive Escapes : List Char → List Char → Prop where
  | nil : Escapes [] []
  /-- A character without a meaning may stand bare. -/
  | bare {c : Char} {text pattern : List Char} (hc : c ∉ specials) (h : Escapes text pattern) :
    Escapes (c :: text) (c :: pattern)
  /-- A character that is neither a letter nor a digit may have a backslash. -/
  | escaped {c : Char} {text pattern : List Char} (hc : isAlphanumeric c = false)
    (h : Escapes text pattern) : Escapes (c :: text) ('\\' :: c :: pattern)

/-- Every text has an escaped form, because no letter and no digit has a meaning. -/
theorem exists_escapes (text : List Char) : ∃ pattern, Escapes text pattern := by
  have hall : specials.all (fun c => !isAlphanumeric c) = true := by decide
  have hspecials : ∀ c ∈ specials, isAlphanumeric c = false := by simpa using hall
  induction text with
  | nil => exact ⟨[], .nil⟩
  | cons c text ih =>
    obtain ⟨pattern, h⟩ := ih
    by_cases hc : c ∈ specials
    · exact ⟨_, .escaped (hspecials c hc) h⟩
    · exact ⟨_, .bare hc h⟩

theorem mem_specials_iff {c : Char} :
    c ∈ specials ↔ c = '\\' ∨ isAnchor c = true ∨ isMetacharacter c = true := by
  simp only [specials, isAnchor, isMetacharacter, List.contains_iff_mem, List.mem_cons,
    List.not_mem_nil, or_false, Bool.or_eq_true, beq_iff_eq]
  tauto

section Forms

variable {c : Char} {text pattern : List Char}

theorem escapes_nil_iff : Escapes text [] ↔ text = [] := by
  constructor
  · rintro ⟨⟩
    rfl
  · rintro rfl
    exact .nil

theorem escapes_cons_iff (hc : c ≠ '\\') : Escapes text (c :: pattern) ↔
    c ∉ specials ∧ ∃ rest, Escapes rest pattern ∧ c :: rest = text := by
  constructor
  · intro h
    cases h with
    | bare hplain h => exact ⟨hplain, _, h, rfl⟩
    | escaped => exact absurd rfl hc
  · rintro ⟨hplain, rest, h, rfl⟩
    exact .bare hplain h

theorem escapes_backslash_iff : Escapes text ('\\' :: c :: pattern) ↔
    isAlphanumeric c = false ∧ ∃ rest, Escapes rest pattern ∧ c :: rest = text := by
  constructor
  · intro h
    cases h with
    | bare hplain => exact absurd (by decide) hplain
    | escaped hc h => exact ⟨hc, _, h, rfl⟩
  · rintro ⟨hc, rest, h, rfl⟩
    exact .escaped hc h

theorem not_escapes_dangling : ¬Escapes text ['\\'] := by
  intro h
  cases h with
  | bare hplain => exact hplain (by decide)

theorem Escapes.nul_mem_iff (h : Escapes text pattern) :
    Char.ofNat 0 ∈ pattern ↔ Char.ofNat 0 ∈ text := by
  have hback : Char.ofNat 0 ≠ '\\' := by decide
  induction h with
  | nil => rfl
  | bare _ _ ih => simp only [List.mem_cons, ih]
  | escaped _ _ ih => simp only [List.mem_cons, ih, hback, false_or]

end Forms

/-! ### Scanning -/

theorem ne_backslash {c : Char} {cs : List Char} (hdangling : c = '\\' → cs = [] → False)
    (hescape : ∀ d rest, c = '\\' → cs = d :: rest → False) : c ≠ '\\' := by
  rintro rfl
  cases cs with
  | nil => exact hdangling rfl rfl
  | cons d rest => exact hescape d rest rfl rfl

theorem scan_eq_ok_iff {pattern : String} {cs text : List Char} :
    scan pattern cs = .ok text ↔ Escapes text cs := by
  -- An escape takes two characters, so the induction follows the scan and not the list.
  fun_induction scan pattern cs generalizing text with
  | case1 => rw [pure_eq_ok, escapes_nil_iff, eq_comm]
  | case2 => exact iff_of_false throw_ne_ok not_escapes_dangling
  | case3 c cs hc =>
    refine iff_of_false throw_ne_ok fun h => ?_
    rw [(escapes_backslash_iff.1 h).1] at hc
    exact Bool.noConfusion hc
  | case4 c cs hc ih =>
    rw [map_eq_ok, escapes_backslash_iff, and_iff_right (Bool.eq_false_iff.2 hc)]
    simp only [ih]
  | case5 c cs hdangling hescape hanchor =>
    have hback := ne_backslash hdangling hescape
    refine iff_of_false throw_ne_ok fun h => ((escapes_cons_iff hback).1 h).1 ?_
    exact mem_specials_iff.2 (.inr (.inl hanchor))
  | case6 c cs hdangling hescape _ hmeta =>
    have hback := ne_backslash hdangling hescape
    refine iff_of_false throw_ne_ok fun h => ((escapes_cons_iff hback).1 h).1 ?_
    exact mem_specials_iff.2 (.inr (.inr hmeta))
  | case7 c cs hdangling hescape hanchor hmeta ih =>
    have hback := ne_backslash hdangling hescape
    have hplain : c ∉ specials := by
      rw [mem_specials_iff]
      exact fun h => h.elim hback (Or.rec hanchor hmeta)
    rw [map_eq_ok, escapes_cons_iff hback, and_iff_right hplain]
    simp only [ih]

theorem scan_refuses (pattern : String) (cs : List Char) :
    FailsOnly (fun e => e.kind? = some .unsupported) (scan pattern cs) := by
  fun_induction scan pattern cs with
  | case1 => exact .ok _
  | case2 => exact .error rfl
  | case3 => exact .error rfl
  | case4 c cs _ ih => exact ih.map _
  | case5 => exact .error rfl
  | case6 => exact .error rfl
  | case7 c cs _ _ _ _ ih => exact ih.map _

/-! ### Patterns -/

theorem ofPattern_eq_ok_iff {pattern text : String} : ofPattern pattern = .ok text ↔
    Char.ofNat 0 ∉ text.toList ∧ Escapes text.toList pattern.toList := by
  rw [ofPattern, bind_eq_ok]
  simp only [bind_eq_ok, pure_eq_ok, scan_eq_ok_iff]
  constructor
  · rintro ⟨_, hnull, cs, h, rfl⟩
    rw [String.toList_ofList]
    have hclean := Identifier.checkNoNull_eq_ok.1 hnull
    exact ⟨fun hnul => hclean (h.nul_mem_iff.2 hnul), h⟩
  · rintro ⟨hclean, h⟩
    have hpattern : Char.ofNat 0 ∉ pattern.toList := fun hnul => hclean (h.nul_mem_iff.1 hnul)
    exact ⟨(), Identifier.checkNoNull_eq_ok.2 hpattern, _, h, String.ofList_toList⟩

theorem kind_of_ofPattern {pattern : String} {e : Error} (h : ofPattern pattern = .error e) :
    Char.ofNat 0 ∈ pattern.toList ∧ e.kind? = some .invalidName ∨
      Char.ofNat 0 ∉ pattern.toList ∧ e.kind? = some .unsupported := by
  rcases bind_eq_error.1 h with hnull | ⟨_, hnull, h⟩
  · refine .inl ⟨?_, ?_⟩
    · by_contra hclean
      rw [Identifier.checkNoNull_eq_ok.2 hclean] at hnull
      cases hnull
    · obtain ⟨fault, rfl⟩ := RefusesNames.checkNoNull _ _ e hnull
      rfl
  · refine .inr ⟨Identifier.checkNoNull_eq_ok.1 hnull, ?_⟩
    exact (scan_refuses pattern pattern.toList).bind (fun _ _ => .ok _) e h

/-- A pattern is reduced to a text exactly if it is an escaped form of it and the text is free of the null
character, whichever characters have a backslash that need none, and every such text has an escaped form. Any
other pattern is refused, as an invalid name if it holds the null character and as unsupported if it does
not. -/
theorem ofPattern_undoes_escaping :
    (∀ pattern text, ofPattern pattern = .ok text ↔
      Char.ofNat 0 ∉ text.toList ∧ Escapes text.toList pattern.toList) ∧
    (∀ text : String, Char.ofNat 0 ∉ text.toList → ∃ pattern, ofPattern pattern = .ok text) ∧
    ∀ pattern e, ofPattern pattern = .error e →
      (e.kind? = some .invalidName ↔ Char.ofNat 0 ∈ pattern.toList) ∧
      (e.kind? = some .unsupported ↔ Char.ofNat 0 ∉ pattern.toList) := by
  refine ⟨fun _ _ => ofPattern_eq_ok_iff, fun text hclean => ?_, fun pattern e h => ?_⟩
  · obtain ⟨cs, h⟩ := exists_escapes text.toList
    refine ⟨String.ofList cs, ofPattern_eq_ok_iff.2 ⟨hclean, ?_⟩⟩
    rwa [String.toList_ofList]
  · rcases kind_of_ofPattern h with ⟨hnul, hkind⟩ | ⟨hclean, hkind⟩
    · rw [hkind]
      simp [hnul]
    · rw [hkind]
      simp [hclean]

/-- Three backslashes are an escaped one and the escape of what follows, or dangle if nothing does. -/
theorem ofPattern_undoes_escaping_of_backslashes :
    Escapes "\\.5 %".toList "\\\\\\.5\\ %".toList ∧ Char.ofNat 0 ∉ "\\.5 %".toList ∧
      ofPattern "\\\\\\.5\\ %" = .ok "\\.5 %" ∧
      (∃ pattern, ofPattern pattern = .ok "\\.5 %") ∧
      (∃ e, ofPattern "a\\\\\\" = .error e ∧ e.kind? = some .unsupported ∧
        Char.ofNat 0 ∉ "a\\\\\\".toList) ∧
      ∃ e, ofPattern "\\d\x00" = .error e ∧ e.kind? = some .invalidName ∧
        Char.ofNat 0 ∈ "\\d\x00".toList := by
  obtain ⟨hok, hall, herror⟩ := ofPattern_undoes_escaping
  have hread : ofPattern "\\\\\\.5\\ %" = .ok "\\.5 %" := by with_unfolding_all rfl
  obtain ⟨hclean, hescapes⟩ := (hok _ _).1 hread
  have hdangling : ofPattern "a\\\\\\" = .error (.unsupported (.danglingEscape "a\\\\\\")) := rfl
  have hnull : ∃ e, ofPattern "\\d\x00" = .error e := ⟨_, rfl⟩
  obtain ⟨e, he⟩ := hnull
  have hnul : Char.ofNat 0 ∈ "\\d\x00".toList := by decide
  exact ⟨hescapes, hclean, hread, hall _ hclean, ⟨_, hdangling, rfl, (herror _ _ hdangling).2.1 rfl⟩,
    e, he, (herror _ e he).1.2 hnul, hnul⟩

end Polystore.Substring

import Polystore.Dialect
import Polystore.Proofs.Outcome

/-!
# The text of a column

What a dialect writes for a field that it accepts: the name as it is, or a reserved word between quote
characters. Either way the text starts with a letter, an underscore or a quote character, and no
character of it can start a placeholder.
-/

namespace Polystore

open Identifier (isStart isPart isPlain matchesForm isReserved quoted)

namespace Identifier

theorem ne_of_isPart {c d : Char} (hc : isPart c = true) (hd : isPart d = false) : c ≠ d := by
  rintro rfl
  rw [hc] at hd
  exact Bool.noConfusion hd

theorem isPart_of_isStart {c : Char} (h : isStart c = true) : isPart c = true := by
  simp only [isStart, isPart, Char.isAlphanum, Bool.or_eq_true] at h ⊢
  exact h.imp_left .inl

theorem not_isDigit_of_isStart {c : Char} (h : isStart c = true) : c.isDigit = false := by
  simp only [isStart, Char.isAlpha, Char.isUpper, Char.isLower, Char.isDigit, Bool.or_eq_true,
    Bool.and_eq_true, decide_eq_true_eq, beq_iff_eq, Bool.and_eq_false_iff, decide_eq_false_iff_not,
    UInt32.le_iff_toNat_le, ge_iff_le] at h ⊢
  have hA : 'A'.val.toNat = 65 := rfl
  have ha : 'a'.val.toNat = 97 := rfl
  have h9 : '9'.val.toNat = 57 := rfl
  rcases h with (h | h) | rfl
  · omega
  · omega
  · decide

theorem isAscii_of_isPart {c : Char} (h : isPart c = true) : c.toNat < 0x80 := by
  simp only [isPart, Char.isAlphanum, Char.isAlpha, Char.isUpper, Char.isLower, Char.isDigit,
    Bool.or_eq_true, Bool.and_eq_true, decide_eq_true_eq, beq_iff_eq, UInt32.le_iff_toNat_le,
    ge_iff_le] at h
  have hZ : 'Z'.val.toNat = 90 := rfl
  have hz : 'z'.val.toNat = 122 := rfl
  have h9 : '9'.val.toNat = 57 := rfl
  have hval : c.toNat = c.val.toNat := rfl
  rcases h with ((h | h) | h) | rfl
  · omega
  · omega
  · omega
  · decide

theorem eq_cons_of_isPlain {cs : List Char} (h : isPlain cs = true) :
    ∃ c rest, cs = c :: rest ∧ isStart c = true ∧ ∀ d ∈ rest, isPart d = true := by
  cases cs with
  | nil => exact Bool.noConfusion h
  | cons c rest =>
    simp only [isPlain, Bool.and_eq_true, List.all_eq_true] at h
    exact ⟨c, rest, rfl, h⟩

theorem isPart_of_isPlain {cs : List Char} (h : isPlain cs = true) : ∀ c ∈ cs, isPart c = true := by
  obtain ⟨c, rest, rfl, hc, hrest⟩ := eq_cons_of_isPlain h
  exact List.forall_mem_cons.2 ⟨isPart_of_isStart hc, hrest⟩

/-- What is checked against the form is an identifier, or one before a final line feed. -/
theorem matchesForm_iff {cs : List Char} : matchesForm cs = true ↔
    isPlain cs = true ∨ ∃ stem, isPlain stem = true ∧ cs = stem ++ ['\n'] := by
  simp only [matchesForm, Bool.or_eq_true, Bool.and_eq_true, beq_iff_eq]
  refine or_congr_right ⟨?_, ?_⟩
  · rintro ⟨hlast, hstem⟩
    obtain ⟨stem, rfl⟩ := List.getLast?_eq_some_iff.1 hlast
    rw [List.dropLast_concat] at hstem
    exact ⟨stem, hstem, rfl⟩
  · rintro ⟨stem, hstem, rfl⟩
    exact ⟨List.getLast?_concat, by rwa [List.dropLast_concat]⟩

theorem eq_cons_of_matchesForm {cs : List Char} (h : matchesForm cs = true) :
    ∃ c rest, cs = c :: rest ∧ isStart c = true ∧ ∀ d ∈ rest, isPart d = true ∨ d = '\n' := by
  rcases matchesForm_iff.1 h with hplain | ⟨stem, hstem, rfl⟩
  · obtain ⟨c, rest, rfl, hc, hrest⟩ := eq_cons_of_isPlain hplain
    exact ⟨c, rest, rfl, hc, fun d hd => .inl (hrest d hd)⟩
  · obtain ⟨c, rest, rfl, hc, hrest⟩ := eq_cons_of_isPlain hstem
    refine ⟨c, rest ++ ['\n'], rfl, hc, fun d hd => ?_⟩
    rcases List.mem_append.1 hd with hd | hd
    · exact .inl (hrest d hd)
    · exact .inr (List.mem_singleton.1 hd)

theorem mem_doubleQuotes {q c : Char} {cs : List Char} (h : c ∈ doubleQuotes q cs) : c ∈ cs := by
  induction cs with
  | nil => exact h
  | cons d cs ih =>
    by_cases hd : d = q
    · simp only [doubleQuotes, if_pos hd, List.mem_cons] at h
      rcases h with h | h | h
      · exact List.mem_cons.2 (.inl h)
      · exact List.mem_cons.2 (.inl h)
      · exact List.mem_cons.2 (.inr (ih h))
    · simp only [doubleQuotes, if_neg hd, List.mem_cons] at h
      rcases h with h | h
      · exact List.mem_cons.2 (.inl h)
      · exact List.mem_cons.2 (.inr (ih h))

theorem mem_quoted {q c : Char} {cs : List Char} (h : c ∈ quoted q cs) : c = q ∨ c ∈ cs := by
  simp only [quoted, List.mem_cons, List.mem_append, List.not_mem_nil, or_false] at h
  rcases h with h | h | h
  · exact .inl h
  · exact .inr (mem_doubleQuotes h)
  · exact .inl h

theorem checkNoNull_eq_ok {context name : String} :
    checkNoNull context name = .ok () ↔ Char.ofNat 0 ∉ name.toList := by
  unfold checkNoNull
  by_cases h : Char.ofNat 0 ∈ name.toList
  · rw [if_pos (List.contains_iff_mem.2 h)]
    exact iff_of_false throw_ne_ok (not_not_intro h)
  · rw [if_neg (fun hcontains => h (List.contains_iff_mem.1 hcontains))]
    exact iff_of_true rfl h

theorem not_mem_nul_of_matchesForm {cs : List Char} (h : matchesForm cs = true) :
    Char.ofNat 0 ∉ cs := by
  obtain ⟨c, rest, rfl, hc, hrest⟩ := eq_cons_of_matchesForm h
  intro hmem
  rcases List.mem_cons.1 hmem with rfl | hmem
  · exact absurd hc (by decide)
  · exact absurd (hrest _ hmem) (by decide)

theorem validate_eq_ok {limit : Int} {name : String} : validate limit name = .ok () ↔
    exceeds limit name.length = false ∧ matchesForm name.toList = true := by
  unfold validate
  constructor
  · intro h
    obtain ⟨-, h⟩ := guard_eq_ok.1 h
    obtain ⟨_, -, h⟩ := bind_eq_ok.1 h
    obtain ⟨hlength, h⟩ := guard_eq_ok.1 h
    by_cases hform : matchesForm name.toList = true
    · exact ⟨Bool.eq_false_iff.2 hlength, hform⟩
    · rw [if_neg hform] at h
      exact absurd h throw_ne_ok
  · rintro ⟨hlength, hform⟩
    have hempty : name ≠ "" := by
      rintro rfl
      exact Bool.noConfusion hform
    have hnull : checkNoNull fieldNames name = .ok () :=
      checkNoNull_eq_ok.2 (not_mem_nul_of_matchesForm hform)
    rw [if_neg hempty, hnull, hlength, if_pos hform]
    rfl

theorem matchesForm_of_isPlain {cs : List Char} (h : isPlain cs = true) : matchesForm cs = true :=
  matchesForm_iff.2 (.inl h)

end Identifier

namespace SqlDialect

variable {d : SqlDialect} {name text : String}

theorem quote_eq_ok : d.quote name = .ok text ↔
    Char.ofNat 0 ∉ name.toList ∧ String.ofList (quoted d.engine.quoteMark name.toList) = text := by
  rw [quote, Identifier.quote, bind_eq_ok, ← Identifier.checkNoNull_eq_ok]
  simp only [pure_eq_ok]
  exact ⟨fun ⟨_, hnull, htext⟩ => ⟨hnull, htext⟩, fun ⟨hnull, htext⟩ => ⟨(), hnull, htext⟩⟩

theorem not_mem_nul_of_validateName (h : d.validateName name = .ok ()) : Char.ofNat 0 ∉ name.toList :=
  Identifier.not_mem_nul_of_matchesForm (Identifier.validate_eq_ok.1 h).2

theorem quoteValid_eq_ok : d.quoteValid name = .ok text ↔ d.validateName name = .ok () ∧
    String.ofList (quoted d.engine.quoteMark name.toList) = text := by
  rw [quoteValid, bind_eq_ok]
  simp only [quote_eq_ok]
  constructor
  · rintro ⟨_, hvalid, -, htext⟩
    exact ⟨hvalid, htext⟩
  · rintro ⟨hvalid, htext⟩
    exact ⟨(), hvalid, not_mem_nul_of_validateName hvalid, htext⟩

theorem renderField_eq_ok_iff : d.renderField name = .ok text ↔ d.validateName name = .ok () ∧
    (isReserved name = false ∧ text = name ∨
      isReserved name = true ∧ text = String.ofList (quoted d.engine.quoteMark name.toList)) := by
  have hwritten : (if isReserved name then d.quote name else pure name) = .ok text ↔
      isReserved name = false ∧ name = text ∨ isReserved name = true ∧ d.quote name = .ok text := by
    cases isReserved name <;> simp [pure_eq_ok]
  rw [renderField, bind_eq_ok]
  simp only [hwritten, quote_eq_ok]
  constructor
  · rintro ⟨_, hvalid, ⟨hreserved, rfl⟩ | ⟨hreserved, -, rfl⟩⟩
    · exact ⟨hvalid, .inl ⟨hreserved, rfl⟩⟩
    · exact ⟨hvalid, .inr ⟨hreserved, rfl⟩⟩
  · rintro ⟨hvalid, ⟨hreserved, rfl⟩ | ⟨hreserved, rfl⟩⟩
    · exact ⟨(), hvalid, .inl ⟨hreserved, rfl⟩⟩
    · exact ⟨(), hvalid, .inr ⟨hreserved, not_mem_nul_of_validateName hvalid, rfl⟩⟩

theorem exists_renderField (hplain : isPlain name.toList = true)
    (hlimit : Identifier.exceeds d.engine.maxIdentifierLength name.length = false) :
    ∃ column, d.renderField name = .ok column := by
  have hvalid : d.validateName name = .ok () :=
    Identifier.validate_eq_ok.2 ⟨hlimit, Identifier.matchesForm_of_isPlain hplain⟩
  cases hreserved : isReserved name with
  | false => exact ⟨_, renderField_eq_ok_iff.2 ⟨hvalid, .inl ⟨hreserved, rfl⟩⟩⟩
  | true => exact ⟨_, renderField_eq_ok_iff.2 ⟨hvalid, .inr ⟨hreserved, rfl⟩⟩⟩

theorem renderField_eq_ok {d : SqlDialect} {name column : String}
    (h : d.renderField name = .ok column) :
    matchesForm name.toList = true ∧
      (isReserved name = false ∧ column = name ∨
        isReserved name = true ∧ column = String.ofList (quoted d.engine.quoteMark name.toList)) := by
  obtain ⟨hvalid, hcolumn⟩ := renderField_eq_ok_iff.1 h
  exact ⟨(Identifier.validate_eq_ok.1 hvalid).2, hcolumn⟩

theorem toList_of_renderField {d : SqlDialect} {name column : String}
    (h : d.renderField name = .ok column) :
    ∃ c rest, column.toList = c :: rest ∧ (isStart c = true ∨ c = d.engine.quoteMark) ∧
      ∀ x ∈ column.toList, isPart x = true ∨ x = '\n' ∨ x = d.engine.quoteMark := by
  obtain ⟨hform, hcolumn⟩ := renderField_eq_ok h
  obtain ⟨c, rest, hcs, hc, hrest⟩ := Identifier.eq_cons_of_matchesForm hform
  have hname : ∀ x ∈ name.toList, isPart x = true ∨ x = '\n' ∨ x = d.engine.quoteMark := by
    intro x hx
    rcases List.mem_cons.1 (hcs ▸ hx) with rfl | hx
    · exact .inl (Identifier.isPart_of_isStart hc)
    · exact (hrest x hx).imp_right .inl
  rcases hcolumn with ⟨-, rfl⟩ | ⟨-, rfl⟩
  · exact ⟨c, rest, hcs, .inl hc, hname⟩
  · rw [String.toList_ofList]
    refine ⟨_, _, rfl, .inr rfl, fun x hx => ?_⟩
    rcases Identifier.mem_quoted hx with rfl | hx
    · exact .inr (.inr rfl)
    · exact hname x hx

end SqlDialect

end Polystore

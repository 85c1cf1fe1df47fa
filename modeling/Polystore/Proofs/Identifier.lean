import Polystore.Introspect
import Polystore.Proofs.Action
import Polystore.Proofs.Refusal
import Polystore.Proofs.Sql.Token

/-!
# Accepted names

A name is accepted if it is an identifier within the limit, and also if it is one with a line feed after it:
the end of a line counts as the end of the text. What is written for an accepted identifier is the name
itself, which is then no reserved word in any letter case, or its quoted form.

Main statement: `accepted_names`.
-/

namespace Polystore

namespace Identifier

variable {limit : Nat} {name : String}

/-- A name has at most so many characters; a limit of 0 is none. -/
def Within (limit : Nat) (name : String) : Prop :=
  limit = 0 ∨ name.length ≤ limit

/-- An identifier: a letter of ASCII or an underscore, then letters, digits and underscores. -/
structure IsName (limit : Nat) (name : String) : Prop where
  plain : isPlain name.toList = true
  within : Within limit name

/-- An identifier with a line feed after it. -/
structure EndsLine (limit : Nat) (name : String) : Prop where
  stem : ∃ stem, isPlain stem = true ∧ name.toList = stem ++ ['\n']
  within : Within limit name

theorem EndsLine.not_isName (h : EndsLine limit name) : ¬IsName limit name := by
  intro hname
  obtain ⟨stem, -, hstem⟩ := h.stem
  have hfeed : '\n' ∈ name.toList := by
    rw [hstem]
    exact List.mem_append_right _ (List.mem_singleton_self _)
  exact absurd (isPart_of_isPlain hname.plain _ hfeed) (by decide)

theorem exceeds_eq_false_iff : exceeds limit name.length = false ↔ Within limit name := by
  unfold exceeds Within
  rw [Bool.and_eq_false_iff, bne_eq_false_iff_eq, decide_eq_false_iff_not]
  omega

theorem isName_or_endsLine_iff : IsName limit name ∨ EndsLine limit name ↔
    Within limit name ∧ matchesForm name.toList = true := by
  rw [matchesForm_iff]
  constructor
  · rintro (⟨hplain, hwithin⟩ | ⟨hstem, hwithin⟩)
    · exact ⟨hwithin, .inl hplain⟩
    · exact ⟨hwithin, .inr hstem⟩
  · rintro ⟨hwithin, hplain | hstem⟩
    · exact .inl ⟨hplain, hwithin⟩
    · exact .inr ⟨hstem, hwithin⟩

theorem validate_eq_ok_iff : validate limit name = .ok () ↔ IsName limit name ∨ EndsLine limit name := by
  rw [validate_eq_ok, exceeds_eq_false_iff, isName_or_endsLine_iff]

theorem EndsLine.not_isReserved (h : EndsLine limit name) : isReserved name = false := by
  obtain ⟨stem, hplain, hstem⟩ := h.stem
  have hascii : ∀ c ∈ name.toList, c.toNat < 0x80 := by
    rw [hstem, List.forall_mem_append, List.forall_mem_singleton]
    exact ⟨fun c hc => isAscii_of_isPart (isPart_of_isPlain hplain c hc), by decide⟩
  have hfeed : '\n' ∈ (Text.lower name).toList := by
    rw [Text.lower_of_ascii name hascii, String.toList_ofList, hstem]
    exact List.mem_map.2 ⟨'\n', List.mem_append_right _ (List.mem_singleton_self _), rfl⟩
  have hwords : ∀ word ∈ reservedWords, '\n' ∉ word.toList := by decide
  rw [isReserved, Bool.eq_false_iff, ne_eq, List.contains_iff_mem]
  exact fun hmem => hwords _ hmem hfeed

end Identifier

open Identifier (IsName EndsLine reservedWords isReserved)

/-! ### Columns -/

/-- What is written for an accepted identifier: the name, which spells no reserved word in any letter case,
or the name between quote characters. -/
inductive SqlDialect.Renders (d : SqlDialect) (name text : String) : Prop where
  | unquoted (hname : IsName d.engine.maxIdentifierLength text) (htext : text = name)
      (hfree : ∀ word ∈ reservedWords, Sql.spells text.toList word = false) : d.Renders name text
  | quoted (htext : d.quote name = .ok text) : d.Renders name text

theorem SqlDialect.renders_iff {d : SqlDialect} {name text : String} (h : d.renderField name = .ok text) :
    d.Renders name text ↔ ¬EndsLine d.engine.maxIdentifierLength name := by
  obtain ⟨hvalid, hcolumn⟩ := renderField_eq_ok_iff.1 h
  rcases Identifier.validate_eq_ok_iff.1 hvalid with hname | hline
  · refine iff_of_true ?_ fun hline => hline.not_isName hname
    rcases hcolumn with ⟨hfree, rfl⟩ | ⟨-, rfl⟩
    · exact .unquoted hname rfl fun word hword => Sql.not_spells hname.plain hfree hword
    · exact .quoted (quote_eq_ok.2 ⟨not_mem_nul_of_validateName hvalid, rfl⟩)
  · refine iff_of_false ?_ (not_not_intro hline)
    obtain ⟨-, rfl⟩ := hcolumn.resolve_right fun hreserved =>
      absurd (hline.not_isReserved.symm.trans hreserved.1) Bool.false_ne_true
    rintro (⟨hname, -, -⟩ | htext)
    · exact hline.not_isName hname
    · -- The quoted form starts with a quote character, and the name with a letter or an underscore.
      have hquoted := congrArg String.toList (quote_eq_ok.1 htext).2
      obtain ⟨c, rest, hcs, hstart, -⟩ :=
        Identifier.eq_cons_of_matchesForm (Identifier.validate_eq_ok.1 hvalid).2
      rw [String.toList_ofList, hcs] at hquoted
      obtain ⟨rfl, -⟩ := List.cons.inj hquoted
      have hmark : Identifier.isStart d.engine.quoteMark = false := by cases d.engine <;> decide
      exact Bool.false_ne_true (hmark.symm.trans hstart)

/-! ### Catalogs -/

namespace Introspect

variable {σ : Type} {c : Connection σ} {name : String}

theorem sqlite_of_malformed (hform : Identifier.matchesForm name.toList = false) (s : Session σ) :
    (sqlite c name).runFrom s = (.error (.catalogName name), s) := by
  unfold sqlite
  simp only [hform, Bool.not_false, if_true]
  rfl

theorem sqlite_fails (hform : Identifier.matchesForm name.toList = true) :
    (sqlite c name).FailsOnly fun e => ∀ t, e ≠ .catalogName t := by
  have hcell : ∀ (row : Row) (position : Nat),
      FailsOnly (fun e => ∀ t, e ≠ .catalogName t) (cell row position) := by
    intro row position
    unfold cell
    split
    · exact .ok _
    · exact .error nofun
  have htext : ∀ (position : Nat) (row : Row),
      FailsOnly (fun e => ∀ t, e ≠ .catalogName t) (textCell position row) := fun position row =>
    (hcell row position).bind fun v _ => v.toText_fails.mono fun _ he => he.1 ▸ nofun
  have hcolumns : ∀ rows : List Row,
      FailsOnly (fun e => ∀ t, e ≠ .catalogName t) (rows.mapM pragmaColumn) := fun rows =>
    .mapM fun row _ => (htext 1 row).bind fun _ _ => (htext 2 row).bind fun _ _ =>
      (hcell row 3).bind fun _ _ => .ok _
  have hindexes : ∀ rows : List Row,
      FailsOnly (fun e => ∀ t, e ≠ .catalogName t) (indexNames 1 rows) := fun rows =>
    FailsOnly.bind (.mapM fun row _ => htext 1 row) fun _ _ => .ok _
  unfold sqlite
  simp only [hform, Bool.not_true, Bool.false_eq_true, if_false]
  refine Action.FailsOnly.bind (.mapError fun e t => nofun) fun rows => ?_
  split
  · exact .pure _
  · exact (Action.FailsOnly.lift (hcolumns _)).bind fun _ =>
      (Action.FailsOnly.lift (hindexes _)).bind fun _ => .pure _

theorem sqlite_accepts_iff (c : Connection σ) (name : String) (s : Session σ) :
    (∀ t, ((sqlite c name).runFrom s).1 ≠ .error (.catalogName t)) ↔
      IsName 0 name ∨ EndsLine 0 name := by
  rw [Identifier.isName_or_endsLine_iff, and_iff_right (.inl rfl)]
  constructor
  · intro haccepts
    by_contra hform
    refine haccepts name ?_
    rw [sqlite_of_malformed (Bool.eq_false_iff.2 hform)]
  · intro hform t hrefused
    exact sqlite_fails hform s _ hrefused t rfl

end Introspect

/-! ### All names -/

/-- A name is accepted exactly if it is an identifier within the limit or has a line feed after one, which
no identifier has. What is written for an accepted name is an identifier that is no reserved word, or its
quoted form, unless a line feed ends it. The catalog of SQLite accepts the same names without a limit. -/
theorem accepted_names (name : String) :
    (∀ limit : Nat, Identifier.validate limit name = .ok () ↔ IsName limit name ∨ EndsLine limit name) ∧
    (∀ (d : SqlDialect) text, d.renderField name = .ok text →
      (d.Renders name text ↔ ¬EndsLine d.engine.maxIdentifierLength name)) ∧
    (∀ (σ : Type) (c : Connection σ) s,
      (∀ t, ((Introspect.sqlite c name).runFrom s).1 ≠ .error (.catalogName t)) ↔
        IsName 0 name ∨ EndsLine 0 name) ∧
    ∀ limit, EndsLine limit name → ¬IsName limit name :=
  ⟨fun _ => Identifier.validate_eq_ok_iff, fun _ _ => SqlDialect.renders_iff,
    fun _ c s => Introspect.sqlite_accepts_iff c name s, fun _ hline => hline.not_isName⟩

/-- A reserved word with a line feed after it. -/
def feedOrder : String := "order\n"

theorem endsLine_feedOrder (limit : Nat) (h : limit = 0 ∨ 6 ≤ limit) : EndsLine limit feedOrder :=
  ⟨⟨"order".toList, by decide, by decide⟩, h⟩

theorem renderField_feedOrder : ({ engine := .sqlite } : SqlDialect).renderField feedOrder = .ok feedOrder :=
  rfl

/-- A reserved word is written in quotes, and with a line feed after it as it is. -/
theorem accepted_names_of_reserved :
    ({ engine := .sqlite } : SqlDialect).renderField "Order" = .ok "\"Order\"" ∧
    ({ engine := .sqlite } : SqlDialect).Renders "Order" "\"Order\"" ∧
    EndsLine 0 feedOrder ∧ ¬IsName 0 feedOrder ∧
    ({ engine := .sqlite } : SqlDialect).renderField feedOrder = .ok feedOrder ∧
    ¬({ engine := .sqlite } : SqlDialect).Renders feedOrder feedOrder := by
  have hquoted : ({ engine := .sqlite } : SqlDialect).renderField "Order" = .ok "\"Order\"" := rfl
  have hclean : ¬EndsLine 0 "Order" := fun h => h.not_isName ⟨by decide, .inl rfl⟩
  have hline := endsLine_feedOrder 0 (.inl rfl)
  obtain ⟨-, hrenders, -, hnot⟩ := accepted_names feedOrder
  exact ⟨hquoted, ((accepted_names "Order").2.1 _ _ hquoted).2 hclean, hline, hnot 0 hline,
    renderField_feedOrder, fun h => (hrenders _ _ renderField_feedOrder).1 h hline⟩

/-- Not every accepted name is an identifier, nor is every column written as one or in quotes. -/
theorem not_accepted_names_of_feed :
    (¬∀ (limit : Nat) (name : String), Identifier.validate limit name = .ok () ↔ IsName limit name) ∧
    ¬∀ (d : SqlDialect) name text, d.renderField name = .ok text → d.Renders name text := by
  have hline := endsLine_feedOrder 63 (.inr (by decide))
  refine ⟨fun h => ?_, fun h => ?_⟩
  · exact hline.not_isName ((h 63 feedOrder).1 (Identifier.validate_eq_ok_iff.2 (.inr hline)))
  · have hrenders := h { engine := .sqlite } feedOrder feedOrder renderField_feedOrder
    exact (SqlDialect.renders_iff renderField_feedOrder).1 hrenders (endsLine_feedOrder 0 (.inl rfl))

end Polystore

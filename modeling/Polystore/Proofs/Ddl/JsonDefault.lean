import Polystore.Change
import Polystore.Proofs.Default.Escape
import Polystore.Proofs.Default.Special

/-!
# Defaults of JSON columns

A column of structured, array or mixed values holds JSON on PostgreSQL and MySQL. How its default is written
depends on the default alone: a sequence or a mapping is written as JSON, with the cast or the parentheses
that the column needs, and anything else as it would be for a column of its own kind.

Main statements: `isJsonDefault_columnDefinition_iff` says which defaults suit such a column, and
`not_isJsonDefault_columnDefinition_of_scalar` shows a number and a text that do not.
-/

namespace Polystore.Ddl

open DefaultLiteral (IsLiteralOf inJson quoted jsonLiteral)
open Identifier (unquote)
open Json (AllShown HoldsSpecial IsText)

/-- The values of a field are kept as JSON. -/
def keepsJson : FieldType → Bool
  | .structured | .array | .mixed => true
  | _ => false

/-- A text is one string literal of a content, as a column of JSON takes it: with a cast on PostgreSQL, and
between parentheses on MySQL. SQLite has no such columns. -/
def IsJsonLiteral (engine : Engine) (text content : List Char) : Prop :=
  match engine with
  | .postgresql => unquote '\'' text = some (content, "::jsonb".toList)
  | .mysql => IsLiteralOf true text content
  | .sqlite => False

/-- A literal gives a column of JSON a value: it is a literal of the value's encoding, and that is a JSON
text. -/
def IsJsonDefault (engine : Engine) (v : Value) (literal : String) : Prop :=
  ∃ json, v.json = .ok json ∧ IsText json ∧ IsJsonLiteral engine literal.toList json

/-! ### Sequences and mappings -/

theorem isJsonLiteral_jsonLiteral_iff {engine : Engine} (hengine : engine ≠ .sqlite) {v : Value}
    {json : List Char} (h : v.json = .ok json) :
    IsJsonLiteral engine (jsonLiteral engine.defaultStyle json).toList json ↔
      (engine = .mysql → AllShown v) := by
  cases engine with
  | postgresql =>
    have htext : (jsonLiteral Engine.postgresql.defaultStyle json).toList =
        quoted json ++ "::jsonb".toList := by
      have hbody : jsonLiteral Engine.postgresql.defaultStyle json =
          String.ofList (quoted json) ++ "::jsonb" := rfl
      rw [hbody, String.toList_append, String.toList_ofList]
    refine iff_of_true ?_ fun heq => nomatch heq
    rw [IsJsonLiteral, htext]
    exact Identifier.unquote_quoted '\'' json _ (by decide)
  | mysql =>
    refine (Json.isLiteralOf_jsonLiteral_iff h).trans ?_
    exact ⟨fun hshown _ => hshown, fun hshown => hshown rfl⟩
  | sqlite => exact absurd rfl hengine

theorem isJsonDefault_of_json_iff {engine : Engine} (hengine : engine ≠ .sqlite) {v : Value}
    {json : List Char} (h : v.json = .ok json) :
    IsJsonDefault engine v (jsonLiteral engine.defaultStyle json) ↔
      ¬HoldsSpecial v ∧ (engine = .mysql → AllShown v) := by
  rw [← Json.isText_json_iff h, ← isJsonLiteral_jsonLiteral_iff hengine h]
  constructor
  · rintro ⟨json', h', htext, hliteral⟩
    obtain rfl := Except.ok.inj (h.symm.trans h')
    exact ⟨htext, hliteral⟩
  · exact fun hjson => ⟨json, h, hjson⟩

/-! ### Other defaults -/

theorem exists_opening {engine : Engine} {text content : List Char}
    (h : IsJsonLiteral engine text content) : '\'' ∈ text ∨ '(' ∈ text := by
  cases engine with
  | postgresql =>
    cases text with
    | nil => exact nomatch h
    | cons c cs =>
      rw [IsJsonLiteral, unquote] at h
      split_ifs at h with hc
      exact .inl (hc ▸ List.mem_cons_self ..)
  | mysql =>
    obtain ⟨body, rfl, -⟩ := h
    exact .inr (List.mem_cons_self ..)
  | sqlite => exact h.elim

theorem not_isJsonLiteral_numeral {cs : List Char} (h : Numeral.IsNumeral cs) (engine : Engine)
    (content : List Char) : ¬IsJsonLiteral engine cs content := by
  intro hliteral
  rcases exists_opening hliteral with hmem | hmem
  all_goals exact absurd (h.chars _ hmem) (by decide)

theorem not_isJsonLiteral_quoted (engine : Engine) (cs content : List Char) :
    ¬IsJsonLiteral engine (quoted cs) content := by
  intro h
  cases engine with
  | postgresql =>
    have hread := Identifier.unquote_quoted '\'' cs [] (by decide)
    rw [List.append_nil] at hread
    have hrest := (Prod.mk.inj (Option.some.inj (hread.symm.trans h))).2
    exact absurd hrest (by decide)
  | mysql =>
    obtain ⟨body, hbody, -⟩ := h
    exact absurd (List.cons.inj hbody).1 (by decide)
  | sqlite => exact h

theorem not_isJsonLiteral_of_render {engine : Engine} {v : Value} (hv : inJson v = false)
    (hjson : ∃ json, v.json = .ok json) {literal : String}
    (h : DefaultLiteral.render engine.defaultStyle v = .ok literal) (content : List Char) :
    ¬IsJsonLiteral engine literal.toList content := by
  have hbare : '\'' ∉ literal.toList → '(' ∉ literal.toList →
      ¬IsJsonLiteral engine literal.toList content :=
    fun hquote hparenthesis hliteral => (exists_opening hliteral).elim hquote hparenthesis
  cases v with
  | null =>
    cases h
    exact hbare (by decide) (by decide)
  | bool b =>
    cases h
    exact hbare (by cases b <;> cases engine <;> decide) (by cases b <;> cases engine <;> decide)
  | int n =>
    obtain ⟨-, rfl⟩ := Value.toText_eq_ok.1 h
    exact not_isJsonLiteral_numeral (Numeral.isJsonNumber_int n).isNumeral engine content
  | float x =>
    rw [DefaultLiteral.render_float] at h
    split_ifs at h with hx
    cases h
    exact not_isJsonLiteral_numeral (Numeral.isJsonNumber_float hx).isNumeral engine content
  | str s =>
    cases h
    rw [String.toList_ofList]
    exact not_isJsonLiteral_quoted engine _ content
  | fieldType t =>
    cases h
    rw [String.toList_ofList]
    exact not_isJsonLiteral_quoted engine _ content
  | list | tuple | map => exact absurd hv Bool.noConfusion
  | _ =>
    obtain ⟨json, hjson⟩ := hjson
    exact absurd hjson throw_ne_ok

theorem isJsonDefault_render_iff {engine : Engine} (hengine : engine ≠ .sqlite) {v : Value}
    {literal : String} (h : DefaultLiteral.render engine.defaultStyle v = .ok literal) :
    IsJsonDefault engine v literal ↔
      inJson v = true ∧ ¬HoldsSpecial v ∧ (engine = .mysql → AllShown v) := by
  cases hv : inJson v with
  | false =>
    refine iff_of_false ?_ fun hsuits => Bool.false_ne_true hsuits.1
    rintro ⟨json, hjson, -, hliteral⟩
    exact not_isJsonLiteral_of_render hv ⟨json, hjson⟩ h json hliteral
  | true =>
    cases hjson : v.json with
    | error f => exact nomatch (DefaultLiteral.render_of_json_error hv hjson _).symm.trans h
    | ok json =>
      cases (DefaultLiteral.render_of_json hv hjson _).symm.trans h
      rw [isJsonDefault_of_json_iff hengine hjson]
      exact (and_iff_right rfl).symm

/-! ### Columns -/

theorem columnType_of_keepsJson {t : FieldType} (h : keepsJson t = true) (engine : Engine) :
    t.columnType engine = FieldType.columnType.jsonType engine := by
  cases t with
  | structured | array | mixed => rfl
  | _ => exact absurd h Bool.false_ne_true

/-- The definition of a column of structured, array or mixed values with a default gives the column JSON
exactly if the default is a sequence or a mapping, it holds no number that is not finite, and, on MySQL, its
texts need no escapes in JSON. -/
theorem isJsonDefault_columnDefinition_iff {d : SqlDialect} (hengine : d.engine ≠ .sqlite)
    {name : String} {f : Field} {adding : Bool} {v : Value} {text : String}
    (htype : keepsJson f.type = true) (hdefault : f.default.literal? = some v)
    (h : columnDefinition d name f adding = .ok text) :
    ∃ column literal, d.renderField name = .ok column ∧
      text = column ++ " " ++ FieldType.columnType.jsonType d.engine ++
        (if f.required.truthy && !(adding && f.lacksValue) then " NOT NULL" else "") ++
        (" DEFAULT " ++ literal) ∧
      (IsJsonDefault d.engine v literal ↔
        inJson v = true ∧ ¬HoldsSpecial v ∧ (d.engine = .mysql → AllShown v)) := by
  obtain ⟨column, hcolumn, h⟩ := bind_eq_ok.1 h
  obtain ⟨default, hclause, h⟩ := bind_eq_ok.1 h
  rw [defaultClause, hdefault] at hclause
  obtain ⟨literal, hliteral, rfl⟩ := map_eq_ok.1 hclause
  refine ⟨column, literal, hcolumn, ?_, isJsonDefault_render_iff hengine hliteral⟩
  rw [← pure_eq_ok.1 h, columnType_of_keepsJson htype]

/-- A list of a number and a text suits a column of JSON on MySQL, with a quote in the text. -/
theorem isJsonDefault_columnDefinition_iff_of_list :
    columnDefinition { engine := .mysql } "tags"
      { type := .array, required := .bool true, default := .given (.list [.int 1, .str "it's"]) } false =
        .ok "tags JSON NOT NULL DEFAULT ('[1,\"it''s\"]')" ∧
    ∃ column literal, SqlDialect.renderField { engine := .mysql } "tags" = .ok column ∧
      "tags JSON NOT NULL DEFAULT ('[1,\"it''s\"]')" =
        column ++ " " ++ FieldType.columnType.jsonType .mysql ++ " NOT NULL" ++ (" DEFAULT " ++ literal) ∧
      IsJsonDefault .mysql (.list [.int 1, .str "it's"]) literal := by
  have h : columnDefinition { engine := .mysql } "tags"
      { type := .array, required := .bool true, default := .given (.list [.int 1, .str "it's"]) } false =
        .ok "tags JSON NOT NULL DEFAULT ('[1,\"it''s\"]')" := by rfl
  have hspecial : ¬HoldsSpecial (.list [.int 1, .str "it's"]) := by
    rw [Json.holdsSpecial_list]
    rintro ⟨y, hy, x, -, hoccurs⟩
    simp only [List.mem_cons, List.not_mem_nil, or_false] at hy
    rcases hy with rfl | rfl <;> cases hoccurs
  have hshown : AllShown (.list [.int 1, .str "it's"]) := by
    rw [Json.allShown_list, List.forall_mem_cons, List.forall_mem_singleton]
    exact ⟨by rintro s inKey ⟨⟩, Json.allShown_str.2 (by decide)⟩
  obtain ⟨column, literal, hcolumn, htext, hiff⟩ :=
    isJsonDefault_columnDefinition_iff (by decide) rfl rfl h
  exact ⟨h, column, literal, hcolumn, htext, hiff.2 ⟨rfl, hspecial, fun _ => hshown⟩⟩

/-- The number 5 is written without a cast, and a text without parentheses and without the quotes of JSON. -/
theorem not_isJsonDefault_columnDefinition_of_scalar :
    (columnDefinition { engine := .postgresql } "a" { type := .mixed, default := .given (.int 5) } false =
        .ok "a JSONB DEFAULT 5" ∧
      ¬IsJsonDefault .postgresql (.int 5) "5") ∧
    columnDefinition { engine := .mysql } "a" { type := .mixed, default := .given (.str "x") } false =
        .ok "a JSON DEFAULT 'x'" ∧
      ¬IsJsonDefault .mysql (.str "x") "'x'" := by
  refine ⟨⟨by rfl, fun h => ?_⟩, by rfl, fun h => ?_⟩
  · exact Bool.false_ne_true ((isJsonDefault_render_iff (by decide) rfl).1 h).1
  · exact Bool.false_ne_true ((isJsonDefault_render_iff (by decide) rfl).1 h).1

end Polystore.Ddl

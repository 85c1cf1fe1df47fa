import Polystore.Proofs.Default.Backslash
import Polystore.Proofs.Default.Json

/-!
# Special numbers in default literals

A default that is a number has a numeral of SQL as its literal, and one that is a sequence or a mapping
has JSON in quotes, unless a number in it is not finite. Only a floating-point number that is the default
itself is refused for that: a decimal that is the default, and floating-point numbers in sequences and
mappings, are written by their names. A whole number of too many digits is refused wherever it stands, and
not as a default that makes no schema.

Main statements: `render_standard_iff` says which of these defaults are refused, and which literals are
what they should be; `not_render_standard` shows a decimal and a list that are written by name.
-/

namespace Polystore.DefaultLiteral

open Json (Occurs AllWritable Discerns HoldsSpecial IsText discerns_json exists_json_iff isText_json_iff
  isWritable)
open Numeral (IsNumeral)

/-- A number that is not finite. -/
inductive IsSpecial : Value → Prop where
  | float {x : Binary64} (h : x.isFinite = false) : IsSpecial (.float x)
  | decimal {d : Decimal} (h : d.isFinite = false) : IsSpecial (.decimal d)

/-- A number, or what may hold numbers. -/
def isNumeric : Value → Bool
  | .int _ | .float _ | .decimal _ => true
  | v => inJson v

/-- A special number is a value or stands in it, and not in a key. -/
def ContainsSpecial (v : Value) : Prop :=
  ∃ x, IsSpecial x ∧ Occurs x false v

/-- The literal of a sequence or a mapping holds a JSON text, and that of a number is a numeral. -/
def IsStandard (style : DefaultStyle) (v : Value) (literal : String) : Prop :=
  if inJson v then ∃ json, literal = jsonLiteral style json ∧ IsText json
  else IsNumeral literal.toList

/-- What a default is refused for that is a number or may hold numbers. -/
inductive IsRefused : Value → Prop where
  | float {x : Binary64} (h : x.isFinite = false) : IsRefused (.float x)
  | int {n : Int} (h : Text.isWritable n = false) : IsRefused (.int n)
  | unwritable {v x : Value} {inKey : Bool} (hv : inJson v = true) (hx : Occurs x inKey v)
      (h : isWritable inKey x = false) : IsRefused v

/-! ### Literals in JSON -/

theorem quoted_injective : Function.Injective quoted := by
  intro cs ds h
  have hread : ∀ cs, Identifier.unquote '\'' (quoted cs) = some (cs, []) := by
    intro cs
    have hcs := Identifier.unquote_quoted '\'' cs [] (by decide)
    rwa [List.append_nil] at hcs
  have hpair := (hread cs).symm.trans ((congrArg _ h).trans (hread ds))
  exact (Prod.mk.inj (Option.some.inj hpair)).1

theorem jsonLiteral_injective (style : DefaultStyle) : Function.Injective (jsonLiteral style) := by
  intro cs ds h
  have hbody :
      String.ofList (quoted cs) ++ style.jsonCast = String.ofList (quoted ds) ++ style.jsonCast := by
    unfold jsonLiteral at h
    dsimp only at h
    split_ifs at h
    · exact (String.append_right_inj _).1 ((String.append_left_inj _).1 h)
    · exact h
  exact quoted_injective (String.ofList_injective ((String.append_left_inj _).1 hbody))

theorem isStandard_jsonLiteral_iff {style : DefaultStyle} {v : Value} {json : List Char}
    (hv : inJson v = true) : IsStandard style v (jsonLiteral style json) ↔ IsText json := by
  rw [IsStandard, if_pos hv]
  constructor
  · rintro ⟨_, heq, htext⟩
    rwa [jsonLiteral_injective style heq]
  · exact fun htext => ⟨json, rfl, htext⟩

theorem render_of_json_error {v : Value} {f : Fault} (hv : inJson v = true) (h : v.json = .error f)
    (style : DefaultStyle) :
    render style v = .error (.showing [v] (.schema (.notEncodable v f))) := by
  have hdiscerns : f.family = .wrongType ∨ f = .tooManyDigits none ∧ v.isShowable = false := by
    have := discerns_json v
    rwa [h] at this
  have hencoded : encoded style v = .error (.showing [v] (.schema (.notEncodable v f))) := by
    rw [encoded, h]
    rcases hdiscerns with hfamily | ⟨rfl, hlong⟩
    · exact if_pos hfamily
    · rw [Error.showing_of_not_isShowable (List.mem_singleton.2 rfl) hlong]
      rfl
  cases v with
  | list => exact hencoded
  | tuple => exact hencoded
  | map => exact hencoded
  | _ => exact absurd hv Bool.false_ne_true

theorem isShowable_of_allWritable {v : Value} (h : AllWritable v) : v.isShowable = true := by
  obtain ⟨json, hjson⟩ := (exists_json_iff v).2 h
  have hdiscerns := discerns_json v
  rwa [hjson] at hdiscerns

theorem containsSpecial_iff {v : Value} (h : AllWritable v) : ContainsSpecial v ↔ HoldsSpecial v := by
  constructor
  · rintro ⟨_, hspecial, hoccurs⟩
    cases hspecial with
    | float hx => exact ⟨_, hx, hoccurs⟩
    | decimal => exact absurd (h _ _ hoccurs) Bool.false_ne_true
  · rintro ⟨x, hx, hoccurs⟩
    exact ⟨_, .float hx, hoccurs⟩

theorem isRefused_iff {v : Value} (hv : inJson v = true) : IsRefused v ↔ ¬AllWritable v := by
  constructor
  · intro h hall
    cases h with
    | float => exact Bool.noConfusion hv
    | int => exact Bool.noConfusion hv
    | unwritable _ hx h => exact Bool.noConfusion (h.symm.trans (hall _ _ hx))
  · intro h
    simp only [AllWritable, not_forall, Bool.not_eq_true] at h
    obtain ⟨x, inKey, hx, h⟩ := h
    exact .unwritable hv hx h

/-! ### Defaults -/

theorem cases_of_isNumeric {v : Value} (hv : isNumeric v = true) :
    (∃ n, v = .int n) ∨ (∃ d, v = .decimal d) ∨ (∃ x, v = .float x) ∨ inJson v = true := by
  cases v with
  | int n => exact .inl ⟨n, rfl⟩
  | decimal d => exact .inr (.inl ⟨d, rfl⟩)
  | float x => exact .inr (.inr (.inl ⟨x, rfl⟩))
  | _ => exact .inr (.inr (.inr hv))

theorem render_float (style : DefaultStyle) (x : Binary64) :
    render style (.float x) =
      if x.isFinite then .ok x.text else .error (.schema (.nonFiniteDefault (.float x))) :=
  rfl

theorem render_int (style : DefaultStyle) (n : Int) :
    render style (.int n) =
      if Text.isWritable n then .ok (toString n) else .error (.fault (.tooManyDigits none)) :=
  rfl

theorem isRefused_int_iff {n : Int} : IsRefused (.int n) ↔ Text.isWritable n = false := by
  constructor
  · intro h
    cases h with
    | int h => exact h
    | unwritable hv => exact absurd hv Bool.false_ne_true
  · exact .int

theorem isRefused_float_iff {x : Binary64} : IsRefused (.float x) ↔ x.isFinite = false := by
  constructor
  · intro h
    cases h with
    | float h => exact h
    | unwritable hv => exact absurd hv Bool.false_ne_true
  · exact .float

theorem containsSpecial_float_iff {x : Binary64} : ContainsSpecial (.float x) ↔ x.isFinite = false := by
  constructor
  · rintro ⟨_, hspecial, ⟨⟩⟩
    cases hspecial with
    | float h => exact h
  · exact fun h => ⟨_, .float h, .here⟩

theorem containsSpecial_decimal_iff {d : Decimal} :
    ContainsSpecial (.decimal d) ↔ d.isFinite = false := by
  constructor
  · rintro ⟨_, hspecial, ⟨⟩⟩
    cases hspecial with
    | decimal h => exact h
  · exact fun h => ⟨_, .decimal h, .here⟩

theorem not_containsSpecial_int (n : Int) : ¬ContainsSpecial (.int n) := by
  rintro ⟨_, hspecial, ⟨⟩⟩
  cases hspecial

theorem isRefused_iff_exists_error (style : DefaultStyle) {v : Value} (hv : isNumeric v = true) :
    (∃ e, render style v = .error e) ↔ IsRefused v := by
  obtain ⟨n, rfl⟩ | ⟨d, rfl⟩ | ⟨x, rfl⟩ | hjson := cases_of_isNumeric hv
  · rw [isRefused_int_iff, render_int]
    cases Text.isWritable n <;> simp
  · refine iff_of_false (fun ⟨_, h⟩ => nomatch h) fun h => ?_
    cases h with
    | unwritable hv => exact absurd hv Bool.false_ne_true
  · rw [isRefused_float_iff, render_float]
    cases x.isFinite <;> simp
  · rw [isRefused_iff hjson, ← exists_json_iff]
    cases h : v.json with
    | ok json => simp [render_of_json hjson h]
    | error f => simp [render_of_json_error hjson h]

theorem kind?_of_render_error {style : DefaultStyle} {v : Value} (hv : isNumeric v = true)
    (hshown : v.isShowable = true) {e : Error} (h : render style v = .error e) :
    e.kind? = some .invalidSchema := by
  obtain ⟨n, rfl⟩ | ⟨d, rfl⟩ | ⟨x, rfl⟩ | hjson := cases_of_isNumeric hv
  · exact nomatch (if_pos hshown : render style (.int n) = .ok (toString n)).symm.trans h
  · exact nomatch h
  · rw [render_float] at h
    split_ifs at h
    cases h
    rfl
  · cases hv : v.json with
    | ok json => exact nomatch (render_of_json hjson hv style).symm.trans h
    | error f =>
      have hrefused := (render_of_json_error hjson hv style).symm.trans h
      rw [Error.showing_of_isShowable (by simpa using hshown)] at hrefused
      cases hrefused
      rfl

/-- A default with a whole number of too many digits is refused for that, whatever else is wrong. -/
theorem render_of_not_isShowable (style : DefaultStyle) {v : Value} (hv : isNumeric v = true)
    (hlong : v.isShowable = false) : render style v = .error (.fault (.tooManyDigits none)) := by
  obtain ⟨n, rfl⟩ | ⟨d, rfl⟩ | ⟨x, rfl⟩ | hjson := cases_of_isNumeric hv
  · rw [render_int, if_neg (Bool.not_eq_true _ ▸ hlong)]
  · cases hlong
  · cases hlong
  · cases hv : v.json with
    | ok json =>
      have hshown := isShowable_of_allWritable ((exists_json_iff v).1 ⟨json, hv⟩)
      exact absurd (hshown.symm.trans hlong) Bool.noConfusion
    | error f =>
      rw [render_of_json_error hjson hv,
        Error.showing_of_not_isShowable (List.mem_singleton.2 rfl) hlong]

theorem isStandard_iff {style : DefaultStyle} {v : Value} (hv : isNumeric v = true) {literal : String}
    (h : render style v = .ok literal) : IsStandard style v literal ↔ ¬ContainsSpecial v := by
  obtain ⟨n, rfl⟩ | ⟨d, rfl⟩ | ⟨x, rfl⟩ | hjson := cases_of_isNumeric hv
  · rw [render_int] at h
    split_ifs at h
    cases h
    exact iff_of_true (Numeral.isJsonNumber_int n).isNumeral (not_containsSpecial_int n)
  · cases h
    rw [containsSpecial_decimal_iff, Bool.not_eq_false]
    exact Numeral.isNumeral_decimal_iff d
  · rw [render_float] at h
    split_ifs at h with hx
    cases h
    rw [containsSpecial_float_iff, Bool.not_eq_false]
    exact iff_of_true (Numeral.isJsonNumber_float hx).isNumeral hx
  · cases hencoded : v.json with
    | error f => exact nomatch (render_of_json_error hjson hencoded style).symm.trans h
    | ok json =>
      cases (render_of_json hjson hencoded style).symm.trans h
      rw [isStandard_jsonLiteral_iff hjson, isText_json_iff hencoded,
        containsSpecial_iff ((exists_json_iff v).1 ⟨json, hencoded⟩)]

/-- A number, a sequence or a mapping is refused as a default exactly if it is a floating-point number
that is not finite or a whole number of too many digits, or holds what JSON cannot write, decimals among
it. A whole number of too many digits, alone or anywhere inside, is what a default with one is refused
for; any other refused default makes no schema. What is not refused has the literal that it should have
exactly if it contains no special number. -/
theorem render_standard_iff (style : DefaultStyle) {v : Value} (hv : isNumeric v = true) :
    ((∃ e, render style v = .error e) ↔ IsRefused v) ∧
    (v.isShowable = false → render style v = .error (.fault (.tooManyDigits none))) ∧
    (v.isShowable = true → ∀ e, render style v = .error e → e.kind? = some .invalidSchema) ∧
    ∀ literal, render style v = .ok literal → (IsStandard style v literal ↔ ¬ContainsSpecial v) :=
  ⟨isRefused_iff_exists_error style hv, render_of_not_isShowable style hv,
    fun hshown _ => kind?_of_render_error hv hshown, fun _ => isStandard_iff hv⟩

/-- In a key, the name of a special number is a text. -/
theorem render_standard_iff_key :
    isNumeric (.map [(.float .nan, .int 1)]) = true ∧
    render Engine.sqlite.defaultStyle (.map [(.float .nan, .int 1)]) = .ok "'\x7b\"NaN\":1\x7d'" ∧
    ((∃ e, render Engine.sqlite.defaultStyle (.map [(.float .nan, .int 1)]) = .error e) ↔
      IsRefused (.map [(.float .nan, .int 1)])) ∧
    (Value.map [(.float .nan, .int 1)]).isShowable = true ∧
    (∀ e, render Engine.sqlite.defaultStyle (.map [(.float .nan, .int 1)]) = .error e →
      e.kind? = some .invalidSchema) ∧
    ∀ literal, render Engine.sqlite.defaultStyle (.map [(.float .nan, .int 1)]) = .ok literal →
      (IsStandard Engine.sqlite.defaultStyle (.map [(.float .nan, .int 1)]) literal ↔
        ¬ContainsSpecial (.map [(.float .nan, .int 1)])) := by
  obtain ⟨hrefused, -, hkind, hstandard⟩ :=
    render_standard_iff Engine.sqlite.defaultStyle (v := .map [(.float .nan, .int 1)]) rfl
  exact ⟨rfl, rfl, hrefused, rfl, hkind rfl, hstandard⟩

/-- A not-a-number is written by its name if it is a decimal, or a floating-point number in a list. -/
theorem not_render_standard :
    (ContainsSpecial (.decimal (.nan false false 0)) ∧
      render Engine.sqlite.defaultStyle (.decimal (.nan false false 0)) = .ok "NaN" ∧
      ¬IsStandard Engine.sqlite.defaultStyle (.decimal (.nan false false 0)) "NaN") ∧
    ContainsSpecial (.list [.float .nan]) ∧
      render Engine.sqlite.defaultStyle (.list [.float .nan]) = .ok "'[NaN]'" ∧
      ¬IsStandard Engine.sqlite.defaultStyle (.list [.float .nan]) "'[NaN]'" := by
  have hdecimal : ContainsSpecial (.decimal (.nan false false 0)) := containsSpecial_decimal_iff.2 rfl
  have hlist : ContainsSpecial (.list [.float .nan]) :=
    ⟨_, .float rfl, .list (List.mem_singleton.2 rfl) .here⟩
  refine ⟨⟨hdecimal, rfl, fun h => ?_⟩, hlist, rfl, fun h => ?_⟩
  · exact (isStandard_iff rfl rfl).1 h hdecimal
  · exact (isStandard_iff rfl rfl).1 h hlist

end Polystore.DefaultLiteral

import Polystore.Proofs.Default.Backslash
import Polystore.Proofs.Default.Json

/-!
# Backslashes in JSON encodings

An encoding has backslashes in its strings only, where they escape what a string cannot show, and no
wildcard of patterns is escaped. So MySQL, which takes the backslashes of a literal for escapes of its own,
reads an encoding back exactly if it has none.

Main statements: `onlyBeforeWildcards_json_iff` says this of the value that is encoded, and
`isLiteralOf_jsonLiteral_iff` of the literal.
-/

namespace Polystore.Json

open DefaultLiteral (IsLiteralOf OnlyBeforeWildcards)

/-- A character that a string shows as it is: printable, of ASCII, and neither a quote nor a backslash. -/
def isShown (c : Char) : Bool :=
  decide (0x20 ≤ c.toNat) && decide (c.toNat ≤ 0x7e) && c != '"' && c != '\\'

/-- All characters of a text are shown as they are. -/
def Shown (cs : List Char) : Prop :=
  ∀ c ∈ cs, isShown c = true

instance (cs : List Char) : Decidable (Shown cs) :=
  decidable_of_iff (cs.all isShown = true) List.all_eq_true

/-- The texts in a value, those in keys among them, are shown as they are. -/
def AllShown (v : Value) : Prop :=
  ∀ s inKey, Occurs (.str s) inKey v → Shown s.toList

/-- Some backslash of a text stands in front of a character that is no wildcard of patterns. -/
def Breaks (cs : List Char) : Prop :=
  ∃ before d after, cs = before ++ '\\' :: d :: after ∧ d ≠ '%' ∧ d ≠ '_'

/-- A text that has no backslash if a statement holds, and otherwise has one that MySQL does not keep. -/
structure Escapes (cs : List Char) (shown : Prop) : Prop where
  absent : shown → '\\' ∉ cs
  breaks : ¬shown → Breaks cs

section Escapes

variable {cs ds : List Char} {items : List (List Char)} {shown other : Prop}

theorem Breaks.append_left (h : Breaks cs) : Breaks (cs ++ ds) := by
  obtain ⟨before, d, after, rfl, hd⟩ := h
  exact ⟨before, d, after ++ ds, by simp, hd⟩

theorem Breaks.append_right (h : Breaks ds) : Breaks (cs ++ ds) := by
  obtain ⟨before, d, after, rfl, hd⟩ := h
  exact ⟨cs ++ before, d, after, by simp, hd⟩

theorem Escapes.congr (h : Escapes cs shown) (hiff : shown ↔ other) : Escapes cs other :=
  ⟨fun hother => h.absent (hiff.2 hother), fun hother => h.breaks (mt hiff.1 hother)⟩

theorem Escapes.append (h : Escapes cs shown) (h' : Escapes ds other) :
    Escapes (cs ++ ds) (shown ∧ other) := by
  constructor
  · rintro ⟨hshown, hother⟩
    rw [List.mem_append, not_or]
    exact ⟨h.absent hshown, h'.absent hother⟩
  · intro hnot
    by_cases hshown : shown
    · exact (h'.breaks fun hother => hnot ⟨hshown, hother⟩).append_right
    · exact (h.breaks hshown).append_left

theorem escapes_plain (h : '\\' ∉ cs) : Escapes cs True :=
  ⟨fun _ => h, fun hnot => absurd trivial hnot⟩

theorem Escapes.bracketed {left right : Char} (h : Escapes cs shown) (hleft : '\\' ≠ left)
    (hright : '\\' ≠ right) : Escapes (left :: (cs ++ [right])) shown := by
  have hbefore : Escapes [left] True := escapes_plain (by simpa using hleft)
  have hafter : Escapes [right] True := escapes_plain (by simpa using hright)
  exact ((hbefore.append h).append hafter).congr (by simp)

theorem escapes_intercalate {α : Type} {shows : α → Prop} {xs : List α}
    (h : List.Forall₂ (fun item x => Escapes item (shows x)) items xs) :
    Escapes ([','].intercalate items) (∀ x ∈ xs, shows x) := by
  induction h with
  | nil => exact (escapes_plain List.not_mem_nil).congr (by simp)
  | cons hitem hrest ih =>
    cases hrest with
    | nil =>
      rw [List.intercalate_singleton]
      exact hitem.congr (by simp)
    | cons _ _ =>
      rw [List.intercalate_cons_cons]
      refine ((hitem.append (escapes_plain (by decide))).append ih).congr ?_
      rw [and_true, ← List.forall_mem_cons]

theorem Escapes.onlyBeforeWildcards_iff (h : Escapes cs shown) : OnlyBeforeWildcards cs ↔ shown := by
  constructor
  · intro honly
    by_contra hshown
    obtain ⟨before, d, after, hcs, hpercent, hunderscore⟩ := h.breaks hshown
    rcases honly before (d :: after) hcs with hd | hd
    · exact hpercent (Option.some.inj hd)
    · exact hunderscore (Option.some.inj hd)
  · intro hshown before after hcs
    refine absurd ?_ (h.absent hshown)
    rw [hcs]
    exact List.mem_append_right before (List.mem_cons_self ..)

end Escapes

/-! ### Strings and numbers -/

theorem breaks_escape {d : Char} (hpercent : d ≠ '%') (hunderscore : d ≠ '_') (cs : List Char) :
    Breaks ('\\' :: d :: cs) :=
  ⟨[], d, cs, rfl, hpercent, hunderscore⟩

theorem utf16Units_ne_nil (c : Char) : Text.utf16Units c ≠ [] := by
  unfold Text.utf16Units
  split_ifs <;> exact List.cons_ne_nil _ _

theorem breaks_units {us : List Nat} (h : us ≠ []) :
    Breaks (us.flatMap fun u => '\\' :: 'u' :: Text.hexDigits 4 u) := by
  obtain ⟨u, us, rfl⟩ := List.exists_cons_of_ne_nil h
  rw [List.flatMap_cons]
  exact (breaks_escape (by decide) (by decide) _).append_left

theorem escapes_jsonChar (c : Char) : Escapes (Text.jsonChar c) (isShown c = true) := by
  have hescaped : ∀ {d : Char}, d ≠ '%' → d ≠ '_' → ¬isShown c = true →
      Escapes ['\\', d] (isShown c = true) :=
    fun hpercent hunderscore hnot =>
      ⟨fun hshown => absurd hshown hnot, fun _ => breaks_escape hpercent hunderscore []⟩
  unfold Text.jsonChar
  split_ifs with hquoted hn hr ht hb hf hplain
  · rcases by simpa using hquoted with rfl | rfl <;> exact hescaped (by decide) (by decide) (by decide)
  · subst hn
    exact hescaped (by decide) (by decide) (by decide)
  · subst hr
    exact hescaped (by decide) (by decide) (by decide)
  · subst ht
    exact hescaped (by decide) (by decide) (by decide)
  · exact hescaped (by decide) (by decide) (by simp [isShown, hb])
  · exact hescaped (by decide) (by decide) (by simp [isShown, hf])
  · rw [Bool.or_eq_true, not_or, decide_eq_true_eq, decide_eq_true_eq] at hquoted
    refine (escapes_plain ?_).congr (iff_of_true trivial ?_)
    · exact fun hmem => hquoted.2 (List.mem_singleton.1 hmem).symm
    · rw [Bool.and_eq_true, decide_eq_true_eq, decide_eq_true_eq] at hplain
      simp only [isShown, Bool.and_eq_true, decide_eq_true_eq, bne_iff_ne]
      exact ⟨⟨⟨hplain.1, Nat.le_of_lt_succ hplain.2⟩, hquoted.1⟩, hquoted.2⟩
  · have hnot : ¬isShown c = true := by
      intro hshown
      simp only [isShown, Bool.and_eq_true, decide_eq_true_eq] at hshown hplain
      exact hplain ⟨hshown.1.1.1, Nat.lt_succ_of_le hshown.1.1.2⟩
    exact ⟨fun hshown => absurd hshown hnot, fun _ => breaks_units (utf16Units_ne_nil c)⟩

theorem shown_cons {c : Char} {cs : List Char} : Shown (c :: cs) ↔ isShown c = true ∧ Shown cs :=
  List.forall_mem_cons

theorem escapes_jsonString (s : String) :
    Escapes (Text.jsonString s) (Shown s.toList) := by
  have hbody : ∀ cs : List Char, Escapes (cs.flatMap Text.jsonChar) (Shown cs) := by
    intro cs
    induction cs with
    | nil => exact (escapes_plain List.not_mem_nil).congr (by simp [Shown])
    | cons c cs ih => exact ((escapes_jsonChar c).append ih).congr shown_cons.symm
  exact (hbody s.toList).bracketed (by decide) (by decide)

theorem escapes_jsonString_of_shown {s : String} {shown : Prop} (h : Shown s.toList) (hshown : shown) :
    Escapes (Text.jsonString s) shown :=
  (escapes_jsonString s).congr (iff_of_true h hshown)

theorem isShown_of_isNumeralChar {c : Char} (h : Numeral.isNumeralChar c = true) :
    isShown c = true := by
  simp only [Numeral.isNumeralChar, Bool.or_eq_true, beq_iff_eq] at h
  obtain ((((hdigit | rfl) | rfl) | rfl) | rfl) | rfl := h
  · have hquote : c ≠ '"' := by
      rintro rfl
      exact absurd hdigit (by decide)
    have hslash : c ≠ '\\' := by
      rintro rfl
      exact absurd hdigit (by decide)
    have hrange : 48 ≤ c.toNat ∧ c.toNat ≤ 57 := by
      rwa [Char.isDigit, Bool.and_eq_true, decide_eq_true_eq, decide_eq_true_eq, ge_iff_le,
        UInt32.le_iff_toNat_le, UInt32.le_iff_toNat_le] at hdigit
    simp only [isShown, Bool.and_eq_true, decide_eq_true_eq, bne_iff_ne]
    exact ⟨⟨⟨by omega, by omega⟩, hquote⟩, hslash⟩
  all_goals decide

theorem shown_int (n : Int) : Shown (toString n).toList :=
  fun c hc => isShown_of_isNumeralChar ((Numeral.isJsonNumber_int n).isNumeral.chars c hc)

theorem shown_jsonFloat (x : Binary64) : Shown (Value.jsonFloat x) := by
  cases x with
  | finite negative digits e =>
    have hnumber : Numeral.IsJsonNumber (Binary64.finite negative digits e).text.toList :=
      Numeral.isJsonNumber_float rfl
    exact fun c hc => isShown_of_isNumeralChar (hnumber.isNumeral.chars c hc)
  | infinite negative => cases negative <;> decide
  | nan => decide

theorem escapes_of_shown {cs : List Char} {shown : Prop} (h : Shown cs) (hshown : shown) :
    Escapes cs shown :=
  (escapes_plain fun hmem => absurd (h _ hmem) (by decide)).congr (iff_of_true trivial hshown)

/-! ### Values -/

theorem allShown_str {s : String} : AllShown (.str s) ↔ Shown s.toList := by
  constructor
  · exact fun h => h s false .here
  · intro h s' inKey hs
    cases hs with
    | here => exact h

theorem allShown_list {xs : List Value} : AllShown (.list xs) ↔ ∀ y ∈ xs, AllShown y := by
  constructor
  · exact fun h y hy s inKey hs => h s inKey (.list hy hs)
  · intro h s inKey hs
    cases hs with
    | list hy hs => exact h _ hy s inKey hs

theorem allShown_tuple {xs : List Value} : AllShown (.tuple xs) ↔ ∀ y ∈ xs, AllShown y := by
  constructor
  · exact fun h y hy s inKey hs => h s inKey (.tuple hy hs)
  · intro h s inKey hs
    cases hs with
    | tuple hy hs => exact h _ hy s inKey hs

theorem allShown_map {es : List (Value × Value)} :
    AllShown (.map es) ↔ ∀ e ∈ es, AllShown e.1 ∧ AllShown e.2 := by
  constructor
  · exact fun h e he => ⟨fun s _ hs => h s true (.key he hs), fun s inKey hs => h s inKey (.entry he hs)⟩
  · intro h s inKey hs
    cases hs with
    | entry he hs => exact (h _ he).2 s inKey hs
    | key he hs => exact (h _ he).1 s _ hs

theorem shown_name (t : FieldType) : Shown t.name.toList := by
  cases t <;> decide

theorem escapes_jsonKey {k : Value} {cs : List Char} (h : Value.jsonKey k = .ok cs) :
    Escapes cs (AllShown k) := by
  cases k with
  | str s =>
    cases h
    exact (escapes_jsonString s).congr allShown_str.symm
  | fieldType t =>
    cases h
    exact escapes_jsonString_of_shown (shown_name t) (by rintro s inKey ⟨⟩)
  | null =>
    cases h
    exact escapes_jsonString_of_shown (by decide) (by rintro s inKey ⟨⟩)
  | bool b =>
    cases h
    exact escapes_jsonString_of_shown (by cases b <;> decide) (by rintro s inKey ⟨⟩)
  | int n =>
    obtain ⟨text, htext, rfl⟩ := map_eq_ok.1 h
    obtain ⟨-, rfl⟩ := jsonInt_eq_ok.1 htext
    exact escapes_jsonString_of_shown (shown_int n) (by rintro s inKey ⟨⟩)
  | float x =>
    cases h
    refine escapes_jsonString_of_shown ?_ (by rintro s inKey ⟨⟩)
    rw [String.toList_ofList]
    exact shown_jsonFloat x
  | _ => cases h

mutual

theorem escapes_json {v : Value} {cs : List Char} (h : v.json = .ok cs) : Escapes cs (AllShown v) := by
  match v with
  | .null =>
    cases pure_eq_ok.1 h
    exact escapes_of_shown (by decide) (by rintro s inKey ⟨⟩)
  | .bool b =>
    cases pure_eq_ok.1 h
    exact escapes_of_shown (by cases b <;> decide) (by rintro s inKey ⟨⟩)
  | .int n =>
    obtain ⟨text, htext, rfl⟩ := map_eq_ok.1 h
    obtain ⟨-, rfl⟩ := jsonInt_eq_ok.1 htext
    exact escapes_of_shown (shown_int n) (by rintro s inKey ⟨⟩)
  | .float x =>
    cases pure_eq_ok.1 h
    exact escapes_of_shown (shown_jsonFloat x) (by rintro s inKey ⟨⟩)
  | .str s =>
    cases pure_eq_ok.1 h
    exact (escapes_jsonString s).congr allShown_str.symm
  | .fieldType t =>
    cases pure_eq_ok.1 h
    exact escapes_jsonString_of_shown (shown_name t) (by rintro s inKey ⟨⟩)
  | .list xs =>
    rw [Value.json] at h
    obtain ⟨parts, hparts, h⟩ := bind_eq_ok.1 h
    cases pure_eq_ok.1 h
    have hitems := (escapes_intercalate (escapes_jsonItems hparts)).congr allShown_list.symm
    exact hitems.bracketed (by decide) (by decide)
  | .tuple xs =>
    rw [Value.json] at h
    obtain ⟨parts, hparts, h⟩ := bind_eq_ok.1 h
    cases pure_eq_ok.1 h
    have hitems := (escapes_intercalate (escapes_jsonItems hparts)).congr allShown_tuple.symm
    exact hitems.bracketed (by decide) (by decide)
  | .map es =>
    rw [Value.json] at h
    obtain ⟨parts, hparts, h⟩ := bind_eq_ok.1 h
    cases pure_eq_ok.1 h
    have hentries := (escapes_intercalate (escapes_jsonEntries hparts)).congr allShown_map.symm
    exact hentries.bracketed (by decide) (by decide)
  | .decimal _ | .dateTime _ | .date _ | .bytes _ | .pattern _ | .typeTag _ | .deferred _ | .foreign _
  | .set _ => exact absurd h throw_ne_ok

theorem escapes_jsonItems {xs : List Value} {parts : List (List Char)}
    (h : Value.jsonItems xs = .ok parts) :
    List.Forall₂ (fun cs x => Escapes cs (AllShown x)) parts xs := by
  match xs with
  | [] =>
    cases pure_eq_ok.1 h
    exact .nil
  | x :: xs =>
    rw [Value.jsonItems] at h
    obtain ⟨first, hfirst, h⟩ := bind_eq_ok.1 h
    obtain ⟨rest, hrest, h⟩ := bind_eq_ok.1 h
    cases pure_eq_ok.1 h
    exact .cons (escapes_json hfirst) (escapes_jsonItems hrest)

theorem escapes_jsonEntries {es : List (Value × Value)} {parts : List (List Char)}
    (h : Value.jsonEntries es = .ok parts) :
    List.Forall₂ (fun cs e => Escapes cs (AllShown e.1 ∧ AllShown e.2)) parts es := by
  match es with
  | [] =>
    cases pure_eq_ok.1 h
    exact .nil
  | (k, v) :: es =>
    rw [Value.jsonEntries] at h
    obtain ⟨key, hkey, h⟩ := bind_eq_ok.1 h
    obtain ⟨value, hvalue, h⟩ := bind_eq_ok.1 h
    obtain ⟨rest, hrest, h⟩ := bind_eq_ok.1 h
    cases pure_eq_ok.1 h
    have hmark : Escapes [':'] True := escapes_plain (by decide)
    have hentry := (escapes_jsonKey hkey).append (hmark.append (escapes_json hvalue))
    exact .cons (hentry.congr (by rw [true_and])) (escapes_jsonEntries hrest)

end

theorem onlyBeforeWildcards_json_iff {v : Value} {cs : List Char} (h : v.json = .ok cs) :
    OnlyBeforeWildcards cs ↔ AllShown v :=
  (escapes_json h).onlyBeforeWildcards_iff

theorem isLiteralOf_jsonLiteral_iff {v : Value} {json : List Char} (h : v.json = .ok json) :
    IsLiteralOf true (DefaultLiteral.jsonLiteral Engine.mysql.defaultStyle json).toList json ↔
      AllShown v := by
  have hread : DefaultLiteral.readInside (Identifier.doubleQuotes '\'' json ++ '\'' :: [')']) =
      some (json, [')']) ↔ OnlyBeforeWildcards json :=
    DefaultLiteral.readInside_doubleQuotes_iff json (by decide)
  rw [← onlyBeforeWildcards_json_iff h, ← hread, DefaultLiteral.toList_jsonLiteral_mysql, IsLiteralOf,
    if_pos rfl]
  constructor
  · rintro ⟨body, hbody, hliteral⟩
    obtain ⟨-, rfl⟩ := List.cons.inj hbody
    exact hliteral
  · exact fun hliteral => ⟨_, rfl, hliteral⟩

end Polystore.Json

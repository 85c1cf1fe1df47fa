import Polystore.Proofs.Default.Backslash
import Polystore.Proofs.Sql.Item

/-!
# Default literals among other items

Where a backslash escapes nothing, the literal of a default is read to its end and no further: a text in
quotes is one item that holds the text, and every other literal is a number, a date or a word.

Main statement: `isRead_of_render`.
-/

namespace Polystore.DefaultLiteral

open Identifier (isPart)
open Sql

/-! ### Numbers and words -/

/-- A character of a literal without quotes. The letter P starts what may follow a literal, and stands in
none. -/
def isBare (c : Char) : Bool :=
  (isPart c || c == '-' || c == '+' || c == '.') && c.toLower != 'p'

/-- All characters may stand in a literal without quotes. -/
def Bare (cs : List Char) : Prop :=
  ∀ c ∈ cs, isBare c = true

instance (cs : List Char) : Decidable (Bare cs) :=
  decidable_of_iff (cs.all isBare = true) List.all_eq_true

/-- What is being read inside a literal without quotes. -/
def IsBareLexeme : Lexeme → Prop
  | .blank => True
  | .word cs => Bare cs
  | .symbol cs => cs = ['-'] ∨ cs = ['+'] ∨ cs = ['.']
  | .quoted .. => False

section Bare

variable {engine : Engine} {l m : Lexeme} {c : Char} {cs : List Char}

theorem eq_of_isBare (h : isBare c = true) (hpart : ¬isPart c = true) :
    c = '-' ∨ c = '+' ∨ c = '.' := by
  simp only [isBare, Bool.and_eq_true, Bool.or_eq_true, beq_iff_eq, or_assoc] at h
  exact h.1.resolve_left hpart

theorem isBareLexeme_start (h : isBare c = true) : IsBareLexeme (Lexeme.start engine c) := by
  have hquote : c ≠ engine.quoteMark ∧ c ≠ '\'' := by
    constructor
    all_goals
      rintro rfl
      revert h
      cases engine <;> decide
  rw [Lexeme.start, if_neg hquote.1, if_neg hquote.2]
  split_ifs with hspace hpart
  · trivial
  · exact List.forall_mem_singleton.2 h
  · simpa [IsBareLexeme] using eq_of_isBare h hpart

theorem isBareLexeme_continue? (hl : IsBareLexeme l) (h : isBare c = true)
    (hm : l.continue? engine c = some m) : IsBareLexeme m := by
  have hother : c ≠ '\'' ∧ c ≠ '=' := by
    constructor
    all_goals
      rintro rfl
      exact absurd h (by decide)
  cases l with
  | blank => cases hm
  | word cs =>
    rw [Lexeme.continue?] at hm
    split_ifs at hm with hpart hescape
    · cases hm
      exact List.forall_mem_append.2 ⟨hl, List.forall_mem_singleton.2 h⟩
    · exact absurd hescape.2.1 hother.1
  | symbol cs =>
    rw [Lexeme.continue?, if_neg fun hc => hother.2 hc.1] at hm
    cases hm
  | quoted => exact hl.elim

theorem isBareLexeme_scan (hl : IsBareLexeme l) (h : Bare cs) :
    IsBareLexeme (scan engine l cs).2 ∧
      ∀ i ∈ (scan engine l cs).1, ∃ m, IsBareLexeme m ∧ i ∈ m.items := by
  induction cs generalizing l with
  | nil => exact ⟨hl, by simp [scan]⟩
  | cons c cs ih =>
    obtain ⟨hc, hcs⟩ := List.forall_mem_cons.1 h
    rw [scan]
    cases hm : l.continue? engine c with
    | some m => exact ih (isBareLexeme_continue? hl hc hm) hcs
    | none =>
      obtain ⟨hlast, hitems⟩ := ih (isBareLexeme_start hc) hcs
      refine ⟨hlast, fun i hi => ?_⟩
      rcases List.mem_append.1 hi with hi | hi
      · exact ⟨l, hl, hi⟩
      · exact hitems i hi

theorem stops_of_isBareLexeme (h : IsBareLexeme l) : l.Stops engine := by
  cases l with
  | blank => exact stops_blank
  | word cs => exact stops_word cs
  | symbol cs => exact stops_symbol cs
  | quoted => exact h.elim

/-- An item separates nothing, and is not the word that says a column is the primary key. -/
def Inert (i : Item) : Prop :=
  i.isPlain = true ∧ i.isWord "primary" = false

instance (i : Item) : Decidable (Inert i) :=
  inferInstanceAs (Decidable (_ ∧ _))

theorem inert_of_isBareLexeme (h : IsBareLexeme l) {i : Item} (hi : i ∈ l.items) : Inert i := by
  cases l with
  | blank => cases hi
  | word cs =>
    obtain rfl := List.mem_singleton.1 hi
    refine ⟨rfl, ?_⟩
    rw [Item.isWord, spells, beq_eq_false_iff_ne]
    intro hcs
    have hp : 'p' ∈ cs.map Char.toLower := by
      rw [hcs]
      decide
    obtain ⟨c, hc, hlower⟩ := List.mem_map.1 hp
    have hbare := h c hc
    simp [isBare, hlower] at hbare
  | symbol cs =>
    obtain rfl := List.mem_singleton.1 hi
    rcases h with rfl | rfl | rfl <;> exact ⟨rfl, rfl⟩
  | quoted => exact h.elim

end Bare

/-- A text is read as items that separate nothing. -/
structure ReadsInert (engine : Engine) (s : String) (is : List Item) : Prop where
  itemsOf : ItemsOf engine (chars s) is
  inert : ∀ i ∈ is, Inert i

section Literals

variable {engine : Engine} {s : String}

theorem readsInert_of_bare (h : Bare s.toList) :
    ReadsInert engine s (textItems engine s) := by
  obtain ⟨hlast, hitems⟩ := @isBareLexeme_scan engine .blank s.toList trivial h
  have hread := itemsOf_of_scan rfl (stops_of_isBareLexeme hlast)
  rw [textItems, hread.itemsFrom_eq]
  refine ⟨hread, fun i hi => ?_⟩
  rcases List.mem_append.1 hi with hi | hi
  · obtain ⟨m, hm, hi⟩ := hitems i hi
    exact inert_of_isBareLexeme hm hi
  · exact inert_of_isBareLexeme hlast hi

end Literals

/-! ### The text of numbers -/

theorem bare_append {cs ds : List Char} : Bare (cs ++ ds) ↔ Bare cs ∧ Bare ds :=
  List.forall_mem_append

theorem bare_cons {c : Char} {cs : List Char} : Bare (c :: cs) ↔ isBare c = true ∧ Bare cs :=
  List.forall_mem_cons

theorem isBare_of_isDigit {c : Char} (h : c.isDigit = true) : isBare c = true := by
  have hupper : ¬c.isUpper = true := by
    simp only [Char.isDigit, Char.isUpper, Bool.and_eq_true, decide_eq_true_eq, ge_iff_le,
      UInt32.le_iff_toNat_le] at h ⊢
    have h9 : '9'.val.toNat = 57 := rfl
    have hA : 'A'.val.toNat = 65 := rfl
    omega
  have hp : c ≠ 'p' := by
    rintro rfl
    exact absurd h (by decide)
  simp [isBare, isPart, Char.isAlphanum, h, Char.toLower_eq_of_not_isUpper hupper, hp]

theorem bare_digits (n : Nat) : Bare (toString n).toList := by
  intro c hc
  rw [Nat.toString_eq_repr, Nat.toList_repr] at hc
  exact isBare_of_isDigit (Nat.isDigit_of_mem_toDigits (by omega) (by omega) hc)

theorem bare_int (n : Int) : Bare (toString n).toList := by
  cases n with
  | ofNat n => exact bare_digits n
  | negSucc n =>
    have htext : toString (Int.negSucc n) = "-" ++ toString (n + 1) := rfl
    rw [htext, String.toList_append]
    exact bare_append.2 ⟨by decide, bare_digits (n + 1)⟩

theorem bare_signText (negative : Bool) : Bare (Decimal.signText negative) := by
  cases negative <;> decide

theorem bare_replicate (n : Nat) : Bare (List.replicate n '0') := by
  intro c hc
  rw [List.eq_of_mem_replicate hc]
  decide

theorem bare_placePoint {digits : List Char} (h : Bare digits) (point : Int) :
    Bare (Decimal.placePoint digits point) := by
  unfold Decimal.placePoint
  split_ifs
  · exact bare_cons.2 ⟨by decide, bare_cons.2 ⟨by decide, bare_append.2 ⟨bare_replicate _, h⟩⟩⟩
  · exact bare_append.2 ⟨h, bare_replicate _⟩
  · exact bare_append.2 ⟨fun c hc => h c (List.mem_of_mem_take hc),
      bare_cons.2 ⟨by decide, fun c hc => h c (List.mem_of_mem_drop hc)⟩⟩

theorem bare_decimal (d : Decimal) : Bare d.text.toList := by
  cases d with
  | finite neg c e =>
    have hexponent : ∀ e, Bare (Decimal.exponentText e) := by
      intro e
      refine bare_cons.2 ⟨?_, bare_digits _⟩
      split_ifs <;> decide
    rw [Decimal.text, String.toList_ofList]
    refine bare_append.2 ⟨bare_signText neg, ?_⟩
    unfold Decimal.finiteText
    dsimp only
    split_ifs
    · exact bare_placePoint (bare_digits c) _
    · exact bare_append.2 ⟨bare_placePoint (bare_digits c) 1, bare_cons.2 ⟨by decide, hexponent _⟩⟩
  | infinite neg =>
    rw [Decimal.text, String.toList_ofList]
    exact bare_append.2 ⟨bare_signText neg, by decide⟩
  | nan neg signaling payload =>
    rw [Decimal.text, String.toList_ofList]
    refine bare_append.2 ⟨bare_append.2 ⟨bare_append.2 ⟨bare_signText neg, ?_⟩, by decide⟩, ?_⟩
    · split_ifs <;> decide
    · split_ifs
      · decide
      · exact bare_digits payload

theorem bare_float (x : Binary64) : Bare x.text.toList := by
  cases x with
  | finite neg ds e =>
    rw [Binary64.text, String.toList_ofList]
    refine bare_append.2 ⟨bare_signText neg, ?_⟩
    have hexponent : ∀ e, Bare (Binary64.exponentText e) := by
      intro e
      refine bare_cons.2 ⟨by decide, bare_cons.2 ⟨?_, ?_⟩⟩
      · split_ifs <;> decide
      · exact bare_append.2 ⟨bare_replicate _, bare_digits _⟩
    unfold Binary64.finiteText
    dsimp only
    split_ifs
    · decide
    · exact bare_append.2 ⟨bare_placePoint (bare_digits ds) _, by decide⟩
    · exact bare_append.2 ⟨bare_placePoint (bare_digits ds) _, by decide⟩
    · exact bare_append.2 ⟨bare_digits ds, hexponent _⟩
    · exact bare_append.2 ⟨bare_placePoint (bare_digits ds) 1, hexponent _⟩
  | infinite neg =>
    rw [Binary64.text, String.toList_ofList]
    exact bare_append.2 ⟨bare_signText neg, by decide⟩
  | nan => decide

/-! ### Texts in quotes -/

section Quoted

variable {engine : Engine}

/-- A text literal that holds a content. -/
def textItem (content : List Char) : Item :=
  .lexeme (.quoted '\'' false content .ending)

theorem readChars_quoted (h : engine ≠ .mysql) (content : List Char) :
    readChars engine .blank (quoted content) = ([], .quoted '\'' false content .ending) := by
  have hstart : Lexeme.start engine '\'' = .quoted '\'' false [] .inside := by
    cases engine with
    | mysql => exact absurd rfl h
    | _ => rfl
  rw [quoted, Identifier.quoted, readChars]
  simp only [Lexeme.continue?, Lexeme.tokens, hstart, readChars_doubleQuotes]
  rfl

theorem itemsFrom_quoted (h : engine ≠ .mysql) (content : List Char) {rest : List Input}
    (hrest : rest.head? ≠ some (.char '\'')) :
    itemsFrom engine .blank (chars (String.ofList (quoted content)) ++ rest) =
      textItem content :: itemsFrom engine .blank rest := by
  rw [chars, String.toList_ofList, itemsFrom_chars, scan_of_readChars (readChars_quoted h content)]
  cases rest with
  | nil => rfl
  | cons i rest =>
    cases i with
    | char c =>
      have hc : c ≠ '\'' := by simpa using hrest
      refine itemsFrom_of_continue?_eq_none ?_ rest
      rw [Lexeme.continue?, if_neg hc]
    | value v => rfl

theorem readsInert_quoted (h : engine ≠ .mysql) (content : List Char) {cast : String}
    {is : List Item} (hcast : cast.toList.head? ≠ some '\'') (hread : ReadsInert engine cast is) :
    ReadsInert engine (String.ofList (quoted content) ++ cast) (textItem content :: is) := by
  refine ⟨fun rest hrest => ?_, List.forall_mem_cons.2 ⟨⟨rfl, rfl⟩, hread.inert⟩⟩
  have hnext : (chars cast ++ rest).head? ≠ some (.char '\'') := by
    unfold chars
    cases hcs : cast.toList with
    | nil =>
      cases rest with
      | nil => simp
      | cons i rest =>
        cases i with
        | char c => rcases hrest with rfl | rfl | rfl <;> simp
        | value v => exact hrest.elim
    | cons c cs =>
      rw [hcs] at hcast
      simpa using hcast
  rw [chars_append, List.append_assoc, itemsFrom_quoted h content hnext, hread.itemsOf rest hrest]
  rfl

theorem readsInert_empty : ReadsInert engine "" [] :=
  ⟨itemsOf_nil, by simp⟩

end Quoted

/-! ### Defaults -/

/-- What the cast of a JSON literal is read as. -/
def castItems (engine : Engine) : List Item :=
  textItems engine engine.defaultStyle.jsonCast

/-- The items of a text literal, with the engine's cast behind a JSON text. -/
def contentItems (engine : Engine) (v : Value) (content : List Char) : List Item :=
  textItem content :: if inJson v then castItems engine else []

section Defaults

variable {engine : Engine} {v : Value} {literal : String}

/-- A literal is read as items that separate nothing; if the default is a text or is written in JSON, it is
one text literal of that content. -/
def IsRead (engine : Engine) (v : Value) (literal : String) : Prop :=
  ∃ is, ReadsInert engine literal is ∧
    ∀ content, IsContent v content → is = contentItems engine v content

theorem not_isContent (hjson : inJson v = false) (htext : v.text? = none) (content : List Char) :
    ¬IsContent v content := by
  rw [IsContent, hjson, htext]
  simp

theorem isRead_of_bare (hjson : inJson v = false) (htext : v.text? = none)
    (h : Bare literal.toList) : IsRead engine v literal := by
  exact ⟨_, readsInert_of_bare h, fun content hcontent =>
    absurd hcontent (not_isContent hjson htext content)⟩

theorem isRead_of_quoted (hengine : engine ≠ .mysql) {cs : List Char} (hjson : inJson v = false)
    (hcs : ∀ content, IsContent v content → content = cs) :
    IsRead engine v (String.ofList (quoted cs)) := by
  have hread := readsInert_quoted hengine cs (by decide) readsInert_empty
  rw [String.append_empty] at hread
  refine ⟨_, hread, fun content hcontent => ?_⟩
  rw [contentItems, hjson, hcs content hcontent]
  rfl

theorem readsInert_cast (hengine : engine ≠ .mysql) :
    ReadsInert engine engine.defaultStyle.jsonCast (castItems engine) := by
  cases engine with
  | postgresql =>
    have hcast : castItems .postgresql =
        [.lexeme (.symbol [':']), .lexeme (.symbol [':']), .lexeme (.word "jsonb".toList)] := by rfl
    refine ⟨itemsOf_text (stops_word _), ?_⟩
    rw [hcast]
    decide
  | mysql => exact absurd rfl hengine
  | sqlite => exact readsInert_empty

theorem isRead_of_json (hengine : engine ≠ .mysql) {cs : List Char} (hv : inJson v = true)
    (hjson : v.json = .ok cs) : IsRead engine v (jsonLiteral engine.defaultStyle cs) := by
  have hliteral : jsonLiteral engine.defaultStyle cs =
      String.ofList (quoted cs) ++ engine.defaultStyle.jsonCast := by
    cases engine with
    | mysql => exact absurd rfl hengine
    | _ => rfl
  rw [hliteral]
  refine ⟨_, readsInert_quoted hengine cs ?_ (readsInert_cast hengine), fun content hcontent => ?_⟩
  · cases engine <;> decide
  · rw [IsContent, hv, if_pos rfl, hjson] at hcontent
    rw [contentItems, hv, Except.ok.inj hcontent]
    rfl

theorem isRead_of_render (hengine : engine ≠ .mysql)
    (h : render engine.defaultStyle v = .ok literal) : IsRead engine v literal := by
  have htext {s : String} (hs : v.text? = some s) (hjson : inJson v = false) :
      IsRead engine v literal := by
    rw [render_of_text hs] at h
    cases h
    refine isRead_of_quoted hengine hjson fun content hcontent => ?_
    rw [IsContent, hjson, hs] at hcontent
    exact (Option.some.inj hcontent).symm
  have hencoded (hv : inJson v = true) (henc : render engine.defaultStyle v = encoded engine.defaultStyle v) :
      IsRead engine v literal := by
    rw [henc, encoded] at h
    cases hjson : v.json with
    | ok cs =>
      rw [hjson] at h
      cases h
      exact isRead_of_json hengine hv hjson
    | error e =>
      rw [hjson] at h
      dsimp only at h
      split_ifs at h
  cases v with
  | null =>
    cases h
    exact isRead_of_bare rfl rfl (by decide)
  | bool b =>
    cases h
    refine isRead_of_bare rfl rfl ?_
    cases engine <;> cases b <;> decide
  | int n =>
    obtain ⟨-, rfl⟩ := Value.toText_eq_ok.1 h
    exact isRead_of_bare rfl rfl (bare_int n)
  | decimal d =>
    cases h
    exact isRead_of_bare rfl rfl (bare_decimal d)
  | float x =>
    by_cases hfinite : x.isFinite = true
    · have hliteral : render engine.defaultStyle (.float x) = .ok x.text := if_pos hfinite
      obtain rfl := Except.ok.inj (hliteral.symm.trans h)
      exact isRead_of_bare rfl rfl (bare_float x)
    · have hliteral : render engine.defaultStyle (.float x) = .error _ := if_neg hfinite
      rw [hliteral] at h
      cases h
  | str s => exact htext rfl rfl
  | fieldType t => exact htext rfl rfl
  | dateTime t =>
    obtain rfl : String.ofList (quoted t.text) = literal := Except.ok.inj h
    exact isRead_of_quoted hengine rfl fun content hcontent =>
      absurd hcontent (not_isContent rfl rfl content)
  | date d =>
    obtain rfl : String.ofList (quoted d.text) = literal := Except.ok.inj h
    exact isRead_of_quoted hengine rfl fun content hcontent =>
      absurd hcontent (not_isContent rfl rfl content)
  | list xs => exact hencoded rfl rfl
  | tuple xs => exact hencoded rfl rfl
  | map es => exact hencoded rfl rfl
  | _ => cases h

end Defaults

end Polystore.DefaultLiteral

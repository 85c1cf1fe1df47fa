import Polystore.Proofs.Default.Numeral
import Polystore.Proofs.Outcome
import Polystore.Value.Json

/-!
# JSON texts

The grammar of JSON, and what the JSON encoding of a value has to do with it. Strings, numbers, sequences
and mappings are written as the grammar has them, but a floating-point number that is not finite is written
as a name that the grammar does not know, unless it is a key.

Main statements: `exists_json_iff` says what has an encoding, and `isText_json_iff` when it is a JSON text.
-/

namespace Polystore.Json

open Numeral (IsJsonNumber)

/-! ### Grammar -/

def Blank (cs : List Char) : Prop :=
  ∀ c ∈ cs, c = ' ' ∨ c = '\t' ∨ c = '\n' ∨ c = '\r'

def isHex (c : Char) : Bool :=
  ('0' ≤ c && c ≤ '9') || ('a' ≤ c && c ≤ 'f') || ('A' ≤ c && c ≤ 'F')

/-- What stands between the quotes of a string: characters that are no control characters, and escapes. -/
inductive IsBody : List Char → Prop where
  | nil : IsBody []
  | plain {c : Char} {cs : List Char} (hcontrol : 0x20 ≤ c.toNat) (hquote : c ≠ '"') (hslash : c ≠ '\\')
      (h : IsBody cs) : IsBody (c :: cs)
  | escape {c : Char} {cs : List Char} (hc : c ∈ ['"', '\\', '/', 'b', 'f', 'n', 'r', 't'])
      (h : IsBody cs) : IsBody ('\\' :: c :: cs)
  | unit {digits cs : List Char} (hlength : digits.length = 4) (hhex : ∀ c ∈ digits, isHex c = true)
      (h : IsBody cs) : IsBody ('\\' :: 'u' :: (digits ++ cs))

inductive IsString : List Char → Prop where
  | intro {body : List Char} (h : IsBody body) : IsString ('"' :: (body ++ ['"']))

/-- A text between blanks. -/
inductive Padded (P : List Char → Prop) : List Char → Prop where
  | intro {before cs after : List Char} (hbefore : Blank before) (h : P cs) (hafter : Blank after) :
      Padded P (before ++ cs ++ after)

/-- The members of an object, as they are written. -/
def memberTexts (members : List (List Char × List Char)) : List (List Char) :=
  members.map fun m => m.1 ++ ':' :: m.2

/-- A JSON text. -/
inductive IsText : List Char → Prop where
  | word {s : String} (h : s ∈ ["true", "false", "null"]) : IsText s.toList
  | number {cs : List Char} (h : IsJsonNumber cs) : IsText cs
  | string {cs : List Char} (h : IsString cs) : IsText cs
  | array {blank : List Char} {items : List (List Char)} (hblank : Blank blank)
      (h : ∀ item ∈ items, IsText item) :
      IsText ('[' :: (blank ++ [','].intercalate items ++ [']']))
  | object {blank : List Char} {members : List (List Char × List Char)} (hblank : Blank blank)
      (hkeys : ∀ m ∈ members, Padded IsString m.1) (h : ∀ m ∈ members, IsText m.2) :
      IsText ('\x7b' :: (blank ++ [','].intercalate (memberTexts members) ++ ['\x7d']))
  | padded {before cs after : List Char} (hbefore : Blank before) (h : IsText cs)
      (hafter : Blank after) : IsText (before ++ cs ++ after)

/-! ### Strings -/

theorem blank_nil : Blank [] :=
  List.forall_mem_nil _

theorem isHex_of_mem_hexDigits {width n : Nat} : ∀ c ∈ Text.hexDigits width n, isHex c = true := by
  have hdigit : ∀ n < 16, isHex (Text.hexDigit n) = true := by decide
  induction width generalizing n with
  | zero => exact List.forall_mem_nil _
  | succ width ih =>
    exact List.forall_mem_append.2 ⟨ih, List.forall_mem_singleton.2 (hdigit _ (Nat.mod_lt n (by decide)))⟩

theorem isBody_units {us : List Nat} {cs : List Char} (h : IsBody cs) :
    IsBody (us.flatMap (fun u => '\\' :: 'u' :: Text.hexDigits 4 u) ++ cs) := by
  induction us with
  | nil => exact h
  | cons u us ih =>
    rw [List.flatMap_cons, List.append_assoc, List.cons_append, List.cons_append]
    exact .unit (Text.length_hexDigits 4 u) isHex_of_mem_hexDigits ih

theorem isBody_jsonChar (c : Char) {cs : List Char} (h : IsBody cs) :
    IsBody (Text.jsonChar c ++ cs) := by
  unfold Text.jsonChar
  split_ifs with hquoted hn hr ht hb hf hplain
  · refine .escape ?_ h
    rcases by simpa using hquoted with rfl | rfl <;> decide
  · exact .escape (by decide) h
  · exact .escape (by decide) h
  · exact .escape (by decide) h
  · exact .escape (by decide) h
  · exact .escape (by decide) h
  · rw [Bool.and_eq_true, decide_eq_true_eq] at hplain
    rw [Bool.or_eq_true, not_or] at hquoted
    exact .plain hplain.1 (by simpa using hquoted.1) (by simpa using hquoted.2) h
  · exact isBody_units h

theorem isString_jsonString (s : String) : IsString (Text.jsonString s) := by
  have hbody : ∀ cs : List Char, IsBody (cs.flatMap Text.jsonChar) := by
    intro cs
    induction cs with
    | nil => exact .nil
    | cons c cs ih => exact isBody_jsonChar c ih
  exact .intro (hbody s.toList)

/-! ### Outside strings -/

/-- Where a character of a text stands. -/
inductive Place where
  | outside
  | inside
  /-- Behind a backslash inside a string. -/
  | escaped
  deriving DecidableEq

def Place.next : Place → Char → Place
  | outside, c => if c = '"' then inside else outside
  | inside, c => if c = '"' then outside else if c = '\\' then escaped else inside
  | escaped, _ => inside

/-- The characters of a text outside its strings. -/
def bare : Place → List Char → List Char
  | _, [] => []
  | p, c :: cs => if p = .outside ∧ c ≠ '"' then c :: bare (p.next c) cs else bare (p.next c) cs

/-- All strings of a text end in it. -/
def Closed (cs : List Char) : Prop :=
  cs.foldl Place.next .outside = .outside

/-- Outside its strings a text has a letter that a name of a number that is not finite begins with. -/
def ShowsName (cs : List Char) : Prop :=
  'N' ∈ bare .outside cs ∨ 'I' ∈ bare .outside cs

variable {cs ds : List Char} {items : List (List Char)}

theorem bare_append (p : Place) (cs ds : List Char) :
    bare p (cs ++ ds) = bare p cs ++ bare (cs.foldl Place.next p) ds := by
  induction cs generalizing p with
  | nil => rfl
  | cons c cs ih =>
    rw [List.cons_append, bare, bare, ih, List.foldl_cons]
    split_ifs <;> rfl

theorem Closed.append (h : Closed cs) (h' : Closed ds) : Closed (cs ++ ds) := by
  rw [Closed, List.foldl_append, h]
  exact h'

theorem showsName_append (h : Closed cs) : ShowsName (cs ++ ds) ↔ ShowsName cs ∨ ShowsName ds := by
  have hplace : cs.foldl Place.next .outside = .outside := h
  rw [ShowsName, bare_append, hplace, List.mem_append, List.mem_append]
  exact or_or_or_comm ..

theorem closed_of_plain (h : '"' ∉ cs) : Closed cs ∧ bare .outside cs = cs := by
  induction cs with
  | nil => exact ⟨rfl, rfl⟩
  | cons c cs ih =>
    rw [List.mem_cons, not_or] at h
    obtain ⟨hclosed, hbare⟩ := ih h.2
    have hnext : Place.next .outside c = .outside := if_neg (Ne.symm h.1)
    refine ⟨?_, ?_⟩
    · rw [Closed, List.foldl_cons, hnext]
      exact hclosed
    · rw [bare, if_pos ⟨rfl, Ne.symm h.1⟩, hnext, hbare]

/-- Inside a string, a text is read without leaving it. -/
def StaysInside (cs : List Char) : Prop :=
  cs.foldl Place.next .inside = .inside ∧ bare .inside cs = []

theorem StaysInside.append (h : StaysInside cs) (h' : StaysInside ds) : StaysInside (cs ++ ds) := by
  refine ⟨by rw [List.foldl_append, h.1, h'.1], ?_⟩
  rw [bare_append, h.1, h.2, h'.2]
  rfl

theorem staysInside_plain {c : Char} (hquote : c ≠ '"') (hslash : c ≠ '\\') : StaysInside [c] := by
  have hnext : Place.next .inside c = .inside := by rw [Place.next, if_neg hquote, if_neg hslash]
  exact ⟨hnext, if_neg fun hout => absurd hout.1 (by decide)⟩

theorem staysInside_escape (c : Char) : StaysInside ['\\', c] :=
  ⟨rfl, rfl⟩

theorem staysInside_hex (h : ∀ c ∈ cs, isHex c = true) : StaysInside cs := by
  induction cs with
  | nil => exact ⟨rfl, rfl⟩
  | cons c cs ih =>
    obtain ⟨hc, hcs⟩ := List.forall_mem_cons.1 h
    have hother : c ≠ '"' ∧ c ≠ '\\' := by
      constructor <;> (rintro rfl; exact absurd hc (by decide))
    exact (staysInside_plain hother.1 hother.2).append (ih hcs)

theorem IsBody.staysInside (h : IsBody cs) : StaysInside cs := by
  induction h with
  | nil => exact ⟨rfl, rfl⟩
  | plain _ hquote hslash _ ih => exact (staysInside_plain hquote hslash).append ih
  | escape _ _ ih => exact (staysInside_escape _).append ih
  | unit _ hhex _ ih => exact (staysInside_escape 'u').append ((staysInside_hex hhex).append ih)

theorem IsString.closed (h : IsString cs) : Closed cs ∧ bare .outside cs = [] := by
  cases h with
  | @intro body h =>
    obtain ⟨hplace, hbare⟩ := h.staysInside
    have hend : ∀ p, p = Place.inside → p.next '"' = .outside ∧ bare p ['"'] = [] := by
      rintro p rfl
      exact ⟨rfl, rfl⟩
    refine ⟨?_, ?_⟩
    · show (body ++ ['"']).foldl Place.next .inside = .outside
      rw [List.foldl_append, hplace]
      rfl
    · show bare .inside (body ++ ['"']) = []
      rw [bare_append, hbare, hplace]
      rfl

/-! ### JSON texts show no names -/

/-- A text whose strings all end in it, and which shows a name exactly if a statement holds. -/
structure Shows (cs : List Char) (named : Prop) : Prop where
  closed : Closed cs
  showsName_iff : ShowsName cs ↔ named

variable {named other : Prop}

theorem Shows.congr (h : Shows cs named) (hiff : named ↔ other) : Shows cs other :=
  ⟨h.closed, h.showsName_iff.trans hiff⟩

theorem Shows.append (h : Shows cs named) (h' : Shows ds other) : Shows (cs ++ ds) (named ∨ other) :=
  ⟨h.closed.append h'.closed,
    (showsName_append h.closed).trans (or_congr h.showsName_iff h'.showsName_iff)⟩

theorem shows_plain (h : '"' ∉ cs) : Shows cs ('N' ∈ cs ∨ 'I' ∈ cs) := by
  obtain ⟨hclosed, hbare⟩ := closed_of_plain h
  exact ⟨hclosed, by rw [ShowsName, hbare]⟩

theorem IsString.shows (h : IsString cs) : Shows cs False := by
  obtain ⟨hclosed, hbare⟩ := h.closed
  exact ⟨hclosed, by simp [ShowsName, hbare]⟩

theorem shows_of_chars {P : Char → Prop} (h : ∀ c ∈ cs, P c) (hquote : ¬P '"') (hN : ¬P 'N')
    (hI : ¬P 'I') : Shows cs False := by
  refine (shows_plain fun hmem => hquote (h _ hmem)).congr (iff_false_intro ?_)
  rintro (hmem | hmem)
  · exact hN (h _ hmem)
  · exact hI (h _ hmem)

theorem Blank.shows (h : Blank cs) : Shows cs False :=
  shows_of_chars h (by decide) (by decide) (by decide)

theorem shows_number (h : IsJsonNumber cs) : Shows cs False :=
  shows_of_chars h.isNumeral.chars (by decide) (by decide) (by decide)

theorem Shows.between {before after : List Char} (h : Shows cs named) (hbefore : Shows before False)
    (hafter : Shows after False) : Shows (before ++ cs ++ after) named :=
  ((hbefore.append h).append hafter).congr (by simp)

theorem shows_mark {c : Char} (hc : c ∈ ['[', ']', '\x7b', '\x7d', ',', ':']) : Shows [c] False := by
  refine shows_of_chars (List.forall_mem_singleton.2 hc) ?_ ?_ ?_ <;> decide

theorem shows_intercalate {α : Type} {name : α → Prop} {xs : List α}
    (h : List.Forall₂ (fun item x => Shows item (name x)) items xs) :
    Shows ([','].intercalate items) (∃ x ∈ xs, name x) := by
  induction h with
  | nil => exact (shows_plain List.not_mem_nil).congr (by simp)
  | cons hitem hrest ih =>
    cases hrest with
    | nil =>
      rw [List.intercalate_singleton]
      exact hitem.congr (by simp)
    | cons _ _ =>
      rw [List.intercalate_cons_cons]
      refine ((hitem.append (shows_mark (by decide))).append ih).congr ?_
      simp only [or_false, List.exists_mem_cons_iff]

theorem Shows.bracketed {left right : Char} (h : Shows cs named)
    (hleft : left ∈ ['[', ']', '\x7b', '\x7d', ',', ':'])
    (hright : right ∈ ['[', ']', '\x7b', '\x7d', ',', ':']) : Shows (left :: (cs ++ [right])) named :=
  h.between (shows_mark hleft) (shows_mark hright)

theorem Padded.shows (h : Padded IsString cs) : Shows cs False := by
  cases h with
  | intro hbefore h hafter => exact h.shows.between hbefore.shows hafter.shows

theorem shows_member {key value : List Char} (hkey : Shows key False) (h : Shows value named) :
    Shows (key ++ ':' :: value) named :=
  (hkey.append ((shows_mark (by decide)).append h)).congr (by simp)

theorem IsText.shows (h : IsText cs) : Shows cs False := by
  have hnone : ∀ {items : List (List Char)}, (∀ item ∈ items, Shows item False) →
      Shows ([','].intercalate items) False :=
    fun h => (shows_intercalate (List.forall₂_same.2 h)).congr (by simp)
  induction h with
  | word h =>
    simp only [List.mem_cons, List.not_mem_nil, or_false] at h
    rcases h with rfl | rfl | rfl <;> exact (shows_plain (by decide)).congr (by decide)
  | number h => exact shows_number h
  | string h => exact h.shows
  | array hblank _ ih =>
    exact ((hblank.shows.append (hnone ih)).congr (by simp)).bracketed (by decide) (by decide)
  | @object blank members hblank hkeys _ ih =>
    have hmembers : ∀ item ∈ memberTexts members, Shows item False := by
      intro item hitem
      obtain ⟨m, hm, rfl⟩ := List.mem_map.1 hitem
      exact shows_member (hkeys m hm).shows (ih m hm)
    exact ((hblank.shows.append (hnone hmembers)).congr (by simp)).bracketed (by decide) (by decide)
  | padded hbefore _ hafter ih => exact ih.between hbefore.shows hafter.shows

/-! ### The encoding of values -/

/-- A value stands in another one, at any depth; the flag tells whether it does so in a key. -/
inductive Occurs (x : Value) : Bool → Value → Prop where
  | here : Occurs x false x
  | list {inKey : Bool} {y : Value} {ys : List Value} (hy : y ∈ ys) (h : Occurs x inKey y) :
      Occurs x inKey (.list ys)
  | tuple {inKey : Bool} {y : Value} {ys : List Value} (hy : y ∈ ys) (h : Occurs x inKey y) :
      Occurs x inKey (.tuple ys)
  | entry {inKey : Bool} {e : Value × Value} {es : List (Value × Value)} (he : e ∈ es)
      (h : Occurs x inKey e.2) : Occurs x inKey (.map es)
  | key {inKey : Bool} {e : Value × Value} {es : List (Value × Value)} (he : e ∈ es)
      (h : Occurs x inKey e.1) : Occurs x true (.map es)

/-- A floating-point number that is not finite stands in a value, and not in a key. -/
def HoldsSpecial (v : Value) : Prop :=
  ∃ x : Binary64, x.isFinite = false ∧ Occurs (.float x) false v

section Values

variable {v x : Value} {xs : List Value} {es : List (Value × Value)} {parts : List (List Char)}

theorem holdsSpecial_list : HoldsSpecial (.list xs) ↔ ∃ y ∈ xs, HoldsSpecial y := by
  constructor
  · rintro ⟨x, hx, h⟩
    cases h with
    | list hy h => exact ⟨_, hy, x, hx, h⟩
  · rintro ⟨y, hy, x, hx, h⟩
    exact ⟨x, hx, .list hy h⟩

theorem holdsSpecial_tuple : HoldsSpecial (.tuple xs) ↔ ∃ y ∈ xs, HoldsSpecial y := by
  constructor
  · rintro ⟨x, hx, h⟩
    cases h with
    | tuple hy h => exact ⟨_, hy, x, hx, h⟩
  · rintro ⟨y, hy, x, hx, h⟩
    exact ⟨x, hx, .tuple hy h⟩

theorem holdsSpecial_map : HoldsSpecial (.map es) ↔ ∃ e ∈ es, HoldsSpecial e.2 := by
  constructor
  · rintro ⟨x, hx, h⟩
    cases h with
    | entry he h => exact ⟨_, he, x, hx, h⟩
  · rintro ⟨e, he, x, hx, h⟩
    exact ⟨x, hx, .entry he h⟩

theorem holdsSpecial_float {x : Binary64} : HoldsSpecial (.float x) ↔ x.isFinite = false := by
  constructor
  · rintro ⟨y, hy, h⟩
    cases h with
    | here => exact hy
  · exact fun hx => ⟨x, hx, .here⟩

/-- The encoding of a value: a JSON text, unless the value holds a special number and the encoding shows
its name. -/
structure Encodes (cs : List Char) (v : Value) : Prop where
  shows : Shows cs (HoldsSpecial v)
  isText : ¬HoldsSpecial v → IsText cs

theorem Encodes.of_isText (h : IsText cs) (hv : ¬HoldsSpecial v) : Encodes cs v :=
  ⟨h.shows.congr (by simp [hv]), fun _ => h⟩

theorem encodes_float (x : Binary64) : Encodes (Value.jsonFloat x) (.float x) := by
  have hspecial : HoldsSpecial (.float x) ↔ x.isFinite = false := holdsSpecial_float
  cases x with
  | finite negative digits e =>
    have hnumber : IsJsonNumber (Binary64.finite negative digits e).text.toList :=
      Numeral.isJsonNumber_float rfl
    exact .of_isText (.number hnumber) (by simp [hspecial, Binary64.isFinite])
  | infinite negative =>
    refine ⟨(shows_plain ?_).congr ?_, fun h => absurd (hspecial.2 rfl) h⟩
    · cases negative <;> decide
    · rw [hspecial]
      cases negative <;> decide
  | nan =>
    refine ⟨(shows_plain (by decide)).congr ?_, fun h => absurd (hspecial.2 rfl) h⟩
    rw [hspecial]
    decide

theorem jsonInt_eq_ok {n : Int} {s : String} :
    Value.jsonInt n = .ok s ↔ Text.isWritable n = true ∧ s = toString n := by
  unfold Value.jsonInt
  by_cases h : Text.isWritable n = true
  · rw [if_pos h, pure_eq_ok, eq_comm, and_iff_right h]
  · rw [if_neg h]
    exact iff_of_false throw_ne_ok fun hs => h hs.1

theorem isString_jsonKey {k : Value} (h : Value.jsonKey k = .ok cs) : IsString cs := by
  cases k with
  | str s => cases h; exact isString_jsonString _
  | fieldType t => cases h; exact isString_jsonString _
  | null => cases h; exact isString_jsonString _
  | bool b => cases h; exact isString_jsonString _
  | int n =>
    obtain ⟨text, -, rfl⟩ := map_eq_ok.1 h
    exact isString_jsonString text
  | float x => cases h; exact isString_jsonString _
  | _ => cases h

theorem encodes_array (h : List.Forall₂ Encodes parts xs)
    (hv : HoldsSpecial v ↔ ∃ y ∈ xs, HoldsSpecial y) :
    Encodes ('[' :: ([','].intercalate parts ++ [']'])) v := by
  have hshows := shows_intercalate (h.imp fun _ _ he => he.shows)
  refine ⟨(hshows.congr hv.symm).bracketed (by decide) (by decide), fun hnone => ?_⟩
  refine .array blank_nil fun item hitem => ?_
  obtain ⟨x, hx, he⟩ := exists_left_of_forall₂ h.flip hitem
  exact he.isText fun hspecial => hnone (hv.2 ⟨x, hx, hspecial⟩)

/-- A member of an object and the entry of a mapping that it is written for. -/
structure EncodesEntry (m : List Char × List Char) (e : Value × Value) : Prop where
  key : IsString m.1
  value : Encodes m.2 e.2

theorem EncodesEntry.shows {m : List Char × List Char} {e : Value × Value} (h : EncodesEntry m e) :
    Shows (m.1 ++ ':' :: m.2) (HoldsSpecial e.2) :=
  shows_member h.key.shows h.value.shows

theorem encodes_object {members : List (List Char × List Char)}
    (h : List.Forall₂ EncodesEntry members es) :
    Encodes ('\x7b' :: ([','].intercalate (memberTexts members) ++ ['\x7d'])) (.map es) := by
  have hshows := shows_intercalate (List.forall₂_map_left_iff.2 (h.imp fun _ _ he => he.shows))
  refine ⟨(hshows.congr holdsSpecial_map.symm).bracketed (by decide) (by decide), fun hnone => ?_⟩
  have hentry : ∀ m ∈ members, IsString m.1 ∧ IsText m.2 := by
    intro m hm
    obtain ⟨e, he, hentry⟩ := exists_left_of_forall₂ h.flip hm
    exact ⟨hentry.key, hentry.value.isText fun hspecial => hnone (holdsSpecial_map.2 ⟨e, he, hspecial⟩)⟩
  have hkeys : ∀ m ∈ members, Padded IsString m.1 := by
    intro m hm
    have hpadded := Padded.intro blank_nil (hentry m hm).1 blank_nil
    rwa [List.nil_append, List.append_nil] at hpadded
  exact .object blank_nil hkeys fun m hm => (hentry m hm).2

mutual

theorem encodes_of_json {v : Value} {cs : List Char} (h : v.json = .ok cs) : Encodes cs v := by
  match v with
  | .null =>
    cases pure_eq_ok.1 h
    exact .of_isText (.word (by decide)) (by rintro ⟨_, -, ⟨⟩⟩)
  | .bool b =>
    cases pure_eq_ok.1 h
    exact .of_isText (.word (by cases b <;> decide)) (by rintro ⟨_, -, ⟨⟩⟩)
  | .int n =>
    obtain ⟨text, htext, rfl⟩ := map_eq_ok.1 h
    obtain ⟨-, rfl⟩ := jsonInt_eq_ok.1 htext
    exact .of_isText (.number (Numeral.isJsonNumber_int n)) (by rintro ⟨_, -, ⟨⟩⟩)
  | .float x =>
    cases pure_eq_ok.1 h
    exact encodes_float x
  | .str s =>
    cases pure_eq_ok.1 h
    exact .of_isText (.string (isString_jsonString s)) (by rintro ⟨_, -, ⟨⟩⟩)
  | .fieldType t =>
    cases pure_eq_ok.1 h
    exact .of_isText (.string (isString_jsonString _)) (by rintro ⟨_, -, ⟨⟩⟩)
  | .list xs =>
    rw [Value.json] at h
    obtain ⟨parts, hparts, h⟩ := bind_eq_ok.1 h
    cases pure_eq_ok.1 h
    exact encodes_array (encodes_of_jsonItems hparts) holdsSpecial_list
  | .tuple xs =>
    rw [Value.json] at h
    obtain ⟨parts, hparts, h⟩ := bind_eq_ok.1 h
    cases pure_eq_ok.1 h
    exact encodes_array (encodes_of_jsonItems hparts) holdsSpecial_tuple
  | .map es =>
    rw [Value.json] at h
    obtain ⟨parts, hparts, h⟩ := bind_eq_ok.1 h
    cases pure_eq_ok.1 h
    obtain ⟨members, rfl, hmembers⟩ := encodes_of_jsonEntries hparts
    exact encodes_object hmembers
  | .decimal _ | .dateTime _ | .date _ | .bytes _ | .pattern _ | .typeTag _ | .deferred _ | .foreign _
  | .set _ => exact absurd h throw_ne_ok

theorem encodes_of_jsonItems {xs : List Value} {parts : List (List Char)}
    (h : Value.jsonItems xs = .ok parts) : List.Forall₂ Encodes parts xs := by
  match xs with
  | [] =>
    cases pure_eq_ok.1 h
    exact .nil
  | x :: xs =>
    rw [Value.jsonItems] at h
    obtain ⟨first, hfirst, h⟩ := bind_eq_ok.1 h
    obtain ⟨rest, hrest, h⟩ := bind_eq_ok.1 h
    cases pure_eq_ok.1 h
    exact .cons (encodes_of_json hfirst) (encodes_of_jsonItems hrest)

theorem encodes_of_jsonEntries {es : List (Value × Value)} {parts : List (List Char)}
    (h : Value.jsonEntries es = .ok parts) :
    ∃ members, parts = memberTexts members ∧ List.Forall₂ EncodesEntry members es := by
  match es with
  | [] =>
    cases pure_eq_ok.1 h
    exact ⟨[], rfl, .nil⟩
  | (k, v) :: es =>
    rw [Value.jsonEntries] at h
    obtain ⟨key, hkey, h⟩ := bind_eq_ok.1 h
    obtain ⟨value, hvalue, h⟩ := bind_eq_ok.1 h
    obtain ⟨rest, hrest, h⟩ := bind_eq_ok.1 h
    cases pure_eq_ok.1 h
    obtain ⟨members, rfl, hmembers⟩ := encodes_of_jsonEntries hrest
    exact ⟨(key, value) :: members, rfl, .cons ⟨isString_jsonKey hkey, encodes_of_json hvalue⟩ hmembers⟩

end

theorem isText_json_iff {v : Value} {cs : List Char} (h : v.json = .ok cs) :
    IsText cs ↔ ¬HoldsSpecial v := by
  have hencodes := encodes_of_json h
  exact ⟨fun htext hspecial => htext.shows.showsName_iff.1 (hencodes.shows.showsName_iff.2 hspecial),
    hencodes.isText⟩

end Values

/-! ### What has an encoding -/

/-- What JSON can write, as a key or elsewhere. -/
def isWritable (inKey : Bool) : Value → Bool
  | .null | .bool _ | .float _ | .str _ | .fieldType _ => true
  | .int n => Text.isWritable n
  | .list _ | .tuple _ | .map _ => !inKey
  | _ => false

/-- Everything that stands in a value can be written there. -/
def AllWritable (v : Value) : Prop :=
  ∀ x inKey, Occurs x inKey v → isWritable inKey x = true

theorem allWritable_list {xs : List Value} : AllWritable (.list xs) ↔ ∀ y ∈ xs, AllWritable y := by
  constructor
  · exact fun h y hy x inKey hx => h x inKey (.list hy hx)
  · intro h x inKey hx
    cases hx with
    | here => rfl
    | list hy hx => exact h _ hy x inKey hx

theorem allWritable_tuple {xs : List Value} : AllWritable (.tuple xs) ↔ ∀ y ∈ xs, AllWritable y := by
  constructor
  · exact fun h y hy x inKey hx => h x inKey (.tuple hy hx)
  · intro h x inKey hx
    cases hx with
    | here => rfl
    | tuple hy hx => exact h _ hy x inKey hx

theorem isWritable_of_occurs {k x : Value} {inKey : Bool} (hk : isWritable true k = true)
    (hx : Occurs x inKey k) : isWritable true x = true := by
  cases hx with
  | here => exact hk
  | list | tuple | entry | key => exact absurd hk Bool.false_ne_true

theorem allWritable_map {es : List (Value × Value)} :
    AllWritable (.map es) ↔ ∀ e ∈ es, isWritable true e.1 = true ∧ AllWritable e.2 := by
  constructor
  · exact fun h e he => ⟨h _ _ (.key he .here), fun x inKey hx => h x inKey (.entry he hx)⟩
  · intro h x inKey hx
    cases hx with
    | here => rfl
    | entry he hx => exact (h _ he).2 x inKey hx
    | key he hx => exact isWritable_of_occurs (h _ he).1 hx

theorem exists_jsonInt_iff {α : Type} (n : Int) (f : String → α) :
    (∃ cs, (Value.jsonInt n).map f = .ok cs) ↔ Text.isWritable n = true := by
  simp [map_eq_ok, jsonInt_eq_ok]

theorem exists_jsonKey_iff (k : Value) : (∃ cs, Value.jsonKey k = .ok cs) ↔ isWritable true k = true := by
  cases k with
  | int n => exact exists_jsonInt_iff n _
  | _ => simp [Value.jsonKey, isWritable, pure, Except.pure, throw, throwThe, MonadExceptOf.throw]

mutual

theorem exists_json_iff (v : Value) : (∃ cs, v.json = .ok cs) ↔ AllWritable v := by
  match v with
  | .null | .bool _ | .float _ | .str _ | .fieldType _ =>
    refine iff_of_true ⟨_, rfl⟩ ?_
    rintro x inKey ⟨⟩
    rfl
  | .int n =>
    refine (exists_jsonInt_iff n _).trans ⟨fun h x inKey hx => ?_, fun h => h _ false .here⟩
    cases hx
    exact h
  | .list xs =>
    rw [allWritable_list, ← exists_jsonItems_iff xs]
    exact exists_bind_pure_iff _ _
  | .tuple xs =>
    rw [allWritable_tuple, ← exists_jsonItems_iff xs]
    exact exists_bind_pure_iff _ _
  | .map es =>
    rw [allWritable_map, ← exists_jsonEntries_iff es]
    exact exists_bind_pure_iff _ _
  | .decimal _ | .dateTime _ | .date _ | .bytes _ | .pattern _ | .typeTag _ | .deferred _ | .foreign _
  | .set _ =>
    refine iff_of_false (fun ⟨_, h⟩ => absurd h throw_ne_ok) fun h => ?_
    exact absurd (h _ _ .here) Bool.false_ne_true

theorem exists_jsonItems_iff (xs : List Value) :
    (∃ parts, Value.jsonItems xs = .ok parts) ↔ ∀ y ∈ xs, AllWritable y := by
  match xs with
  | [] => exact iff_of_true ⟨_, rfl⟩ (List.forall_mem_nil _)
  | x :: xs =>
    rw [List.forall_mem_cons, ← exists_json_iff x, ← exists_jsonItems_iff xs]
    simp only [Value.jsonItems, bind_eq_ok, pure_eq_ok]
    constructor
    · rintro ⟨_, first, hfirst, rest, hrest, -⟩
      exact ⟨⟨first, hfirst⟩, rest, hrest⟩
    · rintro ⟨⟨first, hfirst⟩, rest, hrest⟩
      exact ⟨_, first, hfirst, rest, hrest, rfl⟩

theorem exists_jsonEntries_iff (es : List (Value × Value)) :
    (∃ parts, Value.jsonEntries es = .ok parts) ↔
      ∀ e ∈ es, isWritable true e.1 = true ∧ AllWritable e.2 := by
  match es with
  | [] => exact iff_of_true ⟨_, rfl⟩ (List.forall_mem_nil _)
  | (k, v) :: es =>
    rw [List.forall_mem_cons, ← exists_jsonKey_iff k, ← exists_json_iff v, ← exists_jsonEntries_iff es]
    simp only [Value.jsonEntries, bind_eq_ok, pure_eq_ok]
    constructor
    · rintro ⟨_, key, hkey, value, hvalue, rest, hrest, -⟩
      exact ⟨⟨⟨key, hkey⟩, value, hvalue⟩, rest, hrest⟩
    · rintro ⟨⟨⟨key, hkey⟩, value, hvalue⟩, rest, hrest⟩
      exact ⟨_, key, hkey, value, hvalue, rest, hrest, rfl⟩

end

/-! ### What an encoding is refused for -/

/-- An encoding shows every number of what it encodes. It is refused for something of a class without a
JSON form, or for a number that it cannot show. -/
def Discerns {α : Type} (showable : Bool) : Except Fault α → Prop
  | .ok _ => showable = true
  | .error f => f.family = .wrongType ∨ f = .tooManyDigits none ∧ showable = false

theorem Discerns.bind {α β : Type} {a b : Bool} {x : Except Fault α} {g : α → Except Fault β}
    (hx : Discerns a x) (hg : ∀ v, x = .ok v → Discerns b (g v)) : Discerns (a && b) (x >>= g) := by
  cases x with
  | ok v =>
    obtain rfl : a = true := hx
    exact hg v rfl
  | error f =>
    refine hx.imp_right fun h => ⟨h.1, ?_⟩
    rw [h.2, Bool.false_and]

theorem Discerns.pure {α β : Type} {a : Bool} {x : Except Fault α} (hx : Discerns a x) (g : α → β) :
    Discerns a (x >>= fun v => Pure.pure (g v)) := by
  cases x with
  | ok v => exact hx
  | error f => exact hx

theorem discerns_jsonInt {α : Type} (n : Int) (g : String → α) :
    Discerns (Text.isWritable n) ((Value.jsonInt n).map g) := by
  unfold Value.jsonInt
  split_ifs with h
  · exact h
  · exact .inr ⟨rfl, by simpa using h⟩

theorem discerns_jsonKey (k : Value) : Discerns k.isShowable (Value.jsonKey k) := by
  cases k with
  | int n => exact discerns_jsonInt n _
  | null | bool | str | fieldType | float => rfl
  | _ => exact .inl rfl

mutual

theorem discerns_json (v : Value) : Discerns v.isShowable v.json := by
  match v with
  | .null | .bool _ | .float _ | .str _ | .fieldType _ => rfl
  | .int n => exact discerns_jsonInt n _
  | .list xs => exact (discerns_jsonItems xs).pure _
  | .tuple xs => exact (discerns_jsonItems xs).pure _
  | .map es => exact (discerns_jsonEntries es).pure _
  | .decimal _ | .dateTime _ | .date _ | .bytes _ | .pattern _ | .typeTag _ | .deferred _ | .foreign _
  | .set _ => exact .inl rfl

theorem discerns_jsonItems (xs : List Value) :
    Discerns (Value.areShowable xs) (Value.jsonItems xs) := by
  match xs with
  | [] => rfl
  | x :: xs => exact (discerns_json x).bind fun first _ => (discerns_jsonItems xs).pure _

theorem discerns_jsonEntries (es : List (Value × Value)) :
    Discerns (Value.entriesShowable es) (Value.jsonEntries es) := by
  match es with
  | [] => rfl
  | (k, v) :: es =>
    rw [Value.entriesShowable, Bool.and_assoc]
    exact (discerns_jsonKey k).bind fun key _ =>
      (discerns_json v).bind fun value _ => (discerns_jsonEntries es).pure _

end

end Polystore.Json

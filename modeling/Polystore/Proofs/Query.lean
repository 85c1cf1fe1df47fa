import Polystore.Proofs.Filter.Grammar
import Polystore.Query

/-!
# Spellings of sort orders and projections

A sort order is spelled as a list of pairs, as a mapping, or as a text of words with blanks between them; a
projection as a mapping, as such a text, or as a list of names. All spellings of the same names and flags are
read as the same entries, and what has been read is read as itself.

Main statement: `spellings_agree`.
-/

namespace Polystore

/-! ### Words -/

namespace Text

variable {w cs : List Char} {ws : List (List Char)}

/-- A text of words: blanks stand between them, and may stand before and after them. -/
inductive Spaced : List (List Char) → List Char → Prop where
  | nil : Spaced [] []
  | blank {ws : List (List Char)} {c : Char} {cs : List Char} (hc : isBlank c = true)
      (h : Spaced ws cs) : Spaced ws (c :: cs)
  | word {w : List Char} {ws : List (List Char)} {cs : List Char}
      (hend : cs.head?.all isBlank = true) (h : Spaced ws cs) : Spaced (w :: ws) (w ++ cs)

theorem wordsAfter_append (hw : ∀ c ∈ w, isBlank c = false) (current : List Char) :
    wordsAfter current (w ++ cs) = wordsAfter (w.reverse ++ current) cs := by
  induction w generalizing current with
  | nil => rfl
  | cons c w ih =>
    obtain ⟨hc, hw⟩ := List.forall_mem_cons.1 hw
    rw [List.cons_append, wordsAfter, if_neg (by rw [hc]; exact Bool.false_ne_true), ih hw,
      List.reverse_cons, List.append_assoc]
    rfl

/-- A word ends where a blank follows or nothing does. -/
theorem wordsAfter_of_ends (hend : cs.head?.all isBlank = true) (current : List Char) :
    wordsAfter current cs = closeWord current ++ words cs := by
  cases cs with
  | nil => exact (List.append_nil _).symm
  | cons c cs =>
    have hc : isBlank c = true := hend
    rw [words, wordsAfter, wordsAfter, if_pos hc, if_pos hc]
    rfl

theorem words_blank {c : Char} (hc : isBlank c = true) : words (c :: cs) = words cs := by
  rw [words, wordsAfter, if_pos hc]
  rfl

theorem words_of_spaced (h : Spaced ws cs) (hws : ∀ w ∈ ws, w ≠ [] ∧ ∀ c ∈ w, isBlank c = false) :
    words cs = ws := by
  induction h with
  | nil => rfl
  | blank hc _ ih => rw [words_blank hc, ih hws]
  | @word w ws cs hend _ ih =>
    obtain ⟨⟨hne, hw⟩, hws⟩ := List.forall_mem_cons.1 hws
    have hclose : closeWord w.reverse = [w] := by
      cases hrev : w.reverse with
      | nil => exact absurd (List.reverse_eq_nil_iff.1 hrev) hne
      | cons c rest => rw [closeWord, ← hrev, List.reverse_reverse]
    rw [words, wordsAfter_append hw, List.append_nil, wordsAfter_of_ends hend, hclose, ih hws]
    rfl

end Text

namespace Value

variable {v : Value}

/-! ### Numbers -/

theorem isInt_eq_false {m n : Int} (h : v.isInt m = true)
    (hne : (Decimal.ofInt m).normal ≠ (Decimal.ofInt n).normal) : v.isInt n = false := by
  unfold isInt at h ⊢
  cases hnumber : v.number? with
  | none => rfl
  | some d =>
    rw [hnumber] at h
    cases d with
    | nan => rfl
    -- Other numbers are compared by their normal forms, and a value has only one.
    | finite | infinite =>
      have hm := eq_of_beq (show (_ == (Decimal.ofInt m).normal) = true from h)
      exact beq_eq_false_iff_ne.2 fun hn => hne (hm.symm.trans hn)

/-! ### Collections -/

theorem elements_of_sequence? {xs : List Value} (h : v.sequence? = some xs) : v.elements = .ok xs := by
  cases v <;> cases h <;> rfl

theorem eq_nil_of_falsy_sequence {xs : List Value} (h : v.sequence? = some xs) (hfalsy : v.truthy = false) :
    xs = [] := by
  cases v <;> cases h <;> simpa [truthy] using hfalsy

theorem eq_empty_of_falsy_text {s : String} (h : v.text? = some s) (hfalsy : v.truthy = false) :
    s = "" := by
  cases v with
  | str => cases h; simpa [truthy] using hfalsy
  | fieldType => exact Bool.noConfusion hfalsy
  | _ => cases h

theorem eq_nil_of_falsy_map {entries : List (Value × Value)} (hfalsy : (map entries).truthy = false) :
    entries = [] := by
  simpa [truthy] using hfalsy

theorem sameKey_str (a b : String) : (str a).sameKey (str b) = (a == b) := rfl

end Value

namespace Query

open Text (Spaced isBlank)

variable {v : Value} {es : List (String × Bool)}

/-! ### Names and flags -/

/-- A name that stands for itself in a text of names: it is not empty, has no blanks, and does not start
with a minus sign. -/
structure Spellable (name : String) : Prop where
  nonempty : name ≠ ""
  unbroken : ∀ c ∈ name.toList, isBlank c = false
  unmarked : name.toList.head? ≠ some '-'

/-- The word for a name, with a minus sign before it if it is marked. -/
def word (e : String × Bool) : List Char :=
  if e.2 then '-' :: e.1.toList else e.1.toList

/-- The number of a flag, one if it is set and another if it is not. -/
def numberOf (set unset : Int) (flag : Bool) : Int :=
  if flag then set else unset

theorem isOneOf_numbers {set unset : Int} {d : Value} :
    d.isOneOf [unset, set] = .ok true ↔ ∃ flag, d.isInt (numberOf set unset flag) = true := by
  rw [Filter.isOneOf_eq_true, Bool.exists_bool]
  simp [numberOf]

theorem isInt_of_number {set unset : Int} {d : Value} {flag : Bool}
    (hne : (Decimal.ofInt unset).normal ≠ (Decimal.ofInt set).normal)
    (h : d.isInt (numberOf set unset flag) = true) : d.isInt set = flag := by
  cases flag with
  | true => exact h
  | false => exact Value.isInt_eq_false h hne

/-- The entries of a mapping from names to values that are the numbers of their flags. -/
def Flags (number : Bool → Int) (es : List (String × Bool)) (entries : List (Value × Value)) : Prop :=
  List.Forall₂ (fun e entry => entry.1 = .str e.1 ∧ entry.2.isInt (number e.2) = true) es entries

theorem markedNames_of_spaced {s : String} (hes : ∀ e ∈ es, Spellable e.1)
    (h : Spaced (es.map word) s.toList) : markedNames s = es := by
  have hword : ∀ w ∈ es.map word, w ≠ [] ∧ ∀ c ∈ w, isBlank c = false := by
    refine List.forall_mem_map.2 fun e he => ?_
    obtain ⟨hnonempty, hunbroken, -⟩ := hes e he
    unfold word
    split_ifs
    · exact ⟨List.cons_ne_nil _ _, List.forall_mem_cons.2 ⟨by decide, hunbroken⟩⟩
    · exact ⟨mt String.toList_eq_nil_iff.1 hnonempty, hunbroken⟩
  rw [markedNames, Text.words_of_spaced h hword, List.map_map]
  refine (List.map_congr_left fun e he => ?_).trans (List.map_id es)
  obtain ⟨name, marked⟩ := e
  cases marked with
  | true => exact congrArg (·, true) (String.ofList_toList)
  | false =>
    have hunmarked := (hes _ he).unmarked
    simp only [Function.comp_apply, word, Bool.false_eq_true, if_false]
    split
    · rename_i hmark
      exact absurd (congrArg List.head? hmark) hunmarked
    · rw [String.ofList_toList, id]

theorem eq_nil_of_falsy_text {s : String} (hes : ∀ e ∈ es, Spellable e.1)
    (h : Spaced (es.map word) s.toList) (hv : v.text? = some s) (hfalsy : v.truthy = false) : es = [] := by
  rw [← markedNames_of_spaced hes h, Value.eq_empty_of_falsy_text hv hfalsy]
  rfl

/-! ### Sort orders -/

/-- The number of a direction. -/
def directionOf (descending : Bool) : Int :=
  numberOf (-1) 1 descending

theorem isInt_of_direction {d : Value} {descending : Bool} (h : d.isInt (directionOf descending) = true) :
    d.isInt (-1) = descending :=
  isInt_of_number (by decide +kernel) h

/-- A pair of a field and a value that is its direction. -/
inductive PairOf (e : SortEntry) : List Value → Prop where
  | intro (d : Value) (hfield : e.field.truthy = true) (hd : d.isInt (directionOf e.descending) = true) :
      PairOf e [e.field, d]

theorem sortEntry_eq_ok_iff {e : SortEntry} {pair : List Value} :
    sortEntry pair = .ok e ↔ PairOf e pair := by
  constructor
  · intro h
    match pair with
    | [field, d] =>
      obtain ⟨hfield, h⟩ := guard_eq_ok.1 h
      obtain ⟨isDirection, hd, h⟩ := bind_eq_ok.1 h
      cases isDirection with
      | false => exact absurd h throw_ne_ok
      | true =>
        obtain ⟨descending, hdirection⟩ := isOneOf_numbers.1 hd
        rw [if_pos rfl, isInt_of_direction hdirection] at h
        obtain rfl := pure_eq_ok.1 h
        exact .intro d (by simpa using hfield) hdirection
    | [] => exact absurd h throw_ne_ok
    | [_] => exact absurd h throw_ne_ok
    | _ :: _ :: _ :: _ => exact absurd h throw_ne_ok
  · rintro ⟨d, hfield, hd⟩
    refine guard_eq_ok.2 ⟨by simpa using hfield, bind_eq_ok.2 ⟨true, ?_, ?_⟩⟩
    · exact isOneOf_numbers.2 ⟨e.descending, hd⟩
    · rw [if_pos rfl, isInt_of_direction hd]
      rfl

theorem normalizeSort_eq_ok_iff {r : List SortEntry} : normalizeSort v = .ok r ↔
    if v.truthy then ∃ pairs, sortPairs v = .ok pairs ∧ List.Forall₂ PairOf r pairs else r = [] := by
  unfold normalizeSort
  cases v.truthy with
  | true =>
    refine bind_eq_ok.trans (exists_congr fun pairs => and_congr_right fun _ => ?_)
    exact mapM_eq_ok.trans ⟨fun h => (h.imp fun _ _ => sortEntry_eq_ok_iff.1).flip,
      fun h => List.Forall₂.flip (h.imp fun _ _ => sortEntry_eq_ok_iff.2)⟩
  | false => exact pure_eq_ok.trans eq_comm

theorem normalizeSort_of_pairs {pairs : List (List Value)} {r : List SortEntry}
    (hpairs : sortPairs v = .ok pairs) (hfalsy : v.truthy = false → pairs = [])
    (h : List.Forall₂ PairOf r pairs) : normalizeSort v = .ok r := by
  refine normalizeSort_eq_ok_iff.2 ?_
  split_ifs with htruthy
  · exact ⟨pairs, hpairs, h⟩
  · rw [hfalsy (Bool.eq_false_iff.2 htruthy)] at h
    exact List.forall₂_nil_right_iff.1 h

/-- The entries of a sort order; marked names are descending. -/
def sortOf (es : List (String × Bool)) : List SortEntry :=
  es.map fun e => ⟨.str e.1, e.2⟩

/-- The spellings of a sort order: a list or tuple of pairs, a mapping, and a text. -/
inductive SortSpelling (es : List (String × Bool)) : Value → Prop where
  | pairs {v : Value} {items : List Value} (hv : v.sequence? = some items)
      (h : List.Forall₂ (fun e item => ∃ d, item.sequence? = some [.str e.1, d] ∧
        d.isInt (directionOf e.2) = true) es items) : SortSpelling es v
  | mapping {entries : List (Value × Value)} (h : Flags directionOf es entries) :
      SortSpelling es (.map entries)
  | text {v : Value} {s : String} (hv : v.text? = some s) (h : Spaced (es.map word) s.toList) :
      SortSpelling es v

theorem sortPairs_of_sequence? {items : List Value} (h : v.sequence? = some items) :
    sortPairs v = items.mapM Value.elements := by
  cases v <;> cases h <;> rfl

theorem forall₂_pairOf {α : Type} {f : α → List Value} {xs : List α} (hes : ∀ e ∈ es, Spellable e.1)
    (h : List.Forall₂ (fun e x => ∃ d, f x = [.str e.1, d] ∧ d.isInt (directionOf e.2) = true) es xs) :
    List.Forall₂ PairOf (sortOf es) (xs.map f) := by
  induction h with
  | nil => exact .nil
  | cons hpair _ ih =>
    obtain ⟨he, hes⟩ := List.forall_mem_cons.1 hes
    obtain ⟨d, hf, hd⟩ := hpair
    refine .cons ?_ (ih hes)
    rw [hf]
    exact .intro d (bne_iff_ne.2 he.nonempty) hd

theorem normalizeSort_of_spelling (hes : ∀ e ∈ es, Spellable e.1) (h : SortSpelling es v) :
    normalizeSort v = .ok (sortOf es) := by
  cases h with
  | @pairs _ items hv h =>
    have helements : ∀ item ∈ items, item.elements = .ok (item.sequence?.getD []) := by
      intro item hitem
      obtain ⟨e, -, d, hpair, -⟩ := exists_left_of_forall₂ h hitem
      rw [hpair, Value.elements_of_sequence? hpair]
      rfl
    have hpairs : items.mapM Value.elements = .ok (items.map fun item => item.sequence?.getD []) :=
      mapM_eq_ok.2 (List.forall₂_map_right_iff.2 (List.forall₂_same.2 helements))
    refine normalizeSort_of_pairs ((sortPairs_of_sequence? hv).trans hpairs) (fun hfalsy => ?_)
      (forall₂_pairOf hes (h.imp fun e item ⟨d, hpair, hd⟩ => ⟨d, by rw [hpair]; rfl, hd⟩))
    rw [Value.eq_nil_of_falsy_sequence hv hfalsy]
    rfl
  | @mapping entries h =>
    have hpairs : sortPairs (.map entries) = .ok (entries.map fun entry => [entry.1, entry.2]) := rfl
    refine normalizeSort_of_pairs hpairs (fun hfalsy => ?_)
      (forall₂_pairOf hes (h.imp fun e entry ⟨hname, hd⟩ => ⟨_, by rw [hname], hd⟩))
    rw [Value.eq_nil_of_falsy_map hfalsy]
    rfl
  | @text _ s hv h =>
    have hpairs : sortPairs v = .ok (es.map fun e => [.str e.1, .int (directionOf e.2)]) := by
      simp only [sortPairs, hv, markedNames_of_spaced hes h]
      rfl
    -- A text of blanks alone does not count as nothing, but it has no pairs either.
    refine normalizeSort_of_pairs hpairs (fun hfalsy => ?_)
      (forall₂_pairOf hes (List.forall₂_same.2 fun e _ => ⟨_, rfl, Value.isInt_int_iff.2 rfl⟩))
    rw [eq_nil_of_falsy_text hes h hv hfalsy]
    rfl

/-- A sort order as a list of pairs. -/
def sortValue (entries : List SortEntry) : Value :=
  .list (entries.map fun e => .tuple [e.field, .int e.direction])

theorem truthy_of_normalizeSort {r : List SortEntry} (h : normalizeSort v = .ok r) :
    ∀ e ∈ r, e.field.truthy = true := by
  intro e he
  rw [normalizeSort_eq_ok_iff] at h
  split_ifs at h
  · obtain ⟨pairs, -, hpairs⟩ := h
    obtain ⟨pair, -, d, hfield, -⟩ := exists_left_of_forall₂ hpairs.flip he
    exact hfield
  · exact absurd (h ▸ he) List.not_mem_nil

theorem normalizeSort_sortValue {r : List SortEntry} (h : normalizeSort v = .ok r) :
    normalizeSort (sortValue r) = .ok r := by
  have hpairs : sortPairs (sortValue r) = .ok (r.map fun e => [e.field, .int e.direction]) :=
    mapM_eq_ok.2 (List.forall₂_map_left_iff.2 (List.forall₂_map_right_iff.2
      (List.forall₂_same.2 fun _ _ => rfl)))
  refine normalizeSort_of_pairs hpairs (fun hfalsy => ?_) (List.forall₂_map_right_iff.2
    (List.forall₂_same.2 fun e he => .intro _ (truthy_of_normalizeSort h e he) (Value.isInt_int_iff.2 rfl)))
  rw [List.map_eq_nil_iff.1 (Value.eq_nil_of_falsy_sequence rfl hfalsy)]
  rfl

/-! ### Projections -/

/-- The number that shows a field or leaves it out. -/
def flagOf (included : Bool) : Int :=
  numberOf 1 0 included

theorem isInt_of_flag {d : Value} {included : Bool} (h : d.isInt (flagOf included) = true) :
    d.isInt 1 = included :=
  isInt_of_number (by decide +kernel) h

theorem flaggedEntry_eq_ok_iff {entry : Value × Value} {e : ProjectionEntry} :
    flaggedEntry entry = .ok e ↔ entry.1 = e.field ∧ entry.2.isInt (flagOf e.included) = true := by
  unfold flaggedEntry
  rw [bind_eq_ok]
  constructor
  · rintro ⟨isFlag, hflag, h⟩
    cases isFlag with
    | false => exact absurd h throw_ne_ok
    | true =>
      obtain ⟨included, hincluded⟩ := isOneOf_numbers.1 hflag
      rw [if_pos rfl, isInt_of_flag hincluded] at h
      obtain rfl := pure_eq_ok.1 h
      exact ⟨rfl, hincluded⟩
  · rintro ⟨hfield, hflag⟩
    refine ⟨true, isOneOf_numbers.2 ⟨e.included, hflag⟩, ?_⟩
    rw [if_pos rfl, isInt_of_flag hflag, hfield]
    rfl

theorem normalizeProjection_map (entries : List (Value × Value)) :
    normalizeProjection (.map entries) = entries.mapM flaggedEntry := by
  cases entries <;> rfl

theorem normalizeProjection_map_eq_ok_iff {entries : List (Value × Value)} {r : List ProjectionEntry} :
    normalizeProjection (.map entries) = .ok r ↔ List.Forall₂
      (fun entry e => entry.1 = e.field ∧ entry.2.isInt (flagOf e.included) = true) entries r := by
  rw [normalizeProjection_map, mapM_eq_ok]
  simp only [flaggedEntry_eq_ok_iff]

/-- Two entries are for different fields. -/
def Differ (e e' : ProjectionEntry) : Prop :=
  e.field.sameKey e'.field = false

theorem putEntry_of_differ {entries : List ProjectionEntry} {e : ProjectionEntry}
    (h : ∀ o ∈ entries, Differ o e) : putEntry entries e = entries ++ [e] := by
  refine if_neg ?_
  rw [List.any_eq_true]
  rintro ⟨o, ho, hsame⟩
  exact Bool.false_ne_true ((h o ho).symm.trans hsame)

theorem foldl_putEntry {entries es : List ProjectionEntry} (h : (entries ++ es).Pairwise Differ) :
    es.foldl putEntry entries = entries ++ es := by
  induction es generalizing entries with
  | nil => exact (List.append_nil _).symm
  | cons e es ih =>
    have hcross := (List.pairwise_append.1 h).2.2
    rw [List.foldl_cons, putEntry_of_differ fun o ho => hcross o ho e List.mem_cons_self, ih]
    · exact (List.append_cons entries e es).symm
    · rwa [List.append_assoc]

theorem pairwise_putEntry {entries : List ProjectionEntry} (h : entries.Pairwise Differ)
    (e : ProjectionEntry) : (putEntry entries e).Pairwise Differ := by
  unfold putEntry
  split_ifs with hany
  · refine List.pairwise_map.2 (h.imp fun {a b} hab => ?_)
    split_ifs <;> exact hab
  · refine List.pairwise_append.2 ⟨h, List.pairwise_singleton _ _, fun o ho e' he' => ?_⟩
    rw [List.mem_singleton.1 he']
    exact Bool.eq_false_iff.2 fun hsame => hany (List.any_eq_true.2 ⟨o, ho, hsame⟩)

theorem pairwise_foldl_putEntry {entries es : List ProjectionEntry} (h : entries.Pairwise Differ) :
    (es.foldl putEntry entries).Pairwise Differ := by
  induction es generalizing entries with
  | nil => exact h
  | cons e es ih => exact ih (pairwise_putEntry h e)

theorem normalizeProjection_text {s : String} (hv : v.text? = some s) :
    normalizeProjection v =
      .ok (((markedNames s).map fun e => ⟨.str e.1, !e.2⟩).foldl putEntry []) := by
  unfold normalizeProjection
  cases htruthy : v.truthy with
  | true =>
    simp only [hv, List.foldl_map]
    rfl
  | false =>
    rw [Value.eq_empty_of_falsy_text hv htruthy]
    rfl

theorem normalizeProjection_sequence {names : List Value} (hv : v.sequence? = some names)
    (hkeys : names.forM Value.checkKey = .ok ()) :
    normalizeProjection v = .ok ((names.map fun n => ⟨n, true⟩).foldl putEntry []) := by
  have htext : v.text? = none := by cases v <;> cases hv <;> rfl
  have hentries : v.entries? = none := by cases v <;> cases hv <;> rfl
  unfold normalizeProjection
  cases htruthy : v.truthy with
  | true =>
    simp only [htext, hentries, List.foldl_map]
    exact bind_eq_ok.2 ⟨names, Value.elements_of_sequence? hv, bind_eq_ok.2 ⟨(), hkeys, rfl⟩⟩
  | false =>
    rw [Value.eq_nil_of_falsy_sequence hv htruthy]
    rfl

theorem normalizeProjection_eq_ok {r : List ProjectionEntry} (h : normalizeProjection v = .ok r) :
    (∃ entries, v = .map entries) ∨ ∃ es : List ProjectionEntry, es.foldl putEntry [] = r := by
  cases htext : v.text? with
  | some s =>
    rw [normalizeProjection_text htext] at h
    exact .inr ⟨_, Except.ok.inj h⟩
  | none =>
    unfold normalizeProjection at h
    split at h
    · exact .inr ⟨[], pure_eq_ok.1 h⟩
    · rw [htext] at h
      cases hentries : v.entries? with
      | some entries =>
        cases v <;> cases hentries
        exact .inl ⟨_, rfl⟩
      | none =>
        rw [hentries] at h
        obtain ⟨names, -, h⟩ := bind_eq_ok.1 h
        obtain ⟨-, -, h⟩ := bind_eq_ok.1 h
        refine .inr ⟨names.map fun n => ⟨n, true⟩, ?_⟩
        rw [List.foldl_map]
        exact pure_eq_ok.1 h

theorem pairwise_normalizeProjection {r : List ProjectionEntry} (h : normalizeProjection v = .ok r)
    (hkeys : ∀ entries, v = .map entries → (entries.map Prod.fst).Pairwise fun k k' => k.sameKey k' = false) :
    r.Pairwise Differ := by
  rcases normalizeProjection_eq_ok h with ⟨entries, rfl⟩ | ⟨es, rfl⟩
  · have hfields : entries.map Prod.fst = r.map ProjectionEntry.field := by
      have hentries := normalizeProjection_map_eq_ok_iff.1 h
      exact List.forall₂_eq_eq_eq ▸ List.forall₂_map_left_iff.2
        (List.forall₂_map_right_iff.2 (hentries.imp fun _ _ hentry => hentry.1))
    have hdistinct := hkeys entries rfl
    rw [hfields] at hdistinct
    exact List.Pairwise.of_map ProjectionEntry.field (fun _ _ hdiffer => hdiffer) hdistinct
  · exact pairwise_foldl_putEntry List.Pairwise.nil

theorem normalizeProjection_projectionValue (r : List ProjectionEntry) :
    normalizeProjection (projectionValue r) = .ok r :=
  normalizeProjection_map_eq_ok_iff.2 (List.forall₂_map_left_iff.2
    (List.forall₂_same.2 fun _ _ => ⟨rfl, Value.isInt_int_iff.2 rfl⟩))

/-- The entries of a projection; marked names are left out. -/
def projectionOf (es : List (String × Bool)) : List ProjectionEntry :=
  es.map fun e => ⟨.str e.1, !e.2⟩

/-- The spellings of a projection: a mapping, a text, and a list or tuple of names if none is left out. -/
inductive ProjectionSpelling (es : List (String × Bool)) : Value → Prop where
  | mapping {entries : List (Value × Value)} (h : Flags (fun marked => flagOf !marked) es entries) :
      ProjectionSpelling es (.map entries)
  | text {v : Value} {s : String} (hv : v.text? = some s) (h : Spaced (es.map word) s.toList) :
      ProjectionSpelling es v
  | names {v : Value} (hv : v.sequence? = some (es.map fun e => .str e.1))
      (hall : ∀ e ∈ es, e.2 = false) : ProjectionSpelling es v

theorem foldl_putEntry_projectionOf (hdistinct : (es.map Prod.fst).Nodup) :
    (projectionOf es).foldl putEntry [] = projectionOf es := by
  have hdiffer : ([] ++ projectionOf es).Pairwise Differ := by
    refine List.pairwise_map.2 ((List.pairwise_map.1 hdistinct).imp fun {a b} hab => ?_)
    rw [Differ, Value.sameKey_str]
    exact beq_false_of_ne hab
  exact foldl_putEntry hdiffer

theorem checkKeys_names (es : List (String × Bool)) :
    (es.map fun e => Value.str e.1).forM Value.checkKey = .ok () := by
  induction es with
  | nil => rfl
  | cons e es ih => exact bind_eq_ok.2 ⟨(), rfl, ih⟩

theorem normalizeProjection_of_spelling (hdistinct : (es.map Prod.fst).Nodup)
    (hes : ∀ e ∈ es, Spellable e.1) (h : ProjectionSpelling es v) :
    normalizeProjection v = .ok (projectionOf es) := by
  cases h with
  | mapping h =>
    refine normalizeProjection_map_eq_ok_iff.2 (List.forall₂_map_right_iff.2 ?_)
    exact List.Forall₂.flip h
  | text hv h =>
    rw [normalizeProjection_text hv, markedNames_of_spaced hes h]
    exact congrArg Except.ok (foldl_putEntry_projectionOf hdistinct)
  | names hv hall =>
    have hincluded : (es.map fun e => Value.str e.1).map (fun n => (⟨n, true⟩ : ProjectionEntry)) =
        projectionOf es := by
      rw [List.map_map]
      exact List.map_congr_left fun e he => by rw [hall e he]; rfl
    rw [normalizeProjection_sequence hv (checkKeys_names es), hincluded,
      foldl_putEntry_projectionOf hdistinct]

/-- Whatever names are given, each in ascending or descending order, or each to be shown or left out: every
spelling of them is read as the same entries. What is read of any value is read again as itself, as a list
of pairs or as a mapping; and no two keys of that mapping are the same. -/
theorem spellings_agree :
    (∀ es : List (String × Bool), (es.map Prod.fst).Nodup → (∀ e ∈ es, Spellable e.1) →
      (∀ v, SortSpelling es v → normalizeSort v = .ok (sortOf es)) ∧
      ∀ v, ProjectionSpelling es v → normalizeProjection v = .ok (projectionOf es)) ∧
    (∀ v r, normalizeSort v = .ok r → normalizeSort (sortValue r) = .ok r) ∧
    ∀ v r, normalizeProjection v = .ok r → normalizeProjection (projectionValue r) = .ok r ∧
      ((∀ entries, v = .map entries →
        (entries.map Prod.fst).Pairwise fun k k' => k.sameKey k' = false) → r.Pairwise Differ) :=
  ⟨fun _ hdistinct hes => ⟨fun _ => normalizeSort_of_spelling hes,
      fun _ => normalizeProjection_of_spelling hdistinct hes⟩,
    fun _ _ => normalizeSort_sortValue,
    fun _ r h => ⟨normalizeProjection_projectionValue r, pairwise_normalizeProjection h⟩⟩

/-- Two names, the second one marked. -/
def nameAndAge : List (String × Bool) :=
  [("name", false), ("age", true)]

theorem spellable_nameAndAge : ∀ e ∈ nameAndAge, Spellable e.1 := by
  have hall : ∀ e ∈ nameAndAge, e.1 ≠ "" ∧ e.1.toList.all (fun c => !isBlank c) = true ∧
      e.1.toList.head? ≠ some '-' := by decide
  exact fun e he => ⟨(hall e he).1, fun c hc => by simpa using List.all_eq_true.1 (hall e he).2.1 c hc,
    (hall e he).2.2⟩

theorem spaced_nameAndAge : Spaced (nameAndAge.map word) "\tname  -age".toList := by
  show Spaced ["name".toList, "-age".toList]
    ('\t' :: ("name".toList ++ ' ' :: ' ' :: ("-age".toList ++ [])))
  exact .blank (by decide) (.word rfl (.blank (by decide) (.blank (by decide) (.word rfl .nil))))

/-- A text, a mapping with a truth value for the direction, and a list of pairs are one sort order; the text
and a mapping are one projection. -/
theorem spellings_agree_of_nameAndAge :
    normalizeSort (.str "\tname  -age") = .ok (sortOf nameAndAge) ∧
    normalizeSort (.map [(.str "name", .bool true), (.str "age", .int (-1))]) =
      .ok (sortOf nameAndAge) ∧
    normalizeSort (sortValue (sortOf nameAndAge)) = .ok (sortOf nameAndAge) ∧
    normalizeProjection (.str "\tname  -age") = .ok (projectionOf nameAndAge) ∧
    normalizeProjection (projectionValue (projectionOf nameAndAge)) = .ok (projectionOf nameAndAge) := by
  obtain ⟨hagree, hsort, hprojection⟩ := spellings_agree
  obtain ⟨hsorts, hprojections⟩ := hagree nameAndAge (by decide) spellable_nameAndAge
  have htext := hsorts (.str "\tname  -age") (.text rfl spaced_nameAndAge)
  have hmapping : Flags directionOf nameAndAge [(.str "name", .bool true), (.str "age", .int (-1))] :=
    .cons ⟨rfl, by decide +kernel⟩ (.cons ⟨rfl, by decide +kernel⟩ .nil)
  have hnames := hprojections (.str "\tname  -age") (.text rfl spaced_nameAndAge)
  exact ⟨htext, hsorts _ (.mapping hmapping), hsort _ _ htext, hnames, (hprojection _ _ hnames).1⟩

end Query

end Polystore

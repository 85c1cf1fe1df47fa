import Polystore.Proofs.Document.Readback

/-!
# Conditions in their places

A condition that is written in a sub-filter stands in the native filter at the same place: under the
same groups, in the child of the same number, under the same field. `Becomes` relates the two on one
level, and is kept from a level to the next.
-/

namespace Polystore

namespace Filter

/-! ### Places -/

/-- The way down to a sub-filter: a group and the number of a child, one after the other. -/
abbrev Place := List (Connective × Nat)

/-- The entries of the sub-filter at a place. -/
def entriesAt? : Place → Value → Option (List (Value × Value))
  | [], .map es => some es
  | (c, i) :: place, .map es =>
    ((Value.lookup c.symbol es).bind Value.sequence?).bind fun xs => xs[i]?.bind (entriesAt? place)
  | _, _ => none

/-- What stands under a field of the sub-filter at a place. -/
def fieldAt? (place : Place) (field : String) (document : Value) : Option Value :=
  (entriesAt? place document).bind (Value.lookup field)

theorem entriesAt?_cons_eq_some {c : Connective} {i : Nat} {place : Place}
    {es fs : List (Value × Value)} :
    entriesAt? ((c, i) :: place) (.map es) = some fs ↔
      ∃ v xs x, Value.lookup c.symbol es = some v ∧ v.sequence? = some xs ∧ xs[i]? = some x ∧
        entriesAt? place x = some fs := by
  simp only [entriesAt?, Option.bind_eq_some_iff]
  constructor
  · rintro ⟨xs, ⟨v, hv, hxs⟩, x, hx, hfs⟩
    exact ⟨v, xs, x, hv, hxs, hx, hfs⟩
  · rintro ⟨v, xs, x, hv, hxs, hx, hfs⟩
    exact ⟨xs, ⟨v, hv, hxs⟩, x, hx, hfs⟩

/-! ### The nodes of one key -/

/-- The key that a node is read from. -/
def Node.key : Node → String
  | .leaf l => l.field.text
  | .group c _ => c.symbol

/-- The nodes that are read from a key, of one level. -/
def nodesUnder (key : String) (ns : List Node) : List Node :=
  ns.filter fun n => n.key = key

theorem leavesOn_nodesUnder (field : String) (ns : List Node) :
    leavesOn field (nodesUnder field ns) = leavesOn field ns := by
  induction ns with
  | nil => rfl
  | cons n ns ih =>
    unfold nodesUnder leavesOn at ih ⊢
    by_cases h : n.key = field
    · rw [List.filter_cons_of_pos (by simpa using h), List.filterMap_cons, List.filterMap_cons, ih]
    · have hnone : Node.leafOn? field n = none := by
        cases n with
        | leaf l => exact if_neg h
        | group => rfl
      rw [List.filter_cons_of_neg (by simpa using h), List.filterMap_cons_none hnone, ih]

theorem childrenUnder_nodesUnder (c : Connective) (ns : List Node) :
    childrenUnder c (nodesUnder c.symbol ns) = childrenUnder c ns := by
  induction ns with
  | nil => rfl
  | cons n ns ih =>
    unfold nodesUnder childrenUnder at ih ⊢
    by_cases h : n.key = c.symbol
    · rw [List.filter_cons_of_pos (by simpa using h), List.flatMap_cons, List.flatMap_cons, ih]
    · have hnone : Node.childrenUnder c n = [] := by
        cases n with
        | leaf => rfl
        | group c' => exact if_neg fun heq => h (congrArg Connective.symbol heq)
      rw [List.filter_cons_of_neg (by simpa using h), List.flatMap_cons, hnone, ih, List.nil_append]

variable {limit : Int} {depth : Nat}

theorem EntryGives.key_eq {name : Name} {v : Value} {ns : List Node}
    (h : EntryGives limit depth name v ns) : ∀ n ∈ ns, n.key = name.text := by
  intro n hn
  cases h with
  | field hkey hread =>
    obtain ⟨ls, rfl, hls⟩ := formed_of_readField hkey hread
    obtain ⟨l, hl, rfl⟩ := List.mem_map.1 hn
    exact congrArg Name.text (hls l hl).1
  | group hkey =>
    rw [List.mem_singleton.1 hn]
    exact hkey.symm

theorem key_mem_of_readEntries {es : List (Value × Value)} {ns : List Node}
    (h : readEntries limit depth es = .ok ns) : ∀ n ∈ ns, n.key ∈ Value.keyTexts es := by
  induction es generalizing ns with
  | nil =>
    rw [readEntries, pure_eq_ok] at h
    simp [← h]
  | cons e es ih =>
    obtain ⟨name, first, rest, hname, hfirst, hrest, rfl⟩ := readEntries_cons_eq_ok.1 h
    intro n hn
    rw [Value.keyTexts_cons hname]
    rcases List.mem_append.1 hn with hn | hn
    · exact List.mem_cons.2 (.inl (hfirst.key_eq n hn))
    · exact List.mem_cons_of_mem _ (ih hrest n hn)

theorem entryGives_nodesUnder {es : List (Value × Value)} {ns : List Node} {key : String} {v : Value}
    (hnodup : (Value.keyTexts es).Nodup) (h : readEntries limit depth es = .ok ns)
    (hlookup : Value.lookup key es = some v) :
    ∃ name, name.text = key ∧ EntryGives limit depth name v (nodesUnder key ns) := by
  induction es generalizing ns with
  | nil => exact absurd hlookup (by simp [Value.lookup])
  | cons e es ih =>
    obtain ⟨k, w⟩ := e
    obtain ⟨name, first, rest, hname, hfirst, hrest, rfl⟩ := readEntries_cons_eq_ok.1 h
    rw [Value.keyTexts_cons hname, List.nodup_cons] at hnodup
    rw [Value.lookup_cons, Name.text?_of_ofValue? hname] at hlookup
    unfold nodesUnder at ih ⊢
    rw [List.filter_append]
    by_cases hkey : name.text = key
    · rw [if_pos (by rw [hkey])] at hlookup
      obtain rfl := Option.some.inj hlookup
      have hall : first.filter (fun n => n.key = key) = first :=
        List.filter_eq_self.2 fun n hn => by simp [hfirst.key_eq n hn, hkey]
      have hnone : rest.filter (fun n => n.key = key) = [] := by
        refine List.filter_eq_nil_iff.2 fun n hn => ?_
        have hmem := key_mem_of_readEntries hrest n hn
        simp only [decide_eq_true_eq]
        rintro rfl
        exact hnodup.1 (hkey ▸ hmem)
      rw [hall, hnone, List.append_nil]
      exact ⟨name, hkey, hfirst⟩
    · rw [if_neg fun heq => hkey (Option.some.inj heq)] at hlookup
      have hnone : first.filter (fun n => n.key = key) = [] :=
        List.filter_eq_nil_iff.2 fun n hn => by simp [hfirst.key_eq n hn, hkey]
      rw [hnone, List.nil_append]
      exact ih hnodup.2 hrest hlookup

end Filter

namespace Document

open Polystore.Filter (Leaf Node Connective Place leaves leavesOn childrenUnder nodesUnder entriesAt?
  fieldAt? EntryAsks isAsked optionsOf readField readEntries readChildren readWithin hasOperatorKey)

/-! ### From a level to the next -/

theorem lookup_entries (key : String) (native : Filters) :
    Value.lookup key native.entries = (native.get? key).map Slot.value := by
  induction native with
  | nil => rfl
  | cons f native ih =>
    obtain ⟨name, slot⟩ := f
    have htext : Named.text name = name.text := rfl
    have hcons : Filters.entries ((name, slot) :: native) =
        (name.value, slot.value) :: Filters.entries native := rfl
    rw [hcons, Value.lookup_cons, ih, Name.text?_value, Entries.get?, htext]
    by_cases h : name.text = key <;> simp [h]

theorem exists_getElem?_of_forall₂ {α β : Type} {R : α → β → Prop} {xs : List α} {ys : List β}
    (h : List.Forall₂ R xs ys) {i : Nat} {x : α} (hx : xs[i]? = some x) :
    ∃ y, ys[i]? = some y ∧ R x y := by
  obtain ⟨hi, rfl⟩ := List.getElem?_eq_some_iff.1 hx
  have hi' : i < ys.length := h.length_eq ▸ hi
  exact ⟨ys[i], List.getElem?_eq_getElem hi', h.get hi hi'⟩

/-- Entries with distinct keys are read, and their nodes compiled to a native filter. -/
structure Becomes (limit : Int) (es : List (Value × Value)) (native : Filters) : Prop where
  nodup : (Value.keyTexts es).Nodup
  distinct : Value.EntriesKeysDistinct es
  compiled : ∃ depth ns, readEntries limit depth es = .ok ns ∧ addNodes [] ns = .ok native

variable {limit : Int} {es : List (Value × Value)} {native : Filters}

theorem Becomes.keysDistinct (h : Becomes limit es native) {key : String} {v : Value}
    (hlookup : Value.lookup key es = some v) : v.KeysDistinct := by
  obtain ⟨k, -, hmem⟩ := Value.exists_mem_of_lookup hlookup
  exact Value.entriesKeysDistinct_iff.1 h.distinct (k, v) hmem

theorem Becomes.child (h : Becomes limit es native) {c : Connective} {v x : Value} {xs : List Value}
    {i : Nat} (hlookup : Value.lookup c.symbol es = some v) (hxs : v.sequence? = some xs)
    (hx : xs[i]? = some x) :
    ∃ fs native' ds, x = .map fs ∧ Becomes limit fs native' ∧
      Value.lookup c.symbol native.entries = some (.list ds) ∧ ds[i]? = some native'.value := by
  obtain ⟨depth, ns, hread, hadd⟩ := h.compiled
  have hgathers := gathers_of_addNodes
    (fun l hl => (Filter.formed_of_readEntries hread l hl).known) hadd
  obtain ⟨name, hname, hgives⟩ := Filter.entryGives_nodesUnder h.nodup hread hlookup
  obtain ⟨ds, hds, hget⟩ := hgathers.group c
  rw [← Filter.childrenUnder_nodesUnder] at hds
  generalize nodesUnder c.symbol ns = under at hgives hds
  cases hgives with
  | field hkey =>
    rw [hname, Filter.isOperatorKey_symbol] at hkey
    exact Bool.noConfusion hkey
  | @group c' xs' children hkey hxs' hchildren =>
    obtain rfl : c' = c := Filter.symbol_injective (hkey.symm.trans hname)
    obtain rfl : xs' = xs := Option.some.inj (hxs'.symm.trans hxs)
    have hsame : childrenUnder c' [.group c' children] = children := by
      simp [childrenUnder, Node.childrenUnder]
    rw [hsame] at hds
    obtain ⟨child, hchild, hat⟩ :=
      exists_getElem?_of_forall₂ (Filter.readChildren_eq_ok.1 hchildren) hx
    obtain ⟨fs, rfl, -, hfs⟩ := Filter.readAt_eq_ok.1 hat
    obtain ⟨d, hd, native', hnative', rfl⟩ := exists_getElem?_of_forall₂ hds hchild
    have hkeys : Value.KeysDistinct (.map fs) :=
      Value.allKeysDistinct_iff.1 ((h.keysDistinct hlookup).of_sequence? hxs) _
        (List.mem_of_getElem? hx)
    rw [Value.KeysDistinct] at hkeys
    refine ⟨fs, native', ds, rfl, ⟨hkeys.1, hkeys.2, _, _, hfs, hnative'⟩, ?_, hd⟩
    have hne : ds.isEmpty = false := by
      cases ds with
      | nil => exact absurd hd (by simp)
      | cons => rfl
    rw [lookup_entries, hget, filters?, hne]
    rfl

theorem Becomes.entriesAt (h : Becomes limit es native) {place : Place} {fs : List (Value × Value)}
    (hat : entriesAt? place (.map es) = some fs) :
    ∃ native', Becomes limit fs native' ∧ entriesAt? place native.value = some native'.entries := by
  induction place generalizing es native with
  | nil =>
    obtain rfl : es = fs := Option.some.inj hat
    exact ⟨native, h, by rw [Filters.value_eq]; rfl⟩
  | cons step place ih =>
    obtain ⟨c, i⟩ := step
    obtain ⟨v, xs, x, hv, hxs, hx, hrest⟩ := Filter.entriesAt?_cons_eq_some.1 hat
    obtain ⟨fs', native', ds, rfl, hbecomes, hds, hd⟩ := h.child hv hxs hx
    obtain ⟨native'', hlast, hplace⟩ := ih hbecomes hrest
    refine ⟨native'', hlast, ?_⟩
    rw [Filters.value_eq native]
    exact Filter.entriesAt?_cons_eq_some.2 ⟨_, ds, _, hds, rfl, hd, hplace⟩

theorem Becomes.field (h : Becomes limit es native) {field : String} {operators : List (Value × Value)}
    (hlookup : Value.lookup field es = some (.map operators)) :
    ∃ name ls, name.text = field ∧ readField name (.map operators) = .ok (ls.map .leaf) ∧
      Value.lookup field native.entries = some (slotOf ls).value := by
  obtain ⟨depth, ns, hread, hadd⟩ := h.compiled
  have hgathers := gathers_of_addNodes
    (fun l hl => (Filter.formed_of_readEntries hread l hl).known) hadd
  obtain ⟨name, hname, hgives⟩ := Filter.entryGives_nodesUnder h.nodup hread hlookup
  have hleaves := Filter.leavesOn_nodesUnder field ns
  generalize nodesUnder field ns = under at hgives hleaves
  cases hgives with
  | group hkey hxs => exact absurd hxs (by simp [Value.sequence?])
  | field hkey hfield =>
    obtain ⟨ls, rfl, hls⟩ := Filter.formed_of_readField hkey hfield
    have hon : leavesOn field (ls.map .leaf) = ls :=
      Filter.leavesOn_map_leaf fun l hl => (congrArg Name.text (hls l hl).1).trans hname
    have hne : ls ≠ [] := ne_nil_of_readField (h.keysDistinct hlookup) hfield
    refine ⟨name, ls, hname, hfield, ?_⟩
    rw [lookup_entries, hgathers.field field (hname ▸ hkey), ← hleaves, hon, slot?,
      if_neg (by simpa using hne)]
    rfl

/-! ### Equalities that are spelled out -/

/-- What stands under a field is read as conditions of which one compares the field with a value. -/
def Equates (field : String) (slot v : Value) : Prop :=
  ∃ (name : Name) (ls : List Leaf), name.text = field ∧ readField name slot = .ok (ls.map .leaf) ∧
    ∃ l ∈ ls, l.operator = .eq ∧ l.value = v

/-- A value that stands bare is compared with, unless it has an operator key: then it is taken for
operators, whose operands are smaller than itself. -/
theorem equates_bare_iff {field : String} {v : Value} :
    Equates field v v ↔ hasOperatorKey v = false := by
  constructor
  · rintro ⟨name, ls, -, hread, l, hl, hop, rfl⟩
    rcases Filter.readField_eq_ok.1 hread with ⟨hnone, -⟩ | ⟨es, options, ls', hes, -, hls, heq⟩
    · exact Filter.hasOperatorKey_of_operators? hnone
    · obtain rfl : ls = ls' := map_leaf_injective heq
      obtain ⟨e, he, hasks⟩ := exists_left_of_forall₂ hls hl
      have hoperand := hasks.2
      rw [hop] at hoperand
      have hvalue : e.2 = l.value := congrArg Leaf.value (pure_eq_ok.1 hoperand)
      exact absurd hvalue (Filter.operand_ne hes (List.mem_filter.1 he).1)
  · intro h
    exact ⟨.plain field, [{ field := .plain field, operator := .eq, value := v }], rfl,
      Filter.readField_eq_ok.2 (.inl ⟨Filter.operators?_of_not_hasOperatorKey h _, rfl⟩),
      _, List.mem_singleton.2 rfl, rfl, rfl⟩

section Operators

variable {field options : Name} {es : List (Value × Value)} {ls : List Leaf} {v : Value}

theorem length_eq_one_iff (hall : ∀ e ∈ es, Filter.isOperatorEntry e = true)
    (hoptions : optionsOf field es = .ok options)
    (hls : List.Forall₂ (EntryAsks field options) (es.filter isAsked) ls)
    (hv : Value.lookup Filter.Operator.eq.symbol es = some v) :
    es.length = 1 ↔ ∃ l, ls = [l] ∧ l.operator = .eq := by
  obtain ⟨l, hl, hop, -⟩ := Filter.exists_entryAsks_of_lookup (by decide) hls hv
  constructor
  · intro h
    have hlength : ls.length ≤ 1 := by
      rw [← hls.length_eq, ← h]
      exact List.length_filter_le _ _
    cases ls with
    | nil => exact absurd hl (by simp)
    | cons l' ls =>
      have hnil : ls = [] := List.eq_nil_of_length_eq_zero (by simpa using hlength)
      subst hnil
      exact ⟨l', rfl, List.mem_singleton.1 hl ▸ hop⟩
  · rintro ⟨l', rfl, hop'⟩
    have hnone : Value.lookup Filter.optionsKey es = none := by
      refine Option.eq_none_iff_forall_ne_some.2 fun w hw => ?_
      obtain ⟨l'', hl'', hregex⟩ := exists_regex_of_options hoptions hls hw
      rw [List.mem_singleton.1 hl'', hop'] at hregex
      exact absurd hregex (by simp)
    rw [filter_isAsked_of_lookup hall hnone] at hls
    exact hls.length_eq

end Operators

/-- An equality that is spelled out under a field keeps its operator if other operators stand beside it,
and loses it if it is alone. -/
theorem equates_slotOf {name : Name} {operators : List (Value × Value)} {ls : List Leaf} {v : Value}
    (hkeys : (Value.map operators).KeysDistinct)
    (hread : readField name (.map operators) = .ok (ls.map .leaf))
    (hv : Value.lookup Filter.Operator.eq.symbol operators = some v) :
    (operators.length = 1 → (slotOf ls).value = v) ∧
      (operators.length ≠ 1 → Equates name.text (slotOf ls).value v ∧ ∃ es,
        (slotOf ls).value = .map es ∧ Value.lookup Filter.Operator.eq.symbol es = some v) := by
  rcases Filter.readField_eq_ok.1 hread with ⟨hnone, -⟩ | ⟨es, options, ls', hes, hoptions, hls, heq⟩
  · obtain ⟨k, hk, hmem⟩ := Value.exists_mem_of_lookup hv
    have hfalse := List.any_eq_false.1 (Filter.hasOperatorKey_of_operators? hnone) _ hmem
    refine absurd ?_ hfalse
    rw [Filter.isOperatorEntry, hk]
    decide
  · obtain rfl : ls = ls' := map_leaf_injective heq
    obtain ⟨hmap, hempty, hall⟩ := Filter.operators?_eq_some hes
    obtain rfl := Value.map.inj hmap
    have hlength := length_eq_one_iff hall hoptions hls hv
    obtain ⟨l, hl, hop, hoperand⟩ := Filter.exists_entryAsks_of_lookup (by decide) hls hv
    have hvalue : v = l.value := congrArg Leaf.value (pure_eq_ok.1 hoperand)
    rw [hvalue]
    constructor
    · intro hone
      obtain ⟨l', rfl, hop'⟩ := hlength.1 hone
      rw [List.mem_singleton.1 hl, slotOf_singleton_eq hop']
      rfl
    · intro hmore
      have hne : ∀ l', ls = [l'] → l'.operator ≠ .eq :=
        fun l' hl' hop' => hmore (hlength.2 ⟨l', hl', hop'⟩)
      have hback := readField_slotOf_of_ne hkeys hread hne
      refine ⟨⟨name, ls, rfl, hback, l, hl, hop, rfl⟩, ?_⟩
      rw [Value.KeysDistinct] at hkeys
      have hrun := operatorRun_of_read hkeys.1 hempty hall hoptions hls
      rw [slotOf_eq_operators hne, hrun.foldl_addOperator]
      refine ⟨_, rfl, ?_⟩
      rw [Value.lookup_mapped, ← hop]
      exact hrun.get?_of_mem hl (mem_leafEntries.2 (.inl rfl))

/-- An equality that is written with its operator, anywhere in a filter, stands at the same place of the
native filter: bare if it was the only operator of its field, and with its operator otherwise. It is read
from there as an equality with the same value exactly if other operators stand beside it or the value has
no operator key. -/
theorem equates_fieldAt_iff {document : Value} {nodes : List Node} (hkeys : document.KeysDistinct)
    (hread : readWithin limit document = .ok nodes) :
    ∃ native, filter nodes = .ok native ∧ ∀ place field operators v,
      fieldAt? place field document = some (.map operators) →
      Value.lookup Filter.Operator.eq.symbol operators = some v →
      ∃ slot, fieldAt? place field native = some slot ∧
        (operators.length = 1 → slot = v) ∧
        (operators.length ≠ 1 → ∃ es, slot = .map es ∧
          Value.lookup Filter.Operator.eq.symbol es = some v) ∧
        (Equates field slot v ↔ operators.length ≠ 1 ∨ hasOperatorKey v = false) := by
  have hknown : ∀ l ∈ leaves nodes, l.Known := fun l hl => (Filter.formed_of_readWithin hread l hl).known
  obtain ⟨native, hadd, -⟩ := exists_gathers hknown
  refine ⟨native.value, filter_eq_ok.2 ⟨native, hadd, rfl⟩, ?_⟩
  intro place field operators v hplace hv
  obtain ⟨fs, hfs, hfield⟩ := Option.bind_eq_some_iff.1 hplace
  obtain ⟨es, rfl⟩ : ∃ es, document = .map es := by
    cases document with
    | map es => exact ⟨es, rfl⟩
    | _ => cases place <;> exact absurd hfs (by simp [entriesAt?])
  obtain ⟨es', hes', -, hentries⟩ := Filter.readAt_eq_ok.1 hread
  obtain rfl := Value.map.inj hes'
  rw [Value.KeysDistinct] at hkeys
  have hbecomes : Becomes limit es native := ⟨hkeys.1, hkeys.2, 0, nodes, hentries, hadd⟩
  obtain ⟨native', hlast, hat⟩ := hbecomes.entriesAt hfs
  obtain ⟨name, ls, rfl, hread, hlookup⟩ := hlast.field hfield
  obtain ⟨hlone, hbeside⟩ := equates_slotOf (hlast.keysDistinct hfield) hread hv
  refine ⟨(slotOf ls).value, Option.bind_eq_some_iff.2 ⟨_, hat, hlookup⟩, hlone,
    fun hmore => (hbeside hmore).2, ?_⟩
  by_cases hone : operators.length = 1
  · rw [hlone hone, equates_bare_iff]
    simp [hone]
  · exact iff_of_true (hbeside hone).1 (.inl hone)

/-- In the second child of a group, beside another operator, an equality with a mapping that has an
operator key is read back. -/
theorem equates_fieldAt_iff_of_beside :
    let v : Value := .map [(.str "$gt", .int 1)]
    let operators := [(.str "$exists", .bool true), (.str "$eq", v)]
    let document : Value := .map [(.str "$or", .list [.map [], .map [(.str "a", .map operators)]])]
    let nodes : List Node := [.group .or [[],
      [.leaf { field := .plain "a", operator := .exists, value := .bool true },
        .leaf { field := .plain "a", operator := .eq, value := v }]]]
    document.KeysDistinct ∧ readWithin 1 document = .ok nodes ∧
      fieldAt? [(.or, 1)] "a" document = some (.map operators) ∧ Value.lookup "$eq" operators = some v ∧
      ∃ native slot, filter nodes = .ok native ∧ fieldAt? [(.or, 1)] "a" native = some slot ∧
        Equates "a" slot v := by
  intro v operators document nodes
  have hkeys : document.KeysDistinct := by
    simp [document, operators, v, Value.KeysDistinct, Value.EntriesKeysDistinct, Value.AllKeysDistinct,
      Value.keyTexts, Value.text?]
  have hread : readWithin 1 document = .ok nodes := by with_unfolding_all rfl
  have hplace : fieldAt? [(.or, 1)] "a" document = some (.map operators) := by with_unfolding_all rfl
  have hv : Value.lookup "$eq" operators = some v := by with_unfolding_all rfl
  obtain ⟨native, hnative, h⟩ := equates_fieldAt_iff hkeys hread
  obtain ⟨slot, hslot, -, -, hiff⟩ := h [(.or, 1)] "a" operators v hplace hv
  have hmore : operators.length ≠ 1 := by decide
  exact ⟨hkeys, hread, hplace, hv, native, slot, hnative, hslot, hiff.2 (.inl hmore)⟩

/-- Alone under its field, it stands bare, and is read back as a comparison. -/
theorem not_equates_fieldAt_of_alone :
    let v : Value := .map [(.str "$gt", .int 1)]
    let document : Value := .map [(.str "a", .map [(.str "$eq", v)])]
    let nodes : List Node := [.leaf { field := .plain "a", operator := .eq, value := v }]
    document.KeysDistinct ∧ readWithin 32 document = .ok nodes ∧
      fieldAt? [] "a" document = some (.map [(.str "$eq", v)]) ∧
      ∃ native, filter nodes = .ok native ∧ fieldAt? [] "a" native = some v ∧ ¬Equates "a" v v ∧
        readWithin 32 native =
          .ok [.leaf { field := .plain "a", operator := .gt, value := .int 1 }] := by
  intro v document nodes
  refine ⟨?_, by with_unfolding_all rfl, by with_unfolding_all rfl, .map [(.str "a", v)],
    by with_unfolding_all rfl, by with_unfolding_all rfl, ?_, by with_unfolding_all rfl⟩
  · simp [document, v, Value.KeysDistinct, Value.EntriesKeysDistinct, Value.keyTexts, Value.text?]
  · rw [equates_bare_iff]
    decide

end Document

end Polystore

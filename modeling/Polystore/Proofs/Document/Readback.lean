import Polystore.Proofs.Document.Building

/-!
# Native filters read back

A native filter is a filter again. `readField_slotOf` says so of what stands under one field, by way of
`OperatorRun`, which says what the operators of one field look like once they are read; a whole filter
comes back as the nodes that it was built from, less the groups that have no children.
-/

namespace Polystore

namespace Filter

mutual

/-- Takes out the groups that have no children, at every level. -/
def prune : List Node → List Node
  | [] => []
  | n :: ns => n.pruned ++ prune ns

def Node.pruned : Node → List Node
  | .leaf l => [.leaf l]
  | .group _ [] => []
  | .group c (child :: children) => [.group c (prune child :: pruneChildren children)]

def pruneChildren : List (List Node) → List (List Node)
  | [] => []
  | child :: children => prune child :: pruneChildren children

end

theorem prune_append (ms ns : List Node) : prune (ms ++ ns) = prune ms ++ prune ns := by
  induction ms with
  | nil => simp [prune]
  | cons m ms ih => simp [prune, ih]

theorem prune_map_leaf (ls : List Leaf) : prune (ls.map .leaf) = ls.map .leaf := by
  induction ls with
  | nil => simp [prune]
  | cons l ls ih => simp [prune, Node.pruned, ih]

theorem pruned_group {c : Connective} {children : List (List Node)} (hne : children ≠ []) :
    (Node.group c children).pruned = [.group c (pruneChildren children)] := by
  obtain ⟨child, children, rfl⟩ := List.exists_cons_of_ne_nil hne
  rw [Node.pruned, pruneChildren]

/-- No equality among conditions compares with a mapping that has an operator key. -/
def Literal (ls : List Leaf) : Prop :=
  ∀ l ∈ ls, l.operator = .eq → hasOperatorKey l.value = false

theorem literal_append {ls ls' : List Leaf} : Literal (ls ++ ls') ↔ Literal ls ∧ Literal ls' :=
  List.forall_mem_append

end Filter

namespace Document

open Polystore.Filter (Leaf Node Connective leaves leavesOfChildren
  EntryAsks isAsked leafOf optionsOf readField readEntries readChildren readWithin prune pruneChildren
  Literal)

/-! ### The entries of a native filter -/

/-- Named values as the entries of a mapping. -/
def entriesOf (es : Entries Name Value) : List (Value × Value) :=
  es.map fun e => (e.1.value, e.2)

/-- The entries of a native filter. -/
def Filters.entries (native : Filters) : List (Value × Value) :=
  native.map fun f => (f.1.value, f.2.value)

theorem Filters.value_eq (native : Filters) : native.value = .map native.entries := by
  rw [Filters.value, mapping, List.map_map]
  rfl

/-! ### Operator mappings -/

/-- The entries that a condition has in an operator mapping of its field. -/
def leafEntries (l : Leaf) : Entries Name Value :=
  (.plain l.operator.symbol, l.value) ::
    if l.operator = .regex ∧ l.options.text ≠ "" then
      [(.plain Filter.optionsKey, l.options.value)]
    else []

theorem mem_leafEntries {l : Leaf} {e : Name × Value} :
    e ∈ leafEntries l ↔ e = (.plain l.operator.symbol, l.value) ∨
      (l.operator = .regex ∧ l.options.text ≠ "") ∧
        e = (.plain Filter.optionsKey, l.options.value) := by
  unfold leafEntries
  split
  · rename_i h
    simp [h]
  · rename_i h
    simp [h]

theorem addOperator_eq_putAll (es : Entries Name Value) (l : Leaf) :
    addOperator es l = es.putAll (leafEntries l) := by
  unfold addOperator leafEntries
  split
  · rfl
  · rfl

theorem foldl_addOperator (ls : List Leaf) (es : Entries Name Value) :
    ls.foldl addOperator es = es.putAll (ls.flatMap leafEntries) := by
  have hstep : addOperator = fun es l => Entries.putAll es (leafEntries l) :=
    funext fun es => funext fun l => addOperator_eq_putAll es l
  rw [hstep, Entries.putAll, List.foldl_flatMap]
  rfl

theorem nodup_keys_leafEntries {ls : List Leaf} (hknown : ∀ l ∈ ls, l.operator ∈ Filter.Operator.all)
    (hnodup : (ls.map fun l => l.operator.symbol).Nodup) :
    (Entries.keys (ls.flatMap leafEntries)).Nodup := by
  have hkeys : ∀ l : Leaf, ∀ key ∈ (leafEntries l).keys,
      key = l.operator.symbol ∨ l.operator = .regex ∧ key = Filter.optionsKey := by
    intro l key hkey
    obtain ⟨e, he, rfl⟩ := List.mem_map.1 hkey
    rcases mem_leafEntries.1 he with rfl | ⟨hpattern, rfl⟩
    · exact .inl rfl
    · exact .inr ⟨hpattern.1, rfl⟩
  rw [Entries.keys, List.map_flatMap, List.nodup_flatMap]
  constructor
  · intro l hl
    have hne := Filter.optionsKey_ne_symbol (hknown l hl)
    unfold leafEntries
    split
    · exact List.nodup_cons.2 ⟨fun hmem => hne (List.mem_singleton.1 hmem), List.nodup_singleton _⟩
    · exact List.nodup_singleton _
  · -- a key that two conditions share would be their operator, or the options of two patterns
    refine (List.pairwise_map.1 hnodup).imp_of_mem fun {l l'} hl hl' hne => ?_
    intro key hkey hkey'
    rcases hkeys l key hkey with rfl | ⟨hregex, rfl⟩
    · rcases hkeys l' _ hkey' with heq | ⟨-, heq⟩
      · exact hne heq
      · exact Filter.optionsKey_ne_symbol (hknown l hl) heq
    · rcases hkeys l' _ hkey' with heq | ⟨hregex', -⟩
      · exact Filter.optionsKey_ne_symbol (hknown l' hl') heq.symm
      · exact hne (by rw [hregex, hregex'])

/-! ### The operators of a field -/

/-- Conditions as the operators of one field are read: each can be read again, no two have one operator,
and options come with a pattern. -/
structure OperatorRun (field options : Name) (ls : List Leaf) : Prop where
  nonempty : ls ≠ []
  known : ∀ l ∈ ls, l.operator ∈ Filter.Operator.all
  read : ∀ l ∈ ls, leafOf field l.operator l.value options = .ok l
  nodup : (ls.map fun l => l.operator.symbol).Nodup
  optionless : options.text = "" → options = .plain ""
  pattern : options.text ≠ "" → ∃ l ∈ ls, l.operator = .regex

section OperatorRun

variable {field options : Name} {es : List (Value × Value)} {ls : List Leaf}

theorem eq_plain_of_text_eq_empty {name : Name} (h : name.text = "") : name = .plain "" := by
  cases name with
  | plain s => exact congrArg Name.plain h
  | fieldType t => cases t <;> exact absurd h (by decide)

theorem exists_regex_of_options {v : Value} (hoptions : optionsOf field es = .ok options)
    (hls : List.Forall₂ (EntryAsks field options) (es.filter isAsked) ls)
    (hv : Value.lookup Filter.optionsKey es = some v) : ∃ l ∈ ls, l.operator = .regex := by
  unfold optionsOf at hoptions
  rw [hv] at hoptions
  cases hlookup : Value.lookup Filter.Operator.regex.symbol es with
  | none =>
    simp only [hlookup] at hoptions
    exact absurd hoptions throw_ne_ok
  | some w =>
    obtain ⟨l, hl, hop, -⟩ := Filter.exists_entryAsks_of_lookup (by decide) hls hlookup
    exact ⟨l, hl, hop⟩

theorem filter_isAsked_of_lookup (hall : ∀ e ∈ es, Filter.isOperatorEntry e = true)
    (hnone : Value.lookup Filter.optionsKey es = none) : es.filter isAsked = es := by
  refine List.filter_eq_self.2 fun e he => ?_
  have htext := Value.lookup_eq_none_iff.1 hnone e he
  obtain ⟨s, hs⟩ := Filter.exists_text_of_isOperatorEntry (hall e he)
  simpa [isAsked, hs] using htext

theorem operatorRun_of_read (hnodup : (Value.keyTexts es).Nodup) (hne : es ≠ [])
    (hall : ∀ e ∈ es, Filter.isOperatorEntry e = true) (hoptions : optionsOf field es = .ok options)
    (hls : List.Forall₂ (EntryAsks field options) (es.filter isAsked) ls) :
    OperatorRun field options ls := by
  have hnone : Value.lookup Filter.optionsKey es = none → options = .plain "" := by
    intro h
    unfold optionsOf at hoptions
    rw [h] at hoptions
    exact (pure_eq_ok.1 hoptions).symm
  refine ⟨?_, ?_, ?_, ?_, eq_plain_of_text_eq_empty, ?_⟩
  · rintro rfl
    cases hlookup : Value.lookup Filter.optionsKey es with
    | some v =>
      obtain ⟨l, hl, -⟩ := exists_regex_of_options hoptions hls hlookup
      exact absurd hl (by simp)
    | none =>
      rw [filter_isAsked_of_lookup hall hlookup, List.forall₂_nil_right_iff] at hls
      exact hne hls
  · intro l hl
    obtain ⟨e, -, he⟩ := exists_left_of_forall₂ hls hl
    exact List.mem_of_find?_eq_some he.1
  · intro l hl
    obtain ⟨e, -, he⟩ := exists_left_of_forall₂ hls hl
    exact Filter.leafOf_value he.2
  · rw [Filter.symbols_of_entryAsks hls]
    rw [Filter.keyTexts_eq_map hall] at hnodup
    exact hnodup.sublist (List.filter_sublist.map _)
  · intro htext
    cases hlookup : Value.lookup Filter.optionsKey es with
    | some v => exact exists_regex_of_options hoptions hls hlookup
    | none => exact absurd (by rw [hnone hlookup]; rfl) htext

theorem OperatorRun.foldl_addOperator (h : OperatorRun field options ls) :
    ls.foldl addOperator [] = ls.flatMap leafEntries := by
  have hnodup := nodup_keys_leafEntries h.known h.nodup
  exact (Document.foldl_addOperator ls []).trans (Entries.putAll_of_nodup hnodup)

/-! ### Reading operators back -/

theorem isOperatorEntry_of_mem (hknown : ∀ l ∈ ls, l.operator ∈ Filter.Operator.all) :
    ∀ e ∈ entriesOf (ls.flatMap leafEntries), Filter.isOperatorEntry e = true := by
  intro e he
  obtain ⟨f, hf, rfl⟩ := List.mem_map.1 he
  obtain ⟨l, hl, hf⟩ := List.mem_flatMap.1 hf
  rw [Filter.isOperatorEntry, Name.text?_value]
  rcases mem_leafEntries.1 hf with rfl | ⟨-, rfl⟩
  · exact Filter.isOperatorKey_operator (hknown l hl)
  · exact (by decide : Filter.isOperatorKey Filter.optionsKey = true)

theorem OperatorRun.get?_of_mem (h : OperatorRun field options ls) {l : Leaf} (hl : l ∈ ls)
    {e : Name × Value} (he : e ∈ leafEntries l) :
    Entries.get? e.1.text (ls.flatMap leafEntries) = some e.2 :=
  Entries.get?_of_mem (nodup_keys_leafEntries h.known h.nodup) (List.mem_flatMap.2 ⟨l, hl, he⟩)

theorem OperatorRun.optionsOf (h : OperatorRun field options ls) :
    optionsOf field (entriesOf (ls.flatMap leafEntries)) = .ok options := by
  have hregex : ∀ l ∈ ls, l.operator = .regex → l.options = options := by
    intro l hl hop
    rw [(Filter.asks_of_leafOf (h.read l hl)).options_eq, if_pos hop]
  unfold Filter.optionsOf
  rw [entriesOf, Value.lookup_mapped, Value.lookup_mapped]
  by_cases htext : options.text = ""
  · have hnone : Entries.get? Filter.optionsKey (ls.flatMap leafEntries) = none := by
      refine Option.eq_none_iff_forall_ne_some.2 fun v hv => ?_
      obtain ⟨n, hn, hmem⟩ := Entries.exists_mem_of_get? hv
      obtain ⟨l, hl, hmem⟩ := List.mem_flatMap.1 hmem
      rcases mem_leafEntries.1 hmem with heq | ⟨hpattern, -⟩
      · obtain ⟨rfl, -⟩ := Prod.mk.inj heq
        exact Filter.optionsKey_ne_symbol (h.known l hl) hn
      · exact hpattern.2 (by rw [hregex l hl hpattern.1, htext])
    rw [hnone, h.optionless htext]
    rfl
  · obtain ⟨l, hl, hop⟩ := h.pattern htext
    have hoptions := hregex l hl hop
    have hsymbol := h.get?_of_mem hl (mem_leafEntries.2 (.inl rfl))
    have hkey := h.get?_of_mem hl (mem_leafEntries.2 (.inr ⟨⟨hop, by rwa [hoptions]⟩, rfl⟩))
    have hpattern : Entries.get? Filter.Operator.regex.symbol (ls.flatMap leafEntries) = some l.value :=
      hop ▸ hsymbol
    have hfound : Entries.get? Filter.optionsKey (ls.flatMap leafEntries) = some options.value :=
      hoptions ▸ hkey
    rw [hfound, hpattern]
    simp only [Option.isNone_some, Bool.false_eq_true, if_false, Name.ofValue?_value]
    rfl

theorem filter_isAsked (hknown : ∀ l ∈ ls, l.operator ∈ Filter.Operator.all) :
    (entriesOf (ls.flatMap leafEntries)).filter isAsked =
      ls.map fun l => (.str l.operator.symbol, l.value) := by
  induction ls with
  | nil => rfl
  | cons l ls ih =>
    rw [List.forall_mem_cons] at hknown
    have hasked : isAsked (.str l.operator.symbol, l.value) = true := by
      simpa [isAsked, Value.text?] using Filter.optionsKey_ne_symbol hknown.1
    have hoptions : ∀ es : Entries Name Value,
        (es = [] ∨ es = [(.plain Filter.optionsKey, l.options.value)]) →
        (entriesOf es).filter isAsked = [] := by
      rintro es (rfl | rfl)
      · rfl
      · simp [entriesOf, Name.value, isAsked, Value.text?]
    have hleaf : (entriesOf (leafEntries l)).filter isAsked = [(.str l.operator.symbol, l.value)] := by
      show List.filter isAsked ((.str l.operator.symbol, l.value) :: entriesOf _) = _
      rw [List.filter_cons_of_pos hasked, hoptions]
      split
      · exact .inr rfl
      · exact .inl rfl
    have happend : entriesOf ((l :: ls).flatMap leafEntries) =
        entriesOf (leafEntries l) ++ entriesOf (ls.flatMap leafEntries) := by
      rw [List.flatMap_cons]
      exact List.map_append
    rw [happend, List.filter_append, hleaf, ih hknown.2]
    rfl

theorem OperatorRun.readField (h : OperatorRun field options ls) :
    readField field (mapping (ls.flatMap leafEntries)) = .ok (ls.map .leaf) := by
  refine Filter.readField_eq_ok.2 (.inr ⟨_, options, ls, ?_, h.optionsOf, ?_, rfl⟩)
  · refine Filter.operators?_of_all ?_ (isOperatorEntry_of_mem h.known) field
    obtain ⟨l, ls, rfl⟩ := List.exists_cons_of_ne_nil h.nonempty
    simp [entriesOf, leafEntries]
  · rw [filter_isAsked h.known, List.forall₂_map_left_iff, List.forall₂_same]
    intro l hl
    exact ⟨Filter.Operator.ofSymbol?_symbol (h.known l hl), h.read l hl⟩

end OperatorRun

/-! ### One field -/

theorem map_leaf_injective : Function.Injective (List.map Node.leaf) :=
  List.map_injective_iff.2 fun _ _ h => Node.leaf.inj h

theorem eq_of_readField {field : Name} {v : Value} {l : Leaf} (h : readField field v = .ok [.leaf l])
    (hop : l.operator = .eq) : l = { field, operator := .eq, value := l.value } := by
  rcases Filter.readField_eq_ok.1 h with ⟨-, hl⟩ | ⟨es, options, ls, -, -, hread, hls⟩
  · obtain rfl : l = { field, operator := .eq, value := v } := by simpa using hl
    rfl
  · obtain rfl : [l] = ls := map_leaf_injective hls
    obtain ⟨e, -, he⟩ := exists_left_of_forall₂ hread (List.mem_singleton.2 rfl)
    have hl := he.2
    rw [hop] at hl
    rw [← pure_eq_ok.1 hl]

theorem readField_slotOf_of_ne {field : Name} {v : Value} {ls : List Leaf} (hkeys : v.KeysDistinct)
    (h : readField field v = .ok (ls.map .leaf)) (hne : ∀ l, ls = [l] → l.operator ≠ .eq) :
    readField field (slotOf ls).value = .ok (ls.map .leaf) := by
  rcases Filter.readField_eq_ok.1 h with ⟨-, hls⟩ | ⟨es, options, ls', hes, hoptions, hread, hls⟩
  · exact absurd rfl (hne _ (map_leaf_injective hls))
  · obtain rfl : ls = ls' := map_leaf_injective hls
    obtain ⟨rfl, hempty, hall⟩ := Filter.operators?_eq_some hes
    rw [Value.KeysDistinct] at hkeys
    have hrun := operatorRun_of_read hkeys.1 hempty hall hoptions hread
    rw [slotOf_eq_operators hne, hrun.foldl_addOperator]
    exact hrun.readField

/-- What conditions have left under a field is read as these conditions, unless a single equality compares
with a mapping that has an operator key. -/
theorem readField_slotOf {field : Name} {v : Value} {ls : List Leaf} (hkeys : v.KeysDistinct)
    (h : readField field v = .ok (ls.map .leaf)) (hliteral : Literal ls) :
    readField field (slotOf ls).value = .ok (ls.map .leaf) := by
  by_cases hsingle : ∃ l, ls = [l] ∧ l.operator = .eq
  · obtain ⟨l, rfl, hop⟩ := hsingle
    have hl : l = { field, operator := .eq, value := l.value } := eq_of_readField h hop
    have hvalue := Filter.operators?_of_not_hasOperatorKey (hliteral l (by simp) hop) field
    rw [slotOf_singleton_eq hop]
    exact Filter.readField_eq_ok.2 (.inl ⟨hvalue, congrArg (fun l => [Node.leaf l]) hl⟩)
  · exact readField_slotOf_of_ne hkeys h fun l hl hop => hsingle ⟨l, hl, hop⟩

theorem ne_nil_of_readField {field : Name} {v : Value} {ls : List Leaf} (hkeys : v.KeysDistinct)
    (h : readField field v = .ok (ls.map .leaf)) : ls ≠ [] := by
  rintro rfl
  rcases Filter.readField_eq_ok.1 h with ⟨-, hls⟩ | ⟨es, options, ls, hes, hoptions, hread, hls⟩
  · exact absurd hls (by simp)
  · obtain rfl : ls = [] := List.map_eq_nil_iff.1 hls.symm
    obtain ⟨rfl, hne, hall⟩ := Filter.operators?_eq_some hes
    rw [Value.KeysDistinct] at hkeys
    exact (operatorRun_of_read hkeys.1 hne hall hoptions hread).nonempty rfl

/-! ### One key after another -/

theorem get?_concat {native : Filters} {name : Name} {slot : Slot} {key : String} :
    Entries.get? key (native ++ [(name, slot)]) =
      (native.get? key).or (if name.text = key then some slot else none) :=
  Entries.get?_append key native _

theorem addNodes_leaves {native : Filters} {field : Name} {ls : List Leaf} (hne : ls ≠ [])
    (hnone : native.get? field.text = none) (hfield : ∀ l ∈ ls, l.field = field)
    (hknown : ∀ l ∈ ls, l.operator ∈ Filter.Operator.all) :
    addNodes native (ls.map .leaf) = .ok (native ++ [(field, slotOf ls)]) := by
  induction ls using List.reverseRecOn with
  | nil => exact absurd rfl hne
  | append_singleton ls l ih =>
    rw [List.forall_mem_append] at hfield hknown
    obtain rfl : l.field = field := hfield.2 l (by simp)
    have hop := hknown.2 l (by simp)
    rw [List.map_append, addNodes_append]
    by_cases hls : ls = []
    · subst hls
      have hget : native.get? l.field.text = slot? [] := hnone
      refine bind_eq_ok.2 ⟨native, rfl, ?_⟩
      rw [List.map_singleton, addNodes_singleton, addNode, addLeaf_eq hop hget]
      exact congrArg Except.ok (Entries.put_of_get?_eq_none hnone _)
    · have hget : Entries.get? l.field.text (native ++ [(l.field, slotOf ls)]) = slot? ls := by
        rw [get?_concat, hnone, if_pos rfl, slot?, if_neg (by simpa using hls)]
        rfl
      refine bind_eq_ok.2 ⟨_, ih hls hfield.1 hknown.1, ?_⟩
      rw [List.map_singleton, addNodes_singleton, addNode, addLeaf_eq hop hget]
      refine congrArg Except.ok ((Entries.put_append_of_get?_eq_none hnone _ _).trans ?_)
      exact congrArg (native ++ ·) (if_pos rfl)

theorem addNode_group {native : Filters} {c : Connective} {children : List (List Node)}
    {ds : List Value} (hnone : native.get? c.symbol = none)
    (hds : List.Forall₂ Compiles children ds) :
    addNode native (.group c children) = .ok
      (if ds.isEmpty then native else native ++ [(.plain c.symbol, .filters ds)]) := by
  have hget : native.get? c.symbol = filters? [] := hnone
  have hadd := addGroup_eq ds hget
  rw [addNode]
  refine bind_eq_ok.2 ⟨ds, childDocuments_eq_ok.2 hds, hadd.trans ?_⟩
  by_cases hempty : ds.isEmpty = true
  · rw [if_pos hempty, if_pos hempty]
  · rw [if_neg hempty, if_neg hempty]
    exact congrArg Except.ok (Entries.put_of_get?_eq_none hnone _)

/-! ### Whole filters -/

/-- The nodes of entries are compiled to new keys of a native filter, and these are read as the nodes
without the groups that have no children. -/
def EntriesComeBack (limit : Int) (depth : Nat) (es : List (Value × Value)) (ns : List Node) : Prop :=
  (Value.keyTexts es).Nodup → Value.EntriesKeysDistinct es → Literal (leaves ns) →
    ∀ native : Filters, (∀ key ∈ Value.keyTexts es, native.get? key = none) →
      ∃ fs : Filters, addNodes native ns = .ok (native ++ fs) ∧
        readEntries limit depth fs.entries = .ok (prune ns)

/-- The children of a group are compiled to sub-filters that are read as the children again. -/
def ChildrenComeBack (limit : Int) (depth : Nat) (xs : List Value) (children : List (List Node)) :
    Prop :=
  Value.AllKeysDistinct xs → Literal (leavesOfChildren children) →
    ∃ ds, List.Forall₂ Compiles children ds ∧
      readChildren limit depth ds = .ok (pruneChildren children)

theorem get?_concat_of_nodup {native : Filters} {name : Name} {keys : List String} (slot : Slot)
    (hnodup : (name.text :: keys).Nodup) (hnone : ∀ key ∈ keys, native.get? key = none) :
    ∀ key ∈ keys, Entries.get? key (native ++ [(name, slot)]) = none := by
  intro key hkey
  have hne : name.text ≠ key := fun heq => (List.nodup_cons.1 hnodup).1 (heq ▸ hkey)
  rw [get?_concat, hnone key hkey, if_neg hne]
  rfl

section ComeBack

variable {limit : Int} {depth : Nat} {k v : Value} {es : List (Value × Value)} {name : Name}
  {first rest : List Node}

theorem entriesComeBack_field (hname : Name.ofValue? k = some name)
    (hkey : Filter.isOperatorKey name.text = false) (hfirst : readField name v = .ok first)
    (ih : EntriesComeBack limit depth es rest) :
    EntriesComeBack limit depth ((k, v) :: es) (first ++ rest) := by
  intro hnodup hkeys hliteral native hnone
  rw [Value.keyTexts_cons hname] at hnodup hnone
  rw [Value.EntriesKeysDistinct] at hkeys
  rw [List.forall_mem_cons] at hnone
  obtain ⟨ls, rfl, hls⟩ := Filter.formed_of_readField hkey hfirst
  rw [Filter.leaves_append, Filter.leaves_map_leaf, Filter.literal_append] at hliteral
  have hadd := addNodes_leaves (ne_nil_of_readField hkeys.1 hfirst) hnone.1
    (fun l hl => (hls l hl).1) fun l hl => (hls l hl).2.operator
  obtain ⟨fs, hfs, hread⟩ := ih (List.nodup_cons.1 hnodup).2 hkeys.2 hliteral.2
    (native ++ [(name, slotOf ls)]) (get?_concat_of_nodup _ hnodup hnone.2)
  refine ⟨(name, slotOf ls) :: fs, ?_, ?_⟩
  · rw [addNodes_append, hadd]
    exact hfs.trans (congrArg Except.ok (List.append_assoc _ _ _))
  · rw [Filter.prune_append, Filter.prune_map_leaf]
    exact Filter.readEntries_cons_eq_ok.2 ⟨name, _, _, Name.ofValue?_value name,
      .field hkey (readField_slotOf hkeys.1 hfirst hliteral.1), hread, rfl⟩

theorem entriesComeBack_group {c : Connective} {xs : List Value} {children : List (List Node)}
    (hname : Name.ofValue? k = some name) (hkey : name.text = c.symbol)
    (hxs : v.sequence? = some xs) (hchildren : ChildrenComeBack limit depth xs children)
    (ih : EntriesComeBack limit depth es rest) :
    EntriesComeBack limit depth ((k, v) :: es) (.group c children :: rest) := by
  intro hnodup hkeys hliteral native hnone
  rw [Value.keyTexts_cons hname, hkey] at hnodup hnone
  rw [Value.EntriesKeysDistinct] at hkeys
  rw [List.forall_mem_cons] at hnone
  rw [leaves, Node.leaves, Filter.literal_append] at hliteral
  obtain ⟨ds, hds, hreads⟩ := hchildren (hkeys.1.of_sequence? hxs) hliteral.1
  have hadd := addNode_group hnone.1 hds
  by_cases hempty : ds = []
  · -- a group without children leaves no key, so there is nothing to read back
    subst hempty
    cases hds
    obtain ⟨fs, hfs, hread⟩ := ih (List.nodup_cons.1 hnodup).2 hkeys.2 hliteral.2 native hnone.2
    refine ⟨fs, ?_, ?_⟩
    · rw [addNodes, hadd]
      exact hfs
    · rwa [prune, Node.pruned, List.nil_append]
  · rw [if_neg (by simpa using hempty)] at hadd
    have hfresh : ∀ key ∈ Value.keyTexts es,
        Entries.get? key (native ++ [(.plain c.symbol, .filters ds)]) = none :=
      get?_concat_of_nodup _ hnodup hnone.2
    obtain ⟨fs, hfs, hread⟩ := ih (List.nodup_cons.1 hnodup).2 hkeys.2 hliteral.2 _ hfresh
    refine ⟨(.plain c.symbol, .filters ds) :: fs, ?_, ?_⟩
    · rw [addNodes, hadd]
      exact hfs.trans (congrArg Except.ok (List.append_assoc _ _ _))
    · have hne : children ≠ [] := by
        rintro rfl
        cases hds
        exact hempty rfl
      rw [prune, Filter.pruned_group hne]
      exact Filter.readEntries_cons_eq_ok.2 ⟨.plain c.symbol, _, _, rfl, .group rfl rfl hreads,
        hread, rfl⟩

theorem childrenComeBack_cons {xs : List Value} {child : List Node} {children : List (List Node)}
    (hdepth : ((depth + 1 : Nat) : Int) ≤ limit) (hchild : EntriesComeBack limit (depth + 1) es child)
    (ih : ChildrenComeBack limit depth xs children) :
    ChildrenComeBack limit depth (.map es :: xs) (child :: children) := by
  intro hkeys hliteral
  rw [Value.AllKeysDistinct, Value.KeysDistinct] at hkeys
  rw [leavesOfChildren, Filter.literal_append] at hliteral
  obtain ⟨fs, hfs, hread⟩ := hchild hkeys.1.1 hkeys.1.2 hliteral.1 [] fun _ _ => rfl
  obtain ⟨ds, hds, hreads⟩ := ih hkeys.2 hliteral.2
  refine ⟨Filters.value fs :: ds, .cons ⟨fs, hfs, rfl⟩ hds, ?_⟩
  rw [pruneChildren]
  exact Filter.readChildren_eq_ok.2 (.cons
    (Filter.readAt_eq_ok.2 ⟨_, Filters.value_eq fs, hdepth, hread⟩) (Filter.readChildren_eq_ok.1 hreads))

theorem entriesComeBack {ns : List Node} (h : readEntries limit depth es = .ok ns) :
    EntriesComeBack limit depth es ns := by
  refine Filter.read_induction (EntriesComeBack limit) (ChildrenComeBack limit) ?_ ?_ ?_ ?_ ?_ h
  · intro depth _ _ _ native _
    refine ⟨[], ?_, ?_⟩
    · rw [addNodes, List.append_nil]
      rfl
    · rw [prune]
      rfl
  · intro depth k v es name first rest
    exact entriesComeBack_field
  · intro depth k v es name c xs children rest
    exact entriesComeBack_group
  · intro depth _ _
    refine ⟨[], .nil, ?_⟩
    rw [pruneChildren]
    rfl
  · intro depth es xs child children
    exact childrenComeBack_cons

end ComeBack

/-- The native filter of the nodes of a filter is read, at the same limit, as these nodes without the
groups that have no children, if no equality compares with a mapping that has an operator key. Null is
read before the limit is looked at, and its native filter is a mapping. -/
theorem readWithin_filter {limit : Int} {document : Value} {nodes : List Node}
    (hkeys : document.KeysDistinct) (hread : readWithin limit document = .ok nodes)
    (hliteral : Literal (leaves nodes)) (hnull : document.isNull = true → 0 ≤ limit) :
    ∃ native, filter nodes = .ok native ∧ readWithin limit native = .ok (prune nodes) := by
  have hnative : ∀ fs : Filters, (0 : Int) ≤ limit → readEntries limit 0 fs.entries = .ok (prune nodes) →
      readWithin limit fs.value = .ok (prune nodes) := by
    intro fs hlimit hfs
    rw [Filters.value_eq]
    exact Filter.readAt_eq_ok.2 ⟨_, rfl, hlimit, hfs⟩
  by_cases h : document.isNull = true
  · rw [readWithin, if_pos h, pure_eq_ok] at hread
    subst hread
    refine ⟨_, rfl, hnative [] (hnull h) ?_⟩
    rw [prune]
    rfl
  · rw [readWithin, if_neg h] at hread
    obtain ⟨es, rfl, hdepth, hread⟩ := Filter.readAt_eq_ok.1 hread
    rw [Value.KeysDistinct] at hkeys
    obtain ⟨fs, hfs, hback⟩ := entriesComeBack hread hkeys.1 hkeys.2 hliteral [] fun _ _ => rfl
    exact ⟨_, filter_eq_ok.2 ⟨fs, hfs, rfl⟩, hnative fs hdepth hback⟩

/-- A pattern with options between other operators, an equality that is spelled out, and groups of
which one has no children and another stands in a child. -/
theorem readWithin_filter_of_nested :
    let document : Value := .map
      [(.str "a", .map [(.str "$gt", .int 1), (.str "$options", .str "i"), (.str "$regex", .str "x")]),
        (.str "$or", .tuple [
          .map [(.str "b", .map [(.str "$eq", .list [.int 2])]), (.str "$or", .list [])], .map []]),
        (.str "$and", .list [])]
    let a : List Node := [.leaf { field := .plain "a", operator := .gt, value := .int 1 },
      .leaf { field := .plain "a", operator := .regex, value := .str "x", options := .plain "i" }]
    let b : Node := .leaf { field := .plain "b", operator := .eq, value := .list [.int 2] }
    let nodes := a ++ [.group .or [[b, .group .or []], []], .group .and []]
    document.KeysDistinct ∧ readWithin 1 document = .ok nodes ∧ Literal (leaves nodes) ∧
      ∃ native, filter nodes = .ok native ∧ readWithin 1 native = .ok (a ++ [.group .or [[b], []]]) := by
  intro document a b nodes
  have hkeys : document.KeysDistinct := by
    simp [document, Value.KeysDistinct, Value.EntriesKeysDistinct, Value.AllKeysDistinct,
      Value.keyTexts, Value.text?]
  have hread : readWithin 1 document = .ok nodes := by with_unfolding_all rfl
  have hliteral : Literal (leaves nodes) := by
    simp [nodes, a, b, Literal, leaves, Node.leaves, leavesOfChildren, Filter.hasOperatorKey]
  have hprune : prune nodes = a ++ [.group .or [[b], []]] := by with_unfolding_all rfl
  refine ⟨hkeys, hread, hliteral, ?_⟩
  rw [← hprune]
  exact readWithin_filter hkeys hread hliteral fun h => absurd h (by decide)

/-- Under a limit that lets no mapping in, null has no conditions, and the mapping without conditions
is refused. -/
theorem not_readWithin_filter_of_null :
    Value.null.KeysDistinct ∧ readWithin (-1) .null = .ok [] ∧ Literal (leaves []) ∧
      ¬∃ native, filter [] = .ok native ∧ readWithin (-1) native = .ok (prune []) := by
  refine ⟨trivial, rfl, by simp [Literal, leaves], ?_⟩
  rintro ⟨native, hnative, hread⟩
  obtain rfl : Value.map [] = native := Except.ok.inj hnative
  obtain ⟨es, -, hdepth, -⟩ := Filter.readAt_eq_ok.1 hread
  exact absurd hdepth (by decide)

end Document

end Polystore

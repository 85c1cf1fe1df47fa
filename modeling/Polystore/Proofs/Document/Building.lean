import Polystore.Proofs.Filter.Reading
import Polystore.Document

/-!
# How native filters are built

A native filter is built up node by node. `Gathers` says what a list of nodes has left in it, under each
field and each connective, and `exists_gathers` that nodes with known operators are always compiled.
-/

namespace Polystore

namespace Filter

/-- A condition that a native filter has a place for: on a field, with an operator that filters know. -/
def Leaf.Known (l : Leaf) : Prop :=
  isOperatorKey l.field.text = false ∧ l.operator ∈ Operator.all

theorem Leaf.Formed.known {l : Leaf} (h : l.Formed) : l.Known :=
  ⟨h.field, h.operator⟩

/-- The condition of a node on a field. -/
def Node.leafOn? (field : String) : Node → Option Leaf
  | .leaf l => if l.field.text = field then some l else none
  | .group .. => none

/-- The conditions on a field, of one level. -/
def leavesOn (field : String) (ns : List Node) : List Leaf :=
  ns.filterMap (Node.leafOn? field)

/-- The children of a node that is a group of a connective. -/
def Node.childrenUnder (c : Connective) : Node → List (List Node)
  | .leaf _ => []
  | .group c' children => if c' = c then children else []

/-- The children of all groups of a connective, of one level. -/
def childrenUnder (c : Connective) (ns : List Node) : List (List Node) :=
  ns.flatMap (Node.childrenUnder c)

theorem mem_leavesOn {field : String} {ns : List Node} {l : Leaf} :
    l ∈ leavesOn field ns ↔ .leaf l ∈ ns ∧ l.field.text = field := by
  rw [leavesOn, List.mem_filterMap]
  constructor
  · rintro ⟨n, hn, h⟩
    cases n with
    | group => exact absurd h (by simp [Node.leafOn?])
    | leaf l' =>
      obtain ⟨hfield, rfl⟩ : l'.field.text = field ∧ l' = l := by simpa [Node.leafOn?] using h
      exact ⟨hn, hfield⟩
  · rintro ⟨hn, hfield⟩
    exact ⟨_, hn, if_pos hfield⟩

theorem mem_of_leavesOn_eq {field : String} {ns : List Node} {l : Leaf} (h : leavesOn field ns = [l]) :
    .leaf l ∈ ns :=
  (mem_leavesOn.1 (by rw [h]; exact List.mem_singleton.2 rfl)).1

theorem mem_childrenUnder {c : Connective} {ns : List Node} {child : List Node} :
    child ∈ childrenUnder c ns ↔ ∃ children, .group c children ∈ ns ∧ child ∈ children := by
  rw [childrenUnder, List.mem_flatMap]
  constructor
  · rintro ⟨n, hn, h⟩
    cases n with
    | leaf => exact absurd h (by simp [Node.childrenUnder])
    | group c' children =>
      obtain ⟨rfl, hchild⟩ : c' = c ∧ child ∈ children := by simpa [Node.childrenUnder] using h
      exact ⟨children, hn, hchild⟩
  · rintro ⟨children, hn, hchild⟩
    exact ⟨_, hn, by simpa [Node.childrenUnder] using hchild⟩

theorem leavesOn_append (field : String) (ms ns : List Node) :
    leavesOn field (ms ++ ns) = leavesOn field ms ++ leavesOn field ns :=
  List.filterMap_append

theorem childrenUnder_append (c : Connective) (ms ns : List Node) :
    childrenUnder c (ms ++ ns) = childrenUnder c ms ++ childrenUnder c ns :=
  List.flatMap_append

theorem leavesOn_map_leaf {field : String} {ls : List Leaf} (h : ∀ l ∈ ls, l.field.text = field) :
    leavesOn field (ls.map .leaf) = ls := by
  rw [leavesOn, List.filterMap_map]
  exact (List.filterMap_congr fun l hl => if_pos (h l hl)).trans List.filterMap_some

theorem symbol_injective {c c' : Connective} (h : c.symbol = c'.symbol) : c = c' := by
  cases c <;> cases c' <;> first | rfl | exact absurd h (by decide)

end Filter

namespace Document

open Polystore.Filter (Leaf Node Connective leaves leavesOfChildren leavesOn childrenUnder)

/-! ### What stands under a field -/

/-- What stands under a field after some conditions on it: the value of a single equality, or an
operator mapping. -/
def slotOf : List Leaf → Slot
  | [l] => if l.operator = .eq then .equals l.value else .operators (addOperator [] l)
  | ls => .operators (ls.foldl addOperator [])

/-- What stands under a field, if there are conditions on it. -/
def slot? (ls : List Leaf) : Option Slot :=
  if ls.isEmpty then none else some (slotOf ls)

theorem mergedOperators_eq {operands : Entries Name Value} {l : Leaf}
    (h : l.operator ∈ Filter.Operator.all) :
    mergedOperators operands l = .ok (.operators (addOperator operands l)) := by
  unfold mergedOperators
  cases hop : l.operator with
  | other s => simp [hop, Filter.Operator.all] at h
  | _ => rfl

/-- One more condition after another turns what stands under the field into an operator mapping. -/
theorem slotOf_concat {ls : List Leaf} (hne : ls ≠ []) (l : Leaf) :
    slotOf (ls ++ [l]) = .operators ((ls ++ [l]).foldl addOperator []) := by
  obtain ⟨l', ls, rfl⟩ := List.exists_cons_of_ne_nil hne
  cases ls with
  | nil => rfl
  | cons => rfl

theorem slotOf_singleton_eq {l : Leaf} (h : l.operator = .eq) : slotOf [l] = .equals l.value :=
  if_pos h

theorem slotOf_eq_operators {ls : List Leaf} (h : ∀ l, ls = [l] → l.operator ≠ .eq) :
    slotOf ls = .operators (ls.foldl addOperator []) := by
  unfold slotOf
  split
  · rename_i l
    rw [if_neg (h l rfl)]
    rfl
  · rfl

theorem addLeaf_eq {native : Filters} {ls : List Leaf} {l : Leaf}
    (hop : l.operator ∈ Filter.Operator.all) (h : native.get? l.field.text = slot? ls) :
    addLeaf native l = .ok (native.put l.field (slotOf (ls ++ [l]))) := by
  unfold addLeaf
  rw [h, slot?]
  by_cases hempty : ls = []
  · subst hempty
    by_cases heq : l.operator = .eq
    · simp only [List.isEmpty_nil, if_true, if_pos heq, List.nil_append, slotOf_singleton_eq heq]
      rfl
    · have hslot : slotOf [l] = .operators (addOperator [] l) := if_neg heq
      simp only [List.isEmpty_nil, if_true, if_neg heq, mergedOperators_eq hop, List.nil_append,
        hslot]
      rfl
  · rw [if_neg (by simpa using hempty), slotOf_concat hempty, List.foldl_concat]
    by_cases heq : ∃ l', ls = [l'] ∧ l'.operator = .eq
    · obtain ⟨l', rfl, heq⟩ := heq
      have hadd : addOperator [] l' = [(.plain Filter.Operator.eq.symbol, l'.value)] := by
        simp [addOperator, heq, Entries.put]
      rw [slotOf_singleton_eq heq]
      simp only [mergedOperators_eq hop, List.foldl_cons, List.foldl_nil, hadd]
      rfl
    · rw [slotOf_eq_operators fun l' hl' heq' => heq ⟨l', hl', heq'⟩]
      simp only [mergedOperators_eq hop]
      rfl

/-! ### Lists of nodes -/

theorem addNodes_append (native : Filters) (ms ns : List Node) :
    addNodes native (ms ++ ns) = (addNodes native ms >>= fun native => addNodes native ns) := by
  induction ms generalizing native with
  | nil => rw [List.nil_append, addNodes]; rfl
  | cons m ms ih =>
    rw [List.cons_append, addNodes, addNodes]
    cases addNode native m with
    | error e => rfl
    | ok native => exact ih native

theorem addNodes_singleton (native : Filters) (n : Node) : addNodes native [n] = addNode native n := by
  rw [addNodes]
  cases addNode native n with
  | error e => rfl
  | ok native =>
    show addNodes native [] = .ok native
    rw [addNodes]
    rfl

/-- A list of nodes is compiled to a document. -/
def Compiles (ns : List Node) (document : Value) : Prop :=
  ∃ native, addNodes [] ns = .ok native ∧ native.value = document

theorem filter_eq_ok {ns : List Node} {document : Value} :
    filter ns = .ok document ↔ Compiles ns document :=
  map_eq_ok

theorem childDocuments_eq_ok {children : List (List Node)} {ds : List Value} :
    childDocuments children = .ok ds ↔ List.Forall₂ Compiles children ds := by
  induction children generalizing ds with
  | nil =>
    rw [childDocuments, pure_eq_ok]
    simp [eq_comm]
  | cons child children ih =>
    rw [childDocuments, bind_eq_ok]
    constructor
    · rintro ⟨native, hnative, h⟩
      obtain ⟨rest, hrest, h⟩ := bind_eq_ok.1 h
      rw [← pure_eq_ok.1 h]
      exact .cons ⟨native, hnative, rfl⟩ (ih.1 hrest)
    · intro h
      cases h with
      | cons hchild hrest =>
        obtain ⟨native, hnative, rfl⟩ := hchild
        exact ⟨native, hnative, bind_eq_ok.2 ⟨_, ih.2 hrest, rfl⟩⟩

/-- What stands under a connective. -/
def filters? (ds : List Value) : Option Slot :=
  if ds.isEmpty then none else some (.filters ds)

theorem addGroup_eq {native : Filters} {c : Connective} {ds : List Value} (documents : List Value)
    (h : native.get? c.symbol = filters? ds) :
    addGroup native c documents = .ok
      (if documents.isEmpty then native
        else native.put (.plain c.symbol) (.filters (ds ++ documents))) := by
  unfold addGroup
  by_cases hdocuments : documents.isEmpty = true
  · rw [if_pos hdocuments, if_pos hdocuments]
    rfl
  · rw [if_neg hdocuments, if_neg hdocuments, h, filters?]
    cases ds with
    | nil => rfl
    | cons d ds => rfl

/-! ### What a list of nodes leaves under each key -/

/-- A native filter holds one level of nodes: under each field what its conditions leave, under each
connective the documents of its groups' children, and nothing else. -/
structure Gathers (ns : List Node) (native : Filters) : Prop where
  nodup : native.keys.Nodup
  field : ∀ name, Filter.isOperatorKey name = false → native.get? name = slot? (leavesOn name ns)
  group : ∀ c : Connective, ∃ ds, List.Forall₂ Compiles (childrenUnder c ns) ds ∧
    native.get? c.symbol = filters? ds
  marked : ∀ key ∈ native.keys, Filter.isOperatorKey key = true → ∃ c : Connective, key = c.symbol

theorem gathers_nil : Gathers [] [] where
  nodup := List.nodup_nil
  field _ _ := rfl
  group _ := ⟨[], .nil, rfl⟩
  marked _ h := absurd h (by simp [Entries.keys])

theorem get?_put (native : Filters) (name : Name) (slot : Slot) (key : String) :
    Entries.get? key (native.put name slot) =
      if name.text = key then some slot else native.get? key :=
  Entries.get?_put name key slot native

theorem mem_keys_put {native : Filters} {name : Name} {slot : Slot} {key : String}
    (h : key ∈ (native.put name slot).keys) : key = name.text ∨ key ∈ native.keys := by
  rw [Entries.keys_put] at h
  split at h
  · exact .inr h
  · rcases List.mem_append.1 h with h | h
    · exact .inr h
    · exact .inl (List.mem_singleton.1 h)

theorem Gathers.addLeaf {ns : List Node} {native : Filters} {l : Leaf} (h : Gathers ns native)
    (hl : l.Known) :
    ∃ native', addLeaf native l = .ok native' ∧ Gathers (ns ++ [.leaf l]) native' := by
  refine ⟨_, addLeaf_eq hl.2 (h.field _ hl.1), Entries.nodup_keys_put _ _ h.nodup, ?_, ?_, ?_⟩
  · intro name hname
    rw [get?_put, Filter.leavesOn_append, h.field name hname]
    by_cases hfield : l.field.text = name
    · have hon : leavesOn name [.leaf l] = [l] := by
        simp [leavesOn, Node.leafOn?, hfield]
      rw [if_pos hfield, hon, hfield, slot?, if_neg (by simp)]
    · have hon : leavesOn name [.leaf l] = [] := by
        simp [leavesOn, Node.leafOn?, hfield]
      rw [if_neg hfield, hon, List.append_nil]
  · intro c
    obtain ⟨ds, hds, hget⟩ := h.group c
    have hne : l.field.text ≠ c.symbol := by
      intro heq
      have hkey := hl.1
      rw [heq, Filter.isOperatorKey_symbol] at hkey
      exact Bool.noConfusion hkey
    refine ⟨ds, ?_, ?_⟩
    · simpa [Filter.childrenUnder_append, childrenUnder, Node.childrenUnder] using hds
    · rw [get?_put, if_neg hne, hget]
  · intro key hkey hmarked
    rcases mem_keys_put hkey with rfl | hkey
    · exact absurd hmarked (by simp [hl.1])
    · exact h.marked key hkey hmarked

theorem Gathers.addGroup {ns : List Node} {native : Filters} {c : Connective}
    {children : List (List Node)} {documents : List Value} (h : Gathers ns native)
    (hdocuments : List.Forall₂ Compiles children documents) :
    ∃ native', addGroup native c documents = .ok native' ∧
      Gathers (ns ++ [.group c children]) native' := by
  obtain ⟨ds, hds, hget⟩ := h.group c
  have hfield : ∀ name, leavesOn name (ns ++ [.group c children]) = leavesOn name ns := by
    intro name
    simp [leavesOn, Node.leafOn?]
  have hsame : childrenUnder c (ns ++ [.group c children]) = childrenUnder c ns ++ children := by
    simp [childrenUnder, Node.childrenUnder]
  have hother : ∀ c', c ≠ c' →
      childrenUnder c' (ns ++ [.group c children]) = childrenUnder c' ns := by
    intro c' hne
    simp [childrenUnder, Node.childrenUnder, hne]
  refine ⟨_, addGroup_eq documents hget, ?_⟩
  by_cases hempty : documents = []
  · subst hempty
    cases hdocuments
    rw [List.append_nil] at hsame
    refine ⟨h.nodup, fun name hname => ?_, fun c' => ?_, h.marked⟩
    · rw [hfield]
      exact h.field name hname
    · by_cases hc : c = c'
      · subst hc
        rw [hsame]
        exact h.group c
      · rw [hother c' hc]
        exact h.group c'
  · rw [if_neg (by simpa using hempty)]
    refine ⟨Entries.nodup_keys_put _ _ h.nodup, fun name hname => ?_, fun c' => ?_, ?_⟩
    · have hne : c.symbol ≠ name := by
        rintro rfl
        rw [Filter.isOperatorKey_symbol] at hname
        exact Bool.noConfusion hname
      rw [get?_put, hfield]
      exact (if_neg hne).trans (h.field name hname)
    · rw [get?_put]
      by_cases hc : c = c'
      · subst hc
        refine ⟨ds ++ documents, ?_, ?_⟩
        · rw [hsame]
          exact List.rel_append hds hdocuments
        · have hne : (ds ++ documents).isEmpty = false := by simp [hempty]
          rw [filters?, hne]
          exact if_pos rfl
      · obtain ⟨ds', hds', hget'⟩ := h.group c'
        refine ⟨ds', by rwa [hother c' hc], ?_⟩
        exact (if_neg fun heq => hc (Filter.symbol_injective heq)).trans hget'
    · intro key hkey hmarked
      rcases mem_keys_put hkey with rfl | hkey
      · exact ⟨c, rfl⟩
      · exact h.marked key hkey hmarked

mutual

theorem exists_addNode : (n : Node) → (∀ l ∈ n.leaves, l.Known) → ∀ {ns : List Node}
    {native : Filters}, Gathers ns native →
    ∃ native', addNode native n = .ok native' ∧ Gathers (ns ++ [n]) native'
  | .leaf l, hn, ns, native, h => by
    rw [addNode]
    exact h.addLeaf (hn l (by simp [Node.leaves]))
  | .group c children, hn, ns, native, h => by
    rw [Node.leaves] at hn
    obtain ⟨documents, hdocuments⟩ := exists_documents children hn
    obtain ⟨native', hadd, hgathers⟩ := h.addGroup (c := c) hdocuments
    rw [addNode]
    exact ⟨native', bind_eq_ok.2 ⟨documents, childDocuments_eq_ok.2 hdocuments, hadd⟩, hgathers⟩

theorem exists_addNodes : (ms : List Node) → (∀ l ∈ leaves ms, l.Known) → ∀ {ns : List Node}
    {native : Filters}, Gathers ns native →
    ∃ native', addNodes native ms = .ok native' ∧ Gathers (ns ++ ms) native'
  | [], _, ns, native, h => by
    rw [addNodes, List.append_nil]
    exact ⟨native, rfl, h⟩
  | m :: ms, hm, ns, native, h => by
    rw [leaves, List.forall_mem_append] at hm
    obtain ⟨native', hadd, hgathers⟩ := exists_addNode m hm.1 h
    obtain ⟨native'', hadds, hgathers⟩ := exists_addNodes ms hm.2 hgathers
    rw [List.append_assoc] at hgathers
    rw [addNodes]
    exact ⟨native'', bind_eq_ok.2 ⟨native', hadd, hadds⟩, hgathers⟩

theorem exists_documents : (children : List (List Node)) →
    (∀ l ∈ leavesOfChildren children, l.Known) → ∃ ds, List.Forall₂ Compiles children ds
  | [], _ => ⟨[], .nil⟩
  | child :: children, hc => by
    rw [leavesOfChildren, List.forall_mem_append] at hc
    obtain ⟨native, hadd, -⟩ := exists_addNodes child hc.1 gathers_nil
    obtain ⟨ds, hds⟩ := exists_documents children hc.2
    exact ⟨native.value :: ds, .cons ⟨native, hadd, rfl⟩ hds⟩

end

theorem exists_gathers {ns : List Node} (h : ∀ l ∈ leaves ns, l.Known) :
    ∃ native, addNodes [] ns = .ok native ∧ Gathers ns native :=
  exists_addNodes ns h gathers_nil

theorem gathers_of_addNodes {ns : List Node} {native : Filters} (hns : ∀ l ∈ leaves ns, l.Known)
    (h : addNodes [] ns = .ok native) : Gathers ns native := by
  obtain ⟨native', hadd, hgathers⟩ := exists_gathers hns
  obtain rfl : native = native' := Except.ok.inj (h.symm.trans hadd)
  exact hgathers

end Document

end Polystore

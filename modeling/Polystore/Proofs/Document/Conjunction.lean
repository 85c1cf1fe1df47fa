import Polystore.Proofs.Document.Meaning
import Polystore.Proofs.Sql.Denotation

/-!
# Native filters as conjunctions

A native filter means all the nodes that it was built from if no two of them meet in one place of it
(`Separate`). Conditions meet if they ask the same operator of one field, and groups if both are
disjunctions. A single equality on a field meets no other condition, but the operators that its value may
be taken for.
-/

namespace Polystore

namespace Filter

theorem mem_leaves_of_mem {n : Node} {ns : List Node} {l : Leaf} (hn : n ∈ ns) (hl : l ∈ n.leaves) :
    l ∈ leaves ns := by
  obtain ⟨before, after, rfl⟩ := List.append_of_mem hn
  rw [leaves_append, leaves]
  exact List.mem_append_right _ (List.mem_append_left _ hl)

theorem mem_leaves_of_mem_child {c : Connective} {children : List (List Node)} {child : List Node}
    {l : Leaf} (hchild : child ∈ children) (hl : l ∈ leaves child) :
    l ∈ (Node.group c children).leaves := by
  rw [Node.leaves, leavesOfChildren_eq_flatMap]
  exact List.mem_flatMap.2 ⟨child, hchild, hl⟩

end Filter

namespace Sql

theorem DenotesBody.exists_ofText? {c : Compiler} {p : Predicate} {holds : Condition}
    (h : DenotesBody c.dialect.engine p holds) (hclear : (p.fragment c.dialect.engine).Clear) :
    ∃ e, Expr.ofText? c.dialect
        (fun number => (c.write (p.fragment c.dialect.engine)).2.parameters[number - c.start]?) c.next
        (c.write (p.fragment c.dialect.engine)).1 = some e ∧ ∀ m row, e.Holds m row ↔ holds m row := by
  obtain ⟨e, ⟨ts, hreads, hbody⟩, he⟩ := h
  exact ⟨e, ofText?_render hclear (fun i _ => getElem?_parameters_bind c _ i) hreads hbody, he⟩

end Sql

namespace Document

open Polystore.Filter (Leaf Node Connective Meaning Operator isAsked operators? leaves leavesOn
  leavesOfChildren childrenUnder AllSatisfied hasOperatorKey)

/-! ### Nodes that do not meet -/

/-- No two nodes of one level meet: the conditions of a field ask each operator for one thing, a single
equality is read as one, and disjunctions with members have the same members. -/
structure SeparateLevel (ns : List Node) : Prop where
  once : ∀ l l', .leaf l ∈ ns → .leaf l' ∈ ns → l.field.text = l'.field.text →
    l.operator = l'.operator → l.value = l'.value ∧ l.usedOptions = l'.usedOptions
  literal : ∀ l, leavesOn l.field.text ns = [l] → l.operator = .eq → hasOperatorKey l.value = false
  alternatives : ∀ children children', .group .or children ∈ ns → .group .or children' ∈ ns →
    children ≠ [] → children' ≠ [] → children = children'

/-- No two nodes meet, on any level. -/
inductive Separate : List Node → Prop where
  | intro {ns : List Node} (level : SeparateLevel ns)
      (below : ∀ c children, .group c children ∈ ns → ∀ child ∈ children, Separate child) :
      Separate ns

variable {ns : List Node} {native : Filters}

theorem SeparateLevel.joins_iff (h : SeparateLevel ns) (P : List Node → Prop) (c : Connective) :
    (∀ children, .group c children ∈ ns → c.Joins P children) ↔ c.Joins P (childrenUnder c ns) := by
  cases c with
  | and =>
    constructor
    · intro hall child hchild
      obtain ⟨children, hmem, hchild⟩ := Filter.mem_childrenUnder.1 hchild
      exact hall children hmem child hchild
    · intro hall children hmem child hchild
      exact hall child (Filter.mem_childrenUnder.2 ⟨children, hmem, hchild⟩)
  | or =>
    constructor
    · intro hall
      by_cases hempty : childrenUnder .or ns = []
      · exact .inl hempty
      · obtain ⟨child, hchild⟩ := List.exists_mem_of_ne_nil _ hempty
        obtain ⟨children, hmem, hchild⟩ := Filter.mem_childrenUnder.1 hchild
        rcases hall children hmem with hnil | ⟨child', hchild', hP⟩
        · exact absurd hchild (by simp [hnil])
        · exact .inr ⟨child', Filter.mem_childrenUnder.2 ⟨children, hmem, hchild'⟩, hP⟩
    · intro hsome children hmem
      by_cases hempty : children = []
      · exact .inl hempty
      · obtain ⟨child, hchild⟩ := List.exists_mem_of_ne_nil _ hempty
        have hunder := Filter.mem_childrenUnder.2 ⟨children, hmem, hchild⟩
        rcases hsome with hnil | ⟨child', hchild', hP⟩
        · exact absurd hunder (by simp [hnil])
        · obtain ⟨children', hmem', hchild'⟩ := Filter.mem_childrenUnder.1 hchild'
          have hsame := h.alternatives children children' hmem hmem' hempty (List.ne_nil_of_mem hchild')
          exact .inr ⟨child', hsame ▸ hchild', hP⟩

/-! ### One level -/

theorem rightUnique_compiles : Relator.RightUnique Compiles := fun _ _ _ h h' =>
  Except.ok.inj ((filter_eq_ok.2 h).symm.trans (filter_eq_ok.2 h'))

theorem Gathers.satisfied_iff (h : Gathers ns native) (meaning : Meaning) :
    Satisfied meaning native.value ↔
      (∀ field, Filter.isOperatorKey field = false → leavesOn field ns ≠ [] →
        FieldSatisfied meaning field (slotOf (leavesOn field ns)).value) ∧
      ∀ c ds, List.Forall₂ Compiles (childrenUnder c ns) ds → c.Joins (Satisfied meaning) ds := by
  have hslot : ∀ {key : String} {slot : Slot}, native.get? key = some slot →
      ∃ name : Name, name.text = key ∧ (name, slot) ∈ native := Entries.exists_mem_of_get?
  rw [satisfied_value_iff]
  constructor
  · intro hall
    refine ⟨fun field hfield hne => ?_, fun c ds hds => ?_⟩
    · have hget : native.get? field = some (slotOf (leavesOn field ns)) := by
        rw [h.field field hfield, slot?, if_neg (by simpa using hne)]
      obtain ⟨name, rfl, hmem⟩ := hslot hget
      exact (entrySatisfied_field_iff meaning hfield).1 (hall _ hmem)
    · obtain ⟨ds', hds', hget⟩ := h.group c
      obtain rfl : ds = ds' := List.right_unique_forall₂' rightUnique_compiles hds hds'
      by_cases hempty : ds = []
      · subst hempty
        cases c <;> simp [Connective.Joins]
      · rw [filters?, if_neg (by simpa using hempty)] at hget
        obtain ⟨name, hname, hmem⟩ := hslot hget
        exact (entrySatisfied_group_iff meaning hname).1 (hall _ hmem)
  · rintro ⟨hfields, hgroups⟩ ⟨name, slot⟩ hmem
    have hget : native.get? name.text = some slot := Entries.get?_of_mem h.nodup hmem
    by_cases hname : Filter.isOperatorKey name.text = true
    · obtain ⟨c, hc⟩ := h.marked name.text (List.mem_map.2 ⟨_, hmem, rfl⟩) hname
      obtain ⟨ds, hds, hget'⟩ := h.group c
      rw [hc, hget', filters?] at hget
      split at hget
      · exact absurd hget (by simp)
      · obtain rfl := Option.some.inj hget
        exact (entrySatisfied_group_iff meaning hc).2 (hgroups c ds hds)
    · have hname : Filter.isOperatorKey name.text = false := by simpa using hname
      rw [h.field _ hname, slot?] at hget
      split at hget
      · exact absurd hget (by simp)
      · rename_i hne
        obtain rfl := Option.some.inj hget
        exact (entrySatisfied_field_iff meaning hname).2 (hfields _ hname (by simpa using hne))

theorem allSatisfied_iff_of_known (meaning : Meaning) (hknown : ∀ l, .leaf l ∈ ns → l.Known) :
    AllSatisfied meaning ns ↔
      (∀ field, Filter.isOperatorKey field = false → ∀ l ∈ leavesOn field ns, l.Satisfied meaning) ∧
      ∀ c children, .group c children ∈ ns → c.Joins (AllSatisfied meaning) children := by
  rw [Filter.allSatisfied_iff]
  constructor
  · intro hall
    refine ⟨fun field _ l hl => ?_, fun c children hmem => ?_⟩
    · have hleaf := hall _ (Filter.mem_leavesOn.1 hl).1
      rwa [Node.Satisfied] at hleaf
    · exact (Filter.satisfied_group_iff meaning).1 (hall _ hmem)
  · rintro ⟨hleaves, hgroups⟩ n hn
    cases n with
    | leaf l =>
      rw [Node.Satisfied]
      exact hleaves _ (hknown l hn).1 l (Filter.mem_leavesOn.2 ⟨hn, rfl⟩)
    | group c children => exact (Filter.satisfied_group_iff meaning).2 (hgroups c children hn)

theorem SeparateLevel.fieldSatisfied_iff (h : SeparateLevel ns)
    (hknown : ∀ l, .leaf l ∈ ns → l.Known) (meaning : Meaning) {field : String}
    (hne : leavesOn field ns ≠ []) :
    FieldSatisfied meaning field (slotOf (leavesOn field ns)).value ↔
      ∀ l ∈ leavesOn field ns, l.Satisfied meaning := by
  have hon : ∀ l ∈ leavesOn field ns, .leaf l ∈ ns ∧ l.field.text = field :=
    fun l hl => Filter.mem_leavesOn.1 hl
  have honce : Once (leavesOn field ns) := by
    intro l hl l' hl'
    exact h.once l l' (hon l hl).1 (hon l' hl').1 ((hon l hl).2.trans (hon l' hl').2.symm)
  have hliteral : ∀ l, leavesOn field ns = [l] → l.operator = .eq → hasOperatorKey l.value = false := by
    intro l hl
    obtain rfl := (hon l (by simp [hl])).2
    exact h.literal l hl
  exact fieldSatisfied_slotOf_iff meaning hne (fun l hl => (hknown l (hon l hl).1).2) honce
    (fun l hl => (hon l hl).2) hliteral

theorem SeparateLevel.satisfied_iff (hlevel : SeparateLevel ns) (h : Gathers ns native)
    (hknown : ∀ l, .leaf l ∈ ns → l.Known) (meaning : Meaning)
    (hbelow : ∀ c children, .group c children ∈ ns → ∀ child ∈ children, ∀ d, Compiles child d →
      (AllSatisfied meaning child ↔ Satisfied meaning d)) :
    Satisfied meaning native.value ↔ AllSatisfied meaning ns := by
  rw [h.satisfied_iff, allSatisfied_iff_of_known meaning hknown]
  refine and_congr (forall₂_congr fun field _ => ?_) (forall_congr' fun c => ?_)
  · by_cases hne : leavesOn field ns = []
    · simp [hne]
    · have hslot := hlevel.fieldSatisfied_iff hknown meaning hne
      exact ⟨fun hfield => hslot.1 (hfield hne), fun hall _ => hslot.2 hall⟩
  · have hchildren : ∀ ds, List.Forall₂ Compiles (childrenUnder c ns) ds →
        (c.Joins (AllSatisfied meaning) (childrenUnder c ns) ↔ c.Joins (Satisfied meaning) ds) := by
      intro ds hds
      refine c.joins_congr hds fun child hchild d hd => ?_
      obtain ⟨children, hmem, hchild⟩ := Filter.mem_childrenUnder.1 hchild
      exact hbelow c children hmem child hchild d hd
    rw [hlevel.joins_iff]
    obtain ⟨ds, hds, -⟩ := h.group c
    exact ⟨fun hall => (hchildren ds hds).2 (hall ds hds), fun hall ds hds => (hchildren ds hds).1 hall⟩

theorem Separate.satisfied_iff (h : Separate ns) (hknown : ∀ l ∈ leaves ns, l.Known) {d : Value}
    (hd : Compiles ns d) (meaning : Meaning) : Satisfied meaning d ↔ AllSatisfied meaning ns := by
  induction h generalizing d with
  | @intro ns level below ih =>
    obtain ⟨native, hadd, rfl⟩ := hd
    refine level.satisfied_iff (gathers_of_addNodes hknown hadd) (fun l hl => ?_) meaning ?_
    · exact hknown l (Filter.mem_leaves_of_mem hl (by simp [Node.leaves]))
    · intro c children hmem child hchild d hd
      refine (ih c children hmem child hchild (fun l hl => ?_) hd).symm
      exact hknown l (Filter.mem_leaves_of_mem hmem (Filter.mem_leaves_of_mem_child hchild hl))

/-! ### Conditions that meet -/

/-- What stands under a field asks an operator for an operand, with the options that it has a use for. -/
inductive Asked (field : String) (v : Value) : Operator → Value → String → Prop where
  | bare (h : operators? (.plain field) v = .ok none) : Asked field v .eq v ""
  | operator {es : List (Value × Value)} {e : Value × Value} {op : Operator}
      (h : operators? (.plain field) v = .ok (some es)) (he : e ∈ es.filter isAsked)
      (hop : Operator.ofSymbol? (e.1.text?.getD "") = some op) :
      Asked field v op e.2 (if op = .regex then optionsAmong es else "")

theorem fieldSatisfied_of_asked {meaning : Meaning} {field : String} {v : Value}
    (h : FieldSatisfied (fun _ _ _ _ => True) field v)
    (hasked : ∀ op operand options, Asked field v op operand options →
      meaning field op operand options) :
    FieldSatisfied meaning field v := by
  unfold FieldSatisfied at h ⊢
  cases hoperators : operators? (.plain field) v with
  | error e => rw [hoperators] at h; exact h
  | ok found =>
    rw [hoperators] at h
    cases found with
    | none => exact hasked _ _ _ (.bare hoperators)
    | some es =>
      intro e he
      obtain ⟨op, hop, -⟩ := h e he
      exact ⟨op, hop, hasked _ _ _ (.operator hoperators he hop)⟩

theorem hasOperatorKey_of_asked {field options : String} {v operand : Value} {op : Operator}
    (h : Asked field v op operand options) (hself : operand = v) : hasOperatorKey v = false := by
  cases h with
  | bare h => exact Filter.hasOperatorKey_of_operators? h
  | operator h he => exact absurd hself (Filter.operand_ne h (List.mem_filter.1 he).1)

section Leaves

variable {ls : List Leaf}

theorem satisfied_of_leaves (meaning : Meaning) :
    AllSatisfied meaning (ls.map .leaf) ↔ ∀ l ∈ ls, l.Satisfied meaning := by
  rw [Filter.allSatisfied_iff, List.forall_mem_map]
  simp [Node.Satisfied]

/-- Where a native filter means all conditions, each is asked under its field: a meaning that holds of
everything but one condition tells whether it is. -/
theorem asked_of_satisfied_iff {native : Filters} (h : Gathers (ls.map .leaf) native)
    (hiff : ∀ meaning, Satisfied meaning native.value ↔ AllSatisfied meaning (ls.map .leaf)) {l : Leaf}
    (hl : l ∈ ls) :
    Asked l.field.text (slotOf (leavesOn l.field.text (ls.map .leaf))).value l.operator l.value
      l.usedOptions := by
  by_contra hnot
  -- everything means something true but this condition, which nothing in the native filter asks
  let others : Meaning := fun field op operand options =>
    ¬(field = l.field.text ∧ op = l.operator ∧ operand = l.value ∧ options = l.usedOptions)
  have htrue : Satisfied (fun _ _ _ _ => True) native.value :=
    (hiff _).2 ((satisfied_of_leaves _).2 fun _ _ => trivial)
  have hothers : Satisfied others native.value := by
    refine (h.satisfied_iff others).2 ⟨fun field hfield hne => ?_, fun c ds hds => ?_⟩
    · refine fieldSatisfied_of_asked (((h.satisfied_iff _).1 htrue).1 field hfield hne) ?_
      rintro op operand options hasked ⟨rfl, rfl, rfl, rfl⟩
      exact hnot hasked
    · have hnone : childrenUnder c (ls.map .leaf) = [] := by
        rw [childrenUnder, List.flatMap_map]
        exact List.flatMap_eq_nil_iff.2 fun _ _ => rfl
      rw [hnone, List.forall₂_nil_left_iff] at hds
      subst hds
      cases c <;> simp [Connective.Joins]
  exact (satisfied_of_leaves others).1 ((hiff others).1 hothers) l hl ⟨rfl, rfl, rfl, rfl⟩

theorem asked_merged_unique (hknown : ∀ l ∈ ls, l.operator ∈ Operator.all) (hne : ls ≠ [])
    {field : String} {op : Operator} {v v' : Value} {options options' : String}
    (h : Asked field (mapping (merged ls)) op v options)
    (h' : Asked field (mapping (merged ls)) op v' options') : v = v' ∧ options = options' := by
  have hmerged := operators?_merged hknown hne (.plain field)
  have hget : ∀ {e : Value × Value}, e ∈ (entriesOf (merged ls)).filter isAsked →
      Operator.ofSymbol? (e.1.text?.getD "") = some op → (merged ls).get? op.symbol = some e.2 := by
    intro e he hop
    obtain ⟨hentry, -⟩ := List.mem_filter.1 he
    obtain ⟨⟨n, w⟩, hmem, rfl⟩ := List.mem_map.1 hentry
    have hsymbol := Filter.symbol_of_ofSymbol? hop
    rw [Name.text?_value, Option.getD_some] at hsymbol
    rw [hsymbol]
    exact Entries.get?_of_mem (nodup_keys_merged ls) hmem
  cases h with
  | bare h => exact absurd (hmerged.symm.trans h) (by simp)
  | operator h he hop =>
    cases h' with
    | bare h' => exact absurd (hmerged.symm.trans h') (by simp)
    | operator h' he' hop' =>
      obtain rfl : _ = entriesOf (merged ls) := by simpa [hmerged] using h.symm
      obtain rfl : _ = entriesOf (merged ls) := by simpa [hmerged] using h'.symm
      exact ⟨Option.some.inj ((hget he hop).symm.trans (hget he' hop')), rfl⟩

theorem separate_of_satisfied_iff {native : Filters} (h : Gathers (ls.map .leaf) native)
    (hknown : ∀ l ∈ ls, l.Known)
    (hiff : ∀ meaning, Satisfied meaning native.value ↔ AllSatisfied meaning (ls.map .leaf)) :
    Separate (ls.map .leaf) := by
  have hleaf : ∀ {l}, Node.leaf l ∈ ls.map Node.leaf → l ∈ ls := by
    intro l hmem
    obtain ⟨l', hl', heq⟩ := List.mem_map.1 hmem
    exact Node.leaf.inj heq ▸ hl'
  have hgroup : ∀ {c children}, Node.group c children ∉ ls.map Node.leaf := by
    intro c children hmem
    obtain ⟨l, -, hl⟩ := List.mem_map.1 hmem
    exact absurd hl (by simp)
  refine .intro ⟨?_, ?_, fun _ _ hmem => absurd hmem hgroup⟩ fun _ _ hmem => absurd hmem hgroup
  · intro l l' hl hl' hfield hop
    have hfirst := asked_of_satisfied_iff h hiff (hleaf hl)
    have hsecond := asked_of_satisfied_iff h hiff (hleaf hl')
    have hon := Filter.mem_leavesOn.2 ⟨hl, rfl⟩
    have hon' := Filter.mem_leavesOn.2 ⟨hl', hfield.symm⟩
    have hall : ∀ l' ∈ leavesOn l.field.text (ls.map .leaf), l'.operator ∈ Operator.all :=
      fun l' hl' => (hknown l' (hleaf (Filter.mem_leavesOn.1 hl').1)).2
    rw [← hfield, ← hop] at hsecond
    generalize leavesOn l.field.text (ls.map .leaf) = on at *
    -- a condition that is alone on its field meets itself only
    by_cases hsingle : ∃ l, on = [l]
    · obtain ⟨l'', rfl⟩ := hsingle
      rw [List.mem_singleton.1 hon, List.mem_singleton.1 hon']
      exact ⟨rfl, rfl⟩
    · rw [slotOf_eq_merged fun l hl => absurd ⟨l, hl⟩ hsingle] at hfirst hsecond
      exact asked_merged_unique hall (List.ne_nil_of_mem hon) hfirst hsecond
  · intro l hl hop
    have hbare := asked_of_satisfied_iff h hiff (hleaf (Filter.mem_of_leavesOn_eq hl))
    rw [hl, slotOf_singleton_eq hop] at hbare
    exact hasOperatorKey_of_asked hbare rfl

end Leaves

/-- Conditions with known operators, on fields without the mark of operators, and groups of such are
compiled. If no two of them meet, the native filter is satisfied exactly if all nodes are, whatever the
single conditions mean, and it means what the condition text means that they are compiled to for a
relational store. Conditions without groups have to be so for that. -/
theorem satisfied_filter_iff {ns : List Node} (hknown : ∀ l ∈ leaves ns, l.Known) :
    ∃ native, filter ns = .ok native ∧
      (Separate ns →
        (∀ meaning, Satisfied meaning native ↔ AllSatisfied meaning ns) ∧
        ∀ (c c' : Sql.Compiler) (text : String),
          (∀ l ∈ leaves ns, Identifier.isPlain l.field.text.toList = true) →
          c.condition ns = (.ok text, c') →
          ∃ e, Sql.Expr.ofText? c.dialect (fun number => c'.parameters[number - c.start]?) c.next text =
              some e ∧
            ∀ m row, e.Holds m row ↔ Satisfied (m.meaning row) native) ∧
      ∀ ls : List Leaf, ns = ls.map .leaf →
        (∀ meaning, Satisfied meaning native ↔ AllSatisfied meaning ns) → Separate ns := by
  obtain ⟨native, hadd, hgathers⟩ := exists_gathers hknown
  refine ⟨native.value, filter_eq_ok.2 ⟨native, hadd, rfl⟩, fun hseparate => ?_, ?_⟩
  · have hiff := hseparate.satisfied_iff hknown ⟨native, hadd, rfl⟩
    refine ⟨hiff, fun c c' text hplain htext => ?_⟩
    unfold Sql.Compiler.condition Sql.Compiler.clause at htext
    cases hp : Sql.condition c.dialect ns with
    | error r =>
      rw [hp] at htext
      cases htext
    | ok p =>
      rw [hp] at htext
      cases htext
      obtain ⟨e, he, hholds⟩ :=
        (Sql.denotes_condition hplain hp).exists_ofText? (Sql.clear_condition hp c.dialect.engine)
      refine ⟨e, he, fun m row => ?_⟩
      rw [hholds, hiff, Filter.allSatisfied_meaning_iff]
  · rintro ls rfl hiff
    rw [Filter.leaves_map_leaf] at hknown
    exact separate_of_satisfied_iff hgathers hknown hiff

/-- Two filters one after the other, with a bound that both have, and a group without members. -/
theorem satisfied_filter_iff_of_repeated :
    let bound : Node := .leaf { field := .plain "a", operator := .gt, value := .int 1 }
    let ns : List Node := [bound,
      .group .or [[.leaf { field := .plain "b", operator := .eq, value := .int 2 }], []],
      .leaf { field := .plain "a", operator := .lt, value := .int 5 }, .group .or [], bound]
    let c : Sql.Compiler := { dialect := { engine := .postgresql } }
    let text := "a > $1 AND (b = $2 OR 1=1) AND a < $3 AND 1=1 AND a > $4"
    let parameters : List Value := [.int 1, .int 2, .int 5, .int 1]
    (∀ l ∈ leaves ns, l.Known) ∧ Separate ns ∧
      (∀ l ∈ leaves ns, Identifier.isPlain l.field.text.toList = true) ∧
      c.condition ns = (.ok text, c.bind parameters) ∧
      ∃ native e, filter ns = .ok native ∧
        (∀ meaning, Satisfied meaning native ↔ AllSatisfied meaning ns) ∧
        Sql.Expr.ofText? c.dialect (fun number => parameters[number - 1]?) 1 text = some e ∧
        ∀ m row, e.Holds m row ↔ Satisfied (m.meaning row) native := by
  intro bound ns c text parameters
  have hleaves : ∀ l ∈ leaves ns, l.Known ∧ Identifier.isPlain l.field.text.toList = true := by
    intro l hl
    simp only [ns, bound, leaves, Node.leaves, leavesOfChildren, List.append_nil, List.nil_append,
      List.cons_append, List.mem_cons, List.not_mem_nil, or_false] at hl
    rcases hl with rfl | rfl | rfl | rfl <;> exact ⟨⟨by decide, by decide⟩, by decide⟩
  have hempty : Separate [] := .intro ⟨by simp, by simp [leavesOn], by simp⟩ (by simp)
  have hequality : Separate [.leaf { field := .plain "b", operator := .eq, value := .int 2 }] := by
    refine .intro ⟨fun l l' hl hl' _ _ => ?_, fun l hl _ => ?_, by simp⟩ (by simp)
    · rw [Node.leaf.inj (List.mem_singleton.1 hl), Node.leaf.inj (List.mem_singleton.1 hl')]
      exact ⟨rfl, rfl⟩
    · rw [Node.leaf.inj (List.mem_singleton.1 (Filter.mem_of_leavesOn_eq hl))]
      rfl
  have hseparate : Separate ns := by
    refine .intro ⟨fun l l' hl hl' _ hop => ?_, fun l hl hop => ?_, ?_⟩ ?_
    · simp only [ns, bound, List.mem_cons, List.not_mem_nil, Node.leaf.injEq, reduceCtorEq, or_false,
        false_or] at hl hl'
      rcases hl with rfl | rfl | rfl <;> rcases hl' with rfl | rfl | rfl <;> simp_all
    · have hl := Filter.mem_of_leavesOn_eq hl
      simp only [ns, bound, List.mem_cons, List.not_mem_nil, Node.leaf.injEq, reduceCtorEq, or_false,
        false_or] at hl
      rcases hl with rfl | rfl | rfl <;> exact absurd hop (by decide)
    · intro children children' h h' hne hne'
      simp_all [ns, bound]
    · intro c children h child hchild
      simp only [ns, bound, List.mem_cons, List.not_mem_nil, Node.group.injEq, reduceCtorEq, or_false,
        false_or] at h
      rcases h with ⟨-, rfl⟩ | ⟨-, rfl⟩
      · rcases List.mem_pair.1 hchild with rfl | rfl
        · exact hequality
        · exact hempty
      · exact absurd hchild List.not_mem_nil
  have htext : c.condition ns = (.ok text, c.bind parameters) := by with_unfolding_all rfl
  obtain ⟨native, hnative, h, -⟩ := satisfied_filter_iff fun l hl => (hleaves l hl).1
  obtain ⟨hiff, hsql⟩ := h hseparate
  obtain ⟨e, he, hholds⟩ := hsql c _ text (fun l hl => (hleaves l hl).2) htext
  exact ⟨fun l hl => (hleaves l hl).1, hseparate, fun l hl => (hleaves l hl).2, htext, native, e,
    hnative, hiff, he, hholds⟩

/-- Of two conditions that ask the same operator of one field, the later one is left. -/
theorem not_satisfied_filter_iff_of_contradiction :
    let presence (b : Bool) : Node :=
      .leaf { field := .plain "a", operator := .exists, value := .bool b }
    let ns := [presence true, presence false]
    let native : Value := .map [(.str "a", .map [(.str "$exists", .bool false)])]
    (∀ l ∈ leaves ns, l.Known) ∧ filter ns = .ok native ∧
      ∃ meaning, Satisfied meaning native ∧ ¬AllSatisfied meaning ns := by
  intro presence ns native
  refine ⟨?_, by with_unfolding_all rfl, fun _ _ operand _ => operand.truthy = false, ?_, ?_⟩
  · intro l hl
    simp only [ns, presence, leaves, Node.leaves, List.append_nil, List.cons_append, List.nil_append,
      List.mem_cons, List.not_mem_nil, or_false] at hl
    rcases hl with rfl | rfl <;> exact ⟨by decide, by decide⟩
  · rw [Satisfied, entriesSatisfied_iff]
    intro e he
    obtain rfl := List.mem_singleton.1 he
    have hfield : Filter.isOperatorKey (Name.plain "a").text = false := by decide
    have hoperators : operators? (.plain "a") (.map [(.str "$exists", .bool false)]) =
        .ok (some [(.str "$exists", .bool false)]) := by with_unfolding_all rfl
    refine (entrySatisfied_field_iff _ hfield).2 ?_
    rw [FieldSatisfied, Name.text, hoperators]
    intro e he
    obtain rfl := List.mem_singleton.1 (List.mem_filter.1 he).1
    exact ⟨.exists, by decide, rfl⟩
  · rw [Filter.allSatisfied_iff]
    intro h
    have hfirst := h (presence true) (by simp [ns])
    simp [presence, Node.Satisfied, Leaf.Satisfied, Value.truthy] at hfirst

end Document

end Polystore

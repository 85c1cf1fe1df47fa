import Polystore.Proofs.Document.Readback
import Polystore.Proofs.Filter.Meaning

/-!
# What native filters mean

When native filters and condition nodes are satisfied, whatever a store makes of the single conditions: a
`Meaning` says that, for one document. `fieldSatisfied_slotOf_iff` says that what stands under a field
means all its conditions.
-/

namespace Polystore

namespace Filter

/-- What a store makes of a condition: of the field, the operator, its operand, and the options of a
pattern. -/
abbrev Meaning := String → Operator → Value → String → Prop

/-- The options that a condition has a use for. -/
def Leaf.usedOptions (l : Leaf) : String :=
  if l.operator = .regex then l.options.text else ""

/-- Members joined by a connective: all of them have a property, or some. A group without members
always holds. -/
def Connective.Joins {α : Type} (c : Connective) (P : α → Prop) (xs : List α) : Prop :=
  match c with
  | .and => ∀ x ∈ xs, P x
  | .or => xs = [] ∨ ∃ x ∈ xs, P x

theorem Connective.joins_congr {α β : Type} {R : α → β → Prop} {P : α → Prop} {Q : β → Prop}
    {xs : List α} {ys : List β} (c : Connective) (h : List.Forall₂ R xs ys)
    (hiff : ∀ x ∈ xs, ∀ y, R x y → (P x ↔ Q y)) : c.Joins P xs ↔ c.Joins Q ys := by
  have hall : ((∀ x ∈ xs, P x) ↔ ∀ y ∈ ys, Q y) ∧ ((∃ x ∈ xs, P x) ↔ ∃ y ∈ ys, Q y) := by
    induction h with
    | nil => simp
    | cons hxy _ ih =>
      rw [List.forall_mem_cons] at hiff
      have ih := ih hiff.2
      have hhead := hiff.1 _ hxy
      simp only [List.forall_mem_cons, List.exists_mem_cons_iff]
      exact ⟨and_congr hhead ih.1, or_congr hhead ih.2⟩
  have hnil : xs = [] ↔ ys = [] := by
    rw [← List.length_eq_zero_iff, h.length_eq, List.length_eq_zero_iff]
  cases c with
  | and => exact hall.1
  | or => exact or_congr hnil hall.2

variable (meaning : Meaning)

/-- A condition is satisfied by its meaning. -/
def Leaf.Satisfied (l : Leaf) : Prop :=
  meaning l.field.text l.operator l.value l.usedOptions

mutual

/-- A condition or a group is satisfied: the connective of a group joins its children. -/
def Node.Satisfied : Node → Prop
  | .leaf l => l.Satisfied meaning
  | .group .and children => EverySatisfied children
  | .group .or children => children = [] ∨ SomeSatisfied children

/-- All nodes of a list are satisfied. -/
def AllSatisfied : List Node → Prop
  | [] => True
  | n :: ns => n.Satisfied ∧ AllSatisfied ns

def EverySatisfied : List (List Node) → Prop
  | [] => True
  | child :: children => AllSatisfied child ∧ EverySatisfied children

def SomeSatisfied : List (List Node) → Prop
  | [] => False
  | child :: children => AllSatisfied child ∨ SomeSatisfied children

end

theorem allSatisfied_iff {ns : List Node} :
    AllSatisfied meaning ns ↔ ∀ n ∈ ns, n.Satisfied meaning := by
  induction ns with
  | nil => simp [AllSatisfied]
  | cons n ns ih => simp [AllSatisfied, ih]

theorem everySatisfied_iff {children : List (List Node)} :
    EverySatisfied meaning children ↔ ∀ child ∈ children, AllSatisfied meaning child := by
  induction children with
  | nil => simp [EverySatisfied]
  | cons child children ih => simp [EverySatisfied, ih]

theorem someSatisfied_iff {children : List (List Node)} :
    SomeSatisfied meaning children ↔ ∃ child ∈ children, AllSatisfied meaning child := by
  induction children with
  | nil => simp [SomeSatisfied]
  | cons child children ih => simp [SomeSatisfied, ih]

theorem satisfied_group_iff {c : Connective} {children : List (List Node)} :
    (Node.group c children).Satisfied meaning ↔ c.Joins (AllSatisfied meaning) children := by
  cases c with
  | and => rw [Node.Satisfied, everySatisfied_iff, Connective.Joins]
  | or => rw [Node.Satisfied, someSatisfied_iff, Connective.Joins]

end Filter

namespace Document

open Polystore.Filter (Leaf Node Connective Meaning Operator isAsked operators? leaves leavesOn
  childrenUnder AllSatisfied hasOperatorKey)

/-! ### Native filters -/

/-- The options that stand among the operators of a field. -/
def optionsAmong (es : List (Value × Value)) : String :=
  ((Value.lookup Filter.optionsKey es).bind Value.text?).getD ""

variable (meaning : Meaning)

/-- One operator of a field is satisfied by its operand, the options beside it taken in by a pattern. -/
def OperatorSatisfied (field options : String) (e : Value × Value) : Prop :=
  ∃ op, Operator.ofSymbol? (e.1.text?.getD "") = some op ∧
    meaning field op e.2 (if op = .regex then options else "")

/-- What stands under a field is satisfied: a bare value by equality, and an operator mapping by all its
operators. -/
def FieldSatisfied (field : String) (v : Value) : Prop :=
  match operators? (.plain field) v with
  | .ok none => meaning field .eq v ""
  | .ok (some es) => ∀ e ∈ es.filter isAsked, OperatorSatisfied meaning field (optionsAmong es) e
  | .error _ => False

mutual

/-- A native filter is satisfied by all its entries. -/
def Satisfied : Value → Prop
  | .map es => EntriesSatisfied es
  | _ => False

def EntriesSatisfied : List (Value × Value) → Prop
  | [] => True
  | e :: es => EntrySatisfied e ∧ EntriesSatisfied es

/-- A connective joins the filters that are listed under it; any other key with the mark of operators
means nothing. -/
def EntrySatisfied : Value × Value → Prop
  | (k, v) => ∃ key, k.text? = some key ∧
      match Connective.ofSymbol? key with
      | some c => GroupSatisfied c v
      | none => Filter.isOperatorKey key = false ∧ FieldSatisfied meaning key v

def GroupSatisfied : Connective → Value → Prop
  | .and, .list ds => EverySatisfied ds
  | .and, .tuple ds => EverySatisfied ds
  | .or, .list ds => ds = [] ∨ SomeSatisfied ds
  | .or, .tuple ds => ds = [] ∨ SomeSatisfied ds
  | _, _ => False

def EverySatisfied : List Value → Prop
  | [] => True
  | d :: ds => Satisfied d ∧ EverySatisfied ds

def SomeSatisfied : List Value → Prop
  | [] => False
  | d :: ds => Satisfied d ∨ SomeSatisfied ds

end

theorem entriesSatisfied_iff {es : List (Value × Value)} :
    EntriesSatisfied meaning es ↔ ∀ e ∈ es, EntrySatisfied meaning e := by
  induction es with
  | nil => simp [EntriesSatisfied]
  | cons e es ih => simp [EntriesSatisfied, ih]

theorem everySatisfied_iff {ds : List Value} :
    EverySatisfied meaning ds ↔ ∀ d ∈ ds, Satisfied meaning d := by
  induction ds with
  | nil => simp [EverySatisfied]
  | cons d ds ih => simp [EverySatisfied, ih]

theorem someSatisfied_iff {ds : List Value} :
    SomeSatisfied meaning ds ↔ ∃ d ∈ ds, Satisfied meaning d := by
  induction ds with
  | nil => simp [SomeSatisfied]
  | cons d ds ih => simp [SomeSatisfied, ih]

theorem groupSatisfied_list_iff {c : Connective} {ds : List Value} :
    GroupSatisfied meaning c (.list ds) ↔ c.Joins (Satisfied meaning) ds := by
  cases c with
  | and => rw [GroupSatisfied, everySatisfied_iff, Connective.Joins]
  | or => rw [GroupSatisfied, someSatisfied_iff, Connective.Joins]

theorem satisfied_value_iff {native : Filters} :
    Satisfied meaning native.value ↔
      ∀ f ∈ native, EntrySatisfied meaning (f.1.value, f.2.value) := by
  rw [Filters.value_eq, Satisfied, entriesSatisfied_iff, Filters.entries, List.forall_mem_map]

theorem entrySatisfied_field_iff {name : Name} {v : Value}
    (hname : Filter.isOperatorKey name.text = false) :
    EntrySatisfied meaning (name.value, v) ↔ FieldSatisfied meaning name.text v := by
  have hnone : Connective.ofSymbol? name.text = none := by
    refine Option.eq_none_iff_forall_ne_some.2 fun c hc => ?_
    rw [Filter.ofSymbol?_eq_some.1 hc, Filter.isOperatorKey_symbol] at hname
    exact Bool.noConfusion hname
  rw [EntrySatisfied, Name.text?_value]
  simp [hnone, hname]

theorem entrySatisfied_group_iff {name : Name} {c : Connective} {ds : List Value}
    (hname : name.text = c.symbol) :
    EntrySatisfied meaning (name.value, .list ds) ↔ c.Joins (Satisfied meaning) ds := by
  rw [EntrySatisfied, Name.text?_value, hname]
  simp [Connective.ofSymbol?_symbol, groupSatisfied_list_iff]

/-! ### What stands under a field -/

/-- No two conditions ask the same operator for different things. -/
def Once (ls : List Leaf) : Prop :=
  ∀ l ∈ ls, ∀ l' ∈ ls, l.operator = l'.operator → l.value = l'.value ∧ l.usedOptions = l'.usedOptions

/-- The operator mapping that conditions leave under their field. -/
def merged (ls : List Leaf) : Entries Name Value :=
  Entries.putAll [] (ls.flatMap leafEntries)

section Merged

variable {ls : List Leaf} {key : String} {v : Value}

theorem slotOf_eq_merged (hne : ∀ l, ls = [l] → l.operator ≠ .eq) :
    slotOf ls = .operators (merged ls) := by
  rw [slotOf_eq_operators hne, foldl_addOperator, merged]

theorem nodup_keys_merged (ls : List Leaf) : (merged ls).keys.Nodup :=
  Entries.nodup_keys_putAll _ List.nodup_nil

theorem get?_merged_eq_some (h : (merged ls).get? key = some v) :
    ∃ l ∈ ls, ∃ name : Name, name.text = key ∧ (name, v) ∈ leafEntries l := by
  rcases Entries.get?_putAll_eq_some h with h | ⟨name, hname, hmem⟩
  · exact absurd h (by simp [Entries.get?])
  · obtain ⟨l, hl, hmem⟩ := List.mem_flatMap.1 hmem
    exact ⟨l, hl, name, hname, hmem⟩

theorem exists_get?_merged {l : Leaf} (hl : l ∈ ls) {e : Name × Value} (he : e ∈ leafEntries l) :
    ∃ w, (merged ls).get? e.1.text = some w := by
  have hkey : e.1.text ∈ (merged ls).keys :=
    Entries.mem_keys_putAll.2 (.inr (List.mem_map.2 ⟨e, List.mem_flatMap.2 ⟨l, hl, he⟩, rfl⟩))
  obtain ⟨f, hf, htext⟩ := List.mem_map.1 hkey
  obtain ⟨w, hw⟩ := Entries.exists_get?_of_mem hf
  exact ⟨w, htext ▸ hw⟩

variable (hknown : ∀ l ∈ ls, l.operator ∈ Operator.all)
include hknown

theorem get?_merged_options (h : (merged ls).get? Filter.optionsKey = some v) :
    ∃ l ∈ ls, l.operator = .regex ∧ l.options.text ≠ "" ∧ v = l.options.value := by
  obtain ⟨l, hl, name, hname, hmem⟩ := get?_merged_eq_some h
  rcases mem_leafEntries.1 hmem with heq | ⟨⟨hregex, htext⟩, heq⟩
  · obtain ⟨rfl, -⟩ := Prod.mk.inj heq
    exact absurd hname (Filter.optionsKey_ne_symbol (hknown l hl))
  · exact ⟨l, hl, hregex, htext, (Prod.mk.inj heq).2⟩

theorem operators?_merged (hne : ls ≠ []) (field : Name) :
    operators? field (mapping (merged ls)) = .ok (some (entriesOf (merged ls))) := by
  refine Filter.operators?_of_all ?_ ?_ field
  · obtain ⟨l, ls, rfl⟩ := List.exists_cons_of_ne_nil hne
    obtain ⟨w, hw⟩ := exists_get?_merged List.mem_cons_self (mem_leafEntries.2 (.inl rfl))
    intro hnil
    rw [List.map_eq_nil_iff.1 hnil] at hw
    exact absurd hw (by simp [Entries.get?])
  · intro e he
    obtain ⟨⟨n, w⟩, hmem, rfl⟩ := List.mem_map.1 he
    have hw := Entries.get?_of_mem (nodup_keys_merged ls) hmem
    obtain ⟨l, hl, name, hname, hentry⟩ := get?_merged_eq_some hw
    have hentry : (name.value, w) ∈ entriesOf (ls.flatMap leafEntries) :=
      List.mem_map.2 ⟨_, List.mem_flatMap.2 ⟨l, hl, hentry⟩, rfl⟩
    have hkey := isOperatorEntry_of_mem hknown _ hentry
    have htext : name.text = n.text := hname
    rw [Filter.isOperatorEntry, Name.text?_value] at hkey ⊢
    rw [← htext]
    exact hkey

theorem optionsAmong_merged (honce : Once ls) {l : Leaf} (hl : l ∈ ls) (hregex : l.operator = .regex) :
    optionsAmong (entriesOf (merged ls)) = l.usedOptions := by
  have hused : ∀ l : Leaf, l.operator = .regex → l.usedOptions = l.options.text := fun l h => if_pos h
  rw [optionsAmong, entriesOf, Value.lookup_mapped]
  cases hget : (merged ls).get? Filter.optionsKey with
  | none =>
    by_cases htext : l.options.text = ""
    · rw [hused l hregex, htext]
      rfl
    · obtain ⟨w, hw⟩ := exists_get?_merged hl (mem_leafEntries.2 (.inr ⟨⟨hregex, htext⟩, rfl⟩))
      exact absurd (hget.symm.trans hw) (by simp)
  | some w =>
    obtain ⟨l', hl', hregex', -, rfl⟩ := get?_merged_options hknown hget
    rw [Option.bind_some, Name.text?_value, Option.getD_some, ← hused l' hregex']
    exact (honce l' hl' l hl (hregex'.trans hregex.symm)).2

theorem exists_leaf_of_asked {e : Value × Value} (he : e ∈ (entriesOf (merged ls)).filter isAsked) :
    ∃ l ∈ ls, Operator.ofSymbol? (e.1.text?.getD "") = some l.operator ∧ e.2 = l.value := by
  obtain ⟨hentry, hasked⟩ := List.mem_filter.1 he
  obtain ⟨⟨n, w⟩, hmem, rfl⟩ := List.mem_map.1 hentry
  have hw := Entries.get?_of_mem (nodup_keys_merged ls) hmem
  obtain ⟨l, hl, name, hname, hentry⟩ := get?_merged_eq_some hw
  have htext : n.value.text?.getD "" = name.text := by
    rw [Name.text?_value, Option.getD_some]
    exact hname.symm
  rcases mem_leafEntries.1 hentry with heq | ⟨-, heq⟩
  · obtain ⟨rfl, rfl⟩ := Prod.mk.inj heq
    refine ⟨l, hl, ?_, rfl⟩
    rw [htext]
    exact Operator.ofSymbol?_symbol (hknown l hl)
  · obtain ⟨rfl, -⟩ := Prod.mk.inj heq
    rw [isAsked, htext] at hasked
    exact absurd hasked (by decide)

theorem exists_asked_of_leaf {l : Leaf} (hl : l ∈ ls) :
    ∃ e ∈ (entriesOf (merged ls)).filter isAsked,
      Operator.ofSymbol? (e.1.text?.getD "") = some l.operator := by
  obtain ⟨w, hw⟩ := exists_get?_merged hl (mem_leafEntries.2 (.inl rfl))
  obtain ⟨name, hname, hmem⟩ := Entries.exists_mem_of_get? hw
  have htext : name.value.text?.getD "" = l.operator.symbol := by
    rw [Name.text?_value, Option.getD_some]
    exact hname
  refine ⟨_, List.mem_filter.2 ⟨List.mem_map.2 ⟨_, hmem, rfl⟩, ?_⟩, ?_⟩
  · rw [isAsked, htext]
    simpa using Filter.optionsKey_ne_symbol (hknown l hl)
  · rw [htext, Operator.ofSymbol?_symbol (hknown l hl)]

theorem fieldSatisfied_merged_iff (meaning : Meaning) {field : String} (hne : ls ≠ [])
    (honce : Once ls) (hfield : ∀ l ∈ ls, l.field.text = field) :
    FieldSatisfied meaning field (mapping (merged ls)) ↔ ∀ l ∈ ls, l.Satisfied meaning := by
  have hoptions : ∀ l ∈ ls, (if l.operator = .regex then optionsAmong (entriesOf (merged ls)) else "") =
      l.usedOptions := by
    intro l hl
    by_cases hregex : l.operator = .regex
    · rw [if_pos hregex, optionsAmong_merged hknown honce hl hregex]
    · rw [if_neg hregex, Leaf.usedOptions, if_neg hregex]
  rw [FieldSatisfied, operators?_merged hknown hne]
  constructor
  · intro h l hl
    obtain ⟨e, he, hop⟩ := exists_asked_of_leaf hknown hl
    obtain ⟨l', hl', hop', hvalue⟩ := exists_leaf_of_asked hknown he
    obtain ⟨op, hop'', hholds⟩ := h e he
    obtain rfl : op = l.operator := Option.some.inj (hop''.symm.trans hop)
    have hsame : l'.operator = l.operator := Option.some.inj (hop'.symm.trans hop)
    rw [hoptions l hl, hvalue, (honce l' hl' l hl hsame).1] at hholds
    rw [Leaf.Satisfied, hfield l hl]
    exact hholds
  · intro h e he
    obtain ⟨l, hl, hop, hvalue⟩ := exists_leaf_of_asked hknown he
    refine ⟨l.operator, hop, ?_⟩
    rw [hvalue, hoptions l hl]
    exact hfield l hl ▸ h l hl

end Merged

/-- What conditions leave under their field is satisfied if all of them are, as long as they do not meet
and no single equality compares with a mapping that has an operator key. -/
theorem fieldSatisfied_slotOf_iff (meaning : Meaning) {field : String} {ls : List Leaf}
    (hne : ls ≠ []) (hknown : ∀ l ∈ ls, l.operator ∈ Operator.all) (honce : Once ls)
    (hfield : ∀ l ∈ ls, l.field.text = field)
    (hliteral : ∀ l, ls = [l] → l.operator = .eq → hasOperatorKey l.value = false) :
    FieldSatisfied meaning field (slotOf ls).value ↔ ∀ l ∈ ls, l.Satisfied meaning := by
  by_cases hsingle : ∃ l, ls = [l] ∧ l.operator = .eq
  · obtain ⟨l, rfl, hop⟩ := hsingle
    have hbare := Filter.operators?_of_not_hasOperatorKey (hliteral l rfl hop) (.plain field)
    have hvalue : (slotOf [l]).value = l.value := by rw [slotOf_singleton_eq hop]; rfl
    have hoptions : l.usedOptions = "" := if_neg (by rw [hop]; decide)
    rw [hvalue, FieldSatisfied, hbare]
    simp [Leaf.Satisfied, hop, hoptions, hfield l (by simp)]
  · have hmerged := slotOf_eq_merged fun l hl hop => hsingle ⟨l, hl, hop⟩
    rw [hmerged]
    exact fieldSatisfied_merged_iff hknown meaning hne honce hfield

end Document

/-! ### The meaning that relational stores give -/

/-- What a relational store makes of a condition on a row. -/
def Interpretation.meaning (m : Interpretation) (row : String → Value) : Filter.Meaning :=
  fun field op operand options =>
    Filter.Leaf.Holds m row
      { field := .plain field, operator := op, value := operand, options := .plain options }

namespace Filter

variable (m : Interpretation) (row : String → Value)

theorem Leaf.satisfied_meaning_iff (l : Leaf) : l.Satisfied (m.meaning row) ↔ l.Holds m row := by
  obtain ⟨field, op, value, options⟩ := l
  cases op <;> exact Iff.rfl

mutual

theorem Node.satisfied_meaning_iff : (n : Node) → (n.Satisfied (m.meaning row) ↔ n.Holds m row)
  | .leaf l => by rw [Node.Satisfied, Node.Holds, l.satisfied_meaning_iff]
  | .group .and children => by rw [Node.Satisfied, Node.Holds, everySatisfied_meaning_iff children]
  | .group .or [] => by simp [Node.Satisfied, Node.Holds]
  | .group .or (child :: children) => by
    rw [Node.Satisfied, Node.Holds, someSatisfied_meaning_iff (child :: children)]
    simp

theorem allSatisfied_meaning_iff : (ns : List Node) →
    (AllSatisfied (m.meaning row) ns ↔ AllHold m row ns)
  | [] => by simp [AllSatisfied, AllHold]
  | n :: ns => by
    rw [AllSatisfied, AllHold, n.satisfied_meaning_iff, allSatisfied_meaning_iff ns]

theorem everySatisfied_meaning_iff : (children : List (List Node)) →
    (EverySatisfied (m.meaning row) children ↔ EveryHolds m row children)
  | [] => by simp [EverySatisfied, EveryHolds]
  | child :: children => by
    rw [EverySatisfied, EveryHolds, allSatisfied_meaning_iff child, everySatisfied_meaning_iff children]

theorem someSatisfied_meaning_iff : (children : List (List Node)) →
    (SomeSatisfied (m.meaning row) children ↔ SomeHolds m row children)
  | [] => by simp [SomeSatisfied, SomeHolds]
  | child :: children => by
    rw [SomeSatisfied, SomeHolds, allSatisfied_meaning_iff child, someSatisfied_meaning_iff children]

end

end Filter

end Polystore

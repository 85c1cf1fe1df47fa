import Polystore.Proofs.Outcome
import Polystore.Proofs.Value.Keys
import Polystore.Filter.Reading

/-!
# What a filter is read as

Reading is taken apart along the filter: `readEntries_cons_eq_ok` for one entry after the other,
`readField_eq_ok` for what stands under a field, and `asks_of_leafOf` for one operator with its operand.
`read_induction` packages the recursion, and `formed_of_readWithin` says what every condition of a filter
that was read looks like.
-/

namespace Polystore

namespace Filter

/-- What an operator with its operand is read as: candidates as a list, a presence test as a truth
value, and every other operand as it is. Only patterns have options. -/
inductive Asks (field options : Name) (operand : Value) : Operator → Leaf → Prop where
  | candidates {op : Operator} {xs : List Value} (hop : op.isMembership = true)
      (hxs : operand.sequence? = some xs) :
      Asks field options operand op { field, operator := op, value := .list xs }
  | presence (b : Bool) :
      Asks field options operand .exists { field, operator := .exists, value := .bool b }
  | pattern : Asks field options operand .regex { field, operator := .regex, value := operand, options }
  | operand {op : Operator} (hin : op.isMembership = false) (hpresence : op ≠ .exists)
      (hpattern : op ≠ .regex) :
      Asks field options operand op { field, operator := op, value := operand }

section Asks

variable {field options : Name} {operand : Value} {op : Operator} {l : Leaf}

theorem asks_of_leafOf (h : leafOf field op operand options = .ok l) :
    Asks field options operand op l := by
  unfold leafOf at h
  cases op with
  | isIn =>
    cases hxs : operand.sequence? with
    | none => simp only [hxs] at h; exact absurd h throw_ne_ok
    | some xs =>
      simp only [hxs] at h
      rw [← pure_eq_ok.1 h]
      exact .candidates rfl hxs
  | notIn =>
    cases hxs : operand.sequence? with
    | none => simp only [hxs] at h; exact absurd h throw_ne_ok
    | some xs =>
      simp only [hxs] at h
      rw [← pure_eq_ok.1 h]
      exact .candidates rfl hxs
  | «exists» =>
    cases operand with
    | bool b =>
      rw [← pure_eq_ok.1 h]
      exact .presence b
    | _ =>
      obtain ⟨isFlag, -, h⟩ := bind_eq_ok.1 h
      cases isFlag with
      | true =>
        rw [← pure_eq_ok.1 h]
        exact .presence _
      | false => exact absurd h throw_ne_ok
  | regex =>
    cases operand with
    | str s =>
      rw [← pure_eq_ok.1 h]
      exact .pattern
    | fieldType t =>
      rw [← pure_eq_ok.1 h]
      exact .pattern
    | pattern p =>
      rw [← pure_eq_ok.1 h]
      exact .pattern
    | _ => exact absurd h throw_ne_ok
  | _ =>
    rw [← pure_eq_ok.1 h]
    exact .operand rfl (by simp) (by simp)

theorem leafOf_value (h : leafOf field op operand options = .ok l) :
    leafOf field op l.value options = .ok l := by
  cases asks_of_leafOf h with
  | candidates hop hxs => cases op <;> first | rfl | simp [Operator.isMembership] at hop
  | presence b => rfl
  | pattern => exact h
  | operand => exact h

theorem Asks.operator_eq (h : Asks field options operand op l) : l.operator = op := by
  cases h <;> rfl

theorem Asks.field_eq (h : Asks field options operand op l) : l.field = field := by
  cases h <;> rfl

theorem Asks.options_eq (h : Asks field options operand op l) :
    l.options = if l.operator = .regex then options else .plain "" := by
  cases h with
  | candidates hop => rw [if_neg]; rintro rfl; simp [Operator.isMembership] at hop
  | presence b => rfl
  | pattern => rfl
  | operand _ _ hpattern => exact (if_neg hpattern).symm

theorem Asks.exists_eq_list (h : Asks field options operand op l) (hop : op.isMembership = true) :
    ∃ xs, l.value = .list xs := by
  cases h with
  | @candidates op xs => exact ⟨xs, rfl⟩
  | presence b => exact Bool.noConfusion hop
  | pattern => exact Bool.noConfusion hop
  | operand hin => exact absurd (hin.symm.trans hop) (by simp)

end Asks

theorem optionsKey_ne_symbol {op : Operator} (h : op ∈ Operator.all) :
    op.symbol ≠ optionsKey := by
  simp only [Operator.all, List.mem_cons, List.not_mem_nil, or_false] at h
  rcases h with rfl | rfl | rfl | rfl | rfl | rfl | rfl | rfl | rfl | rfl <;> decide

/-- The entry of an operator in a mapping, not that of the options. -/
def isAsked (e : Value × Value) : Bool :=
  e.1.text?.getD "" != optionsKey

/-- An entry of an operator mapping is read as a condition. -/
def EntryAsks (field options : Name) (e : Value × Value) (l : Leaf) : Prop :=
  Operator.ofSymbol? (e.1.text?.getD "") = some l.operator ∧
    leafOf field l.operator e.2 options = .ok l

theorem readOperators_eq_ok {field options : Name} {es : List (Value × Value)} {ns : List Node} :
    readOperators field options es = .ok ns ↔
      ∃ ls, List.Forall₂ (EntryAsks field options) (es.filter isAsked) ls ∧ ns = ls.map .leaf := by
  induction es generalizing ns with
  | nil =>
    rw [readOperators, pure_eq_ok]
    simp [eq_comm]
  | cons e es ih =>
    obtain ⟨k, v⟩ := e
    by_cases hkey : k.text?.getD "" = optionsKey
    · have hasked : isAsked (k, v) = false := by simpa [isAsked] using hkey
      rw [readOperators, if_pos hkey, ih, List.filter_cons_of_neg (by simp [hasked])]
    · have hasked : isAsked (k, v) = true := by simpa [isAsked] using hkey
      rw [readOperators, if_neg hkey, List.filter_cons_of_pos hasked]
      constructor
      · intro h
        cases hop : Operator.ofSymbol? (k.text?.getD "") with
        | none =>
          simp only [hop] at h
          exact absurd h throw_ne_ok
        | some op =>
          simp only [hop] at h
          obtain ⟨l, hl, h⟩ := bind_eq_ok.1 h
          obtain ⟨rest, hrest, h⟩ := bind_eq_ok.1 h
          obtain ⟨ls, hls, rfl⟩ := ih.1 hrest
          have hl' := (asks_of_leafOf hl).operator_eq
          exact ⟨l :: ls, .cons ⟨by rw [hop, hl'], by rw [hl', hl]⟩ hls, (pure_eq_ok.1 h).symm⟩
      · rintro ⟨ls, hls, rfl⟩
        cases hls with
        | cons hl hls =>
          simp only [hl.1]
          exact bind_eq_ok.2 ⟨_, hl.2, bind_eq_ok.2 ⟨_, ih.2 ⟨_, hls, rfl⟩, rfl⟩⟩

theorem symbol_of_ofSymbol? {s : String} {op : Operator}
    (h : Operator.ofSymbol? s = some op) : op.symbol = s := by
  simpa using List.find?_some h

theorem ofSymbol?_getD_eq_some {text : Option String} {op : Operator} :
    Operator.ofSymbol? (text.getD "") = some op ↔ op ∈ Operator.all ∧ text = some op.symbol := by
  constructor
  · intro h
    cases text with
    | none =>
      have hnone : Operator.ofSymbol? "" = none := by decide
      exact absurd (hnone.symm.trans h) (by simp)
    | some s => exact ⟨List.mem_of_find?_eq_some h, congrArg some (symbol_of_ofSymbol? h).symm⟩
  · rintro ⟨hop, rfl⟩
    exact Operator.ofSymbol?_symbol hop

theorem symbols_of_entryAsks {field options : Name} {es : List (Value × Value)} {ls : List Leaf}
    (h : List.Forall₂ (EntryAsks field options) es ls) :
    (ls.map fun l => l.operator.symbol) = es.map fun e => e.1.text?.getD "" := by
  induction h with
  | nil => rfl
  | cons he _ ih => rw [List.map_cons, List.map_cons, ih, symbol_of_ofSymbol? he.1]

theorem exists_text_of_isOperatorEntry {e : Value × Value} (h : isOperatorEntry e = true) :
    ∃ s, e.1.text? = some s := by
  unfold isOperatorEntry at h
  cases hs : e.1.text? with
  | none => simp [hs] at h
  | some s => exact ⟨s, rfl⟩

theorem keyTexts_eq_map {es : List (Value × Value)}
    (h : ∀ e ∈ es, isOperatorEntry e = true) :
    Value.keyTexts es = es.map fun e => e.1.text?.getD "" := by
  induction es with
  | nil => rfl
  | cons e es ih =>
    rw [List.forall_mem_cons] at h
    obtain ⟨s, hs⟩ := exists_text_of_isOperatorEntry h.1
    have ih := ih h.2
    unfold Value.keyTexts at ih ⊢
    have hcons : List.filterMap (fun e : Value × Value => e.1.text?) (e :: es) =
        s :: List.filterMap (fun e => e.1.text?) es := List.filterMap_cons_some hs
    rw [hcons, ih, List.map_cons, hs, Option.getD_some]

/-- A value is a mapping with an operator key. -/
def hasOperatorKey : Value → Bool
  | .map es => es.any isOperatorEntry
  | _ => false

theorem operators?_of_not_hasOperatorKey {v : Value} (h : hasOperatorKey v = false) (field : Name) :
    operators? field v = .ok none := by
  unfold operators?
  cases v with
  | map es =>
    have hany : es.any isOperatorEntry = false := h
    by_cases hempty : es.isEmpty = true
    · simp only [if_pos hempty]
      rfl
    · have hall : es.all isOperatorEntry = false := by
        cases es with
        | nil => simp at hempty
        | cons e es =>
          rw [List.any_cons, Bool.or_eq_false_iff] at hany
          simp [hany.1]
      simp only [if_neg hempty, hall, hany]
      rfl
  | _ => rfl

theorem hasOperatorKey_of_operators? {v : Value} {field : Name} (h : operators? field v = .ok none) :
    hasOperatorKey v = false := by
  unfold operators? at h
  cases v with
  | map es =>
    by_cases hempty : es.isEmpty = true
    · rw [List.isEmpty_iff.1 hempty]
      rfl
    · simp only [if_neg hempty] at h
      split at h
      · exact absurd (pure_eq_ok.1 h) (by simp)
      · split at h
        · exact absurd h throw_ne_ok
        · rename_i hany
          simpa [hasOperatorKey] using hany
  | _ => rfl

theorem operators?_of_all {es : List (Value × Value)} (hne : es ≠ [])
    (hall : ∀ e ∈ es, isOperatorEntry e = true) (field : Name) :
    operators? field (.map es) = .ok (some es) := by
  unfold operators?
  simp only [if_neg (show ¬es.isEmpty = true by simpa using hne),
    if_pos (List.all_eq_true.2 hall)]
  rfl

theorem operators?_eq_some {field : Name} {v : Value} {es : List (Value × Value)}
    (h : operators? field v = .ok (some es)) :
    v = .map es ∧ es ≠ [] ∧ ∀ e ∈ es, isOperatorEntry e = true := by
  unfold operators? at h
  cases v with
  | map fs =>
    by_cases hempty : fs.isEmpty = true
    · simp only [if_pos hempty] at h
      exact absurd (pure_eq_ok.1 h) (by simp)
    · by_cases hall : fs.all isOperatorEntry = true
      · simp only [if_neg hempty, if_pos hall] at h
        obtain rfl := Option.some.inj (pure_eq_ok.1 h)
        exact ⟨rfl, by simpa using hempty, List.all_eq_true.1 hall⟩
      · simp only [if_neg hempty, if_neg hall] at h
        split at h
        · exact absurd h throw_ne_ok
        · exact absurd (pure_eq_ok.1 h) (by simp)
  | _ => exact absurd (pure_eq_ok.1 h) (by simp)

theorem operand_ne {field : Name} {v : Value} {es : List (Value × Value)} {e : Value × Value}
    (h : operators? field v = .ok (some es)) (he : e ∈ es) : e.2 ≠ v := by
  obtain ⟨rfl, -⟩ := operators?_eq_some h
  intro heq
  have hsmaller := Value.sizeOf_lt_of_mem he
  rw [heq] at hsmaller
  exact Nat.lt_irrefl _ hsmaller

theorem readField_eq_ok {field : Name} {v : Value} {ns : List Node} :
    readField field v = .ok ns ↔
      operators? field v = .ok none ∧ ns = [.leaf { field, operator := .eq, value := v }] ∨
      ∃ es options ls, operators? field v = .ok (some es) ∧ optionsOf field es = .ok options ∧
        List.Forall₂ (EntryAsks field options) (es.filter isAsked) ls ∧ ns = ls.map .leaf := by
  unfold readField
  rw [bind_eq_ok]
  constructor
  · rintro ⟨found, hfound, h⟩
    cases found with
    | none => exact .inl ⟨hfound, (pure_eq_ok.1 h).symm⟩
    | some es =>
      obtain ⟨options, hoptions, h⟩ := bind_eq_ok.1 h
      obtain ⟨ls, hls, rfl⟩ := readOperators_eq_ok.1 h
      exact .inr ⟨es, options, ls, hfound, hoptions, hls, rfl⟩
  · rintro (⟨hfound, rfl⟩ | ⟨es, options, ls, hfound, hoptions, hls, rfl⟩)
    · exact ⟨none, hfound, rfl⟩
    · exact ⟨some es, hfound, bind_eq_ok.2 ⟨options, hoptions, readOperators_eq_ok.2 ⟨ls, hls, rfl⟩⟩⟩

theorem ofSymbol?_eq_some {s : String} {c : Connective} :
    Connective.ofSymbol? s = some c ↔ s = c.symbol := by
  constructor
  · intro h
    have := List.find?_some h
    simpa using (beq_iff_eq.1 this).symm
  · rintro rfl
    exact Connective.ofSymbol?_symbol c

/-- What one entry of a filter is read as. -/
inductive EntryGives (limit : Int) (depth : Nat) (name : Name) (v : Value) : List Node → Prop where
  | field {ns : List Node} (hkey : isOperatorKey name.text = false) (h : readField name v = .ok ns) :
      EntryGives limit depth name v ns
  | group {c : Connective} {xs : List Value} {children : List (List Node)}
      (hkey : name.text = c.symbol) (hxs : v.sequence? = some xs)
      (h : readChildren limit depth xs = .ok children) :
      EntryGives limit depth name v [.group c children]

theorem readGroup_eq_ok {limit : Int} {depth : Nat} {key : String} {v : Value}
    {children : List (List Node)} :
    readGroup limit depth key v = .ok children ↔
      ∃ xs, v.sequence? = some xs ∧ readChildren limit depth xs = .ok children := by
  cases v <;> simp [readGroup, Value.sequence?, throw_ne_ok]

theorem isOperatorKey_symbol (c : Connective) : isOperatorKey c.symbol = true := by
  cases c <;> decide

theorem isOperatorKey_operator {op : Operator} (h : op ∈ Operator.all) :
    isOperatorKey op.symbol = true := by
  simp only [Operator.all, List.mem_cons, List.not_mem_nil, or_false] at h
  rcases h with rfl | rfl | rfl | rfl | rfl | rfl | rfl | rfl | rfl | rfl <;> decide

theorem readEntries_cons_eq_ok {limit : Int} {depth : Nat} {k v : Value} {es : List (Value × Value)}
    {ns : List Node} :
    readEntries limit depth ((k, v) :: es) = .ok ns ↔
      ∃ name first rest, Name.ofValue? k = some name ∧ EntryGives limit depth name v first ∧
        readEntries limit depth es = .ok rest ∧ first ++ rest = ns := by
  rw [readEntries]
  cases hname : Name.ofValue? k with
  | none =>
    refine ⟨fun h => absurd h throw_ne_ok, ?_⟩
    rintro ⟨name, -, -, h, -⟩
    cases h
  | some name =>
    simp only [Option.some.injEq]
    by_cases hkey : isOperatorKey name.text = true
    · rw [if_pos hkey]
      constructor
      · intro h
        cases hc : Connective.ofSymbol? name.text with
        | none =>
          simp only [hc] at h
          obtain ⟨_, h, -⟩ := bind_eq_ok.1 h
          exact absurd h throw_ne_ok
        | some c =>
          simp only [hc] at h
          obtain ⟨children, hchildren, h⟩ := bind_eq_ok.1 h
          obtain ⟨first, hfirst, h⟩ := bind_eq_ok.1 h
          obtain ⟨rest, hrest, h⟩ := bind_eq_ok.1 h
          obtain ⟨xs, hxs, hread⟩ := readGroup_eq_ok.1 hchildren
          rw [← pure_eq_ok.1 hfirst] at h
          exact ⟨name, _, rest, rfl, .group (ofSymbol?_eq_some.1 hc) hxs hread, hrest,
            pure_eq_ok.1 h⟩
      · rintro ⟨_, first, rest, rfl, hfirst, hrest, hns⟩
        cases hfirst with
        | field hname h => simp [hname] at hkey
        | @group c xs children hname hxs h =>
          have hc := ofSymbol?_eq_some.2 hname
          simp only [hc]
          have hgroup : readGroup limit depth name.text v = .ok children :=
            readGroup_eq_ok.2 ⟨xs, hxs, h⟩
          exact bind_eq_ok.2 ⟨children, hgroup, bind_eq_ok.2 ⟨_, rfl, bind_eq_ok.2
            ⟨rest, hrest, pure_eq_ok.2 hns⟩⟩⟩
    · rw [if_neg hkey]
      constructor
      · intro h
        obtain ⟨first, hfirst, h⟩ := bind_eq_ok.1 h
        obtain ⟨rest, hrest, h⟩ := bind_eq_ok.1 h
        exact ⟨name, first, rest, rfl, .field (by simpa using hkey) hfirst, hrest, pure_eq_ok.1 h⟩
      · rintro ⟨_, first, rest, rfl, hfirst, hrest, hns⟩
        cases hfirst with
        | field hname h => exact bind_eq_ok.2 ⟨first, h, bind_eq_ok.2 ⟨rest, hrest, pure_eq_ok.2 hns⟩⟩
        | @group c xs children hname hxs h => simp [hname, isOperatorKey_symbol] at hkey

theorem checkDepth_eq_ok {depth : Nat} {limit : Int} {u : Unit} :
    checkDepth depth limit = .ok u ↔ (depth : Int) ≤ limit := by
  unfold checkDepth
  by_cases h : (depth : Int) > limit
  · rw [if_pos h]
    exact ⟨fun h => absurd h throw_ne_ok, fun h' => absurd h' (by omega)⟩
  · rw [if_neg h, pure_eq_ok]
    simpa using h

theorem readAt_eq_ok {limit : Int} {depth : Nat} {v : Value} {ns : List Node} :
    readAt limit depth v = .ok ns ↔
      ∃ es, v = .map es ∧ (depth : Int) ≤ limit ∧ readEntries limit depth es = .ok ns := by
  cases v with
  | map es =>
    rw [readAt, bind_eq_ok]
    simp [checkDepth_eq_ok]
  | _ => simp [readAt, bind_eq_ok, throw_ne_ok]

theorem readChildren_eq_ok {limit : Int} {depth : Nat} {xs : List Value}
    {children : List (List Node)} :
    readChildren limit depth xs = .ok children ↔
      List.Forall₂ (fun x child => readAt limit (depth + 1) x = .ok child) xs children := by
  induction xs generalizing children with
  | nil =>
    rw [readChildren, pure_eq_ok]
    simp [eq_comm]
  | cons x xs ih =>
    rw [readChildren, bind_eq_ok]
    constructor
    · rintro ⟨child, hchild, h⟩
      obtain ⟨rest, hrest, h⟩ := bind_eq_ok.1 h
      rw [← pure_eq_ok.1 h]
      exact .cons hchild (ih.1 hrest)
    · intro h
      cases h with
      | cons hchild hrest => exact ⟨_, hchild, bind_eq_ok.2 ⟨_, ih.2 hrest, rfl⟩⟩

/-- What holds of entries and children that are read, and is kept by entries and children before them,
holds of everything that a filter is read as. -/
theorem read_induction {limit : Int}
    (onEntries : Nat → List (Value × Value) → List Node → Prop)
    (onChildren : Nat → List Value → List (List Node) → Prop)
    (nil : ∀ depth, onEntries depth [] [])
    (field : ∀ depth k v es name first rest, Name.ofValue? k = some name →
      isOperatorKey name.text = false → readField name v = .ok first → onEntries depth es rest →
      onEntries depth ((k, v) :: es) (first ++ rest))
    (group : ∀ depth k v es name c xs children rest, Name.ofValue? k = some name →
      name.text = c.symbol → v.sequence? = some xs → onChildren depth xs children →
      onEntries depth es rest → onEntries depth ((k, v) :: es) (.group c children :: rest))
    (childless : ∀ depth, onChildren depth [] [])
    (child : ∀ depth es xs child children, ((depth + 1 : Nat) : Int) ≤ limit →
      onEntries (depth + 1) es child → onChildren depth xs children →
      onChildren depth (.map es :: xs) (child :: children))
    {depth : Nat} {es : List (Value × Value)} {ns : List Node}
    (h : readEntries limit depth es = .ok ns) : onEntries depth es ns :=
  overEntries depth es ns h
where
  overEntries : (depth : Nat) → (es : List (Value × Value)) → (ns : List Node) →
      readEntries limit depth es = .ok ns → onEntries depth es ns
    | depth, [], ns, h => by
      rw [readEntries, pure_eq_ok] at h
      exact h ▸ nil depth
    | depth, (k, v) :: es, ns, h => by
      obtain ⟨name, first, rest, hname, hfirst, hrest, rfl⟩ := readEntries_cons_eq_ok.1 h
      have ih := overEntries depth es rest hrest
      cases hfirst with
      | field hkey hfield => exact field depth k v es name first rest hname hkey hfield ih
      | @group c xs children hkey hxs hread =>
        refine group depth k v es name c xs children rest hname hkey hxs ?_ ih
        have hsmaller : sizeOf xs < sizeOf v := by
          cases v <;> simp [Value.sequence?] at hxs <;> subst hxs <;> simp
        exact overChildren depth xs children hread
  termination_by _ es => sizeOf es
  overChildren : (depth : Nat) → (xs : List Value) → (children : List (List Node)) →
      readChildren limit depth xs = .ok children → onChildren depth xs children
    | depth, [], children, h => by
      rw [readChildren, pure_eq_ok] at h
      exact h ▸ childless depth
    | depth, x :: xs, _, h => by
      cases readChildren_eq_ok.1 h with
      | cons hchild hrest =>
        obtain ⟨es, rfl, hdepth, hread⟩ := readAt_eq_ok.1 hchild
        exact child depth es xs _ _ hdepth (overEntries (depth + 1) es _ hread)
          (overChildren depth xs _ (readChildren_eq_ok.2 hrest))
  termination_by _ xs => sizeOf xs

/-- A condition as reading gives it. -/
structure Leaf.Formed (l : Leaf) : Prop where
  field : isOperatorKey l.field.text = false
  operator : l.operator ∈ Operator.all
  asks : ∃ options operand, Asks l.field options operand l.operator l

theorem exists_entryAsks_of_lookup {field options : Name} {op : Operator} {es : List (Value × Value)}
    {ls : List Leaf} {v : Value} (hop : op ∈ Operator.all)
    (hls : List.Forall₂ (EntryAsks field options) (es.filter isAsked) ls)
    (hlookup : Value.lookup op.symbol es = some v) :
    ∃ l ∈ ls, l.operator = op ∧ leafOf field op v options = .ok l := by
  obtain ⟨k, hk, hmem⟩ := Value.exists_mem_of_lookup hlookup
  have hasked : isAsked (k, v) = true := by
    rw [isAsked, hk]
    simpa using optionsKey_ne_symbol hop
  obtain ⟨l, hl, hsymbol, hread⟩ :=
    exists_left_of_forall₂ hls.flip (List.mem_filter.2 ⟨hmem, hasked⟩)
  rw [hk, Option.getD_some, Operator.ofSymbol?_symbol hop] at hsymbol
  obtain rfl := Option.some.inj hsymbol
  exact ⟨l, hl, rfl, hread⟩

theorem formed_of_entryAsks {field options : Name} {e : Value × Value} {l : Leaf}
    (hfield : isOperatorKey field.text = false) (h : EntryAsks field options e l) : l.Formed := by
  have hasks := asks_of_leafOf h.2
  have hl : l.field = field := hasks.field_eq
  refine ⟨hl ▸ hfield, List.mem_of_find?_eq_some h.1, options, e.2, ?_⟩
  rw [hl]
  exact hasks

theorem formed_of_readField {field : Name} {v : Value} {ns : List Node}
    (hfield : isOperatorKey field.text = false) (h : readField field v = .ok ns) :
    ∃ ls : List Leaf, ns = ls.map .leaf ∧ ∀ l ∈ ls, l.field = field ∧ l.Formed := by
  rcases readField_eq_ok.1 h with ⟨-, rfl⟩ | ⟨es, options, ls, -, -, hls, rfl⟩
  · refine ⟨[{ field, operator := .eq, value := v }], rfl, fun l hl => ?_⟩
    rw [List.mem_singleton.1 hl]
    exact ⟨rfl, hfield, by simp [Operator.all], .plain "", v, .operand rfl (by simp) (by simp)⟩
  · refine ⟨ls, rfl, fun l hl => ?_⟩
    obtain ⟨e, -, he⟩ := exists_left_of_forall₂ hls hl
    exact ⟨(asks_of_leafOf he.2).field_eq, formed_of_entryAsks hfield he⟩

theorem leaves_map_leaf (ls : List Leaf) : leaves (ls.map .leaf) = ls := by
  induction ls with
  | nil => simp [leaves]
  | cons l ls ih => simp [leaves, Node.leaves, ih]

theorem formed_of_readEntries {limit : Int} {depth : Nat} {es : List (Value × Value)}
    {ns : List Node} (h : readEntries limit depth es = .ok ns) : ∀ l ∈ leaves ns, l.Formed := by
  refine read_induction (fun _ _ ns => ∀ l ∈ leaves ns, l.Formed)
    (fun _ _ children => ∀ l ∈ leavesOfChildren children, l.Formed) ?_ ?_ ?_ ?_ ?_ h
  · simp [leaves]
  · intro _ k v es name first rest _ hkey hfirst hrest l hl
    obtain ⟨ls, rfl, hls⟩ := formed_of_readField hkey hfirst
    rw [leaves_append, leaves_map_leaf] at hl
    rcases List.mem_append.1 hl with hl | hl
    · exact (hls l hl).2
    · exact hrest l hl
  · intro _ k v es name c xs children rest _ _ _ hchildren hrest l hl
    rw [leaves, Node.leaves] at hl
    exact (List.mem_append.1 hl).elim (hchildren l) (hrest l)
  · simp [leavesOfChildren]
  · intro _ es xs child children _ hchild hchildren l hl
    rw [leavesOfChildren] at hl
    exact (List.mem_append.1 hl).elim (hchild l) (hchildren l)

theorem formed_of_readWithin {limit : Int} {filter : Value} {ns : List Node}
    (h : readWithin limit filter = .ok ns) : ∀ l ∈ leaves ns, l.Formed := by
  unfold readWithin at h
  by_cases hnull : filter.isNull = true
  · rw [if_pos hnull] at h
    rw [← pure_eq_ok.1 h]
    simp [leaves]
  · rw [if_neg hnull] at h
    obtain ⟨es, -, -, hread⟩ := readAt_eq_ok.1 h
    exact formed_of_readEntries hread

end Filter

end Polystore

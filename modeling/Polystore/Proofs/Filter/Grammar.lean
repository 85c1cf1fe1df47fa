import Polystore.Proofs.Filter.Refusal

/-!
# The grammar of filters

Which values are filters (`IsFilter`) and which nodes they stand for (`nodesOf`), said of the value alone:
keys are texts, a key with the operator mark is a connective over a list of filters one level deeper, and
what stands under a field is a literal, or a mapping of operators with operands that they take.

Main statement: `readWithin_grammar` says that reading accepts the filters of the grammar and no others,
gives their nodes, and refuses everything else with an error of its own, with the exception of what is
refused with a fault.
-/

namespace Polystore.Filter

variable {limit : Int} {depth : Nat} {field options : Name} {op : Operator} {l : Leaf}
  {es : List (Value × Value)} {k v : Value}

/-! ### Operands -/

/-- The operands that an operator takes: candidates stand in a list or a tuple, a presence test has a
truth value or a number that is 0 or 1, a pattern is a text or compiled, and the other operators take
anything. -/
def Takes : Operator → Value → Prop
  | .isIn, v => ∃ xs, v.sequence? = some xs
  | .notIn, v => ∃ xs, v.sequence? = some xs
  | .exists, v => (∃ b, v = .bool b) ∨ v.isInt 0 = true ∨ v.isInt 1 = true
  | .regex, v => (∃ s, v.text? = some s) ∨ ∃ p, v = .pattern p
  | _, _ => True

/-- What a condition holds of its operand: candidates as a list, and a truth value of a presence test. -/
def held : Operator → Value → Value
  | .isIn, v => .list (v.sequence?.getD [])
  | .notIn, v => .list (v.sequence?.getD [])
  | .exists, v => .bool v.truthy
  | _, v => v

/-- The condition of an operator with its operand; options belong to a pattern. -/
def conditionOf (field options : Name) (op : Operator) (operand : Value) : Leaf where
  field
  operator := op
  value := held op operand
  options := if op = .regex then options else .plain ""

theorem isOneOf_eq_true {ns : List Int} :
    v.isOneOf ns = .ok true ↔ ∃ n ∈ ns, v.isInt n = true := by
  unfold Value.isOneOf
  split
  · rename_i d
    split
    · rename_i hsignaling
      have hnan : ∀ n, (Value.decimal d).isInt n = false := by
        intro n
        cases d with
        | nan => rfl
        | _ => exact absurd hsignaling Bool.false_ne_true
      simp [hnan, throw_ne_ok]
    · simp [pure_eq_ok]
  · simp [pure_eq_ok]

theorem presence_eq_ok : (do
    if ← v.isOneOf [0, 1] then pure { field, operator := .exists, value := .bool v.truthy }
    else throw (.showing [v] (.filter (.booleanExpected .exists field v))) : Except Error Leaf) = .ok l ↔
    (v.isInt 0 = true ∨ v.isInt 1 = true) ∧ conditionOf field options .exists v = l := by
  have hflag : v.isOneOf [0, 1] = .ok true ↔ v.isInt 0 = true ∨ v.isInt 1 = true := by
    simp [isOneOf_eq_true]
  rw [← hflag, bind_eq_ok]
  constructor
  · rintro ⟨isFlag, hisFlag, h⟩
    cases isFlag with
    | true => exact ⟨hisFlag, pure_eq_ok.1 h⟩
    | false => exact absurd h throw_ne_ok
  · rintro ⟨hisFlag, rfl⟩
    exact ⟨true, hisFlag, rfl⟩

theorem candidates_eq_ok (op : Operator) :
    (match v.sequence? with
      | some xs => pure { field, operator := op, value := .list xs }
      | none => throw (.filter (.listExpected op field v.className)) : Except Error Leaf) = .ok l ↔
    (∃ xs, v.sequence? = some xs) ∧
      { field, operator := op, value := .list (v.sequence?.getD []) } = l := by
  cases v.sequence? with
  | none => simp [throw_ne_ok]
  | some xs => simp [pure_eq_ok]

theorem leafOf_eq_ok :
    leafOf field op v options = .ok l ↔ Takes op v ∧ conditionOf field options op v = l := by
  cases op with
  | isIn => exact candidates_eq_ok _
  | notIn => exact candidates_eq_ok _
  | «exists» =>
    cases v with
    | bool b =>
      have htakes : Takes .exists (.bool b) := .inl ⟨b, rfl⟩
      exact pure_eq_ok.trans (and_iff_right htakes).symm
    | _ => exact presence_eq_ok.trans (and_congr_left' (by simp [Takes]))
  | regex =>
    cases v with
    | str s => exact pure_eq_ok.trans (and_iff_right (.inl ⟨s, rfl⟩)).symm
    | fieldType t => exact pure_eq_ok.trans (and_iff_right (.inl ⟨t.name, rfl⟩)).symm
    | pattern p => exact pure_eq_ok.trans (and_iff_right (.inr ⟨p, rfl⟩)).symm
    | _ => simp [leafOf, Takes, Value.text?, throw_ne_ok]
  | _ => exact pure_eq_ok.trans (and_iff_right trivial).symm

/-! ### Fields -/

/-- An entry has the key of an operator that takes its operand. -/
def IsOperation (e : Value × Value) : Prop :=
  ∃ op ∈ Operator.all, e.1.text? = some op.symbol ∧ Takes op e.2

/-- A mapping of operators: every key is that of the options, or of an operator that takes its operand,
and options are a text beside a pattern. -/
structure AreOperators (es : List (Value × Value)) : Prop where
  operators : ∀ e ∈ es, e.1.text? = some optionsKey ∨ IsOperation e
  options : ∀ v, Value.lookup optionsKey es = some v →
    (∃ s, v.text? = some s) ∧ ∃ p, Value.lookup Operator.regex.symbol es = some p

/-- What may stand under a field: a mapping with an operator key is one of operators, and everything else
is a literal. -/
def IsCondition (v : Value) : Prop :=
  ∀ es, v = .map es → es.any isOperatorEntry = true → AreOperators es

/-- The options of a mapping of operators, wherever they stand in it. -/
def optionsIn (es : List (Value × Value)) : Name :=
  ((Value.lookup optionsKey es).bind Name.ofValue?).getD (.plain "")

/-- The condition of an entry that has the key of an operator. -/
def entryCondition? (field options : Name) (e : Value × Value) : Option Leaf :=
  (Operator.ofSymbol? (e.1.text?.getD "")).map fun op => conditionOf field options op e.2

/-- The conditions that stand under a field: one for each operator, or an equality for a literal. -/
def conditionsUnder (field : Name) (v : Value) : List Leaf :=
  match v with
  | .map es =>
    if es.any isOperatorEntry then es.filterMap (entryCondition? field (optionsIn es))
    else [{ field, operator := .eq, value := v }]
  | v => [{ field, operator := .eq, value := v }]

theorem conditionsUnder_of_literal (h : hasOperatorKey v = false) (field : Name) :
    conditionsUnder field v = [{ field, operator := .eq, value := v }] := by
  cases v with
  | map es => exact if_neg (by simpa [hasOperatorKey] using h)
  | _ => rfl

theorem optionsOf_eq_ok {name : Name} : optionsOf field es = .ok name ↔
    (∀ v, Value.lookup optionsKey es = some v →
      (∃ s, v.text? = some s) ∧ ∃ p, Value.lookup Operator.regex.symbol es = some p) ∧
    optionsIn es = name := by
  unfold optionsOf optionsIn
  cases Value.lookup optionsKey es with
  | none => simp [pure_eq_ok]
  | some v =>
    cases Value.lookup Operator.regex.symbol es with
    | none => simp [throw_ne_ok]
    | some p =>
      have htext : v.text? = (Name.ofValue? v).map Name.text := (Name.map_text_ofValue? v).symm
      cases hname : Name.ofValue? v with
      | none => simp [htext, hname, throw_ne_ok]
      | some options => simp [htext, hname, pure_eq_ok]

theorem entryAsks_iff {e : Value × Value} : EntryAsks field options e l ↔
    IsOperation e ∧ entryCondition? field options e = some l := by
  unfold EntryAsks entryCondition?
  rw [Option.map_eq_some_iff]
  constructor
  · rintro ⟨hop, hread⟩
    obtain ⟨hmem, hkey⟩ := ofSymbol?_getD_eq_some.1 hop
    obtain ⟨htakes, hl⟩ := leafOf_eq_ok.1 hread
    exact ⟨⟨l.operator, hmem, hkey, htakes⟩, l.operator, hop, hl⟩
  · rintro ⟨⟨op, hmem, hkey, htakes⟩, found, hfound, rfl⟩
    have hop := ofSymbol?_getD_eq_some.2 ⟨hmem, hkey⟩
    obtain rfl := Option.some.inj (hop.symm.trans hfound)
    exact ⟨hop, leafOf_eq_ok.2 ⟨htakes, rfl⟩⟩

theorem forall₂_entryAsks_iff {ls : List Leaf} :
    List.Forall₂ (EntryAsks field options) (es.filter isAsked) ls ↔
      (∀ e ∈ es, isAsked e = true → IsOperation e) ∧
        es.filterMap (entryCondition? field options) = ls := by
  induction es generalizing ls with
  | nil =>
    rw [List.filter_nil, List.filterMap_nil, List.forall₂_nil_left_iff]
    exact ⟨fun h => ⟨by simp, h.symm⟩, fun h => h.2.symm⟩
  | cons e es ih =>
    rw [List.forall_mem_cons]
    by_cases hasked : isAsked e = true
    · rw [List.filter_cons_of_pos hasked, List.forall₂_cons_left_iff]
      constructor
      · rintro ⟨l, rest, hl, hrest, rfl⟩
        obtain ⟨he, hl⟩ := entryAsks_iff.1 hl
        obtain ⟨hes, hrest⟩ := ih.1 hrest
        exact ⟨⟨fun _ => he, hes⟩, by rw [List.filterMap_cons_some hl, hrest]⟩
      · rintro ⟨⟨he, hes⟩, rfl⟩
        obtain ⟨op, hmem, hkey, htakes⟩ := he hasked
        have hl : entryCondition? field options e = some (conditionOf field options op e.2) := by
          rw [entryCondition?, ofSymbol?_getD_eq_some.2 ⟨hmem, hkey⟩]
          rfl
        exact ⟨_, _, entryAsks_iff.2 ⟨he hasked, hl⟩, ih.2 ⟨hes, rfl⟩, List.filterMap_cons_some hl⟩
    · have hkey : e.1.text?.getD "" = optionsKey := by simpa [isAsked] using hasked
      have hnone : entryCondition? field options e = none := by
        rw [entryCondition?, hkey]
        rfl
      rw [List.filter_cons_of_neg hasked, List.filterMap_cons_none hnone, ih]
      simp [hasked]

theorem isOperation_or_options {e : Value × Value} :
    (e.1.text? = some optionsKey ∨ IsOperation e) ↔
      isOperatorEntry e = true ∧ (isAsked e = true → IsOperation e) := by
  have hmark : isOperatorKey optionsKey = true := by decide
  constructor
  · rintro (hkey | hop)
    · exact ⟨by simp [isOperatorEntry, hkey, hmark], by simp [isAsked, hkey]⟩
    · obtain ⟨op, hmem, hkey, -⟩ := id hop
      exact ⟨by simp [isOperatorEntry, hkey, isOperatorKey_operator hmem], fun _ => hop⟩
  · rintro ⟨hentry, hasks⟩
    by_cases hasked : isAsked e = true
    · exact .inr (hasks hasked)
    · obtain ⟨s, hs⟩ := exists_text_of_isOperatorEntry hentry
      have hkey : s = optionsKey := by simpa [isAsked, hs] using hasked
      exact .inl (hs.trans (congrArg some hkey))

theorem readField_eq_ok_iff {ns : List Node} : readField field v = .ok ns ↔
    IsCondition v ∧ (conditionsUnder field v).map .leaf = ns := by
  cases hliteral : hasOperatorKey v with
  | false =>
    have hcondition : IsCondition v := by
      rintro es rfl hany
      exact absurd (hliteral.symm.trans hany) Bool.false_ne_true
    rw [readField, operators?_of_not_hasOperatorKey hliteral, conditionsUnder_of_literal hliteral]
    exact pure_eq_ok.trans (and_iff_right hcondition).symm
  | true =>
    rw [readField_eq_ok]
    constructor
    · rintro (⟨hnone, -⟩ | ⟨es, options, ls, hfound, hoptions, hls, rfl⟩)
      · exact absurd (hliteral.symm.trans (hasOperatorKey_of_operators? hnone)) (by simp)
      · obtain ⟨rfl, -, hall⟩ := operators?_eq_some hfound
        obtain ⟨hallowed, rfl⟩ := optionsOf_eq_ok.1 hoptions
        obtain ⟨hasks, rfl⟩ := forall₂_entryAsks_iff.1 hls
        refine ⟨?_, congrArg _ (if_pos hliteral)⟩
        rintro _ ⟨⟩ -
        exact ⟨fun e he => isOperation_or_options.2 ⟨hall e he, hasks e he⟩, hallowed⟩
    · rintro ⟨hcondition, rfl⟩
      cases v with
      | map es =>
        have hne : es ≠ [] := by
          rintro rfl
          exact Bool.false_ne_true hliteral
        have hes := hcondition es rfl hliteral
        have hall := fun e he => (isOperation_or_options.1 (hes.operators e he)).1
        have hasks := fun e he => (isOperation_or_options.1 (hes.operators e he)).2
        refine .inr ⟨es, optionsIn es, _, operators?_of_all hne hall field,
          optionsOf_eq_ok.2 ⟨hes.options, rfl⟩, forall₂_entryAsks_iff.2 ⟨hasks, rfl⟩, ?_⟩
        exact congrArg _ (if_pos hliteral)
      | _ => cases hliteral

/-! ### Filters -/

mutual

/-- The grammar of filters: a filter is a mapping that stands no deeper than the limit, the whole filter
zero levels deep. -/
inductive IsFilter (limit : Int) : Nat → Value → Prop where
  | intro {depth : Nat} {es : List (Value × Value)} (hdepth : (depth : Int) ≤ limit)
      (hes : ∀ e ∈ es, IsEntry limit depth e.1 e.2) : IsFilter limit depth (.map es)

/-- An entry of a filter: a condition under a plain text, or filters in a list or a tuple under a
connective. -/
inductive IsEntry (limit : Int) : Nat → Value → Value → Prop where
  | field {depth : Nat} {k v : Value} {s : String} (hkey : k.text? = some s)
      (hplain : isOperatorKey s = false) (hv : IsCondition v) : IsEntry limit depth k v
  | group {depth : Nat} {k v : Value} {c : Connective} {xs : List Value} (hkey : k.text? = some c.symbol)
      (hxs : v.sequence? = some xs) (hchildren : ∀ x ∈ xs, IsFilter limit (depth + 1) x) :
      IsEntry limit depth k v

end

theorem IsEntry.exists_name (h : IsEntry limit depth k v) : ∃ name, Name.ofValue? k = some name := by
  have htext : ∃ s, k.text? = some s := by
    cases h with
    | field hkey => exact ⟨_, hkey⟩
    | group hkey => exact ⟨_, hkey⟩
  obtain ⟨s, hs⟩ := htext
  rw [← Name.map_text_ofValue?] at hs
  obtain ⟨name, hname, -⟩ := Option.map_eq_some_iff.1 hs
  exact ⟨name, hname⟩

/-- The nodes of an entry: a group with its children, or the conditions under a field. -/
def entryNodes (name : Name) (v : Value) (children : List (List Node)) : List Node :=
  match Connective.ofSymbol? name.text with
  | some c => [.group c children]
  | none => (conditionsUnder name v).map .leaf

theorem entryNodes_of_plain {name : Name} (h : isOperatorKey name.text = false)
    (v : Value) (children : List (List Node)) :
    entryNodes name v children = (conditionsUnder name v).map .leaf := by
  have hsymbol : Connective.ofSymbol? name.text = none := by
    cases hc : Connective.ofSymbol? name.text with
    | none => rfl
    | some c =>
      rw [ofSymbol?_eq_some.1 hc, isOperatorKey_symbol] at h
      cases h
  rw [entryNodes, hsymbol]

theorem entryNodes_of_symbol {name : Name} {c : Connective} (h : name.text = c.symbol)
    (v : Value) (children : List (List Node)) : entryNodes name v children = [.group c children] := by
  rw [entryNodes, ofSymbol?_eq_some.2 h]

mutual

/-- The nodes of a filter, in the order of its keys. -/
def nodesOf : Value → List Node
  | .map es => nodesOfEntries es
  | _ => []

def nodesOfEntries : List (Value × Value) → List Node
  | [] => []
  | (k, v) :: es =>
    (match Name.ofValue? k with
      | some name => entryNodes name v (childrenOf v)
      | none => []) ++ nodesOfEntries es

/-- The nodes of the children of a group, child by child. -/
def childrenOf : Value → List (List Node)
  | .list xs => nodesOfChildren xs
  | .tuple xs => nodesOfChildren xs
  | _ => []

def nodesOfChildren : List Value → List (List Node)
  | [] => []
  | x :: xs => nodesOf x :: nodesOfChildren xs

end

theorem childrenOf_of_sequence {xs : List Value} (h : v.sequence? = some xs) :
    childrenOf v = nodesOfChildren xs := by
  cases v with
  | list ys =>
    obtain rfl := Option.some.inj h
    rw [childrenOf]
  | tuple ys =>
    obtain rfl := Option.some.inj h
    rw [childrenOf]
  | _ => cases h

theorem entryGives_iff {name : Name} {ns : List Node} (hname : Name.ofValue? k = some name)
    (hchildren : ∀ xs, v.sequence? = some xs → ∀ children, readChildren limit depth xs = .ok children ↔
      (∀ x ∈ xs, IsFilter limit (depth + 1) x) ∧ nodesOfChildren xs = children) :
    EntryGives limit depth name v ns ↔
      IsEntry limit depth k v ∧ entryNodes name v (childrenOf v) = ns := by
  have htext := Name.text?_of_ofValue? hname
  have htext_inj : ∀ {s}, k.text? = some s → name.text = s := fun hs =>
    Option.some.inj (htext.symm.trans hs)
  constructor
  · intro h
    cases h with
    | field hplain h =>
      obtain ⟨hv, rfl⟩ := readField_eq_ok_iff.1 h
      exact ⟨.field htext hplain hv, entryNodes_of_plain hplain v _⟩
    | @group c xs children hkey hxs h =>
      obtain ⟨hfilters, rfl⟩ := (hchildren xs hxs children).1 h
      rw [entryNodes_of_symbol hkey, childrenOf_of_sequence hxs]
      exact ⟨.group (htext.trans (congrArg some hkey)) hxs hfilters, rfl⟩
  · rintro ⟨h, rfl⟩
    cases h with
    | field hkey hplain hv =>
      obtain rfl := htext_inj hkey
      rw [entryNodes_of_plain hplain]
      exact .field hplain (readField_eq_ok_iff.2 ⟨hv, rfl⟩)
    | @group depth k v c xs hkey hxs hfilters =>
      have hsymbol := htext_inj hkey
      rw [entryNodes_of_symbol hsymbol, childrenOf_of_sequence hxs]
      exact .group hsymbol hxs ((hchildren xs hxs _).2 ⟨hfilters, rfl⟩)

theorem readAt_eq_ok_iff {ns : List Node} (hentries : ∀ es, v = .map es →
    ∀ ns, readEntries limit depth es = .ok ns ↔
      (∀ e ∈ es, IsEntry limit depth e.1 e.2) ∧ nodesOfEntries es = ns) :
    readAt limit depth v = .ok ns ↔ IsFilter limit depth v ∧ nodesOf v = ns := by
  rw [readAt_eq_ok]
  constructor
  · rintro ⟨es, rfl, hdepth, hread⟩
    obtain ⟨hes, rfl⟩ := (hentries es rfl ns).1 hread
    exact ⟨.intro hdepth hes, by rw [nodesOf]⟩
  · rintro ⟨⟨hdepth, hes⟩, rfl⟩
    rw [nodesOf]
    exact ⟨_, rfl, hdepth, (hentries _ rfl _).2 ⟨hes, rfl⟩⟩

mutual

theorem readEntries_eq_ok_iff (limit : Int) : (depth : Nat) → (es : List (Value × Value)) →
    (ns : List Node) → (readEntries limit depth es = .ok ns ↔
      (∀ e ∈ es, IsEntry limit depth e.1 e.2) ∧ nodesOfEntries es = ns)
  | depth, [], ns => by
    rw [readEntries, pure_eq_ok, nodesOfEntries]
    exact (and_iff_right (by simp)).symm
  | depth, (k, v) :: es, ns => by
    rw [readEntries_cons_eq_ok, List.forall_mem_cons, nodesOfEntries]
    -- The children of a group are smaller than its operand, which may also be a tuple.
    have hentry : ∀ {name ns}, Name.ofValue? k = some name → (EntryGives limit depth name v ns ↔
        IsEntry limit depth k v ∧ entryNodes name v (childrenOf v) = ns) := fun hname =>
      entryGives_iff hname fun xs hxs children => by
        have hsmaller : sizeOf xs < sizeOf v := by
          cases v <;> simp [Value.sequence?] at hxs <;> subst hxs <;> simp
        exact readChildren_eq_ok_iff limit depth xs children
    constructor
    · rintro ⟨name, first, rest, hname, hfirst, hrest, rfl⟩
      obtain ⟨hkv, rfl⟩ := (hentry hname).1 hfirst
      obtain ⟨hes, rfl⟩ := (readEntries_eq_ok_iff limit depth es rest).1 hrest
      exact ⟨⟨hkv, hes⟩, by rw [hname]⟩
    · rintro ⟨⟨hkv, hes⟩, rfl⟩
      obtain ⟨name, hname⟩ := hkv.exists_name
      exact ⟨name, _, _, hname, (hentry hname).2 ⟨hkv, rfl⟩,
        (readEntries_eq_ok_iff limit depth es _).2 ⟨hes, rfl⟩, by rw [hname]⟩
  termination_by _ es => sizeOf es

theorem readChildren_eq_ok_iff (limit : Int) : (depth : Nat) → (xs : List Value) →
    (children : List (List Node)) → (readChildren limit depth xs = .ok children ↔
      (∀ x ∈ xs, IsFilter limit (depth + 1) x) ∧ nodesOfChildren xs = children)
  | depth, [], children => by
    rw [readChildren, pure_eq_ok, nodesOfChildren]
    exact (and_iff_right (by simp)).symm
  | depth, x :: xs, children => by
    have hchild : ∀ child, readAt limit (depth + 1) x = .ok child ↔
        IsFilter limit (depth + 1) x ∧ nodesOf x = child := fun child =>
      readAt_eq_ok_iff fun es hes ns => by
        have hsmaller : sizeOf es < sizeOf x := by
          rw [hes]
          simp
        exact readEntries_eq_ok_iff limit (depth + 1) es ns
    rw [readChildren_eq_ok, List.forall₂_cons_left_iff, List.forall_mem_cons, nodesOfChildren]
    constructor
    · rintro ⟨child, rest, hread, hrest, rfl⟩
      obtain ⟨hx, rfl⟩ := (hchild child).1 hread
      obtain ⟨hxs, rfl⟩ := (readChildren_eq_ok_iff limit depth xs rest).1 (readChildren_eq_ok.2 hrest)
      exact ⟨⟨hx, hxs⟩, rfl⟩
    · rintro ⟨⟨hx, hxs⟩, rfl⟩
      have hrest := (readChildren_eq_ok_iff limit depth xs _).2 ⟨hxs, rfl⟩
      exact ⟨_, _, (hchild _).2 ⟨hx, rfl⟩, readChildren_eq_ok.1 hrest, rfl⟩
  termination_by _ xs => sizeOf xs

end

theorem readWithin_eq_ok_iff {filter : Value} {ns : List Node} : readWithin limit filter = .ok ns ↔
    (filter = .null ∨ IsFilter limit 0 filter) ∧ nodesOf filter = ns := by
  by_cases hnull : filter = .null
  · subst hnull
    rw [nodesOf]
    · exact pure_eq_ok.trans (and_iff_right (.inl rfl)).symm
    · exact fun _ => Value.noConfusion
  · have hread : readWithin limit filter = readAt limit 0 filter :=
      if_neg (by cases filter <;> simp_all [Value.isNull])
    rw [hread, or_iff_right hnull]
    exact readAt_eq_ok_iff fun es _ => readEntries_eq_ok_iff limit 0 es

/-- Reading accepts null and the filters of the grammar, gives their nodes, and refuses everything else as
an invalid filter or as one that is too deep, unless it ends with a fault: for a presence test whose operand
is a signaling not-a-number, or a whole number of too many digits in such an operand, in a key that is no
text, or as a limit below zero. -/
theorem readWithin_grammar (limit : Int) (filter : Value) :
    (∀ ns, readWithin limit filter = .ok ns ↔
      (filter = .null ∨ IsFilter limit 0 filter) ∧ ns = nodesOf filter) ∧
    ((∀ f, ¬FaultsWithin limit filter f) → ∀ e, readWithin limit filter = .error e →
      e.kind? = some .invalidFilter ∨ e.kind? = some .tooDeep) ∧
    ∀ f, FaultsWithin limit filter f → readWithin limit filter = .error (.fault f) := by
  refine ⟨fun ns => ?_, fun hquiet e he => ?_, fun _ => readWithin_of_faults⟩
  · rw [readWithin_eq_ok_iff, eq_comm (a := nodesOf filter)]
  · exact (readWithin_fails limit filter e he).resolve_right fun ⟨f, _, hf⟩ => hquiet f hf

/-- Options before their pattern, and a group with a condition and an empty filter. -/
def nestedFilter : Value :=
  .map [(.str "a", .map [(.str "$options", .str "i"), (.str "$regex", .str "x")]),
    (.str "$or", .list [.map [(.str "b", .int 1)], .map []])]

theorem isFilter_nestedFilter : IsFilter 1 0 nestedFilter := by
  have hpattern : IsCondition (.map [(.str "$options", .str "i"), (.str "$regex", .str "x")]) := by
    rintro _ ⟨⟩ -
    refine ⟨?_, fun v hv => ?_⟩
    · simp only [List.forall_mem_cons, List.not_mem_nil, false_imp_iff, implies_true, and_true]
      exact ⟨.inl rfl, .inr ⟨.regex, by simp [Operator.all], rfl, .inl ⟨"x", rfl⟩⟩⟩
    · obtain rfl : Value.str "i" = v := Option.some.inj hv
      exact ⟨⟨"i", rfl⟩, .str "x", rfl⟩
  have hliteral : IsCondition (.int 1) := by
    rintro _ ⟨⟩
  have hempty : IsFilter 1 1 (.map []) := .intro (by decide) (by simp)
  have hentry : IsEntry 1 1 (.str "b") (.int 1) := .field rfl (by decide) hliteral
  have hchild : IsFilter 1 1 (.map [(.str "b", .int 1)]) :=
    .intro (by decide) (List.forall_mem_singleton.2 hentry)
  refine .intro (by decide) ?_
  simp only [List.forall_mem_cons, List.not_mem_nil, false_imp_iff, implies_true, and_true]
  refine ⟨.field rfl (by decide) hpattern, .group (c := .or) rfl rfl ?_⟩
  simp only [List.forall_mem_cons, List.not_mem_nil, false_imp_iff, implies_true, and_true]
  exact ⟨hchild, hempty⟩

/-- A group whose only child tests the presence of a field with a signaling not-a-number. -/
def signalingGroup : Value :=
  .map [(.str "$or", .list [.map [(.str "a", .map [(.str "$exists", .decimal (.nan false true 0))])]])]

theorem faultsWithin_signalingGroup : FaultsWithin 1 signalingGroup .signaling := by
  have hoperand : OperatorsFault (.plain "a") (.plain "")
      [(.str "$exists", .decimal (.nan false true 0))] .signaling :=
    .intro [] rfl rfl (.signaling rfl)
  have hfield : FieldFaults (.plain "a") (.map [(.str "$exists", .decimal (.nan false true 0))]) .signaling :=
    .intro rfl rfl hoperand
  have hchild : EntriesFault 1 1 [(.str "a", .map [(.str "$exists", .decimal (.nan false true 0))])]
      .signaling := .field [] rfl rfl (by decide) hfield
  have hdone : readChildren 1 0 [] = .ok [] := rfl
  exact .entries (by decide) (.group (c := .or) [] rfl rfl rfl rfl hdone (by decide) hchild)

/-- The nested filter is read under a limit of one and too deep under a limit of zero, and the group with
the signaling operand is refused as a comparison. -/
theorem readWithin_grammar_of_nested :
    IsFilter 1 0 nestedFilter ∧
    readWithin 1 nestedFilter = .ok [
      .leaf { field := .plain "a", operator := .regex, value := .str "x", options := .plain "i" },
      .group .or [[.leaf { field := .plain "b", operator := .eq, value := .int 1 }], []]] ∧
    (∀ f, ¬FaultsWithin 0 nestedFilter f) ∧
    readWithin 0 nestedFilter = .error (.tooDeep 1 0) ∧
    ((Error.tooDeep 1 0).kind? = some .invalidFilter ∨ (Error.tooDeep 1 0).kind? = some .tooDeep) ∧
    FaultsWithin 1 signalingGroup .signaling ∧
    readWithin 1 signalingGroup = .error (.fault .signaling) := by
  have hdeep : readWithin 0 nestedFilter = .error (.tooDeep 1 0) := rfl
  have hquiet : ∀ f, ¬FaultsWithin 0 nestedFilter f := by
    intro f h
    cases hdeep.symm.trans ((readWithin_grammar 0 nestedFilter).2.2 f h)
  exact ⟨isFilter_nestedFilter,
    ((readWithin_grammar 1 nestedFilter).1 _).2 ⟨.inr isFilter_nestedFilter, rfl⟩,
    hquiet, hdeep, (readWithin_grammar 0 nestedFilter).2.1 hquiet _ hdeep,
    faultsWithin_signalingGroup,
    (readWithin_grammar 1 signalingGroup).2.2 _ faultsWithin_signalingGroup⟩

/-- Not everything that is refused is an invalid filter or too deep. -/
theorem not_readWithin_grammar_of_signaling :
    ¬∀ limit filter e, readWithin limit filter = .error e →
      e.kind? = some .invalidFilter ∨ e.kind? = some .tooDeep := by
  intro h
  have hrefused := readWithin_of_faults faultsWithin_signalingGroup
  rcases h 1 signalingGroup _ hrefused with hkind | hkind
  · cases hkind
  · cases hkind

end Polystore.Filter

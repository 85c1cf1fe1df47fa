import Polystore.Proofs.Outcome
import Polystore.Sql.Where

/-!
# How conditions are made

`leafTest_eq_ok` lists every test that a condition of a filter can become, and the equations after it
take the compilation of nodes, lists and groups apart. From them follow the columns that a condition
tests (`mem_columns_condition`) and the values that it binds (`values_condition`).
-/

namespace Polystore

namespace Filter.Leaf

/-- The text of a pattern, compiled or not. -/
def patternText? (l : Leaf) : Option String :=
  match l.value with
  | .pattern p => some p.source
  | v => v.text?

/-- The literal text that a pattern stands for. -/
def literal? (l : Leaf) : Option String :=
  l.patternText?.bind fun s => (Substring.ofPattern s).toOption

/-- A pattern is asked to ignore the case, by its flags or by its options. -/
def ignoresCase (l : Leaf) : Bool :=
  (match l.value with
    | .pattern p => p.flags.ignoreCase
    | _ => false) || l.options.text.toList.contains 'i'

/-- The candidates of a membership. -/
def candidateValues (l : Leaf) : List Value :=
  match l.value.elements with
  | .ok xs => xs
  | .error _ => []

/-- The candidates that are not null. -/
def presentCandidates (l : Leaf) : List Value :=
  l.candidateValues.filter fun v => !v.isNull

/-- The values that a condition binds: the operand of a comparison, the candidates of a membership
that are not null, and for a pattern one text. A test for null binds nothing. -/
def bound (l : Leaf) : List Value :=
  match l.operator with
  | .exists => []
  | .isIn => l.presentCandidates
  | .notIn => l.presentCandidates
  | .regex => l.literal?.toList.map fun s => .str (Substring.containing s)
  | _ => if l.value.isNull then [] else [l.value]

end Filter.Leaf

namespace Sql

open Polystore.Filter (Leaf Node leaves leavesOfChildren)

/-- The tests that a condition can become on its column. -/
inductive Tests (column : String) (l : Leaf) : Predicate → Prop where
  | isNull (hop : l.operator = .eq) (hnull : l.value.isNull = true) :
      Tests column l (.nullTest column true)
  | isNotNull (hop : l.operator = .ne) (hnull : l.value.isNull = true) :
      Tests column l (.nullTest column false)
  | compare {op : Comparison} (hop : comparison? l.operator = some op)
      (hnull : l.value.isNull = false) : Tests column l (.compare column op l.value)
  | presence (hop : l.operator = .exists) : Tests column l (.nullTest column (!l.value.truthy))
  | isIn {xs : List Value} (hop : l.operator = .isIn) (hxs : l.value.elements = .ok xs) :
      Tests column l (membershipTest column false xs)
  | notIn {xs : List Value} (hop : l.operator = .notIn) (hxs : l.value.elements = .ok xs) :
      Tests column l (membershipTest column true xs)
  | pattern {s : String} (hop : l.operator = .regex) (hs : l.literal? = some s) :
      Tests column l (.contains column s l.ignoresCase)

/-! ### One condition -/

theorem comparisonTest_eq_ok {column : String} {l : Leaf} {op : Comparison} {p : Predicate}
    (hop : comparison? l.operator = some op) (h : comparisonTest column l op = .ok p) :
    Tests column l p := by
  unfold comparisonTest at h
  by_cases hnull : l.value.isNull = true
  · rw [if_pos hnull] at h
    cases op with
    | eq =>
      rw [← pure_eq_ok.1 h]
      exact .isNull (by revert hop; cases l.operator <;> simp [comparison?]) hnull
    | ne =>
      rw [← pure_eq_ok.1 h]
      exact .isNotNull (by revert hop; cases l.operator <;> simp [comparison?]) hnull
    | gt => exact absurd h throw_ne_ok
    | ge => exact absurd h throw_ne_ok
    | lt => exact absurd h throw_ne_ok
    | le => exact absurd h throw_ne_ok
  · rw [if_neg hnull] at h
    rw [← pure_eq_ok.1 h]
    exact .compare hop (by simpa using hnull)

theorem patternSource_eq_ok {l : Leaf} {source : Value} {ignoreCase : Bool}
    (h : patternSource l = .ok (source, ignoreCase)) :
    (∀ s, source.text? = some s → l.patternText? = some s) ∧
      ignoreCase = (match l.value with
        | .pattern p => p.flags.ignoreCase
        | _ => false) := by
  unfold patternSource at h
  unfold Leaf.patternText?
  cases hv : l.value with
  | pattern p =>
    rw [hv] at h
    by_cases hflags : p.flags.unsupportedNames.isEmpty = true
    · simp only [if_pos hflags] at h
      obtain ⟨rfl, rfl⟩ := Prod.mk.inj (pure_eq_ok.1 h)
      refine ⟨fun s hs => ?_, rfl⟩
      by_cases hoctets : p.overOctets = true
      · simp [hoctets, Value.text?] at hs
      · simpa [hoctets, Value.text?] using hs
    · simp only [if_neg hflags] at h
      exact absurd h throw_ne_ok
  | _ =>
    rw [hv] at h
    obtain ⟨rfl, rfl⟩ := Prod.mk.inj (pure_eq_ok.1 h)
    exact ⟨fun s hs => hs, rfl⟩

theorem readOptions_eq_ok {field : Name} {start ignoreCase : Bool} {cs : List Char}
    (h : readOptions field start cs = .ok ignoreCase) :
    ignoreCase = (start || cs.contains 'i') := by
  induction cs generalizing start with
  | nil => simpa using (pure_eq_ok.1 h).symm
  | cons c cs ih =>
    unfold readOptions at h
    by_cases hi : c = 'i'
    · rw [if_pos hi] at h
      simp [ih h, hi]
    · rw [if_neg hi] at h
      split at h
      · have hne : ('i' == c) = false := by simpa using Ne.symm hi
        rw [ih h, List.contains_cons, hne, Bool.false_or]
      · exact absurd h throw_ne_ok

theorem patternTest_eq_ok {column : String} {l : Leaf} {p : Predicate}
    (hop : l.operator = .regex) (h : patternTest column l = .ok p) : Tests column l p := by
  unfold patternTest at h
  obtain ⟨⟨source, fromFlags⟩, hsource, h⟩ := bind_eq_ok.1 h
  obtain ⟨htext, rfl⟩ := patternSource_eq_ok hsource
  cases hs : source.text? with
  | none =>
    simp only [hs] at h
    obtain ⟨_, -, h⟩ := bind_eq_ok.1 h
    exact absurd h throw_ne_ok
  | some s =>
    simp only [hs] at h
    obtain ⟨ignoreCase, hoptions, h⟩ := bind_eq_ok.1 h
    obtain ⟨content, hcontent, h⟩ := bind_eq_ok.1 h
    have hcase : ignoreCase = l.ignoresCase := readOptions_eq_ok hoptions
    rw [← pure_eq_ok.1 h, hcase]
    refine .pattern hop ?_
    rw [Leaf.literal?, htext s hs, Option.bind_some, hcontent]
    rfl

theorem leafTest_eq_ok {d : SqlDialect} {l : Leaf} {p : Predicate} (h : leafTest d l = .ok p) :
    ∃ column, d.renderField l.field.text = .ok column ∧ Tests column l p := by
  unfold leafTest at h
  obtain ⟨column, hcolumn, h⟩ := bind_eq_ok.1 h
  refine ⟨column, hcolumn, ?_⟩
  cases hop : comparison? l.operator with
  | some op =>
    simp only [hop] at h
    exact comparisonTest_eq_ok hop h
  | none =>
    simp only [hop] at h
    cases ho : l.operator with
    | «exists» =>
      simp only [ho] at h
      rw [← pure_eq_ok.1 h]
      exact .presence ho
    | isIn =>
      simp only [ho] at h
      obtain ⟨xs, hxs, rfl⟩ := map_eq_ok.1 h
      exact .isIn ho hxs
    | notIn =>
      simp only [ho] at h
      obtain ⟨xs, hxs, rfl⟩ := map_eq_ok.1 h
      exact .notIn ho hxs
    | regex =>
      simp only [ho] at h
      exact patternTest_eq_ok ho h
    | other s =>
      simp only [ho] at h
      exact absurd h throw_ne_ok
    | _ => simp [ho, comparison?] at hop

theorem membershipTest_cases (column : String) (negated : Bool) (xs : List Value) :
    let present := xs.filter fun v => !v.isNull
    xs = [] ∧ membershipTest column negated xs = .constant negated ∨
    xs ≠ [] ∧ present = [] ∧ membershipTest column negated xs = .nullTest column (!negated) ∨
    present ≠ [] ∧ (∀ x ∈ xs, x.isNull = false) ∧
      membershipTest column negated xs = .membership column negated present ∨
    present ≠ [] ∧ (∃ x ∈ xs, x.isNull = true) ∧
      membershipTest column negated xs =
        .grouped (if negated then .both [.membership column true present, .nullTest column false]
          else .either [.membership column false present, .nullTest column true]) := by
  intro present
  unfold membershipTest
  by_cases hempty : xs = []
  · exact .inl ⟨hempty, by simp [hempty]⟩
  have hne : xs.isEmpty = false := by simpa using hempty
  by_cases hpresent : present = []
  · exact .inr (.inl ⟨hempty, hpresent, by simp [hne, present, hpresent]⟩)
  have hpne : present.isEmpty = false := by simpa using hpresent
  by_cases hlength : present.length = xs.length
  · refine .inr (.inr (.inl ⟨hpresent, fun x hx => ?_, by simp only [hne, present, hpne, hlength,
      Bool.false_eq_true, if_false, if_true]⟩))
    simpa using List.length_filter_eq_length_iff.1 hlength x hx
  · refine .inr (.inr (.inr ⟨hpresent, ?_, ?_⟩))
    · simpa [present, List.length_filter_eq_length_iff] using hlength
    · simp only [hne, present, hpne, hlength, Bool.false_eq_true, if_false]
      cases negated <;> rfl

/-! ### Nodes, lists and groups -/

/-- A child of a group with the number of its nodes, in parentheses if these are several. -/
def groupPart (part : Nat × Predicate) : Predicate :=
  if part.1 > 1 then .grouped part.2 else part.2

theorem groupTest_and (part : Nat × Predicate) (parts : List (Nat × Predicate)) :
    groupTest .and (part :: parts) = .grouped (.both ((part :: parts).map groupPart)) := rfl

theorem groupTest_or (part : Nat × Predicate) (parts : List (Nat × Predicate)) :
    groupTest .or (part :: parts) = .grouped (.either ((part :: parts).map groupPart)) := rfl

/-- What holds of every test, and is kept by lists and groups, holds of everything that a filter
becomes. -/
theorem condition_induction {d : SqlDialect} (onNode : Node → Predicate → Prop)
    (onNodes : List Node → List Predicate → Prop)
    (onChildren : List (List Node) → List (Nat × Predicate) → Prop)
    (leaf : ∀ l column p, d.renderField l.field.text = .ok column → Tests column l p →
      onNode (.leaf l) p)
    (group : ∀ c children parts, onChildren children parts →
      onNode (.group c children) (groupTest c parts))
    (nil : onNodes [] [])
    (cons : ∀ n ns p ps, onNode n p → onNodes ns ps → onNodes (n :: ns) (p :: ps))
    (childless : onChildren [] [])
    (child : ∀ ns children ps parts, onNodes ns ps → onChildren children parts →
      onChildren (ns :: children) ((ns.length, Predicate.conjunction ps) :: parts))
    {nodes : List Node} {tests : List Predicate} (h : nodeTests d nodes = .ok tests) :
    onNodes nodes tests :=
  overNodes nodes tests h
where
  overNode : (n : Node) → (p : Predicate) → nodeTest d n = .ok p → onNode n p
    | .leaf l, p, h => by
      rw [nodeTest, mapError_eq_ok] at h
      obtain ⟨column, hcolumn, htest⟩ := leafTest_eq_ok h
      exact leaf l column p hcolumn htest
    | .group c children, p, h => by
      rw [nodeTest, map_eq_ok] at h
      obtain ⟨parts, hparts, rfl⟩ := h
      exact group c children parts (overChildren children parts hparts)
  overNodes : (ns : List Node) → (ps : List Predicate) → nodeTests d ns = .ok ps → onNodes ns ps
    | [], ps, h => by
      rw [nodeTests, pure_eq_ok] at h
      exact h ▸ nil
    | n :: ns, qs, h => by
      rw [nodeTests] at h
      obtain ⟨p, hp, h⟩ := bind_eq_ok.1 h
      obtain ⟨ps, hps, h⟩ := bind_eq_ok.1 h
      rw [← pure_eq_ok.1 h]
      exact cons n ns p ps (overNode n p hp) (overNodes ns ps (mapError_eq_ok.1 hps))
  overChildren : (children : List (List Node)) → (parts : List (Nat × Predicate)) →
      childTests d children = .ok parts → onChildren children parts
    | [], parts, h => by
      rw [childTests, pure_eq_ok] at h
      exact h ▸ childless
    | ns :: children, qs, h => by
      rw [childTests] at h
      obtain ⟨ps, hps, h⟩ := bind_eq_ok.1 h
      obtain ⟨parts, hparts, h⟩ := bind_eq_ok.1 h
      rw [← pure_eq_ok.1 h]
      exact child ns children ps parts (overNodes ns ps hps)
        (overChildren children parts (mapError_eq_ok.1 hparts))

/-! ### The values that a condition binds -/

open Predicate (valuesOfAll conjunction)

theorem values_conjunction (ps : List Predicate) : (conjunction ps).values = valuesOfAll ps := by
  cases ps <;> simp [conjunction, Predicate.values, valuesOfAll]

theorem values_groupTest (c : Filter.Connective) (parts : List (Nat × Predicate)) :
    (groupTest c parts).values = valuesOfAll (parts.map (·.2)) := by
  have hparts : valuesOfAll (parts.map groupPart) = valuesOfAll (parts.map (·.2)) := by
    induction parts with
    | nil => rfl
    | cons part parts ih =>
      simp only [List.map_cons, valuesOfAll, ih, groupPart]
      split <;> simp [Predicate.values]
  cases parts with
  | nil => simp [groupTest, Predicate.values, valuesOfAll]
  | cons part parts =>
    rw [← hparts]
    cases c with
    | and => rw [groupTest_and, Predicate.values, Predicate.values]
    | or => rw [groupTest_or, Predicate.values, Predicate.values]

theorem values_membershipTest (column : String) (negated : Bool) (xs : List Value) :
    (membershipTest column negated xs).values = xs.filter fun v => !v.isNull := by
  rcases membershipTest_cases column negated xs with
    ⟨rfl, h⟩ | ⟨-, hpresent, h⟩ | ⟨-, hall, h⟩ | ⟨-, -, h⟩
  · rw [h]
    rfl
  · rw [h, hpresent]
    rfl
  · rw [h]
    rfl
  · rw [h]
    cases negated <;> simp [Predicate.values, valuesOfAll]

theorem values_of_tests {column : String} {l : Leaf} {p : Predicate} (h : Tests column l p) :
    p.values = l.bound := by
  cases h with
  | isNull hop hnull => simp [Predicate.values, Leaf.bound, hop, hnull]
  | isNotNull hop hnull => simp [Predicate.values, Leaf.bound, hop, hnull]
  | compare hop hnull =>
    unfold Leaf.bound
    cases ho : l.operator <;> simp_all [comparison?, Predicate.values]
  | presence hop => simp [Predicate.values, Leaf.bound, hop]
  | isIn hop hxs =>
    simp [values_membershipTest, Leaf.bound, hop, Leaf.presentCandidates, Leaf.candidateValues, hxs]
  | notIn hop hxs =>
    simp [values_membershipTest, Leaf.bound, hop, Leaf.presentCandidates, Leaf.candidateValues, hxs]
  | pattern hop hs => simp [Predicate.values, Leaf.bound, hop, hs]

theorem condition_eq_ok {d : SqlDialect} {nodes : List Node} {p : Predicate}
    (h : condition d nodes = .ok p) :
    ∃ ps, nodeTests d nodes = .ok ps ∧ p = conjunction ps := by
  obtain ⟨ps, hps, rfl⟩ := map_eq_ok.1 h
  exact ⟨ps, hps, rfl⟩

theorem values_condition {d : SqlDialect} {nodes : List Node} {p : Predicate}
    (h : condition d nodes = .ok p) : p.values = (leaves nodes).flatMap Leaf.bound := by
  obtain ⟨ps, hps, rfl⟩ := condition_eq_ok h
  rw [values_conjunction]
  refine condition_induction (fun n p => p.values = n.leaves.flatMap Leaf.bound)
    (fun ns ps => valuesOfAll ps = (leaves ns).flatMap Leaf.bound)
    (fun children parts =>
      valuesOfAll (parts.map (·.2)) = (leavesOfChildren children).flatMap Leaf.bound)
    ?_ ?_ ?_ ?_ ?_ ?_ hps
  · intro l column p _ htest
    simpa [Node.leaves] using values_of_tests htest
  · intro c children parts hparts
    rw [values_groupTest, hparts, Node.leaves]
  · simp [valuesOfAll, leaves]
  · intro n ns p ps hp hps
    simp [valuesOfAll, leaves, hp, hps]
  · simp [valuesOfAll, leavesOfChildren]
  · intro ns children ps parts hps hparts
    simp [valuesOfAll, leavesOfChildren, values_conjunction, hps, hparts]

end Sql

end Polystore

import Polystore.Proofs.Sql.Alike

/-!
# What a dialect spells

The writers of two dialects run side by side over one filter or update. They ask the dialect only how a
reserved word is quoted, how the case of a pattern is ignored and how its escape is declared. So both bind
the same values, or refuse for the same reason.

Main statements: `alongside_condition` and `alongside_assignmentsOf`.
-/

namespace Polystore

/-! ### Two runs side by side -/

/-- Two computations run side by side: both give results, which are related, or both refuse, with
errors that are related. -/
inductive Alongside {α β ε ε' : Type} (R : α → β → Prop) (E : ε → ε' → Prop) :
    Except ε α → Except ε' β → Prop where
  | ok {a : α} {b : β} (h : R a b) : Alongside R E (.ok a) (.ok b)
  | error {e : ε} {e' : ε'} (h : E e e') : Alongside R E (.error e) (.error e')

namespace Alongside

variable {α β γ δ ε ε' : Type} {R R' : α → β → Prop} {S : γ → δ → Prop} {E : ε → ε → Prop}
  {F : ε' → ε' → Prop} {x : Except ε α} {y : Except ε β}

theorem bind {f : α → Except ε γ} {g : β → Except ε δ} (h : Alongside R E x y)
    (hfg : ∀ a b, R a b → Alongside S E (f a) (g b)) : Alongside S E (x >>= f) (y >>= g) := by
  cases h with
  | ok h => exact hfg _ _ h
  | error h => exact .error h

theorem map {f : α → γ} {g : β → δ} (h : Alongside R E x y) (hfg : ∀ a b, R a b → S (f a) (g b)) :
    Alongside S E (x.map f) (y.map g) := by
  cases h with
  | ok h => exact .ok (hfg _ _ h)
  | error h => exact .error h

theorem mapError {f g : ε → ε'} (h : Alongside R E x y) (hfg : ∀ e e', E e e' → F (f e) (g e')) :
    Alongside R F (x.mapError f) (y.mapError g) := by
  cases h with
  | ok h => exact .ok h
  | error h => exact .error (hfg _ _ h)

theorem mono (h : Alongside R E x y) (hR : ∀ a b, x = .ok a → y = .ok b → R a b → R' a b) :
    Alongside R' E x y := by
  cases h with
  | ok h => exact .ok (hR _ _ rfl rfl h)
  | error h => exact .error h

theorem imp {E' : ε → ε → Prop} (h : Alongside R E x y) (hE : ∀ e e', E e e' → E' e e') :
    Alongside R E' x y := by
  cases h with
  | ok h => exact .ok h
  | error h => exact .error (hE _ _ h)

theorem refl {R : α → α → Prop} (hR : ∀ a, R a a) (hE : ∀ e, E e e) (x : Except ε α) :
    Alongside R E x x := by
  cases x with
  | ok a => exact .ok (hR a)
  | error e => exact .error (hE e)

end Alongside

/-- Nothing in a condition is spelled by the dialect: its field is no reserved word, and if it is a
pattern, the case matters and `LIKE` gives no character of it a meaning. -/
structure Filter.Leaf.Plain (l : Filter.Leaf) : Prop where
  free : Identifier.isReserved l.field.text = false
  pattern : l.operator = .regex → l.ignoresCase = false ∧
    ∀ s, l.literal? = some s → Substring.needsEscape s = false

/-! ### Names -/

theorem Identifier.exceeds_of_short (engine : Engine) {length : Nat} (h : length ≤ 63) :
    exceeds engine.maxIdentifierLength length = false := by
  rw [exceeds, Bool.and_eq_false_iff, bne_eq_false_iff_eq, decide_eq_false_iff_not]
  cases engine <;> simp only [Engine.maxIdentifierLength] <;> omega

/-- A name of at most 63 characters is valid in every dialect or in none. -/
theorem SqlDialect.validateName_of_short (d : SqlDialect) {name : String} (h : name.length ≤ 63) :
    d.validateName name = Identifier.validate 0 name := by
  have hunlimited : Identifier.exceeds 0 name.length = false := rfl
  rw [validateName, Identifier.validate, Identifier.validate,
    Identifier.exceeds_of_short d.engine h, hunlimited]
  simp only [Bool.false_eq_true, if_false]

theorem SqlDialect.alongside_renderField (d d' : SqlDialect) {name : String} (h : name.length ≤ 63) :
    Alongside (fun column column' => Identifier.isReserved name = false → column = column') Eq
      (d.renderField name) (d'.renderField name) := by
  rw [renderField, renderField, d.validateName_of_short h, d'.validateName_of_short h]
  refine (Alongside.refl (R := Eq) (fun _ => rfl) (fun _ => rfl) _).bind fun _ _ _ => ?_
  by_cases hreserved : Identifier.isReserved name = true
  · rw [if_pos hreserved, if_pos hreserved]
    unfold SqlDialect.quote Identifier.quote
    refine (Alongside.refl (R := Eq) (fun _ => rfl) (fun _ => rfl) _).bind fun _ _ _ => ?_
    exact .ok fun hfree => absurd (hreserved.symm.trans hfree) (by simp)
  · rw [if_neg hreserved, if_neg hreserved]
    exact .ok fun _ => rfl

namespace Sql

open Polystore.Filter (Leaf Node leaves leavesOfChildren)

/-! ### Expressions -/

/-- Two expressions bind the same values, and have one text if nothing in them is spelled by the
dialect. -/
structure Spelled (plain : Prop) (e e' : Engine) (p p' : Predicate) : Prop where
  values_eq : p.values = p'.values
  fragment_eq : plain → p.fragment e = p'.fragment e'

section Expressions

variable {plain : Prop} {e e' : Engine} {column column' : String}

theorem spelled_constant (holds : Bool) : Spelled plain e e' (.constant holds) (.constant holds) where
  values_eq := rfl
  fragment_eq _ := by cases holds <;> rfl

theorem spelled_nullTest (h : plain → column = column') (isNull : Bool) :
    Spelled plain e e' (.nullTest column isNull) (.nullTest column' isNull) where
  values_eq := rfl
  fragment_eq hplain := by
    rw [h hplain]
    cases isNull <;> rfl

theorem spelled_compare (h : plain → column = column') (op : Comparison) (v : Value) :
    Spelled plain e e' (.compare column op v) (.compare column' op v) where
  values_eq := rfl
  fragment_eq hplain := by
    rw [h hplain]
    rfl

theorem spelled_membership (h : plain → column = column') (negated : Bool) (vs : List Value) :
    Spelled plain e e' (.membership column negated vs) (.membership column' negated vs) where
  values_eq := rfl
  fragment_eq hplain := by
    rw [h hplain]
    rfl

theorem spelled_contains (h : plain → column = column') {content : String} {ignoreCase : Bool}
    (hcase : plain → ignoreCase = false) (hescape : plain → Substring.needsEscape content = false) :
    Spelled plain e e' (.contains column content ignoreCase) (.contains column' content ignoreCase) where
  values_eq := rfl
  fragment_eq hplain := by
    rw [h hplain, hcase hplain, Predicate.fragment, Predicate.fragment, Predicate.containsFragment,
      Predicate.containsFragment, hescape hplain]
    cases e <;> cases e' <;> rfl

theorem Spelled.grouped {p p' : Predicate} (h : Spelled plain e e' p p') :
    Spelled plain e e' (.grouped p) (.grouped p') where
  values_eq := h.values_eq
  fragment_eq hplain := by rw [Predicate.fragment, Predicate.fragment, h.fragment_eq hplain]

variable {ps ps' : List Predicate}

theorem valuesOfAll_eq_of_spelled (h : List.Forall₂ (Spelled plain e e') ps ps') :
    Predicate.valuesOfAll ps = Predicate.valuesOfAll ps' := by
  induction h with
  | nil => rfl
  | cons hp _ ih => rw [Predicate.valuesOfAll, Predicate.valuesOfAll, hp.values_eq, ih]

theorem fragments_eq_of_spelled (h : List.Forall₂ (Spelled plain e e') ps ps') (hplain : plain) :
    Predicate.fragments e ps = Predicate.fragments e' ps' := by
  induction h with
  | nil => rfl
  | cons hp _ ih => rw [Predicate.fragments, Predicate.fragments, hp.fragment_eq hplain, ih]

theorem spelled_both (h : List.Forall₂ (Spelled plain e e') ps ps') :
    Spelled plain e e' (.both ps) (.both ps') where
  values_eq := valuesOfAll_eq_of_spelled h
  fragment_eq hplain := by
    rw [Predicate.fragment, Predicate.fragment, fragments_eq_of_spelled h hplain]

theorem spelled_either (h : List.Forall₂ (Spelled plain e e') ps ps') :
    Spelled plain e e' (.either ps) (.either ps') where
  values_eq := valuesOfAll_eq_of_spelled h
  fragment_eq hplain := by
    rw [Predicate.fragment, Predicate.fragment, fragments_eq_of_spelled h hplain]

theorem spelled_conjunction (h : List.Forall₂ (Spelled plain e e') ps ps') :
    Spelled plain e e' (.conjunction ps) (.conjunction ps') := by
  cases h with
  | nil => exact spelled_constant true
  | cons hp hps => exact spelled_both (.cons hp hps)

theorem spelled_membershipTest (h : plain → column = column') (negated : Bool) (xs : List Value) :
    Spelled plain e e' (membershipTest column negated xs) (membershipTest column' negated xs) := by
  unfold membershipTest
  dsimp only
  split
  · exact spelled_constant negated
  split
  · exact spelled_nullTest h _
  split
  · exact spelled_membership h _ _
  split
  · exact (spelled_both (.cons (spelled_membership h _ _) (.cons (spelled_nullTest h _) .nil))).grouped
  · exact (spelled_either
      (.cons (spelled_membership h _ _) (.cons (spelled_nullTest h _) .nil))).grouped

end Expressions

/-! ### Conditions -/

/-- Two refusals for the same reason. -/
def SameReason (r r' : Refusal) : Prop :=
  r.error = r'.error

theorem alongside_refused {α : Type} {R : α → α → Prop} {x y : Except Error α}
    (h : Alongside R Eq x y) :
    Alongside R SameReason (x.mapError fun e => { error := e }) (y.mapError fun e => { error := e }) :=
  h.mapError fun _ _ heq => heq

theorem alongside_after {α : Type} {R : α → α → Prop} {x y : Except Refusal α}
    (h : Alongside R SameReason x y) (earlier earlier' : List Value) :
    Alongside R SameReason (x.mapError (Refusal.after earlier)) (y.mapError (Refusal.after earlier')) :=
  h.mapError fun _ _ heq => heq

section Conditions

variable {plain : Prop} {d d' : SqlDialect} {column column' : String} {l : Leaf}

theorem alongside_comparisonTest (h : plain → column = column') (op : Comparison) :
    Alongside (Spelled plain d.engine d'.engine) Eq (comparisonTest column l op)
      (comparisonTest column' l op) := by
  unfold comparisonTest
  split
  · cases op with
    | eq => exact .ok (spelled_nullTest h true)
    | ne => exact .ok (spelled_nullTest h false)
    | _ => exact .error rfl
  · exact .ok (spelled_compare h op l.value)

theorem alongside_patternTest_contains (column column' : String) (l : Leaf) :
    Alongside (fun p p' => ∃ content ignoreCase, p = .contains column content ignoreCase ∧
      p' = .contains column' content ignoreCase) Eq (patternTest column l) (patternTest column' l) := by
  unfold patternTest
  refine (Alongside.refl (R := Eq) (fun _ => rfl) (fun _ => rfl) _).bind fun source _ h => ?_
  subst h
  refine (Alongside.refl (R := Eq) (fun _ => rfl) (fun _ => rfl) _).bind fun ignoreCase _ h => ?_
  subst h
  split
  · exact .error rfl
  · refine (Alongside.refl (R := Eq) (fun _ => rfl) (fun _ => rfl) _).bind fun content _ h => ?_
    subst h
    exact .ok ⟨content, ignoreCase, rfl, rfl⟩

theorem alongside_patternTest (h : plain → column = column') (hplain : plain → l.Plain)
    (hop : l.operator = .regex) :
    Alongside (Spelled plain d.engine d'.engine) Eq (patternTest column l) (patternTest column' l) := by
  refine (alongside_patternTest_contains column column' l).mono ?_
  rintro p p' hp - ⟨content, ignoreCase, rfl, rfl⟩
  obtain ⟨s, hs, heq⟩ := (patternTest_eq_ok hop hp).exists_contains hop
  obtain ⟨-, rfl, rfl⟩ := Predicate.contains.inj heq
  exact spelled_contains h (fun hp => ((hplain hp).pattern hop).1)
    fun hp => ((hplain hp).pattern hop).2 _ hs

/-- What compiling asks of a condition of a filter that was read. -/
structure Short (plain : Prop) (l : Leaf) : Prop where
  formed : l.Formed
  short : l.field.text.length ≤ 63
  plain : plain → l.Plain

theorem alongside_leafTest (hl : Short plain l) :
    Alongside (Spelled plain d.engine d'.engine) Eq (leafTest d l) (leafTest d' l) := by
  unfold leafTest
  refine (SqlDialect.alongside_renderField d d' hl.short).bind fun column column' hcolumn => ?_
  have hcolumn : plain → column = column' := fun hplain => hcolumn (hl.plain hplain).free
  cases hcompare : comparison? l.operator with
  | some op => exact alongside_comparisonTest hcolumn op
  | none =>
    cases ho : l.operator with
    | «exists» => exact .ok (spelled_nullTest hcolumn _)
    | isIn =>
      rw [elements_of_formed hl.formed (by rw [ho]; rfl)]
      exact .ok (spelled_membershipTest hcolumn false _)
    | notIn =>
      rw [elements_of_formed hl.formed (by rw [ho]; rfl)]
      exact .ok (spelled_membershipTest hcolumn true _)
    | regex => exact alongside_patternTest hcolumn hl.plain ho
    | other s =>
      have hknown := hl.formed.operator
      rw [ho] at hknown
      simp [Filter.Operator.all] at hknown
    | _ => simp [ho, comparison?] at hcompare

/-! ### Lists and groups -/

/-- The parts of two groups: as many nodes, and expressions that differ in spelling. -/
def SpelledParts (plain : Prop) (e e' : Engine) (parts parts' : List (Nat × Predicate)) : Prop :=
  List.Forall₂ (fun part part' => part.1 = part'.1 ∧ Spelled plain e e' part.2 part'.2) parts parts'

theorem spelled_groupTest (c : Filter.Connective) {e e' : Engine} {parts parts' : List (Nat × Predicate)}
    (h : SpelledParts plain e e' parts parts') :
    Spelled plain e e' (groupTest c parts) (groupTest c parts') := by
  have hparts : List.Forall₂ (Spelled plain e e') (parts.map groupPart) (parts'.map groupPart) := by
    refine List.forall₂_map_left_iff.2 (List.forall₂_map_right_iff.2 (h.imp fun part part' hpart => ?_))
    unfold groupPart
    rw [hpart.1]
    split
    · exact hpart.2.grouped
    · exact hpart.2
  cases h with
  | nil => exact spelled_constant true
  | cons hpart hrest =>
    cases c with
    | and =>
      rw [groupTest_and, groupTest_and]
      exact (spelled_both hparts).grouped
    | or =>
      rw [groupTest_or, groupTest_or]
      exact (spelled_either hparts).grouped

mutual

theorem alongside_nodeTest : (n : Node) → (∀ l ∈ n.leaves, Short plain l) →
    Alongside (Spelled plain d.engine d'.engine) SameReason (nodeTest d n) (nodeTest d' n)
  | .leaf l, h => by
    rw [Node.leaves, List.forall_mem_singleton] at h
    rw [nodeTest, nodeTest]
    exact alongside_refused (alongside_leafTest h)
  | .group c children, h => by
    rw [Node.leaves] at h
    rw [nodeTest, nodeTest]
    exact (alongside_childTests children h).map fun _ _ => spelled_groupTest c

theorem alongside_nodeTests : (ns : List Node) → (∀ l ∈ leaves ns, Short plain l) →
    Alongside (List.Forall₂ (Spelled plain d.engine d'.engine)) SameReason (nodeTests d ns)
      (nodeTests d' ns)
  | [], _ => by
    rw [nodeTests, nodeTests]
    exact .ok .nil
  | n :: ns, h => by
    rw [leaves, List.forall_mem_append] at h
    rw [nodeTests, nodeTests]
    refine (alongside_nodeTest n h.1).bind fun p p' hp => ?_
    refine (alongside_after (alongside_nodeTests ns h.2) _ _).bind fun ps ps' hps => ?_
    exact .ok (.cons hp hps)

theorem alongside_childTests : (children : List (List Node)) →
    (∀ l ∈ leavesOfChildren children, Short plain l) →
    Alongside (SpelledParts plain d.engine d'.engine) SameReason (childTests d children)
      (childTests d' children)
  | [], _ => by
    rw [childTests, childTests]
    exact .ok .nil
  | child :: children, h => by
    rw [leavesOfChildren, List.forall_mem_append] at h
    rw [childTests, childTests]
    refine (alongside_nodeTests child h.1).bind fun ps ps' hps => ?_
    refine (alongside_after (alongside_childTests children h.2) _ _).bind fun parts parts' hparts => ?_
    exact .ok (.cons ⟨rfl, spelled_conjunction hps⟩ hparts)

end

theorem alongside_condition {nodes : List Node} (h : ∀ l ∈ leaves nodes, Short plain l) :
    Alongside (Spelled plain d.engine d'.engine) SameReason (condition d nodes)
      (condition d' nodes) :=
  (alongside_nodeTests nodes h).map fun _ _ => spelled_conjunction

end Conditions

/-! ### Assignments -/

/-- Two assignments of the same value, to one column if nothing is spelled by the dialect. -/
structure SpelledAssignment (plain : Prop) (a a' : Assignment) : Prop where
  values_eq : a.values = a'.values
  eq : plain → a = a'

section Assignments

variable {plain : Prop} {d d' : SqlDialect}

theorem spelled_ofBucket? {column column' : String} (h : plain → column = column')
    (b : Update.Bucket) (v : Value) :
    List.Forall₂ (SpelledAssignment plain) (Assignment.ofBucket? b column v).toList
      (Assignment.ofBucket? b column' v).toList := by
  cases b with
  | assign => exact .cons ⟨rfl, fun hplain => by rw [h hplain]⟩ .nil
  | increment => exact .cons ⟨rfl, fun hplain => by rw [h hplain]⟩ .nil
  | remove => exact .cons ⟨rfl, fun hplain => by rw [h hplain]⟩ .nil
  | append => exact .nil
  | detach => exact .nil

theorem alongside_assignmentsOf {ops : List (Update.Bucket × String × Value)}
    (hshort : ∀ op ∈ ops, op.2.1.length ≤ 63)
    (hfree : plain → ∀ op ∈ ops, Identifier.isReserved op.2.1 = false) :
    Alongside (List.Forall₂ (SpelledAssignment plain)) SameReason (assignmentsOf d ops)
      (assignmentsOf d' ops) := by
  induction ops with
  | nil => exact .ok .nil
  | cons op ops ih =>
    obtain ⟨b, name, v⟩ := op
    obtain ⟨hname, hshort⟩ := List.forall_mem_cons.1 hshort
    rw [assignmentsOf, assignmentsOf]
    refine (alongside_refused (SqlDialect.alongside_renderField d d' hname)).bind
      fun column column' hcolumn => ?_
    have hcolumn : plain → column = column' :=
      fun hplain => hcolumn (hfree hplain _ List.mem_cons_self)
    have hrest := ih hshort fun hplain op hop => hfree hplain op (List.mem_cons_of_mem _ hop)
    refine (alongside_after hrest _ _).bind fun as as' has => ?_
    exact .ok (List.rel_append (spelled_ofBucket? hcolumn b v) has)

end Assignments

/-! ### Clauses -/

/-- Two fragments that bind the same values, and are one if nothing is spelled by the dialect. -/
structure SpelledFragment (plain : Prop) (f f' : Fragment) : Prop where
  values_eq : f.values = f'.values
  eq : plain → f = f'

section Clauses

variable {plain : Prop} {d d' : SqlDialect}

theorem Spelled.spelledFragment {e e' : Engine} {p p' : Predicate} (h : Spelled plain e e' p p') :
    SpelledFragment plain (p.fragment e) (p'.fragment e') where
  values_eq := by rw [Predicate.values_fragment, Predicate.values_fragment, h.values_eq]
  eq := h.fragment_eq

theorem spelledFragment_assignments {as as' : List Assignment}
    (h : List.Forall₂ (SpelledAssignment plain) as as') :
    SpelledFragment plain (assignmentsFragment as) (assignmentsFragment as') where
  values_eq := by
    rw [values_assignmentsFragment, values_assignmentsFragment]
    induction h with
    | nil => rfl
    | cons ha _ ih => rw [List.flatMap_cons, List.flatMap_cons, ha.values_eq, ih]
  eq hplain := by
    have heq : as = as' := by
      induction h with
      | nil => rfl
      | cons ha _ ih => rw [ha.eq hplain, ih]
    rw [heq]

end Clauses

end Sql

end Polystore

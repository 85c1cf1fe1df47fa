import Polystore.Proofs.Filter.Reading
import Polystore.Proofs.Sql.Condition
import Polystore.Sql.Compiler

/-!
# Values do not shape the text of a condition

Two runs of the compiler side by side, over two filters of one shape: every writer looks at a value only
through the few bits that `Leaf.Alike` names, so that the texts differ nowhere.
-/

namespace Polystore

namespace Filter

/-- Some candidate of a membership is null. -/
def Leaf.asksNull (l : Leaf) : Bool :=
  l.candidateValues.any Value.isNull

/-- Two conditions on one field with one operator, whose values differ only in what the text of a
condition does not show: a comparison shows whether its operand is null, a membership how many candidates
are not null and whether one is, and a pattern whether the case matters and whether its literal holds a
character that `LIKE` gives a meaning to. -/
def Leaf.Alike (l l' : Leaf) : Prop :=
  l.field.text = l'.field.text ∧ l.operator = l'.operator ∧
    match l.operator with
    | .exists => l.value.truthy = l'.value.truthy
    | .isIn | .notIn =>
      l.presentCandidates.length = l'.presentCandidates.length ∧ l.asksNull = l'.asksNull
    | .regex =>
      l.ignoresCase = l'.ignoresCase ∧ ∀ s s', l.literal? = some s → l'.literal? = some s' →
        Substring.needsEscape s = Substring.needsEscape s'
    | .other _ => True
    | _ => l.value.isNull = l'.value.isNull

mutual

/-- Two nodes of one shape whose conditions are alike. -/
def Node.Alike : Node → Node → Prop
  | .leaf l, .leaf l' => l.Alike l'
  | .group c children, .group c' children' => c = c' ∧ ChildrenAlike children children'
  | _, _ => False

/-- Two lists of nodes of one shape whose conditions are alike. -/
def NodesAlike : List Node → List Node → Prop
  | [], [] => True
  | n :: ns, n' :: ns' => n.Alike n' ∧ NodesAlike ns ns'
  | _, _ => False

def ChildrenAlike : List (List Node) → List (List Node) → Prop
  | [], [] => True
  | child :: children, child' :: children' =>
    NodesAlike child child' ∧ ChildrenAlike children children'
  | _, _ => False

end

end Filter

namespace Sql

open Polystore.Filter (Leaf Node leaves leavesOfChildren NodesAlike ChildrenAlike)

/-! ### Fragments without their values -/

namespace Fragment

/-- A fragment with null in place of each value. -/
def mask (f : Fragment) : Fragment :=
  f.map fun
    | .text s => .text s
    | .slot _ => .slot .null

@[simp] theorem mask_nil : mask [] = [] := rfl

@[simp] theorem mask_text (s : String) (f : Fragment) : mask (.text s :: f) = .text s :: mask f := rfl

@[simp] theorem mask_slot (v : Value) (f : Fragment) : mask (.slot v :: f) = .slot .null :: mask f := rfl

@[simp] theorem mask_append (f g : Fragment) : mask (f ++ g) = mask f ++ mask g :=
  List.map_append

theorem mask_joinWith (separator : String) (fs : List Fragment) :
    mask (joinWith separator fs) = joinWith separator (fs.map mask) := by
  induction fs with
  | nil => rfl
  | cons f fs ih =>
    cases fs with
    | nil => rfl
    | cons g fs => simpa [joinWith] using ih

/-- The values of a fragment do not show in its text. -/
theorem render_mask (style : PlaceholderStyle) (next : Nat) (f : Fragment) :
    render style next (mask f) = render style next f := by
  induction f generalizing next with
  | nil => rfl
  | cons p f ih => cases p <;> simp [render, ih]

theorem length_values_mask (f : Fragment) : (mask f).values.length = f.values.length := by
  induction f with
  | nil => rfl
  | cons p f ih => cases p <;> simpa [values] using ih

end Fragment

open Fragment (mask)

/-! ### Expressions that are written alike -/

/-- Two expressions have the same text up to their values. -/
def SameText (p p' : Predicate) : Prop :=
  ∀ engine, mask (p.fragment engine) = mask (p'.fragment engine)

/-- Two lists of expressions have the same texts. -/
def SameTexts (ps ps' : List Predicate) : Prop :=
  ∀ engine, (Predicate.fragments engine ps).map mask = (Predicate.fragments engine ps').map mask

theorem SameText.refl (p : Predicate) : SameText p p := fun _ => rfl

theorem sameTexts_nil : SameTexts [] [] := fun _ => rfl

theorem SameTexts.cons {p p' : Predicate} {ps ps' : List Predicate} (hp : SameText p p')
    (hps : SameTexts ps ps') : SameTexts (p :: ps) (p' :: ps') := by
  intro engine
  rw [Predicate.fragments, Predicate.fragments, List.map_cons, List.map_cons, hp engine, hps engine]

theorem SameTexts.both {ps ps' : List Predicate} (h : SameTexts ps ps') :
    SameText (.both ps) (.both ps') := by
  intro engine
  rw [Predicate.fragment, Predicate.fragment, Fragment.mask_joinWith, Fragment.mask_joinWith, h engine]

theorem SameTexts.either {ps ps' : List Predicate} (h : SameTexts ps ps') :
    SameText (.either ps) (.either ps') := by
  intro engine
  rw [Predicate.fragment, Predicate.fragment, Fragment.mask_joinWith, Fragment.mask_joinWith, h engine]

theorem SameText.grouped {p p' : Predicate} (h : SameText p p') :
    SameText (.grouped p) (.grouped p') := by
  intro engine
  simp [Predicate.fragment, h engine]

theorem SameTexts.conjunction {ps ps' : List Predicate} (h : SameTexts ps ps')
    (hlength : ps.length = ps'.length) : SameText (.conjunction ps) (.conjunction ps') := by
  cases ps with
  | nil =>
    rw [List.eq_nil_of_length_eq_zero hlength.symm]
    exact .refl _
  | cons p ps =>
    cases ps' with
    | nil => simp at hlength
    | cons p' ps' => exact h.both

theorem mask_membershipFragment (column : String) (negated : Bool) {vs vs' : List Value}
    (h : vs.length = vs'.length) :
    mask (Predicate.membershipFragment column negated vs) =
      mask (Predicate.membershipFragment column negated vs') := by
  have hslots : ∀ ws : List Value, (ws.map fun v => [Piece.slot v]).map mask =
      List.replicate ws.length [.slot .null] := by
    intro ws
    induction ws with
    | nil => rfl
    | cons w ws ih => rw [List.map_cons, List.map_cons, ih]; rfl
  simp only [Predicate.membershipFragment, Fragment.mask_text, Fragment.mask_append,
    Fragment.mask_joinWith, hslots, h]

theorem sameText_membership (column : String) (negated : Bool) {vs vs' : List Value}
    (h : vs.length = vs'.length) :
    SameText (.membership column negated vs) (.membership column negated vs') := by
  intro engine
  rw [Predicate.fragment, Predicate.fragment, mask_membershipFragment column negated h]

theorem sameText_compare (column : String) (op : Comparison) (v v' : Value) :
    SameText (.compare column op v) (.compare column op v') := by
  intro engine
  simp [Predicate.fragment]

theorem sameText_contains (column : String) {s s' : String} (ignoreCase : Bool)
    (h : Substring.needsEscape s = Substring.needsEscape s') :
    SameText (.contains column s ignoreCase) (.contains column s' ignoreCase) := by
  intro engine
  rw [Predicate.fragment, Predicate.fragment]
  unfold Predicate.containsFragment
  rw [Fragment.mask_append, Fragment.mask_append, h]
  cases engine <;> cases ignoreCase <;> rfl

theorem isEmpty_eq_present (xs : List Value) :
    xs.isEmpty = ((xs.filter fun v => !v.isNull).isEmpty && !xs.any Value.isNull) := by
  cases xs with
  | nil => rfl
  | cons x xs => cases hx : x.isNull <;> simp [hx]

theorem length_present_eq_iff (xs : List Value) :
    (xs.filter fun v => !v.isNull).length = xs.length ↔ xs.any Value.isNull = false := by
  rw [List.length_filter_eq_length_iff, List.any_eq_false]
  simp

theorem sameText_membershipTest (column : String) (negated : Bool) {xs xs' : List Value}
    (hpresent : (xs.filter fun v => !v.isNull).length = (xs'.filter fun v => !v.isNull).length)
    (hnull : xs.any Value.isNull = xs'.any Value.isNull) :
    SameText (membershipTest column negated xs) (membershipTest column negated xs') := by
  have hempty : (xs.filter fun v => !v.isNull).isEmpty = (xs'.filter fun v => !v.isNull).isEmpty := by
    rw [Bool.eq_iff_iff, List.isEmpty_iff_length_eq_zero, List.isEmpty_iff_length_eq_zero, hpresent]
  have hmember := fun n => sameText_membership column n hpresent
  have htest := fun isNull => SameTexts.cons (.refl (.nullTest column isNull)) sameTexts_nil
  unfold membershipTest
  simp only [isEmpty_eq_present xs, isEmpty_eq_present xs', length_present_eq_iff, hempty, hnull]
  split
  · exact .refl _
  split
  · exact .refl _
  split
  · exact hmember negated
  split
  · exact (SameTexts.cons (hmember true) (htest false)).both.grouped
  · exact (SameTexts.cons (hmember false) (htest true)).either.grouped

/-! ### Two runs -/

/-- Two outcomes agree: results of both are related, and under a condition one gives a result exactly if
the other does. -/
structure Agree {α ε : Type} (R : α → α → Prop) (total : Prop) (x y : Except ε α) : Prop where
  related : ∀ a b, x = .ok a → y = .ok b → R a b
  together : total → ((∃ a, x = .ok a) ↔ ∃ b, y = .ok b)

section Agree

variable {α β ε ε' : Type} {R : α → α → Prop} {S : β → β → Prop} {p q : Prop} {x y : Except ε α}

theorem Agree.pure {a b : α} (h : R a b) : Agree (ε := ε) R p (pure a) (pure b) where
  related c d hc hd := by rwa [← pure_eq_ok.1 hc, ← pure_eq_ok.1 hd]
  together _ := iff_of_true ⟨a, rfl⟩ ⟨b, rfl⟩

theorem Agree.throw {e e' : ε} :
    Agree R p (throw e : Except ε α) (throw e' : Except ε α) where
  related _ _ h _ := absurd h throw_ne_ok
  together _ := iff_of_false (fun ⟨_, h⟩ => throw_ne_ok h) fun ⟨_, h⟩ => throw_ne_ok h

theorem Agree.bind {f g : α → Except ε β} (h : Agree R p x y)
    (hfg : ∀ a b, R a b → Agree S q (f a) (g b)) : Agree S (p ∧ q) (x >>= f) (y >>= g) where
  related c d hc hd := by
    obtain ⟨a, ha, hc⟩ := bind_eq_ok.1 hc
    obtain ⟨b, hb, hd⟩ := bind_eq_ok.1 hd
    exact (hfg a b (h.related a b ha hb)).related c d hc hd
  together hpq := by
    constructor
    · rintro ⟨c, hc⟩
      obtain ⟨a, ha, hc⟩ := bind_eq_ok.1 hc
      obtain ⟨b, hb⟩ := (h.together hpq.1).1 ⟨a, ha⟩
      obtain ⟨d, hd⟩ := ((hfg a b (h.related a b ha hb)).together hpq.2).1 ⟨c, hc⟩
      exact ⟨d, bind_eq_ok.2 ⟨b, hb, hd⟩⟩
    · rintro ⟨d, hd⟩
      obtain ⟨b, hb, hd⟩ := bind_eq_ok.1 hd
      obtain ⟨a, ha⟩ := (h.together hpq.1).2 ⟨b, hb⟩
      obtain ⟨c, hc⟩ := ((hfg a b (h.related a b ha hb)).together hpq.2).2 ⟨d, hd⟩
      exact ⟨c, bind_eq_ok.2 ⟨a, ha, hc⟩⟩

theorem Agree.mapError {f f' : ε → ε'} (h : Agree R p x y) :
    Agree R p (x.mapError f) (y.mapError f') where
  related a b ha hb := h.related a b (mapError_eq_ok.1 ha) (mapError_eq_ok.1 hb)
  together hp := by simpa only [mapError_eq_ok] using h.together hp

theorem Agree.map {f : α → β} (h : Agree R p x y) (hf : ∀ a b, R a b → S (f a) (f b)) :
    Agree S p (x.map f) (y.map f) where
  related c d hc hd := by
    obtain ⟨a, ha, rfl⟩ := map_eq_ok.1 hc
    obtain ⟨b, hb, rfl⟩ := map_eq_ok.1 hd
    exact hf a b (h.related a b ha hb)
  together hp := by simpa [map_eq_ok] using h.together hp

theorem Agree.imp {q : Prop} (h : Agree R p x y) (hq : q → p) : Agree R q x y :=
  ⟨h.related, fun hq' => h.together (hq hq')⟩

theorem Agree.refl (x : Except ε α) : Agree (· = ·) p x x where
  related _ _ ha hb := Except.ok.inj (ha.symm.trans hb)
  together _ := Iff.rfl

end Agree

/-! ### Conditions, lists and groups -/

section Nodes

variable {d : SqlDialect} {l l' : Leaf}

theorem elements_of_formed (h : l.Formed) (hop : l.operator.isMembership = true) :
    l.value.elements = .ok l.candidateValues := by
  obtain ⟨options, operand, hasks⟩ := h.asks
  obtain ⟨xs, hxs⟩ := hasks.exists_eq_list hop
  unfold Leaf.candidateValues
  rw [hxs]
  rfl

theorem agree_comparisonTest (column : String) {op : Comparison} (hop : comparison? l.operator = some op)
    (hnull : l.value.isNull = l'.value.isNull) :
    Agree SameText True (comparisonTest column l op) (comparisonTest column l' op) := by
  unfold comparisonTest
  rw [hnull]
  by_cases h : l'.value.isNull = true
  · rw [if_pos h, if_pos h]
    cases op with
    | eq => exact .pure (.refl _)
    | ne => exact .pure (.refl _)
    | _ => exact .throw
  · rw [if_neg h, if_neg h]
    exact .pure (sameText_compare column op _ _)

theorem Tests.exists_contains {column : String} {p : Predicate} (h : Tests column l p)
    (hop : l.operator = .regex) :
    ∃ s, l.literal? = some s ∧ p = .contains column s l.ignoresCase := by
  cases h with
  | pattern _ hs => exact ⟨_, hs, rfl⟩
  | compare hcompare => simp [hop, comparison?] at hcompare
  | _ hother => simp [hop] at hother

theorem agree_patternTest (column : String) (h : l.Alike l') (hop : l.operator = .regex) :
    Agree SameText (l.operator ≠ .regex) (patternTest column l) (patternTest column l') where
  related p p' hp hp' := by
    obtain ⟨-, hop', h⟩ := h
    rw [hop] at h hop'
    obtain ⟨s, hs, rfl⟩ := (patternTest_eq_ok hop hp).exists_contains hop
    obtain ⟨s', hs', rfl⟩ := (patternTest_eq_ok hop'.symm hp').exists_contains hop'.symm
    rw [h.1]
    exact sameText_contains column _ (h.2 s s' hs hs')
  together hne := absurd hop hne

theorem agree_leafTest (h : l.Alike l') (hl : l.Formed) (hl' : l'.Formed) :
    Agree SameText (l.operator ≠ .regex) (leafTest d l) (leafTest d l') := by
  have halike := h
  obtain ⟨hfield, hop, h⟩ := h
  unfold leafTest
  rw [hfield, ← hop]
  refine (Agree.bind (Agree.refl (p := True) _) fun column _ hcolumn => ?_).imp fun h => ⟨trivial, h⟩
  subst hcolumn
  cases hcompare : comparison? l.operator with
  | some op =>
    have hnull : l.value.isNull = l'.value.isNull := by
      cases ho : l.operator <;> simp only [ho, comparison?, reduceCtorEq] at h hcompare <;> exact h
    exact (agree_comparisonTest column hcompare hnull).imp fun _ => trivial
  | none =>
    cases ho : l.operator with
    | «exists» =>
      simp only [ho] at h
      rw [h]
      exact .pure (.refl _)
    | isIn =>
      simp only [ho] at h
      rw [elements_of_formed hl (by rw [ho]; rfl), elements_of_formed hl' (by rw [← hop, ho]; rfl)]
      exact .pure (sameText_membershipTest column false h.1 h.2)
    | notIn =>
      simp only [ho] at h
      rw [elements_of_formed hl (by rw [ho]; rfl), elements_of_formed hl' (by rw [← hop, ho]; rfl)]
      exact .pure (sameText_membershipTest column true h.1 h.2)
    | regex =>
      have hpattern := agree_patternTest column halike ho
      rw [ho] at hpattern
      exact hpattern
    | other s => exact .throw
    | _ => simp [ho, comparison?] at hcompare

/-- The children of two groups are written alike: as many nodes, with the same text. -/
def SameParts (parts parts' : List (Nat × Predicate)) : Prop :=
  List.Forall₂ (fun part part' => part.1 = part'.1 ∧ SameText part.2 part'.2) parts parts'

theorem sameText_groupTest (c : Filter.Connective) {parts parts' : List (Nat × Predicate)}
    (h : SameParts parts parts') : SameText (groupTest c parts) (groupTest c parts') := by
  have hparts : SameTexts (parts.map groupPart) (parts'.map groupPart) := by
    induction h with
    | nil => exact sameTexts_nil
    | cons hpart _ ih =>
      refine .cons ?_ ih
      unfold groupPart
      rw [hpart.1]
      split
      · exact hpart.2.grouped
      · exact hpart.2
  cases h with
  | nil => exact .refl _
  | cons hpart hrest =>
    cases c with
    | and =>
      rw [groupTest_and, groupTest_and]
      exact hparts.both.grouped
    | or =>
      rw [groupTest_or, groupTest_or]
      exact hparts.either.grouped

theorem length_eq_of_nodesAlike {ns ns' : List Node} (h : NodesAlike ns ns') :
    ns.length = ns'.length := by
  induction ns generalizing ns' with
  | nil =>
    cases ns' with
    | nil => rfl
    | cons n' ns' => simp [NodesAlike] at h
  | cons n ns ih =>
    cases ns' with
    | nil => simp [NodesAlike] at h
    | cons n' ns' =>
      rw [NodesAlike] at h
      simp [ih h.2]

/-- No condition is a pattern. -/
def PatternFree (ls : List Leaf) : Prop :=
  ∀ l ∈ ls, l.operator ≠ .regex

mutual

theorem agree_nodeTest : (n n' : Node) → n.Alike n' → (∀ l ∈ n.leaves, l.Formed) →
    (∀ l ∈ n'.leaves, l.Formed) →
    Agree SameText (PatternFree n.leaves) (nodeTest d n) (nodeTest d n')
  | .leaf l, .leaf l', h, hl, hl' => by
    rw [Node.Alike] at h
    rw [Node.leaves, List.forall_mem_singleton] at hl hl'
    rw [nodeTest, nodeTest]
    exact (agree_leafTest h hl hl').mapError.imp fun hfree => hfree l (by simp [Node.leaves])
  | .group c children, .group c' children', h, hl, hl' => by
    rw [Node.Alike] at h
    obtain ⟨rfl, h⟩ := h
    rw [Node.leaves] at hl hl' ⊢
    rw [nodeTest, nodeTest]
    exact (agree_childTests children children' h hl hl').map fun _ _ => sameText_groupTest c
  | .leaf _, .group _ _, h, _, _ => by simp [Node.Alike] at h
  | .group _ _, .leaf _, h, _, _ => by simp [Node.Alike] at h

theorem agree_nodeTests : (ns ns' : List Node) → NodesAlike ns ns' →
    (∀ l ∈ leaves ns, l.Formed) → (∀ l ∈ leaves ns', l.Formed) →
    Agree (fun ps ps' => SameTexts ps ps' ∧ ps.length = ps'.length) (PatternFree (leaves ns))
      (nodeTests d ns) (nodeTests d ns')
  | [], [], _, _, _ => by
    rw [nodeTests]
    exact .pure ⟨sameTexts_nil, rfl⟩
  | n :: ns, n' :: ns', h, hl, hl' => by
    rw [NodesAlike] at h
    rw [leaves, List.forall_mem_append] at hl hl'
    have hn := agree_nodeTest n n' h.1 hl.1 hl'.1
    have hns := agree_nodeTests ns ns' h.2 hl.2 hl'.2
    rw [nodeTests, nodeTests]
    refine (hn.bind fun p p' hp => hns.mapError.bind (q := True) fun ps ps' hps => ?_).imp ?_
    · exact .pure ⟨.cons hp hps.1, by simp [hps.2]⟩
    · intro hfree
      rw [leaves, PatternFree, List.forall_mem_append] at hfree
      exact ⟨hfree.1, hfree.2, trivial⟩
  | [], _ :: _, h, _, _ => by simp [NodesAlike] at h
  | _ :: _, [], h, _, _ => by simp [NodesAlike] at h

theorem agree_childTests : (children children' : List (List Node)) →
    ChildrenAlike children children' → (∀ l ∈ leavesOfChildren children, l.Formed) →
    (∀ l ∈ leavesOfChildren children', l.Formed) →
    Agree SameParts (PatternFree (leavesOfChildren children)) (childTests d children)
      (childTests d children')
  | [], [], _, _, _ => by
    rw [childTests]
    exact .pure .nil
  | child :: children, child' :: children', h, hl, hl' => by
    rw [ChildrenAlike] at h
    rw [leavesOfChildren, List.forall_mem_append] at hl hl'
    have hchild := agree_nodeTests child child' h.1 hl.1 hl'.1
    have hrest := agree_childTests children children' h.2 hl.2 hl'.2
    have hlength := length_eq_of_nodesAlike h.1
    rw [childTests, childTests]
    refine (hchild.bind fun ps ps' hps => hrest.mapError.bind (q := True) fun parts parts' hparts =>
      ?_).imp ?_
    · exact .pure (.cons ⟨hlength, hps.1.conjunction hps.2⟩ hparts)
    · intro hfree
      rw [leavesOfChildren, PatternFree, List.forall_mem_append] at hfree
      exact ⟨hfree.1, hfree.2, trivial⟩
  | [], _ :: _, h, _, _ => by simp [ChildrenAlike] at h
  | _ :: _, [], h, _, _ => by simp [ChildrenAlike] at h

end

end Nodes

/-! ### Clauses -/

theorem clause_map_eq_ok {c : Compiler} {x : Except Refusal Predicate} {e : Engine} {text : String} :
    (c.clause (x.map (Predicate.fragment e))).1 = .ok text ↔
      ∃ p, x = .ok p ∧ (p.fragment e).render c.dialect.placeholders c.next = text := by
  cases x with
  | ok p => simp [Except.map, Compiler.clause, Compiler.write]
  | error r => simp [Except.map, Compiler.clause]

theorem Agree.clause {c : Compiler} {total : Prop} {x y : Except Refusal Predicate}
    (h : Agree SameText total x y) (e : Engine) :
    let answer := fun x : Except Refusal Predicate => c.clause (x.map (Predicate.fragment e))
    (∀ text text', (answer x).1 = .ok text → (answer y).1 = .ok text' →
      text = text' ∧ (answer x).2.parameters.length = (answer y).2.parameters.length) ∧
    (total → ((∃ text, (answer x).1 = .ok text) ↔ ∃ text, (answer y).1 = .ok text)) := by
  refine ⟨fun text text' htext htext' => ?_, fun htotal => ?_⟩
  · obtain ⟨p, rfl, rfl⟩ := clause_map_eq_ok.1 htext
    obtain ⟨p', rfl, rfl⟩ := clause_map_eq_ok.1 htext'
    have hmask : mask (p.fragment e) = mask (p'.fragment e) := h.related p p' rfl rfl e
    have hlength : (p.fragment e).values.length = (p'.fragment e).values.length := by
      rw [← Fragment.length_values_mask, hmask, Fragment.length_values_mask]
    constructor
    · rw [← Fragment.render_mask, hmask, Fragment.render_mask]
    · simp [Except.map, Compiler.clause, Compiler.write, Compiler.bind, hlength]
  · simpa [clause_map_eq_ok] using h.together htotal

/-- Two filters of one shape whose conditions are alike are compiled to one text with equally many
parameters, if both are compiled; without patterns both are or neither is. -/
theorem text_of_alike {limit limit' : Int} {filter filter' : Value} {nodes nodes' : List Node}
    (hread : Filter.readWithin limit filter = .ok nodes)
    (hread' : Filter.readWithin limit' filter' = .ok nodes') (halike : NodesAlike nodes nodes')
    (c : Compiler) :
    (∀ text text', (c.condition nodes).1 = .ok text → (c.condition nodes').1 = .ok text' →
      text = text' ∧
        (c.condition nodes).2.parameters.length = (c.condition nodes').2.parameters.length) ∧
    ((∀ l ∈ leaves nodes, l.operator ≠ .regex) →
      ((∃ text, (c.condition nodes).1 = .ok text) ↔ ∃ text, (c.condition nodes').1 = .ok text)) := by
  have h := agree_nodeTests (d := c.dialect) nodes nodes' halike
    (Filter.formed_of_readWithin hread) (Filter.formed_of_readWithin hread')
  exact (h.map fun ps ps' hps => hps.1.conjunction hps.2).clause c.dialect.engine

/-- A number and a text that looks like SQL, candidates in another order, and two literals that need an
escape. -/
theorem text_of_alike_of_hostile :
    let filter (a b c : Value) : Value := .map
      [(.str "a", a), (.str "$or", .list
        [.map [(.str "b", .map [(.str "$in", b)])], .map [(.str "c", .map [(.str "$regex", c)])]])]
    let nodes (a b c : Value) : List Node :=
      [.leaf { field := .plain "a", operator := .eq, value := a },
        .group .or [[.leaf { field := .plain "b", operator := .isIn, value := b }],
          [.leaf { field := .plain "c", operator := .regex, value := c }]]]
    let tame (f : Value → Value → Value → List Node) := f (.int 1) (.list [.int 2, .null]) (.str "5%")
    let hostile (f : Value → Value → Value → List Node) :=
      f (.str "' OR 1=1 --") (.list [.null, .str "$9"]) (.str "a_b")
    let c : Compiler := { dialect := { engine := .postgresql }, start := 3 }
    let text := "a = $3 AND ((b IN ($4) OR b IS NULL) OR c LIKE $5 ESCAPE E'\\\\')"
    Filter.readWithin 32 (filter (.int 1) (.list [.int 2, .null]) (.str "5%")) = .ok (tame nodes) ∧
      Filter.readWithin 32 (filter (.str "' OR 1=1 --") (.list [.null, .str "$9"]) (.str "a_b")) =
        .ok (hostile nodes) ∧
      NodesAlike (tame nodes) (hostile nodes) ∧ (c.condition (tame nodes)).1 = .ok text ∧
      (c.condition (hostile nodes)).1 = .ok text ∧
      (c.condition (tame nodes)).2.parameters.length =
        (c.condition (hostile nodes)).2.parameters.length := by
  intro filter nodes tame hostile c text
  have htame : Filter.readWithin 32 (filter (.int 1) (.list [.int 2, .null]) (.str "5%")) =
      .ok (tame nodes) := by
    with_unfolding_all rfl
  have hhostile : Filter.readWithin 32
      (filter (.str "' OR 1=1 --") (.list [.null, .str "$9"]) (.str "a_b")) = .ok (hostile nodes) := by
    with_unfolding_all rfl
  have hliterals : ∀ s s', (Substring.ofPattern "5%").toOption = some s →
      (Substring.ofPattern "a_b").toOption = some s' →
        Substring.needsEscape s = Substring.needsEscape s' := by
    intro s s' hs hs'
    have hpercent : (Substring.ofPattern "5%").toOption = some "5%" := by with_unfolding_all rfl
    have hunderscore : (Substring.ofPattern "a_b").toOption = some "a_b" := by with_unfolding_all rfl
    rw [← Option.some.inj (hpercent.symm.trans hs), ← Option.some.inj (hunderscore.symm.trans hs')]
    decide
  have halike : NodesAlike (tame nodes) (hostile nodes) :=
    ⟨⟨rfl, rfl, rfl⟩, ⟨rfl, ⟨⟨rfl, rfl, rfl, rfl⟩, trivial⟩,
      ⟨⟨rfl, rfl, rfl, hliterals⟩, trivial⟩, trivial⟩, trivial⟩
  have htext : (c.condition (tame nodes)).1 = .ok text := by with_unfolding_all rfl
  have htext' : (c.condition (hostile nodes)).1 = .ok text := by with_unfolding_all rfl
  have h := (text_of_alike htame hhostile halike c).1 text text htext htext'
  exact ⟨htame, hhostile, halike, htext, htext', h.2⟩

end Sql

end Polystore

import Polystore.Filter.Typing
import Polystore.Proofs.Sql.Alike

/-!
# Checking the types of a filter

A filter passes the check against a shape if each of its conditions does, wherever in its groups the
condition stands; what is refused is refused for the first condition that does not pass. So only the
conditions count, not the groups.

Main statement: `checkTypes_eq_ok_iff_passes`.
-/

namespace Polystore.Filter

/-! ### Conditions at any depth -/

/-- A condition stands in a list of nodes, or in a group of it at any depth. -/
inductive Stands (l : Leaf) : List Node → Prop where
  | here {nodes : List Node} (hmem : .leaf l ∈ nodes) : Stands l nodes
  | inside {nodes : List Node} {c : Connective} {children : List (List Node)} {child : List Node}
      (hgroup : .group c children ∈ nodes) (hchild : child ∈ children) (h : Stands l child) :
      Stands l nodes

theorem mem_leaves_iff {l : Leaf} {nodes : List Node} :
    l ∈ leaves nodes ↔ ∃ n ∈ nodes, l ∈ n.leaves := by
  induction nodes with
  | nil => simp [leaves]
  | cons n ns ih => rw [leaves, List.mem_append, ih, List.exists_mem_cons_iff]

theorem mem_leaves_of_stands {l : Leaf} {nodes : List Node} (h : Stands l nodes) :
    l ∈ leaves nodes := by
  induction h with
  | here hmem => exact mem_leaves_iff.2 ⟨_, hmem, by rw [Node.leaves]; exact List.mem_singleton_self l⟩
  | inside hgroup hchild _ ih =>
    refine mem_leaves_iff.2 ⟨_, hgroup, ?_⟩
    rw [Node.leaves, leavesOfChildren_eq_flatMap]
    exact List.mem_flatMap_of_mem hchild ih

theorem Stands.mono {l : Leaf} {nodes more : List Node} (h : Stands l nodes) (hsub : nodes ⊆ more) :
    Stands l more := by
  cases h with
  | here hmem => exact .here (hsub hmem)
  | inside hgroup hchild h => exact .inside (hsub hgroup) hchild h

mutual

theorem stands_of_mem_node {l : Leaf} : (n : Node) → l ∈ n.leaves → Stands l [n]
  | .leaf k, h => by
    rw [Node.leaves, List.mem_singleton] at h
    exact h ▸ .here (List.mem_singleton_self _)
  | .group c children, h => by
    rw [Node.leaves] at h
    obtain ⟨child, hchild, hstands⟩ := stands_of_mem_children children h
    exact .inside (List.mem_singleton_self _) hchild hstands

theorem stands_of_mem_leaves {l : Leaf} : (nodes : List Node) → l ∈ leaves nodes → Stands l nodes
  | [], h => by
    rw [leaves] at h
    exact absurd h List.not_mem_nil
  | n :: ns, h => by
    rw [leaves, List.mem_append] at h
    rcases h with h | h
    · exact (stands_of_mem_node n h).mono (by simp)
    · exact (stands_of_mem_leaves ns h).mono (List.subset_cons_self n ns)

theorem stands_of_mem_children {l : Leaf} : (children : List (List Node)) →
    l ∈ leavesOfChildren children → ∃ child ∈ children, Stands l child
  | [], h => by
    rw [leavesOfChildren] at h
    exact absurd h List.not_mem_nil
  | c :: cs, h => by
    rw [leavesOfChildren, List.mem_append] at h
    rcases h with h | h
    · exact ⟨c, List.mem_cons_self, stands_of_mem_leaves c h⟩
    · obtain ⟨child, hchild, hstands⟩ := stands_of_mem_children cs h
      exact ⟨child, List.mem_cons_of_mem c hchild, hstands⟩

end

theorem stands_iff {l : Leaf} {nodes : List Node} : Stands l nodes ↔ l ∈ leaves nodes :=
  ⟨mem_leaves_of_stands, stands_of_mem_leaves nodes⟩

/-! ### One condition -/

/-- The values that are compared with a field: the candidates of a membership, or the operand. -/
def Leaf.compared (l : Leaf) : List Value :=
  if l.operator.isMembership then l.candidateValues else [l.value]

/-- What it takes for a condition to pass: its field is not declared, and then is the primary key if the
check is strict; or the field is a path into a declared one; or the operator says nothing about the
type; or every value fits the declared type. -/
inductive Leaf.Passes (shape : TableShape) (strict : Bool) (l : Leaf) : Prop where
  | undeclared (hfield : shape.find? (rootOf l.field.text) = none)
      (hkey : strict = true → rootOf l.field.text = shape.primaryKey)
  | path {f : Field} (hfield : shape.find? (rootOf l.field.text) = some f)
      (hdot : '.' ∈ l.field.text.toList)
  | untyped {f : Field} (hfield : shape.find? (rootOf l.field.text) = some f)
      (hop : l.operator = .regex ∨ l.operator = .exists)
  | fits {f : Field} (hfield : shape.find? (rootOf l.field.text) = some f)
      (hfits : ∀ v ∈ l.compared, f.type.accepts v = true)

/-- Why a condition does not pass: a strict check does not know its field, or one of its values is the
first that does not fit. -/
inductive Leaf.Refused (shape : TableShape) (strict : Bool) (l : Leaf) : Error → Prop where
  | undeclared (hfield : shape.find? (rootOf l.field.text) = none) (hstrict : strict = true)
      (hkey : rootOf l.field.text ≠ shape.primaryKey) :
      Refused shape strict l (.schema (.undeclaredField l.field shape.name))
  | mismatch {f : Field} {before after : List Value} {v : Value}
      (hfield : shape.find? (rootOf l.field.text) = some f) (hdot : '.' ∉ l.field.text.toList)
      (hop : ¬(l.operator = .regex ∨ l.operator = .exists))
      (hvalues : l.compared = before ++ v :: after) (hbefore : ∀ x ∈ before, f.type.accepts x = true)
      (hmisfit : f.type.accepts v = false) :
      Refused shape strict l (.showing [v] (.filter (.typeMismatch v l.field f.type)))

theorem rootOf_eq_iff {field : String} : rootOf field = field ↔ '.' ∉ field.toList := by
  rw [rootOf, ← String.toList_inj, String.toList_ofList, List.takeWhile_eq_self_iff]
  constructor
  · intro h hdot
    exact absurd (h _ hdot) (by decide)
  · intro h c hc
    rw [bne_iff_ne]
    rintro rfl
    exact h hc

theorem candidates_eq_compared {l : Leaf} (h : l.Formed) : l.candidates = .ok l.compared := by
  unfold Leaf.candidates Leaf.compared
  by_cases hop : l.operator.isMembership = true
  · rw [if_pos hop, if_pos hop, Sql.elements_of_formed h hop]
  · rw [if_neg hop, if_neg hop]
    rfl

theorem checkValues_eq_ok_iff {field : Name} {type : FieldType} {values : List Value} :
    checkValues field type values = .ok () ↔ ∀ v ∈ values, type.accepts v = true := by
  unfold checkValues
  cases hfind : values.find? fun v => !type.accepts v with
  | none =>
    refine iff_of_true rfl fun v hv => ?_
    simpa using List.find?_eq_none.1 hfind v hv
  | some v =>
    refine iff_of_false throw_ne_ok fun hall => ?_
    obtain ⟨hmisfit, -⟩ := List.find?_eq_some_iff_append.1 hfind
    rw [hall v (List.mem_of_find?_eq_some hfind)] at hmisfit
    exact Bool.false_ne_true hmisfit

theorem checkValues_eq_error_iff {field : Name} {type : FieldType} {values : List Value} {e : Error} :
    checkValues field type values = .error e ↔
      ∃ before v after, values = before ++ v :: after ∧ (∀ x ∈ before, type.accepts x = true) ∧
        type.accepts v = false ∧ e = .showing [v] (.filter (.typeMismatch v field type)) := by
  unfold checkValues
  cases hfind : values.find? fun v => !type.accepts v with
  | none =>
    refine iff_of_false (fun h => absurd h (by simp [pure, Except.pure])) ?_
    rintro ⟨before, v, after, rfl, -, hmisfit, -⟩
    have haccepts := List.find?_eq_none.1 hfind v (List.mem_append_right _ List.mem_cons_self)
    rw [hmisfit] at haccepts
    exact haccepts rfl
  | some v =>
    constructor
    · intro h
      obtain ⟨hmisfit, before, after, hvalues, hbefore⟩ := List.find?_eq_some_iff_append.1 hfind
      exact ⟨before, v, after, hvalues, by simpa using hbefore, by simpa using hmisfit,
        (Except.error.inj h).symm⟩
    · rintro ⟨before, w, after, hvalues, hbefore, hmisfit, rfl⟩
      have hfirst : values.find? (fun v => !type.accepts v) = some w :=
        List.find?_eq_some_iff_append.2
          ⟨by simpa using hmisfit, before, after, hvalues, by simpa using hbefore⟩
      rw [hfind] at hfirst
      rw [Option.some.inj hfirst]
      rfl

theorem checkLeaf_of_undeclared {l : Leaf} {shape : TableShape}
    (hfield : shape.find? (rootOf l.field.text) = none) (strict : Bool) :
    checkLeaf shape strict l =
      if strict && rootOf l.field.text != shape.primaryKey then
        throw (.schema (.undeclaredField l.field shape.name))
      else pure () := by
  simp only [checkLeaf, hfield]

theorem checkLeaf_of_declared {l : Leaf} (h : l.Formed) {shape : TableShape} {f : Field}
    (hfield : shape.find? (rootOf l.field.text) = some f) (strict : Bool) :
    checkLeaf shape strict l =
      if '.' ∈ l.field.text.toList ∨ l.operator = .regex ∨ l.operator = .exists then pure ()
      else checkValues l.field f.type l.compared := by
  have hskipped : (rootOf l.field.text != l.field.text || l.operator == .regex ||
      l.operator == .exists) = true ↔
        '.' ∈ l.field.text.toList ∨ l.operator = .regex ∨ l.operator = .exists := by
    rw [Bool.or_eq_true, Bool.or_eq_true, bne_iff_ne, beq_iff_eq, beq_iff_eq, or_assoc, ne_eq,
      rootOf_eq_iff, not_not]
  have hchecked : l.candidates >>= checkValues l.field f.type =
      checkValues l.field f.type l.compared := by
    rw [candidates_eq_compared h]
    rfl
  simp only [checkLeaf, hfield, hskipped, hchecked]

theorem checkLeaf_eq_ok_iff {l : Leaf} (h : l.Formed) {shape : TableShape} {strict : Bool} :
    checkLeaf shape strict l = .ok () ↔ l.Passes shape strict := by
  cases hfield : shape.find? (rootOf l.field.text) with
  | none =>
    rw [checkLeaf_of_undeclared hfield]
    constructor
    · intro hok
      refine .undeclared hfield fun hstrict => ?_
      by_contra hkey
      rw [if_pos (by simp [hstrict, hkey])] at hok
      exact throw_ne_ok hok
    · rintro (⟨-, hkey⟩ | ⟨hfield', -⟩ | ⟨hfield', -⟩ | ⟨hfield', -⟩)
      · exact if_neg (by simpa using hkey)
      all_goals exact absurd (hfield.symm.trans hfield') (by simp)
  | some f =>
    rw [checkLeaf_of_declared h hfield]
    constructor
    · intro hok
      by_cases hskipped : '.' ∈ l.field.text.toList ∨ l.operator = .regex ∨ l.operator = .exists
      · exact hskipped.elim (.path hfield) (.untyped hfield)
      · rw [if_neg hskipped] at hok
        exact .fits hfield (checkValues_eq_ok_iff.1 hok)
    · rintro (⟨hfield', -⟩ | ⟨-, hdot⟩ | ⟨-, hop⟩ | ⟨hfield', hfits⟩)
      · exact absurd (hfield.symm.trans hfield') (by simp)
      · exact if_pos (.inl hdot)
      · exact if_pos (.inr hop)
      · cases Option.some.inj (hfield.symm.trans hfield')
        rw [checkValues_eq_ok_iff.2 hfits]
        exact ite_self _

theorem checkLeaf_eq_error_iff {l : Leaf} (h : l.Formed) {shape : TableShape} {strict : Bool}
    {e : Error} : checkLeaf shape strict l = .error e ↔ l.Refused shape strict e := by
  cases hfield : shape.find? (rootOf l.field.text) with
  | none =>
    rw [checkLeaf_of_undeclared hfield]
    constructor
    · intro herror
      split at herror
      · rename_i hrefused
        obtain ⟨hstrict, hkey⟩ := Bool.and_eq_true_iff.1 hrefused
        rw [← Except.error.inj herror]
        exact .undeclared hfield hstrict (bne_iff_ne.1 hkey)
      · exact absurd herror (by simp [pure, Except.pure])
    · rintro (⟨-, hstrict, hkey⟩ | ⟨hfield', -⟩)
      · exact if_pos (by simp [hstrict, hkey])
      · exact absurd (hfield.symm.trans hfield') (by simp)
  | some f =>
    rw [checkLeaf_of_declared h hfield]
    constructor
    · intro herror
      split at herror
      · exact absurd herror (by simp [pure, Except.pure])
      · rename_i hchecked
        obtain ⟨hdot, hop⟩ := not_or.1 hchecked
        obtain ⟨before, v, after, hvalues, hbefore, hmisfit, rfl⟩ := checkValues_eq_error_iff.1 herror
        exact .mismatch hfield hdot hop hvalues hbefore hmisfit
    · rintro (⟨hfield', -⟩ | ⟨hfield', hdot, hop, hvalues, hbefore, hmisfit⟩)
      · exact absurd (hfield.symm.trans hfield') (by simp)
      · cases Option.some.inj (hfield.symm.trans hfield')
        rw [if_neg (not_or.2 ⟨hdot, hop⟩)]
        exact checkValues_eq_error_iff.2 ⟨_, _, _, hvalues, hbefore, hmisfit, rfl⟩

theorem Leaf.Passes.of_strict {l : Leaf} {shape : TableShape} (h : l.Passes shape true) :
    l.Passes shape false := by
  cases h with
  | undeclared hfield => exact .undeclared hfield (by simp)
  | path hfield hdot => exact .path hfield hdot
  | untyped hfield hop => exact .untyped hfield hop
  | fits hfield hfits => exact .fits hfield hfits

/-! ### All conditions -/

section Lists

variable {shape : TableShape} {strict : Bool}

theorem checkLeaves_eq_ok_iff {ls : List Leaf} (h : ∀ l ∈ ls, l.Formed) :
    checkLeaves shape strict ls = .ok () ↔ ∀ l ∈ ls, l.Passes shape strict := by
  induction ls with
  | nil => exact iff_of_true rfl (List.forall_mem_nil _)
  | cons l ls ih =>
    obtain ⟨hl, h⟩ := List.forall_mem_cons.1 h
    rw [checkLeaves, bind_eq_ok, List.forall_mem_cons, ← checkLeaf_eq_ok_iff hl, ← ih h]
    exact ⟨fun ⟨_, hfirst, hrest⟩ => ⟨hfirst, hrest⟩, fun ⟨hfirst, hrest⟩ => ⟨(), hfirst, hrest⟩⟩

theorem checkLeaves_eq_error_iff {ls : List Leaf} (h : ∀ l ∈ ls, l.Formed) {e : Error} :
    checkLeaves shape strict ls = .error e ↔
      ∃ before l after, ls = before ++ l :: after ∧ (∀ k ∈ before, k.Passes shape strict) ∧
        l.Refused shape strict e := by
  induction ls with
  | nil =>
    refine iff_of_false (fun herror => absurd herror (by simp [checkLeaves, pure, Except.pure])) ?_
    rintro ⟨before, l, after, heq, -⟩
    exact absurd heq (by simp)
  | cons l ls ih =>
    obtain ⟨hl, h⟩ := List.forall_mem_cons.1 h
    rw [checkLeaves]
    cases hfirst : checkLeaf shape strict l with
    | error e' =>
      have hrefused := (checkLeaf_eq_error_iff hl).1 hfirst
      constructor
      · intro herror
        cases herror
        exact ⟨[], l, ls, rfl, List.forall_mem_nil _, hrefused⟩
      · rintro ⟨before, k, after, heq, hbefore, hk⟩
        cases before with
        | nil =>
          obtain ⟨rfl, -⟩ := List.cons.inj heq
          cases hfirst.symm.trans ((checkLeaf_eq_error_iff hl).2 hk)
          rfl
        | cons b bs =>
          obtain ⟨rfl, -⟩ := List.cons.inj heq
          have hok := (checkLeaf_eq_ok_iff hl).2 (hbefore l List.mem_cons_self)
          exact absurd (hfirst.symm.trans hok) (by simp)
    | ok u =>
      have hpasses : l.Passes shape strict := (checkLeaf_eq_ok_iff hl).1 hfirst
      refine (ih h).trans ⟨?_, ?_⟩
      · rintro ⟨before, k, after, rfl, hbefore, hk⟩
        exact ⟨l :: before, k, after, rfl, List.forall_mem_cons.2 ⟨hpasses, hbefore⟩, hk⟩
      · rintro ⟨before, k, after, heq, hbefore, hk⟩
        cases before with
        | nil =>
          obtain ⟨rfl, -⟩ := List.cons.inj heq
          have herror := (checkLeaf_eq_error_iff hl).2 hk
          exact absurd (hfirst.symm.trans herror) (by simp)
        | cons b bs =>
          obtain ⟨-, rfl⟩ := List.cons.inj heq
          exact ⟨bs, k, after, rfl, (List.forall_mem_cons.1 hbefore).2, hk⟩

end Lists

/-- The check of a filter that was read passes exactly if every condition at any depth passes, and
otherwise ends with the error of the first one that does not. So filters with the same conditions pass
alike, however these are grouped, and what passes a strict check passes the other one. -/
theorem checkTypes_eq_ok_iff_passes {limit : Int} {filter : Value} {nodes : List Node}
    (hread : readWithin limit filter = .ok nodes) (shape : TableShape) (strict : Bool) :
    (checkTypes shape strict nodes = .ok () ↔ ∀ l, Stands l nodes → l.Passes shape strict) ∧
    (∀ e, checkTypes shape strict nodes = .error e ↔
      ∃ before l after, leaves nodes = before ++ l :: after ∧ (∀ k ∈ before, k.Passes shape strict) ∧
        l.Refused shape strict e) ∧
    (∀ limit' filter' nodes', readWithin limit' filter' = .ok nodes' →
      (∀ l, Stands l nodes' ↔ Stands l nodes) →
      (checkTypes shape strict nodes' = .ok () ↔ checkTypes shape strict nodes = .ok ())) ∧
    (checkTypes shape true nodes = .ok () → checkTypes shape false nodes = .ok ()) := by
  have hpasses : ∀ {limit filter nodes}, readWithin limit filter = .ok nodes → ∀ strict,
      (checkTypes shape strict nodes = .ok () ↔ ∀ l, Stands l nodes → l.Passes shape strict) := by
    intro limit filter nodes hread strict
    simp only [stands_iff]
    exact checkLeaves_eq_ok_iff (formed_of_readWithin hread)
  refine ⟨hpasses hread strict, fun e => checkLeaves_eq_error_iff (formed_of_readWithin hread),
    fun limit' filter' nodes' hread' hsame => ?_, fun hstrict => ?_⟩
  · rw [hpasses hread', hpasses hread]
    simp only [hsame]
  · rw [hpasses hread] at hstrict ⊢
    exact fun l hl => (hstrict l hl).of_strict

/-- A shape with a number that is called `age`. -/
def people : TableShape where
  name := "people"
  fields := [("age", { type := .number })]

/-- An alternative within an alternative asks for an age that is a text. -/
def nestedMisfit : Value :=
  .map [(.str "$or", .list [
    .map [(.str "nick", .str "x")],
    .map [(.str "$and", .list [
      .map [(.str "age.unit", .str "years")],
      .map [(.str "age", .map [(.str "$in", .list [.int 1, .str "two"])])]])]])]

/-- The condition on the age. -/
def misfit : Leaf where
  field := .plain "age"
  operator := .isIn
  value := .list [.int 1, .str "two"]

theorem refused_misfit : misfit.Refused people false
    (.filter (.typeMismatch (.str "two") (.plain "age") .number)) :=
  @Leaf.Refused.mismatch people false misfit { type := .number } [.int 1] [] (.str "two") rfl
    (by decide) (by decide) rfl (List.forall_mem_singleton.2 rfl) rfl

theorem checkTypes_eq_ok_iff_passes_of_nested : ∃ nodes,
    readWithin 32 nestedMisfit = .ok nodes ∧
      checkTypes people false nodes =
        .error (.filter (.typeMismatch (.str "two") (.plain "age") .number)) ∧
      checkTypes people true nodes =
        .error (.schema (.undeclaredField (.plain "nick") "people")) := by
  have hread : ∃ nodes, readWithin 32 nestedMisfit = .ok nodes ∧ leaves nodes = [
      { field := .plain "nick", operator := .eq, value := .str "x" },
      { field := .plain "age.unit", operator := .eq, value := .str "years" }, misfit] :=
    ⟨_, by with_unfolding_all rfl, by with_unfolding_all rfl⟩
  obtain ⟨nodes, hread, hleaves⟩ := hread
  obtain ⟨-, herror, -⟩ := checkTypes_eq_ok_iff_passes hread people false
  obtain ⟨-, herror', -⟩ := checkTypes_eq_ok_iff_passes hread people true
  refine ⟨nodes, hread, (herror _).2 ⟨[_, _], misfit, [], hleaves, ?_, refused_misfit⟩,
    (herror' _).2 ⟨[], _, _, hleaves, List.forall_mem_nil _, .undeclared rfl rfl (by decide)⟩⟩
  exact List.forall_mem_cons.2 ⟨.undeclared rfl (by simp),
    List.forall_mem_singleton.2 (.path rfl (by decide))⟩

end Polystore.Filter

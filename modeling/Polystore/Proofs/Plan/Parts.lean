import Polystore.Proofs.Outcome
import Polystore.Proofs.Plan.Effect
import Polystore.Proofs.Plan.Index

/-!
# The parts of a plan

A plan makes the table or adds its columns, and then creates indexes.

Main statement: `changes_eq_ok_iff`.
-/

namespace Polystore.Plan

variable {shape : TableShape} {existing : ExistingTable} {limit : Int} {options : SyncOptions}
  {dialect : Dialect} {plan : List Change} {c : Change}

/-- The changes of a plan before its indexes, unless it is forced. -/
def tableChanges (shape : TableShape) (existing : ExistingTable) (alter : Bool) : List Change :=
  if existing.present then if alter then columnChanges shape existing else [] else [.createTable shape]

theorem changes_eq_ok_iff : changes shape existing options dialect = .ok plan ↔
    checkNames shape dialect = .ok () ∧
      (if options.force then .recreateTable shape :: indexChanges shape .absent (nameLimit dialect)
      else tableChanges shape existing options.alter ++
        indexChanges shape existing (nameLimit dialect)) = plan := by
  have hrest : changes shape existing options dialect = (do
      checkNames shape dialect
      pure (if options.force then .recreateTable shape :: indexChanges shape .absent (nameLimit dialect)
        else tableChanges shape existing options.alter ++
          indexChanges shape existing (nameLimit dialect))) := by
    unfold changes tableChanges
    cases options.force <;> cases existing.present <;> rfl
  rw [hrest, bind_eq_ok]
  constructor
  · rintro ⟨_, hnames, hplan⟩
    exact ⟨hnames, pure_eq_ok.1 hplan⟩
  · rintro ⟨hnames, hplan⟩
    exact ⟨(), hnames, pure_eq_ok.2 hplan⟩

theorem mem_columnChanges_iff : c ∈ columnChanges shape existing ↔ ∃ name f,
    (name, f) ∈ shape.fields ∧ existing.hasColumn name = false ∧ .addColumn name f = c := by
  simp only [columnChanges, List.mem_map, List.mem_filter, Bool.not_eq_true', Prod.exists, and_assoc]

theorem makesTable_of_mem_columnChanges (h : c ∈ columnChanges shape existing) :
    c.makesTable = false := by
  obtain ⟨name, f, -, -, rfl⟩ := mem_columnChanges_iff.1 h
  rfl

theorem makesTable_of_mem_tableChanges {alter : Bool} (hpresent : existing.present = true)
    (h : c ∈ tableChanges shape existing alter) : c.makesTable = false := by
  rw [tableChanges, if_pos hpresent] at h
  split at h
  · exact makesTable_of_mem_columnChanges h
  · exact absurd h List.not_mem_nil

theorem of_mem_tableChanges {alter : Bool} (h : c ∈ tableChanges shape existing alter) :
    c.isIndex = false ∧ c.indexName? = none ∧ ∀ s, c ≠ .recreateTable s := by
  unfold tableChanges at h
  split at h
  · split at h
    · obtain ⟨name, f, -, -, rfl⟩ := mem_columnChanges_iff.1 h
      exact ⟨rfl, rfl, fun _ => Change.noConfusion⟩
    · exact absurd h List.not_mem_nil
  · rw [List.mem_singleton.1 h]
    exact ⟨rfl, rfl, fun _ => Change.noConfusion⟩

theorem of_mem_indexChanges (h : c ∈ indexChanges shape existing limit) :
    c.isIndex = true ∧ c.makesTable = false ∧ ∀ s, c ≠ .recreateTable s := by
  obtain ⟨w, -, -, rfl⟩ := mem_indexChanges_iff.1 h
  exact ⟨rfl, rfl, fun _ => Change.noConfusion⟩

theorem isIndex_of_mem_after {before after : List Change} {index : Change}
    (h : changes shape existing options dialect = .ok (before ++ index :: after))
    (hindex : index.isIndex = true) : ∀ c ∈ after, c.isIndex = true := by
  obtain ⟨-, hparts⟩ := changes_eq_ok_iff.1 h
  -- What the plan begins with is no index, so the index and what follows it are among the indexes.
  have hlast : ∀ head tail : List Change, head ++ tail = before ++ index :: after →
      (∀ c ∈ head, c.isIndex = false) → (∀ c ∈ tail, c.isIndex = true) →
      ∀ c ∈ after, c.isIndex = true := by
    intro head tail hsplit hhead htail c hc
    rcases List.append_eq_append_iff.1 hsplit with ⟨mid, rfl, rfl⟩ | ⟨mid, rfl, hmid⟩
    · exact htail c (List.mem_append_right _ (List.mem_cons_of_mem _ hc))
    · cases mid with
      | nil =>
        rw [List.nil_append] at hmid
        exact htail c (hmid ▸ List.mem_cons_of_mem index hc)
      | cons first mid =>
        obtain ⟨rfl, rfl⟩ := List.cons.inj hmid
        have hfalse := hhead index (List.mem_append_right _ List.mem_cons_self)
        rw [hindex] at hfalse
        cases hfalse
  split at hparts
  · exact hlast [.recreateTable shape] _ hparts (List.forall_mem_singleton.2 rfl)
      fun c hc => (of_mem_indexChanges hc).1
  · exact hlast _ _ hparts (fun c hc => (of_mem_tableChanges hc).1) fun c hc => (of_mem_indexChanges hc).1

end Polystore.Plan

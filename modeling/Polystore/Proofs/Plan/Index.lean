import Mathlib
import Polystore.Plan

/-!
# Planned indexes

The indexes that a shape asks for share one space of names, and a plan creates the first one of each name.

Main statements: `keepsIndexes_iff` says when nothing that a shape declares is lost by that, and
`not_keepsIndexes` shows a unique index that is lost to a plain one over the same field.
-/

namespace Polystore.Plan

variable {shape : TableShape} {existing : ExistingTable} {limit : Int}

/-! ### The first of each name -/

/-- The indexes that a shape asks for, those over single fields first. -/
def wanted (shape : TableShape) (limit : Int) : List Wanted :=
  fieldIndexes shape limit ++ tableIndexes shape limit

/-- The change that creates an index. -/
def Wanted.change (w : Wanted) : Change :=
  .createIndex w.name w.fields w.unique

/-- The first of some indexes that has its name. -/
def Leads (ws : List Wanted) (w : Wanted) : Prop :=
  ws.find? (fun v => v.name == w.name) = some w

theorem Leads.mem {ws : List Wanted} {w : Wanted} (h : Leads ws w) : w ∈ ws :=
  List.mem_of_find?_eq_some h

theorem exists_leads {ws : List Wanted} {w : Wanted} (h : w ∈ ws) :
    ∃ v, Leads ws v ∧ v.name = w.name := by
  have hsome : (ws.find? fun v => v.name == w.name).isSome := List.find?_isSome.2 ⟨w, h, by simp⟩
  obtain ⟨v, hv⟩ := Option.isSome_iff_exists.1 hsome
  have hname : v.name = w.name := by simpa using List.find?_some hv
  refine ⟨v, ?_, hname⟩
  rw [Leads, hname]
  exact hv

theorem leads_cons {ws : List Wanted} {v w : Wanted} :
    Leads (v :: ws) w ↔ v = w ∨ v.name ≠ w.name ∧ Leads ws w := by
  unfold Leads
  by_cases h : v.name = w.name
  · rw [List.find?_cons_of_pos (by simpa using h)]
    simp [h]
  · rw [List.find?_cons_of_neg (by simpa using h)]
    have hne : v ≠ w := by
      rintro rfl
      exact h rfl
    simp [h, hne]

/-- Of some indexes those are created whose name neither has been seen nor is there, and of each name the
first. -/
theorem mem_missing_iff {seen : List String} {ws : List Wanted} {change : Change} :
    change ∈ missing existing seen ws ↔ ∃ w, Leads ws w ∧ w.name ∉ seen ∧
      existing.hasIndex w.name = false ∧ change = w.change := by
  induction ws generalizing seen with
  | nil =>
    simp only [missing, List.not_mem_nil, false_iff, not_exists]
    exact fun w h => absurd h.1.mem List.not_mem_nil
  | cons v ws ih =>
    rw [missing]
    by_cases hskip : (seen.contains v.name || existing.hasIndex v.name) = true
    · rw [if_pos hskip, ih]
      rw [Bool.or_eq_true, List.contains_iff_mem] at hskip
      refine exists_congr fun w => ?_
      rw [leads_cons]
      constructor
      · rintro ⟨hlead, hseen, hthere, rfl⟩
        refine ⟨.inr ⟨fun hname => ?_, hlead⟩, hseen, hthere, rfl⟩
        rw [hname, hthere] at hskip
        exact hskip.elim hseen Bool.false_ne_true
      · rintro ⟨rfl | ⟨-, hlead⟩, hseen, hthere, rfl⟩
        · rw [hthere] at hskip
          exact absurd (hskip.resolve_left hseen) Bool.false_ne_true
        · exact ⟨hlead, hseen, hthere, rfl⟩
    · rw [if_neg hskip, List.mem_cons, ih]
      rw [Bool.or_eq_true, List.contains_iff_mem, not_or, Bool.not_eq_true] at hskip
      constructor
      · rintro (rfl | ⟨w, hlead, hseen, hthere, rfl⟩)
        · exact ⟨v, leads_cons.2 (.inl rfl), hskip.1, hskip.2, rfl⟩
        · obtain ⟨hname, hseen⟩ := not_or.1 (mt List.mem_cons.2 hseen)
          exact ⟨w, leads_cons.2 (.inr ⟨fun h => hname h.symm, hlead⟩), hseen, hthere, rfl⟩
      · rintro ⟨w, hlead, hseen, hthere, rfl⟩
        rcases leads_cons.1 hlead with rfl | ⟨hname, hlead⟩
        · exact .inl rfl
        · refine .inr ⟨w, hlead, fun hmem => ?_, hthere, rfl⟩
          exact (List.mem_cons.1 hmem).elim (fun h => hname h.symm) hseen

theorem mem_indexChanges_iff {change : Change} :
    change ∈ indexChanges shape existing limit ↔ ∃ w, Leads (wanted shape limit) w ∧
      existing.hasIndex w.name = false ∧ change = w.change := by
  rw [indexChanges, mem_missing_iff]
  exact exists_congr fun w => and_congr_right fun _ => by simp

/-! ### Declared indexes -/

/-- A plan creates an index for every field that is unique or indexed, and every index of the table,
unique where it has to be. -/
structure KeepsIndexes (shape : TableShape) (plan : List Change) : Prop where
  fields : ∀ name f, (name, f) ∈ shape.fields → name ≠ shape.primaryKey →
    f.unique.truthy = true ∨ f.indexed.truthy = true →
    ∃ index direction unique, .createIndex index [(name, direction)] unique ∈ plan ∧
      (f.unique.truthy = true → unique.truthy = true)
  indexes : ∀ i ∈ shape.indexes, ∃ index unique, .createIndex index i.fields unique ∈ plan ∧
    (i.unique.truthy = true → unique.truthy = true)

theorem mem_fieldIndexes_iff {w : Wanted} :
    w ∈ fieldIndexes shape limit ↔ ∃ name f, (name, f) ∈ shape.fields ∧ name ≠ shape.primaryKey ∧
      (f.unique.truthy = true ∨ f.indexed.truthy = true) ∧
      ⟨IndexName.generate shape.name [name] limit, [(name, 1)], f.unique⟩ = w := by
  simp only [fieldIndexes, List.mem_map, List.mem_filter, Bool.and_eq_true, bne_iff_ne,
    Bool.or_eq_true, Prod.exists, and_assoc]

theorem mem_tableIndexes_iff {w : Wanted} :
    w ∈ tableIndexes shape limit ↔ ∃ i ∈ shape.indexes,
      ⟨indexName shape.name i limit, i.fields, i.unique⟩ = w :=
  List.mem_map

theorem indexName_of_unnamed {i : Index} (h : i.name.getD "" = "") (table : String)
    (limit : Int) : indexName table i limit = IndexName.generate table i.fieldNames limit := by
  unfold indexName
  cases hname : i.name with
  | none => rfl
  | some n =>
    rw [hname] at h
    exact if_pos h

/-- The plan of an absent table creates the first index of each name and no other. So nothing that the
shape declares is lost exactly if, for whatever is asked for, the first index of its own or of another name
is over the same fields and as unique; and every name that is asked for is created. -/
theorem keepsIndexes_iff (shape : TableShape) (limit : Int) :
    (KeepsIndexes shape (indexChanges shape .absent limit) ↔
      (∀ w ∈ fieldIndexes shape limit, ∃ v, Leads (wanted shape limit) v ∧
        v.fields.map Prod.fst = w.fields.map Prod.fst ∧
        (w.unique.truthy = true → v.unique.truthy = true)) ∧
      ∀ w ∈ tableIndexes shape limit, ∃ v, Leads (wanted shape limit) v ∧ v.fields = w.fields ∧
        (w.unique.truthy = true → v.unique.truthy = true)) ∧
    ∀ w ∈ wanted shape limit, ∃ v : Wanted, v.name = w.name ∧
      v.change ∈ indexChanges shape .absent limit := by
  refine ⟨⟨fun hkeeps => ⟨fun w hw => ?_, fun w hw => ?_⟩, fun ⟨hfields, htables⟩ => ⟨?_, ?_⟩⟩, ?_⟩
  · obtain ⟨name, f, hmem, hkey, hindexed, rfl⟩ := mem_fieldIndexes_iff.1 hw
    obtain ⟨index, direction, unique, hplan, hunique⟩ := hkeeps.fields name f hmem hkey hindexed
    obtain ⟨v, hlead, -, heq⟩ := mem_indexChanges_iff.1 hplan
    obtain ⟨-, hfields, rfl⟩ := Change.createIndex.inj heq
    exact ⟨v, hlead, by rw [← hfields]; rfl, hunique⟩
  · obtain ⟨i, hmem, rfl⟩ := mem_tableIndexes_iff.1 hw
    obtain ⟨index, unique, hplan, hunique⟩ := hkeeps.indexes i hmem
    obtain ⟨v, hlead, -, heq⟩ := mem_indexChanges_iff.1 hplan
    obtain ⟨-, hfields, rfl⟩ := Change.createIndex.inj heq
    exact ⟨v, hlead, hfields.symm, hunique⟩
  · intro name f hmem hkey hindexed
    obtain ⟨v, hlead, hnames, hunique⟩ :=
      hfields _ (mem_fieldIndexes_iff.2 ⟨name, f, hmem, hkey, hindexed, rfl⟩)
    obtain ⟨⟨_, direction⟩, hv, rfl⟩ := List.map_eq_singleton_iff.1 hnames
    exact ⟨v.name, direction, v.unique,
      mem_indexChanges_iff.2 ⟨v, hlead, rfl, by rw [Wanted.change, hv]⟩, hunique⟩
  · intro i hmem
    obtain ⟨v, hlead, hv, hunique⟩ := htables _ (mem_tableIndexes_iff.2 ⟨i, hmem, rfl⟩)
    exact ⟨v.name, v.unique, mem_indexChanges_iff.2 ⟨v, hlead, rfl, by rw [Wanted.change, hv]⟩, hunique⟩
  · intro w hw
    obtain ⟨v, hlead, hname⟩ := exists_leads hw
    exact ⟨v, hname, mem_indexChanges_iff.2 ⟨v, hlead, rfl, rfl⟩⟩

/-- A shape with a plain index over a field, and a unique one over the same field. -/
def plainAndUnique : TableShape where
  name := "t"
  fields := [("a", { type := .text, indexed := .bool true })]
  indexes := [{ fields := [("a", 1)], unique := .bool true }]

/-- Both indexes have the same name, and the unique one is lost. -/
theorem not_keepsIndexes :
    plainAndUnique.check = .ok plainAndUnique ∧
    indexChanges plainAndUnique .absent 0 = [.createIndex "idx_t_a" [("a", 1)] (.bool false)] ∧
    ¬KeepsIndexes plainAndUnique (indexChanges plainAndUnique .absent 0) := by
  have hplan : indexChanges plainAndUnique .absent 0 =
      [.createIndex "idx_t_a" [("a", 1)] (.bool false)] := by rfl
  refine ⟨by rfl, hplan, fun hkeeps => ?_⟩
  obtain ⟨index, unique, hmem, hunique⟩ := hkeeps.indexes _ List.mem_cons_self
  rw [hplan, List.mem_singleton] at hmem
  have htrue := hunique rfl
  rw [(Change.createIndex.inj hmem).2.2] at htrue
  exact absurd htrue Bool.false_ne_true

end Polystore.Plan

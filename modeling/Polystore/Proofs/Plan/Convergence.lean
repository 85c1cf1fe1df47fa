import Polystore.Proofs.Plan.Parts
import Polystore.Proofs.Sql.Column

/-!
# Plans converge

Where a plan is carried out, every change has its place, and planning again asks for nothing.

Main statement: `plan_converges`.
-/

namespace Polystore

namespace Plan

/-- A shape that a dialect can be planned for: it passes its own check, its names are plain and as short
as the dialect asks, and its fields differ in more than the case of their letters. -/
structure Suits (d : SqlDialect) (shape : TableShape) : Prop where
  check : shape.check = .ok shape
  plain : ∀ name ∈ shape.name :: shape.fields.keys, Identifier.isPlain name.toList = true
  short : ∀ name ∈ shape.name :: shape.fields.keys,
    d.engine.maxIdentifierLength = 0 ∨ name.length ≤ d.engine.maxIdentifierLength
  distinct : (shape.fields.keys.map Text.lower).Nodup

/-- A change has its place after others, in a table that started as `existing` and has become `t`. A table
is created first and only if it is absent; a column is added before any index, and only if it is not there;
an index is created if none of its name is there. Unless columns may be missing, those of an index are
there by then, or are the primary key. -/
def Placed (shape : TableShape) (existing : ExistingTable) (complete : Bool) (before : List Change)
    (t : ExistingTable) : Change → Prop
  | .createTable s => before = [] ∧ existing.present = false ∧ s = shape
  | .recreateTable _ => False
  | .addColumn name _ => existing.hasColumn name = false ∧ t.hasColumn name = false ∧
      ∀ c ∈ before, c.isIndex = false
  | .createIndex name fields _ => existing.hasIndex name = false ∧ name ∉ t.indexes ∧
      (complete = true → ∀ f ∈ fields, t.hasColumn f.1 = true ∨ f.1 = shape.primaryKey)

/-- The table has what a shape declares; its columns only if they may not be missing. -/
structure Reconciled (shape : TableShape) (limit : Int) (complete : Bool) (t : ExistingTable) : Prop where
  present : t.present = true
  columns : complete = true → ∀ name ∈ shape.fields.keys, t.hasColumn name = true
  indexes : ∀ w ∈ wanted shape limit, t.hasIndex w.name = true

variable {d : SqlDialect} {shape : TableShape} {existing : ExistingTable} {limit : Int}
  {options : SyncOptions}

theorem checkNames_eq_ok (h : Suits d shape) : checkNames shape (.sql d) = .ok () := by
  have hvalid : ∀ name ∈ shape.name :: shape.fields.keys, d.validateName name = .ok () := by
    intro name hname
    refine Identifier.validate_eq_ok.2 ⟨?_, Identifier.matchesForm_of_isPlain (h.plain name hname)⟩
    have hshort := h.short name hname
    simp only [Identifier.exceeds, Bool.and_eq_false_iff, bne_eq_false_iff_eq, decide_eq_false_iff_not]
    omega
  obtain ⟨htable, hfields⟩ := List.forall_mem_cons.1 hvalid
  have hforM : ∀ names : List String, (∀ name ∈ names, d.validateName name = .ok ()) →
      names.forM d.validateName = .ok () := by
    intro names
    induction names with
    | nil => exact fun _ => rfl
    | cons name names ih =>
      intro hnames
      obtain ⟨hname, hrest⟩ := List.forall_mem_cons.1 hnames
      exact bind_eq_ok.2 ⟨(), hname, ih hrest⟩
  exact bind_eq_ok.2 ⟨(), htable, hforM _ hfields⟩

theorem changes_eq_ok (h : Suits d shape) (hforce : options.force = false) :
    changes shape existing options (.sql d) = .ok (tableChanges shape existing options.alter ++
      indexChanges shape existing d.engine.maxIdentifierLength) := by
  refine changes_eq_ok_iff.2 ⟨checkNames_eq_ok h, ?_⟩
  rw [hforce]
  rfl

/-! ### Names that differ -/

theorem pairwise_columnChanges (existing : ExistingTable)
    (h : (shape.fields.keys.map Text.lower).Nodup) :
    (columnChanges shape existing).Pairwise fun c c' =>
      ∀ name f, c' = .addColumn name f → c.addsColumn name = false := by
  have hfields : shape.fields.Pairwise fun a b => Text.lower a.1 ≠ Text.lower b.1 := by
    rw [Entries.keys, List.map_map] at h
    exact List.pairwise_map.1 h
  refine List.pairwise_map.2 ((hfields.sublist List.filter_sublist).imp ?_)
  rintro a b hab name f heq
  obtain ⟨rfl, -⟩ := Change.addColumn.inj heq
  exact beq_eq_false_iff_ne.2 hab

theorem exists_indexName_of_mem_missing {seen : List String} {ws : List Wanted} {c : Change}
    (h : c ∈ missing existing seen ws) : ∃ name, c.indexName? = some name ∧ name ∉ seen := by
  obtain ⟨w, -, hseen, -, rfl⟩ := mem_missing_iff.1 h
  exact ⟨w.name, rfl, hseen⟩

theorem pairwise_missing (existing : ExistingTable) (seen : List String) (ws : List Wanted) :
    (missing existing seen ws).Pairwise fun c c' => c.indexName? ≠ c'.indexName? := by
  induction ws generalizing seen with
  | nil => exact List.Pairwise.nil
  | cons w ws ih =>
    rw [missing]
    split
    · exact ih seen
    · refine List.pairwise_cons.2 ⟨fun c hc heq => ?_, ih _⟩
      obtain ⟨name, hname, hseen⟩ := exists_indexName_of_mem_missing hc
      rw [hname] at heq
      exact hseen (Option.some.inj heq ▸ List.mem_cons_self)

/-! ### Fields of indexes -/

theorem mem_keys_of_check (h : shape.check = .ok shape) {i : Index} (hi : i ∈ shape.indexes)
    {name : String} (hname : name ∈ i.fieldNames) :
    name ∈ shape.fields.keys ∨ name = shape.primaryKey := by
  have hunknown : shape.unknownIndexField? = none := by
    cases hfound : shape.unknownIndexField? with
    | none => rfl
    | some f =>
      rw [TableShape.check, hfound] at h
      split at h
      · exact absurd h throw_ne_ok
      · exact absurd h throw_ne_ok
  have hall := List.find?_eq_none.1 hunknown name (List.mem_flatMap.2 ⟨i, hi, hname⟩)
  rw [Bool.not_eq_true, Bool.not_eq_false', Bool.or_eq_true, beq_iff_eq] at hall
  refine hall.imp_left fun hhas => ?_
  by_contra hmem
  rw [Entries.has, Entries.get?_eq_none_iff.2 hmem] at hhas
  exact Bool.noConfusion hhas

theorem mem_keys_of_mem_wanted (h : shape.check = .ok shape) {w : Wanted}
    (hw : w ∈ wanted shape limit) {f : String × Int} (hf : f ∈ w.fields) :
    f.1 ∈ shape.fields.keys ∨ f.1 = shape.primaryKey := by
  rcases List.mem_append.1 hw with hw | hw
  · obtain ⟨name, field, hmem, -, -, rfl⟩ := mem_fieldIndexes_iff.1 hw
    rw [List.mem_singleton.1 hf]
    exact .inl (List.mem_map_of_mem hmem)
  · obtain ⟨i, hi, rfl⟩ := mem_tableIndexes_iff.1 hw
    exact mem_keys_of_check h hi (List.mem_map_of_mem hf)

/-! ### Nothing left to do -/

theorem changes_eq_nil (h : Suits d shape) (hforce : options.force = false)
    (ht : Reconciled shape d.engine.maxIdentifierLength options.alter existing) :
    changes shape existing options (.sql d) = .ok [] := by
  rw [changes_eq_ok h hforce]
  have hindexes : indexChanges shape existing d.engine.maxIdentifierLength = [] := by
    refine List.eq_nil_iff_forall_not_mem.2 fun c hc => ?_
    obtain ⟨w, hlead, hthere, -⟩ := mem_indexChanges_iff.1 hc
    rw [ht.indexes w hlead.mem] at hthere
    exact Bool.noConfusion hthere
  have htable : tableChanges shape existing options.alter = [] := by
    rw [tableChanges, if_pos ht.present]
    split
    · rename_i halter
      refine List.eq_nil_iff_forall_not_mem.2 fun c hc => ?_
      obtain ⟨name, f, hmem, hthere, -⟩ := mem_columnChanges_iff.1 hc
      rw [ht.columns halter name (List.mem_map_of_mem hmem)] at hthere
      exact Bool.noConfusion hthere
    · rfl
  rw [hindexes, htable]
  rfl

/-! ### Before the indexes -/

theorem columns_of_tableChanges (e : Engine) (shape : TableShape) (existing : ExistingTable)
    (alter : Bool) : (existing.afterAll e (tableChanges shape existing alter)).present = true ∧
      ((!existing.present || alter) = true → ∀ name ∈ shape.fields.keys,
        (existing.afterAll e (tableChanges shape existing alter)).hasColumn name = true) := by
  rw [tableChanges]
  by_cases hpresent : existing.present = true
  · rw [if_pos hpresent, hpresent]
    refine ⟨ExistingTable.present_afterAll hpresent, fun halter name hname => ?_⟩
    rw [Bool.not_true, Bool.false_or] at halter
    rw [if_pos halter, ExistingTable.hasColumn_afterAll fun c => makesTable_of_mem_columnChanges]
    by_cases hthere : existing.hasColumn name = true
    · rw [hthere, Bool.true_or]
    · obtain ⟨⟨n, f⟩, hmem, rfl⟩ := List.mem_map.1 hname
      have hadded : .addColumn n f ∈ columnChanges shape existing :=
        mem_columnChanges_iff.2 ⟨n, f, hmem, Bool.not_eq_true _ ▸ hthere, rfl⟩
      rw [Bool.or_eq_true]
      exact .inr (List.any_eq_true.2 ⟨_, hadded, ExistingTable.sameName_self n⟩)
  · rw [if_neg hpresent]
    exact ⟨rfl, fun _ name hname => ExistingTable.hasColumn_after_createTable hname⟩

theorem placed_tableChanges (e : Engine) {alter complete : Bool}
    (hdistinct : (shape.fields.keys.map Text.lower).Nodup) {before after : List Change} {c : Change}
    (h : tableChanges shape existing alter = before ++ c :: after) :
    Placed shape existing complete before (existing.afterAll e before) c := by
  have hmem : c ∈ tableChanges shape existing alter :=
    h ▸ List.mem_append_right _ List.mem_cons_self
  have hearlier : ∀ b ∈ before, b.isIndex = false := fun b hb =>
    (of_mem_tableChanges (h ▸ List.mem_append_left _ hb)).1
  unfold tableChanges at h hmem
  split at h
  · rename_i hpresent
    rw [if_pos hpresent] at hmem
    split at h
    · rename_i halter
      rw [if_pos halter] at hmem
      obtain ⟨name, f, -, hthere, rfl⟩ := mem_columnChanges_iff.1 hmem
      have hpairwise := pairwise_columnChanges existing hdistinct
      rw [h] at hpairwise
      have hcross := (List.pairwise_append.1 hpairwise).2.2
      refine ⟨hthere, ?_, hearlier⟩
      rw [ExistingTable.hasColumn_afterAll fun b hb =>
        makesTable_of_mem_columnChanges (h ▸ List.mem_append_left _ hb), hthere, Bool.false_or,
        List.any_eq_false]
      intro b hb
      rw [hcross b hb _ List.mem_cons_self name f rfl]
      exact Bool.false_ne_true
    · exact absurd h (by simp)
  · rename_i habsent
    obtain ⟨rfl, hc, -⟩ : before = [] ∧ c = .createTable shape ∧ after = [] := by
      cases before with
      | nil =>
        obtain ⟨hc, hafter⟩ := List.cons.inj h
        exact ⟨rfl, hc.symm, hafter.symm⟩
      | cons b before => exact absurd h (by simp)
    rw [hc]
    exact ⟨rfl, Bool.not_eq_true _ ▸ habsent, rfl⟩

/-! ### The indexes -/

theorem placed_indexChanges (e : Engine) {alter : Bool} (hcheck : shape.check = .ok shape)
    {before after : List Change} {c : Change}
    (h : indexChanges shape existing limit = before ++ c :: after) :
    Placed shape existing (!existing.present || alter) (tableChanges shape existing alter ++ before)
      (existing.afterAll e (tableChanges shape existing alter ++ before)) c := by
  have hbefore : ∀ b ∈ before, b.makesTable = false ∧ ∀ s, b ≠ .recreateTable s := fun b hb =>
    (of_mem_indexChanges (h ▸ List.mem_append_left _ hb)).2
  obtain ⟨w, hlead, hthere, rfl⟩ :=
    mem_indexChanges_iff.1 (h ▸ List.mem_append_right before List.mem_cons_self)
  have hpairwise := pairwise_missing existing [] (wanted shape limit)
  rw [show missing existing [] (wanted shape limit) = before ++ w.change :: after from h] at hpairwise
  have hcross := (List.pairwise_append.1 hpairwise).2.2
  refine ⟨hthere, fun hmem => ?_, fun hcomplete f hf => ?_⟩
  · rw [ExistingTable.mem_indexes_afterAll_iff] at hmem
    · rcases hmem with hmem | ⟨b, hb, hname⟩
      · rw [ExistingTable.hasIndex_of_mem hmem] at hthere
        exact Bool.noConfusion hthere
      · rcases List.mem_append.1 hb with hb | hb
        · rw [(of_mem_tableChanges hb).2.1] at hname
          exact absurd hname.symm (Option.some_ne_none _)
        · exact hcross b hb _ List.mem_cons_self hname
    · intro b hb
      exact (List.mem_append.1 hb).elim (fun hb => (of_mem_tableChanges hb).2.2)
        fun hb => (hbefore b hb).2
  · refine (mem_keys_of_mem_wanted hcheck hlead.mem hf).imp_left fun hkey => ?_
    rw [ExistingTable.afterAll_append, ExistingTable.hasColumn_afterAll fun b hb => (hbefore b hb).1,
      (columns_of_tableChanges e shape existing alter).2 hcomplete _ hkey, Bool.true_or]

/-! ### The whole plan -/

theorem reconciled_afterAll (e : Engine) (shape : TableShape) (existing : ExistingTable) (alter : Bool)
    (limit : Int) : Reconciled shape limit (!existing.present || alter) (existing.afterAll e
      (tableChanges shape existing alter ++ indexChanges shape existing limit)) where
  present := by
    rw [ExistingTable.afterAll_append]
    exact ExistingTable.present_afterAll (columns_of_tableChanges e shape existing alter).1
  columns := by
    intro hcomplete name hname
    rw [ExistingTable.afterAll_append,
      ExistingTable.hasColumn_afterAll fun c hc => (of_mem_indexChanges hc).2.1,
      (columns_of_tableChanges e shape existing alter).2 hcomplete name hname, Bool.true_or]
  indexes := by
    intro w hw
    have hmem : ∀ name, name ∈ (existing.afterAll e
        (tableChanges shape existing alter ++ indexChanges shape existing limit)).indexes ↔
        name ∈ existing.indexes ∨ ∃ c ∈ tableChanges shape existing alter ++
          indexChanges shape existing limit, c.indexName? = some name := by
      refine fun name => ExistingTable.mem_indexes_afterAll_iff fun c hc => ?_
      exact (List.mem_append.1 hc).elim (fun hc => (of_mem_tableChanges hc).2.2)
        fun hc => (of_mem_indexChanges hc).2.2
    by_cases hthere : existing.hasIndex w.name = true
    · obtain ⟨i, hi, hname⟩ := ExistingTable.hasIndex_iff.1 hthere
      exact ExistingTable.hasIndex_iff.2 ⟨i, (hmem i).2 (.inl hi), hname⟩
    · obtain ⟨v, hlead, hname⟩ := exists_leads hw
      rw [← hname] at hthere ⊢
      have hplanned : v.change ∈ indexChanges shape existing limit :=
        mem_indexChanges_iff.2 ⟨v, hlead, Bool.not_eq_true _ ▸ hthere, rfl⟩
      exact ExistingTable.hasIndex_of_mem
        ((hmem v.name).2 (.inr ⟨_, List.mem_append_right _ hplanned, rfl⟩))

/-- A plan can be made. Every change of it has its place after those before it, the table is left with what
the shape declares, and planning again gives nothing. -/
def Converges (d : SqlDialect) (shape : TableShape) (existing : ExistingTable) (options : SyncOptions) :
    Prop :=
  ∃ plan, changes shape existing options (.sql d) = .ok plan ∧
    (∀ before c after, plan = before ++ c :: after →
      Placed shape existing (!existing.present || options.alter) before
        (existing.afterAll d.engine before) c) ∧
    Reconciled shape d.engine.maxIdentifierLength (!existing.present || options.alter)
      (existing.afterAll d.engine plan) ∧
    changes shape (existing.afterAll d.engine plan) options (.sql d) = .ok []

/-- Plans that are not forced converge, whatever table is there. -/
theorem plan_converges (h : Suits d shape) (existing : ExistingTable) (hforce : options.force = false) :
    Converges d shape existing options := by
  have hreconciled := reconciled_afterAll d.engine shape existing options.alter
    d.engine.maxIdentifierLength
  refine ⟨_, changes_eq_ok h hforce, fun before c after hsplit => ?_, hreconciled, ?_⟩
  · rcases List.append_eq_append_iff.1 hsplit with ⟨rest, rfl, hrest⟩ | ⟨rest, htable, hrest⟩
    · exact placed_indexChanges d.engine h.check hrest
    · cases rest with
      | nil =>
        rw [List.append_nil] at htable
        rw [← htable]
        rw [← List.append_nil (tableChanges shape existing options.alter)]
        exact placed_indexChanges d.engine h.check hrest.symm
      | cons r rest =>
        obtain ⟨rfl, -⟩ := List.cons.inj hrest
        exact placed_tableChanges d.engine h.distinct htable
  · refine changes_eq_nil h hforce ⟨hreconciled.present, fun halter => hreconciled.columns ?_,
      hreconciled.indexes⟩
    rw [halter, Bool.or_true]

/-- A shape with indexes over single fields and over both. -/
def people : TableShape where
  name := "people"
  fields := [("Name", { type := .text, unique := .bool true }),
    ("age", { type := .number, indexed := .bool true })]
  indexes := [{ fields := [("Name", 1), ("age", -1)] }]

/-- A table that knows a field and an index in other letter case. -/
def shouted : ExistingTable where
  present := true
  columns := [{ name := "NAME", rawType := "TEXT" }]
  indexes := ["IDX_PEOPLE_AGE"]

/-- Plans converge where names are there in other letter case. -/
theorem plan_converges_of_shouted :
    Suits { engine := .mysql } people ∧ ({ alter := true } : SyncOptions).force = false ∧
    Converges { engine := .mysql } people shouted { alter := true } :=
  have h : Suits { engine := .mysql } people :=
    ⟨by rfl, by decide, by decide, by decide⟩
  ⟨h, rfl, plan_converges h shouted rfl⟩

end Plan

end Polystore

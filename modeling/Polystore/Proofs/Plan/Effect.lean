import Mathlib
import Polystore.Plan

/-!
# What changes do to a table

The table that a store has after changes: which columns and indexes are found in it.

Main statements: `hasColumn_afterAll` and `mem_indexes_afterAll_iff`.
-/

namespace Polystore

/-- The change makes the table, whether or not it drops one before. -/
def Change.makesTable : Change → Bool
  | .createTable _ => true
  | .recreateTable _ => true
  | _ => false

/-- The change adds a column of a name, in any letter case. -/
def Change.addsColumn (name : String) : Change → Bool
  | .addColumn n _ => ExistingTable.sameName n name
  | _ => false

/-- The name of the index that a change creates. -/
def Change.indexName? : Change → Option String
  | .createIndex name _ _ => some name
  | _ => none

namespace ExistingTable

/-- The column of a declared field. If it is added to a table, it may be null where the rows that exist
have no value for it. -/
def columnOf (e : Engine) (adding : Bool) (name : String) (f : Field) : ExistingColumn where
  name := name
  rawType := f.type.columnType e
  nullable := !f.required.truthy || (adding && f.lacksValue)

/-- The columns of a new table: the primary key, unless it is declared, and the declared fields. -/
def columnsOf (e : Engine) (shape : TableShape) : List ExistingColumn :=
  (if (shape.find? shape.primaryKey).isSome then []
    else [{ name := shape.primaryKey, rawType := FieldType.reference.columnType e }]) ++
  shape.fields.map fun (name, f) => columnOf e false name f

/-- The table after a change. -/
def after (e : Engine) (t : ExistingTable) : Change → ExistingTable
  | .createTable shape => { t with present := true, columns := columnsOf e shape }
  | .recreateTable shape => { present := true, columns := columnsOf e shape }
  | .addColumn name f => { t with columns := t.columns ++ [columnOf e true name f] }
  | .createIndex name _ _ => { t with indexes := t.indexes.insert name }

/-- The table after changes, one after the other. -/
def afterAll (e : Engine) (t : ExistingTable) (changes : List Change) : ExistingTable :=
  changes.foldl (after e) t

variable {e : Engine} {t : ExistingTable} {changes : List Change}

theorem sameName_self (name : String) : sameName name name = true :=
  beq_self_eq_true _

theorem hasColumn_iff {name : String} :
    t.hasColumn name = true ↔ ∃ c ∈ t.columns, sameName c.name name = true :=
  List.any_eq_true

theorem hasIndex_iff {name : String} :
    t.hasIndex name = true ↔ ∃ i ∈ t.indexes, sameName i name = true :=
  List.any_eq_true

theorem hasIndex_of_mem {name : String} (h : name ∈ t.indexes) : t.hasIndex name = true :=
  hasIndex_iff.2 ⟨name, h, sameName_self name⟩

/-! ### One change -/

theorem hasColumn_after_createTable {shape : TableShape} {name : String}
    (h : name ∈ shape.fields.keys) : (t.after e (.createTable shape)).hasColumn name = true := by
  obtain ⟨⟨n, f⟩, hmem, rfl⟩ := List.mem_map.1 h
  exact hasColumn_iff.2 ⟨columnOf e false n f,
    List.mem_append_right _ (List.mem_map.2 ⟨(n, f), hmem, rfl⟩), sameName_self n⟩

theorem hasColumn_after {c : Change} (h : c.makesTable = false) (name : String) :
    (t.after e c).hasColumn name = (t.hasColumn name || c.addsColumn name) := by
  cases c with
  | createTable => exact Bool.noConfusion h
  | recreateTable => exact Bool.noConfusion h
  | addColumn n f =>
    rw [hasColumn, after, List.any_append, List.any_cons, List.any_nil, Bool.or_false]
    rfl
  | createIndex => exact (Bool.or_false _).symm

theorem mem_indexes_after_iff {c : Change} (h : ∀ shape, c ≠ .recreateTable shape) {name : String} :
    name ∈ (t.after e c).indexes ↔ name ∈ t.indexes ∨ c.indexName? = some name := by
  cases c with
  | createTable => simp [after, Change.indexName?]
  | recreateTable shape => exact absurd rfl (h shape)
  | addColumn => simp [after, Change.indexName?]
  | createIndex n fields unique =>
    rw [after, List.mem_insert_iff, Change.indexName?, Option.some.injEq, or_comm, eq_comm]

theorem present_after (c : Change) (h : t.present = true) : (t.after e c).present = true := by
  cases c with
  | createTable => rfl
  | recreateTable => rfl
  | addColumn => exact h
  | createIndex => exact h

/-! ### Changes one after the other -/

theorem afterAll_append (changes changes' : List Change) :
    t.afterAll e (changes ++ changes') = (t.afterAll e changes).afterAll e changes' :=
  List.foldl_append

theorem present_afterAll (h : t.present = true) : (t.afterAll e changes).present = true := by
  induction changes generalizing t with
  | nil => exact h
  | cons c changes ih => exact ih (present_after c h)

theorem hasColumn_afterAll (h : ∀ c ∈ changes, c.makesTable = false) (name : String) :
    (t.afterAll e changes).hasColumn name =
      (t.hasColumn name || changes.any fun c => c.addsColumn name) := by
  induction changes generalizing t with
  | nil => exact (Bool.or_false _).symm
  | cons c changes ih =>
    obtain ⟨hc, hchanges⟩ := List.forall_mem_cons.1 h
    refine (ih hchanges).trans ?_
    rw [hasColumn_after hc, List.any_cons, Bool.or_assoc]

theorem mem_indexes_afterAll_iff (h : ∀ c ∈ changes, ∀ shape, c ≠ .recreateTable shape)
    {name : String} : name ∈ (t.afterAll e changes).indexes ↔
      name ∈ t.indexes ∨ ∃ c ∈ changes, c.indexName? = some name := by
  induction changes generalizing t with
  | nil => simp [afterAll]
  | cons c changes ih =>
    obtain ⟨hc, hchanges⟩ := List.forall_mem_cons.1 h
    refine (ih hchanges).trans ?_
    rw [mem_indexes_after_iff hc, List.exists_mem_cons_iff, or_assoc]

end ExistingTable

end Polystore

import Polystore.Proofs.Migration.Run

/-!
# The order of migrations

The place of a migration is given by its timestamp, then by its name. Records are read and migrations
run in the order of their places.
-/

namespace Polystore

variable {σ : Type} {held : Int → Prop} {records : σ → List MigrationRecord}

/-- The place of a record in the order in which records are read. -/
def MigrationRecord.place (r : MigrationRecord) : Int ×ₗ String :=
  toLex (r.timestamp, r.name)

/-- The place of a migration in the order in which migrations run. -/
def Migration.place (x : Migration σ) : Int ×ₗ String :=
  toLex (x.timestamp, x.name)

theorem MigrationRecord.place_le {a b : MigrationRecord} : a.comesBefore b ↔ a.place ≤ b.place := by
  rw [place, place, Prod.Lex.toLex_le_toLex, comesBefore, Bool.or_eq_true, Bool.and_eq_true,
    decide_eq_true_eq, beq_iff_eq, Bool.not_eq_true', decide_eq_false_iff_not, String.not_lt]

theorem Migration.place_le {x y : Migration σ} : x.runsBefore y ↔ x.place ≤ y.place := by
  rw [place, place, Prod.Lex.toLex_le_toLex, runsBefore, Bool.or_eq_true, Bool.and_eq_true,
    decide_eq_true_eq, beq_iff_eq, Bool.not_eq_true', decide_eq_false_iff_not, String.not_lt]

namespace Manager

variable {m : Manager σ}

/-- The place of the migration of a name. -/
def place (m : Manager σ) (name : String) : Int ×ₗ String :=
  toLex (((m.find? name).map (·.timestamp)).getD 0, name)

/-- The migration of one name runs before that of another. -/
def InOrder (m : Manager σ) (a b : String) : Prop :=
  ∃ x ∈ m.migrations, ∃ y ∈ m.migrations, x.name = a ∧ y.name = b ∧ x.runsBefore y

theorem place_injective : Function.Injective m.place :=
  fun _ _ heq => (Prod.mk.inj (toLex_inj.1 heq)).2

theorem find?_of_mem (h : m.Keeps held records) {x : Migration σ} (hx : x ∈ m.migrations) :
    m.find? x.name = some x := by
  have hsome : (m.find? x.name).isSome := List.find?_isSome.2 ⟨x, hx, by simp⟩
  obtain ⟨y, hy⟩ := Option.isSome_iff_exists.1 hsome
  obtain ⟨hmem, hname⟩ := name_of_find? hy
  rw [hy, List.inj_on_of_nodup_map h.nodup hmem hx hname]

theorem place_of_mem (h : m.Keeps held records) {x : Migration σ} (hx : x ∈ m.migrations) :
    m.place x.name = x.place := by
  rw [place, find?_of_mem h hx]
  rfl

theorem inOrder_iff (h : m.Keeps held records) {a b : String} (ha : a ∈ m.migrations.map (·.name))
    (hb : b ∈ m.migrations.map (·.name)) : m.InOrder a b ↔ m.place a ≤ m.place b := by
  constructor
  · rintro ⟨x, hx, y, hy, rfl, rfl, hxy⟩
    rw [place_of_mem h hx, place_of_mem h hy]
    exact Migration.place_le.1 hxy
  · intro hle
    obtain ⟨x, hx, rfl⟩ := List.mem_map.1 ha
    obtain ⟨y, hy, rfl⟩ := List.mem_map.1 hb
    rw [place_of_mem h hx, place_of_mem h hy] at hle
    exact ⟨x, hx, y, hy, rfl, rfl, Migration.place_le.2 hle⟩

theorem pairwise_inOrder_iff (h : m.Keeps held records) {names : List String}
    (hnames : ∀ a ∈ names, a ∈ m.migrations.map (·.name)) :
    names.Pairwise m.InOrder ↔ names.Pairwise fun a b => m.place a ≤ m.place b :=
  List.Pairwise.iff_of_mem fun ha hb => inOrder_iff h (hnames _ ha) (hnames _ hb)

/-! ### Names in order of place -/

theorem eq_of_pairwise {names names' : List String} (hperm : names.Perm names')
    (h : names.Pairwise fun a b => m.place a ≤ m.place b)
    (h' : names'.Pairwise fun a b => m.place a ≤ m.place b) : names = names' :=
  hperm.eq_of_pairwise (fun _ _ _ _ hab hba => place_injective (le_antisymm hab hba)) h h'

theorem dropWhile_append_cons {earlier later : List String} {name : String}
    (h : name ∉ earlier) :
    ((earlier ++ name :: later).dropWhile fun a => a != name).drop 1 = later := by
  have hearlier : ∀ a ∈ earlier, (a != name) = true := by
    intro a ha
    rw [bne_iff_ne]
    rintro rfl
    exact h ha
  rw [List.dropWhile_append_of_pos hearlier, List.dropWhile_cons_of_neg (by simp)]
  rfl

/-- What follows a name in the order of places is what follows it in another order exactly if nothing
before it there comes later, and the rest stands in the order of places. -/
theorem later_eq_iff {sorted earlier later : List String} {name : String}
    (hperm : sorted.Perm (earlier ++ name :: later)) (hnodup : (earlier ++ name :: later).Nodup)
    (hsorted : sorted.Pairwise fun a b => m.place a ≤ m.place b) :
    later = (sorted.dropWhile fun a => a != name).drop 1 ↔
      (∀ a ∈ earlier, m.place a ≤ m.place name) ∧
        (name :: later).Pairwise fun a b => m.place a ≤ m.place b := by
  have hfresh : name ∉ earlier := fun hmem =>
    (List.nodup_append.1 hnodup).2.2 name hmem name List.mem_cons_self rfl
  constructor
  · intro hlater
    obtain ⟨front, back, rfl, hfront⟩ :=
      List.eq_append_cons_of_mem (hperm.mem_iff.2 (List.mem_append_right _ List.mem_cons_self))
    rw [dropWhile_append_cons hfront] at hlater
    subst hlater
    obtain ⟨-, hrest, hcross⟩ := List.pairwise_append.1 hsorted
    have hearlier : front.Perm earlier := (List.perm_append_right_iff _).1 hperm
    exact ⟨fun a ha => hcross a (hearlier.mem_iff.2 ha) name List.mem_cons_self, hrest⟩
  · rintro ⟨hearlier, hrest⟩
    -- with what stands before the name sorted, the whole stands in order
    let front := earlier.mergeSort fun a b => decide (m.place a ≤ m.place b)
    have hfront : front.Perm earlier := List.mergeSort_perm _ _
    have hfrontSorted : front.Pairwise fun a b => m.place a ≤ m.place b := by
      have hsort : front.Pairwise fun a b => decide (m.place a ≤ m.place b) = true :=
        List.pairwise_mergeSort
          (fun a b c hab hbc => decide_eq_true ((of_decide_eq_true hab).trans (of_decide_eq_true hbc)))
          (fun a b => by simpa using le_total (m.place a) (m.place b)) earlier
      exact hsort.imp fun hab => of_decide_eq_true hab
    have hmerged : (front ++ name :: later).Pairwise fun a b => m.place a ≤ m.place b := by
      refine List.pairwise_append.2 ⟨hfrontSorted, hrest, fun a ha b hb => ?_⟩
      have hname := hearlier a (hfront.mem_iff.1 ha)
      rcases List.mem_cons.1 hb with rfl | hb
      · exact hname
      · exact hname.trans ((List.pairwise_cons.1 hrest).1 b hb)
    have heq : sorted = front ++ name :: later :=
      eq_of_pairwise (hperm.trans (hfront.symm.append_right _)) hsorted hmerged
    rw [heq, dropWhile_append_cons fun hmem => hfresh (hfront.mem_iff.1 hmem)]

end Manager

end Polystore

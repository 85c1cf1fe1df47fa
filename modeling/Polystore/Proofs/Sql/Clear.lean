import Polystore.Proofs.Sql.Condition
import Polystore.Proofs.Sql.Placeholder
import Polystore.Sql.Compiler

/-!
# Clauses hold no placeholder but those of their slots

The fragments of conditions, assignments and lists of values are clear: columns are identifiers, and all
other texts are fixed. `clear_condition` and `clear_assignments` are the main statements.
-/

namespace Polystore.Sql

open Polystore.Filter (Leaf Node leaves)
open Fragment (Clear StartsClear Unmarked clear_joinWith clear_append unmarked_append)
open PlaceholderStyle (isMark placeholders)

/-! ### The text of a clause is clear -/

theorem fragments_eq_map (engine : Engine) (ps : List Predicate) :
    Predicate.fragments engine ps = ps.map (Predicate.fragment engine) := by
  induction ps with
  | nil => simp [Predicate.fragments]
  | cons p ps ih => simp [Predicate.fragments, ih]

section Compound

variable {engine : Engine} {ps : List Predicate}

theorem clear_both (h : ∀ p ∈ ps, Clear (p.fragment engine)) :
    Clear ((Predicate.both ps).fragment engine) := by
  rw [Predicate.fragment, fragments_eq_map]
  exact clear_joinWith (by decide) (by unfold StartsClear; decide) (List.forall_mem_map.2 h)

theorem clear_either (h : ∀ p ∈ ps, Clear (p.fragment engine)) :
    Clear ((Predicate.either ps).fragment engine) := by
  rw [Predicate.fragment, fragments_eq_map]
  exact clear_joinWith (by decide) (by unfold StartsClear; decide) (List.forall_mem_map.2 h)

theorem clear_grouped {p : Predicate} (h : Clear (p.fragment engine)) :
    Clear ((Predicate.grouped p).fragment engine) := by
  rw [Predicate.fragment]
  exact ⟨by decide, clear_append h ⟨by decide, trivial⟩ (by unfold StartsClear; decide)⟩

theorem clear_constant (holds : Bool) : Clear ((Predicate.constant holds).fragment engine) := by
  cases holds
  all_goals
    rw [Predicate.fragment]
    exact ⟨by decide, trivial⟩

theorem clear_conjunction (h : ∀ p ∈ ps, Clear (p.fragment engine)) :
    Clear ((Predicate.conjunction ps).fragment engine) := by
  cases ps with
  | nil => exact clear_constant true
  | cons p ps => exact clear_both h

theorem clear_groupTest {c : Filter.Connective} {parts : List (Nat × Predicate)}
    (h : ∀ part ∈ parts, Clear (part.2.fragment engine)) :
    Clear ((groupTest c parts).fragment engine) := by
  cases parts with
  | nil => exact clear_constant true
  | cons part parts =>
    have hparts : ∀ p ∈ (part :: parts).map groupPart, Clear (p.fragment engine) := by
      intro p hp
      obtain ⟨x, hx, rfl⟩ := List.mem_map.1 hp
      unfold groupPart
      split
      · exact clear_grouped (h x hx)
      · exact h x hx
    cases c with
    | and =>
      rw [groupTest_and]
      exact clear_grouped (clear_both hparts)
    | or =>
      rw [groupTest_or]
      exact clear_grouped (clear_either hparts)

end Compound

theorem containsFragment_cases (engine : Engine) (column content : String) (ignoreCase : Bool) :
    let slot := Piece.slot (.str (Substring.containing content))
    let escape := if Substring.needsEscape content then [Piece.text engine.likeEscape] else []
    ignoreCase = false ∧ Predicate.containsFragment engine column content ignoreCase =
        [.text (column ++ " LIKE "), slot] ++ escape ∨
      ignoreCase = true ∧ (Predicate.containsFragment engine column content ignoreCase =
          [.text (column ++ " ILIKE "), slot] ++ escape ∨
        Predicate.containsFragment engine column content ignoreCase =
          [.text ("LOWER(" ++ column ++ ") LIKE LOWER("), slot, .text ")"] ++ escape) := by
  cases engine <;> cases ignoreCase <;> simp [Predicate.containsFragment]

section Columns

variable {d : SqlDialect} {name column : String}

theorem unmarked_column (h : d.renderField name = .ok column) : Unmarked column := by
  obtain ⟨-, -, -, -, hall⟩ := SqlDialect.toList_of_renderField h
  intro c hc
  rcases hall c hc with hpart | rfl | rfl
  · simp only [isMark, Bool.or_eq_false_iff, beq_eq_false_iff_ne]
    refine ⟨⟨?_, ?_⟩, ?_⟩
    all_goals exact Identifier.ne_of_isPart hpart (by decide)
  · decide
  · cases d.engine <;> decide

theorem unmarked_column_append (h : d.renderField name = .ok column) {s : String}
    (hs : Unmarked s) : Unmarked (column ++ s) :=
  unmarked_append (unmarked_column h) hs

theorem clear_membershipFragment (h : d.renderField name = .ok column) (negated : Bool)
    (candidates : List Value) :
    Clear (Predicate.membershipFragment column negated candidates) := by
  refine ⟨unmarked_column_append h ?_,
    clear_append (Fragment.clear_slots candidates) ⟨by decide, trivial⟩ (by unfold StartsClear; decide)⟩
  cases negated <;> decide

theorem clear_containsFragment (h : d.renderField name = .ok column) (engine : Engine)
    (content : String) (ignoreCase : Bool) :
    Clear (Predicate.containsFragment engine column content ignoreCase) := by
  have hescape : ∀ f : Fragment, f = [] ∨ f = [.text engine.likeEscape] →
      StartsClear f ∧ Clear f := by
    rintro f (rfl | rfl)
    · exact ⟨trivial, trivial⟩
    · cases engine <;> exact ⟨by unfold StartsClear; decide, by decide, trivial⟩
  have hlower : Unmarked ("LOWER(" ++ column ++ ") LIKE LOWER(") :=
    unmarked_append (unmarked_append (by decide) (unmarked_column h)) (by decide)
  obtain ⟨hstart, hclear⟩ := hescape
    (if Substring.needsEscape content then [.text engine.likeEscape] else [])
    (by split <;> simp)
  rcases containsFragment_cases engine column content ignoreCase with
    ⟨-, hfragment⟩ | ⟨-, hfragment | hfragment⟩
  all_goals
    rw [hfragment]
    refine clear_append ?_ hclear hstart
  · exact ⟨unmarked_column_append h (by decide), trivial, trivial⟩
  · exact ⟨unmarked_column_append h (by decide), trivial, trivial⟩
  · exact ⟨hlower, by unfold StartsClear; decide, by decide, trivial⟩

theorem clear_nullTest (h : d.renderField name = .ok column) (engine : Engine) (isNull : Bool) :
    Clear ((Predicate.nullTest column isNull).fragment engine) := by
  cases isNull
  all_goals
    rw [Predicate.fragment]
    exact ⟨unmarked_column_append h (by decide), trivial⟩

theorem clear_membershipTest (h : d.renderField name = .ok column) (engine : Engine)
    (negated : Bool) (xs : List Value) :
    Clear ((membershipTest column negated xs).fragment engine) := by
  have hmember : ∀ negated xs, Clear ((Predicate.membership column negated xs).fragment engine) := by
    intro negated xs
    rw [Predicate.fragment]
    exact clear_membershipFragment h negated xs
  rcases membershipTest_cases column negated xs with
    ⟨-, hp⟩ | ⟨-, -, hp⟩ | ⟨-, -, hp⟩ | ⟨-, -, hp⟩
  · exact hp ▸ clear_constant negated
  · exact hp ▸ clear_nullTest h engine _
  · exact hp ▸ hmember _ _
  · rw [hp]
    cases negated
    · exact clear_grouped (clear_either (by simp [hmember, clear_nullTest h engine]))
    · exact clear_grouped (clear_both (by simp [hmember, clear_nullTest h engine]))

theorem clear_of_tests (h : d.renderField name = .ok column) {l : Leaf} {p : Predicate}
    (htest : Tests column l p) (engine : Engine) : Clear (p.fragment engine) := by
  cases htest with
  | isNull => exact clear_nullTest h engine true
  | isNotNull => exact clear_nullTest h engine false
  | @compare op _ _ =>
    have hsymbol : Unmarked op.symbol := by cases op <;> decide
    rw [Predicate.fragment]
    exact ⟨unmarked_append (unmarked_append (unmarked_column_append h (by decide)) hsymbol)
      (by decide), trivial, trivial⟩
  | presence => exact clear_nullTest h engine _
  | isIn => exact clear_membershipTest h engine false _
  | notIn => exact clear_membershipTest h engine true _
  | pattern =>
    rw [Predicate.fragment]
    exact clear_containsFragment h engine _ _

end Columns

theorem clear_condition {d : SqlDialect} {nodes : List Node} {p : Predicate}
    (h : condition d nodes = .ok p) (engine : Engine) : Clear (p.fragment engine) := by
  obtain ⟨ps, hps, rfl⟩ := condition_eq_ok h
  refine clear_conjunction (condition_induction (fun _ p => Clear (p.fragment engine))
    (fun _ ps => ∀ p ∈ ps, Clear (p.fragment engine))
    (fun _ parts => ∀ part ∈ parts, Clear (part.2.fragment engine)) ?_ ?_ ?_ ?_ ?_ ?_ hps)
  · intro l column p hcolumn htest
    exact clear_of_tests hcolumn htest engine
  · intro c children parts hparts
    exact clear_groupTest hparts
  · simp
  · intro n ns p ps hp hps
    exact List.forall_mem_cons.2 ⟨hp, hps⟩
  · simp
  · intro ns children ps parts hps hparts
    exact List.forall_mem_cons.2 ⟨clear_conjunction hps, hparts⟩

theorem clear_assignments {d : SqlDialect} {ops : List (Update.Bucket × String × Value)}
    {as : List Assignment} (h : assignmentsOf d ops = .ok as) :
    Clear (assignmentsFragment as) := by
  refine clear_joinWith (by decide) (by unfold StartsClear; decide) (List.forall_mem_map.2 ?_)
  induction ops generalizing as with
  | nil =>
    rw [assignmentsOf, pure_eq_ok] at h
    simp [← h]
  | cons op ops ih =>
    obtain ⟨b, name, v⟩ := op
    rw [assignmentsOf] at h
    obtain ⟨column, hcolumn, h⟩ := bind_eq_ok.1 h
    obtain ⟨rest, hrest, h⟩ := bind_eq_ok.1 h
    have hcolumn := mapError_eq_ok.1 hcolumn
    have hsame : Unmarked (column ++ " = " ++ column ++ " + ") :=
      unmarked_append (unmarked_append (unmarked_column_append hcolumn (by decide))
        (unmarked_column hcolumn)) (by decide)
    rw [← pure_eq_ok.1 h]
    intro a ha
    rcases List.mem_append.1 ha with ha | ha
    · cases b <;> simp only [Assignment.ofBucket?, Option.toList_some, Option.toList_none,
        List.mem_singleton, List.not_mem_nil] at ha
      · exact ha ▸ ⟨unmarked_column_append hcolumn (by decide), trivial, trivial⟩
      · exact ha ▸ ⟨hsame, trivial, trivial⟩
      · exact ha ▸ ⟨unmarked_column_append hcolumn (by decide), trivial⟩
    · exact ih (mapError_eq_ok.1 hrest) a ha

end Polystore.Sql

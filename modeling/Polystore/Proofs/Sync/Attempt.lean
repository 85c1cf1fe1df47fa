import Polystore.Change
import Polystore.Proofs.Action

/-!
# Statements that are sent

A synchronization sends statements one after the other, and the store accepts or refuses each of them.
`Attempted` tells what was sent from one state of the store to another, whatever the connection; and
`UpToRefusal` that statements were sent up to the first that is refused.

Main statement: `runFrom_runAll`.
-/

namespace Polystore

variable {σ α β : Type}

/-! ### Programs that leave the log alone -/

/-- A program that neither reads nor writes the log. -/
def Action.Quiet (a : Action σ α) : Prop :=
  ∀ s, a.runFrom s = ((a.runFrom { state := s.state }).1,
    { s with state := (a.runFrom { state := s.state }).2.state })

namespace Action.Quiet

theorem lift (r : Except Error α) : (Action.lift r : Action σ α).Quiet :=
  fun _ => rfl

theorem step (f : σ → Except Error α × σ) : (Action.step f).Quiet :=
  fun _ => rfl

theorem attempt {a : Action σ α} (h : a.Quiet) : a.attempt.Quiet := by
  intro s
  rw [runFrom_attempt, runFrom_attempt, h s]

theorem bind {a : Action σ α} {f : α → Action σ β} (h : a.Quiet) (hf : ∀ v, (f v).Quiet) :
    (a >>= f).Quiet := by
  intro s
  have hstart := h { state := s.state }
  cases hrun : a.runFrom { state := s.state } with
  | mk r t =>
    have ha := h s
    rw [hrun] at ha hstart
    have ht : t = { state := t.state } := (Prod.mk.inj hstart).2
    cases r with
    | ok v =>
      rw [runFrom_bind_ok ha, runFrom_bind_ok hrun, hf v, ht]
    | error e => rw [runFrom_bind_error ha, runFrom_bind_error hrun]

end Action.Quiet

theorem Connection.quiet_run (c : Connection σ) (sql : String) (parameters : Value) :
    (c.run sql parameters).Quiet := by
  have hsend : (c.send sql parameters).Quiet := by
    unfold Connection.send
    split
    · exact (Action.Quiet.lift _).bind fun _ => .step _
    · exact .step _
  have hbody := hsend.bind fun _ => (Action.Quiet.step c.fetch).bind fun rows => .lift (.ok (rows.getD []))
  exact (Action.Quiet.step c.openCursor).bind fun _ => hbody.attempt.bind fun r =>
    (Action.Quiet.step c.closeCursor).bind fun _ => .lift r

/-! ### Attempts -/

/-- The answer of a store to a statement without parameters, and the state in which that leaves it. -/
def Connection.answer (c : Connection σ) (sql : String) (x : σ) : Except Error (List Row) × σ :=
  let r := (c.run sql .null).runFrom { state := x }
  (r.1, r.2.state)

theorem Connection.runFrom_run (c : Connection σ) (sql : String) (s : Session σ) :
    (c.run sql .null).runFrom s =
      ((c.answer sql s.state).1, { s with state := (c.answer sql s.state).2 }) :=
  c.quiet_run sql .null s

namespace Sync

/-- A statement that was sent for a change, and the error with which it was refused. -/
structure Attempt where
  change : Change
  statement : String
  refusal : Option Error

/-- What was sent, apart from the answer. -/
def Attempt.sent (a : Attempt) : Change × String :=
  (a.change, a.statement)

/-- The statements that were sent between two states of a store, in order. -/
inductive Attempted (c : Connection σ) : σ → List Attempt → σ → Prop where
  | nil (x : σ) : Attempted c x [] x
  | accepted {change : Change} {sql : String} {rows : List Row} {as : List Attempt} {x y z : σ}
      (hanswer : c.answer sql x = (.ok rows, y)) (hrest : Attempted c y as z) :
      Attempted c x (⟨change, sql, none⟩ :: as) z
  | refused {change : Change} {sql : String} {e : Error} {as : List Attempt} {x y z : σ}
      (hanswer : c.answer sql x = (.error e, y)) (hrest : Attempted c y as z) :
      Attempted c x (⟨change, sql, some e⟩ :: as) z

theorem Attempted.append {c : Connection σ} {as bs : List Attempt} {x y z : σ}
    (h : Attempted c x as y) (h' : Attempted c y bs z) : Attempted c x (as ++ bs) z := by
  induction h with
  | nil => exact h'
  | accepted hanswer _ ih => exact .accepted hanswer (ih h')
  | refused hanswer _ ih => exact .refused hanswer (ih h')

/-- Statements were sent up to the first refusal, or all of them if there is none. -/
def UpToRefusal (statements : List (Change × String)) (as : List Attempt) : Option Error → Prop
  | none => as.map Attempt.sent = statements ∧ ∀ a ∈ as, a.refusal = none
  | some e => as.map Attempt.sent <+: statements ∧
      ∃ done last, as = done ++ [last] ∧ last.refusal = some e ∧ ∀ a ∈ done, a.refusal = none

namespace UpToRefusal

variable {statements statements' : List (Change × String)} {as bs : List Attempt}
  {failure : Option Error}

theorem nil : UpToRefusal [] [] none :=
  ⟨rfl, fun _ h => absurd h List.not_mem_nil⟩

theorem accepted (change : Change) (sql : String) :
    UpToRefusal [(change, sql)] [⟨change, sql, none⟩] none :=
  ⟨rfl, List.forall_mem_singleton.2 rfl⟩

theorem refused (change : Change) (sql : String) (e : Error) :
    UpToRefusal [(change, sql)] [⟨change, sql, some e⟩] (some e) :=
  ⟨List.prefix_refl _, [], _, rfl, rfl, fun _ h => absurd h List.not_mem_nil⟩

theorem append (h : UpToRefusal statements as none) (h' : UpToRefusal statements' bs failure) :
    UpToRefusal (statements ++ statements') (as ++ bs) failure := by
  obtain ⟨hsent, hnone⟩ := h
  cases failure with
  | none =>
    refine ⟨by rw [List.map_append, hsent, h'.1], fun a ha => ?_⟩
    exact (List.mem_append.1 ha).elim (hnone a) (h'.2 a)
  | some e =>
    obtain ⟨hsent', done, last, rfl, hlast, hdone⟩ := h'
    refine ⟨by rw [List.map_append, hsent]; exact (List.prefix_append_right_inj _).2 hsent',
      as ++ done, last, (List.append_assoc ..).symm, hlast, fun a ha => ?_⟩
    exact (List.mem_append.1 ha).elim (hnone a) (hdone a)

theorem eq_of_singleton {change : Change} {sql : String}
    (h : UpToRefusal [(change, sql)] as failure) : as = [⟨change, sql, failure⟩] := by
  have hsingle : ∀ a : Attempt, a.sent = (change, sql) → a = ⟨change, sql, a.refusal⟩ := by
    rintro a hsent
    obtain ⟨rfl, rfl⟩ := Prod.mk.inj hsent
    rfl
  cases failure with
  | none =>
    obtain ⟨hsent, hnone⟩ := h
    obtain ⟨a, rfl, ha⟩ := List.map_eq_singleton_iff.1 hsent
    rw [hsingle a ha, hnone a List.mem_cons_self]
  | some e =>
    obtain ⟨hsent, done, last, rfl, hlast, -⟩ := h
    rw [List.map_append] at hsent
    have hdone : done = [] := by
      have hlength := hsent.length_le
      simpa using hlength
    subst hdone
    have ha : last.sent = (change, sql) := by simpa using hsent
    rw [List.nil_append, hsingle last ha, hlast]

theorem append_right {e : Error} (h : UpToRefusal statements as (some e))
    (statements' : List (Change × String)) : UpToRefusal (statements ++ statements') as (some e) :=
  ⟨h.1.trans (List.prefix_append _ _), h.2⟩

end UpToRefusal

theorem runFrom_runAll_cons (c : Connection σ) (sql : String) (statements : List String)
    (s : Session σ) : (c.runAll (sql :: statements)).runFrom s =
      match c.answer sql s.state with
      | (.ok _, y) => (c.runAll statements).runFrom { s with state := y }
      | (.error e, y) => (.error e, { s with state := y }) := by
  have hrun := c.runFrom_run sql s
  cases hanswer : c.answer sql s.state with
  | mk r y =>
    rw [hanswer] at hrun
    cases r with
    | ok rows => exact Action.runFrom_bind_ok ((Action.runFrom_bind_ok hrun).trans rfl)
    | error e => exact Action.runFrom_bind_error (Action.runFrom_bind_error hrun)

theorem runFrom_runAll (c : Connection σ) (change : Change) (statements : List String)
    (s : Session σ) : ∃ as failure y,
      (c.runAll statements).runFrom s = (Action.outcomeOf failure (), { s with state := y }) ∧
      Attempted c s.state as y ∧ UpToRefusal (statements.map (change, ·)) as failure := by
  induction statements generalizing s with
  | nil => exact ⟨[], none, s.state, rfl, .nil _, .nil⟩
  | cons sql statements ih =>
    rw [runFrom_runAll_cons]
    cases hanswer : c.answer sql s.state with
    | mk r y =>
      cases r with
      | ok rows =>
        obtain ⟨as, failure, z, hrest, hattempted, hupto⟩ := ih { s with state := y }
        exact ⟨⟨change, sql, none⟩ :: as, failure, z, hrest, .accepted hanswer hattempted,
          (UpToRefusal.accepted change sql).append hupto⟩
      | error e =>
        exact ⟨[⟨change, sql, some e⟩], some e, y, rfl, .refused hanswer (.nil y),
          (UpToRefusal.refused change sql e).append_right _⟩

theorem runFrom_runAll_singleton (c : Connection σ) (change : Change) (sql : String)
    (s : Session σ) : ∃ refusal y,
      (c.runAll [sql]).runFrom s = (Action.outcomeOf refusal (), { s with state := y }) ∧
      Attempted c s.state [⟨change, sql, refusal⟩] y := by
  obtain ⟨as, refusal, y, hrun, hattempted, hupto⟩ := runFrom_runAll c change [sql] s
  exact ⟨refusal, y, hrun, hupto.eq_of_singleton ▸ hattempted⟩

end Sync

end Polystore

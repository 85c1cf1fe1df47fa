import Polystore.Proofs.Introspect

/-!
# Cursors

A traced connection numbers the cursors that it gives out and notes each call on one of them, answered or
refused. A cursor that a program is run over has a lifetime of its own: it is opened, used and closed with
nothing in between, whatever fails on the way (`Action.between_withCursor`). A trace in which one lifetime
follows the other is orderly (`Succession.orderly`).

The queries through which SQLite's catalog is read give cursors as well. Their rows are fetched, and
nobody closes them.
-/

namespace Polystore

open Introspect (IsPragma)

variable {σ α : Type}

/-! ### Traces -/

/-- A call that concerns a cursor. -/
inductive CursorEvent where
  | opened (cursor : Nat)
  /-- No cursor was given. -/
  | notOpened
  | executed (cursor : Nat) (sql : String)
  | fetched (cursor : Nat)
  | closed (cursor : Nat)
  /-- A query of the connection itself was answered with a cursor. -/
  | queried (cursor : Nat) (sql : String)
  | notQueried (sql : String)
  deriving DecidableEq, Repr

namespace CursorEvent

/-- The cursor of an event. -/
def cursor? : CursorEvent → Option Nat
  | opened n | executed n _ | fetched n | closed n | queried n _ => some n
  | notOpened | notQueried _ => none

/-- The caller has a cursor from this event on. -/
def Obtains (n : Nat) : CursorEvent → Prop
  | opened m | queried m _ => m = n
  | _ => False

/-- A statement is run on a cursor, or its rows are fetched. -/
def Uses (n : Nat) : CursorEvent → Prop
  | executed m _ | fetched m => m = n
  | _ => False

theorem Uses.cursor?_eq {n : Nat} {e : CursorEvent} (h : e.Uses n) : e.cursor? = some n := by
  cases e with
  | executed m sql => exact congrArg some h
  | fetched m => exact congrArg some h
  | _ => exact h.elim

end CursorEvent

/-- The calls that concern a cursor are these ones, and they stand next to each other in a trace. -/
def Concern (n : Nat) (calls trace : List CursorEvent) : Prop :=
  ∃ before after, trace = before ++ (calls ++ after) ∧
    (∀ e ∈ before, e.cursor? ≠ some n) ∧ ∀ e ∈ after, e.cursor? ≠ some n

/-- A cursor is obtained, used, and closed once. In the meantime nothing else happens, and neither before
nor after it is touched. -/
def ClosedOnce (n : Nat) (trace : List CursorEvent) : Prop :=
  ∃ start used, start.Obtains n ∧ (∀ e ∈ used, e.Uses n) ∧
    Concern n (start :: (used ++ [.closed n])) trace

/-- A trace in which each opened cursor is closed once, and each query of the connection itself reads
SQLite's catalog through a cursor whose rows are fetched at once, and that is not touched again. -/
structure Orderly (trace : List CursorEvent) : Prop where
  closed (n : Nat) (h : .opened n ∈ trace) : ClosedOnce n trace
  queried (n : Nat) (sql : String) (h : .queried n sql ∈ trace) :
    IsPragma sql ∧ Concern n [.queried n sql, .fetched n] trace
  /-- No cursor is touched that was not obtained. -/
  obtained (n : Nat) (e : CursorEvent) (h : e ∈ trace) (hcursor : e.cursor? = some n) :
    ∃ start ∈ trace, start.Obtains n

/-! ### Lifetimes -/

/-- The calls that concern one cursor, from the first to the last. -/
inductive Lifetime (n : Nat) : List CursorEvent → Prop where
  | opened {used : List CursorEvent} (hused : ∀ e ∈ used, e.Uses n) :
      Lifetime n (.opened n :: (used ++ [.closed n]))
  | queried {sql : String} (hsql : IsPragma sql) : Lifetime n [.queried n sql, .fetched n]

namespace Lifetime

variable {n : Nat} {calls : List CursorEvent}

theorem cursor?_eq (h : Lifetime n calls) : ∀ e ∈ calls, e.cursor? = some n := by
  cases h with
  | opened hused =>
    exact List.forall_mem_cons.2 ⟨rfl, List.forall_mem_append.2
      ⟨fun e he => (hused e he).cursor?_eq, List.forall_mem_singleton.2 rfl⟩⟩
  | queried hsql => exact List.forall_mem_cons.2 ⟨rfl, List.forall_mem_singleton.2 rfl⟩

theorem exists_obtains (h : Lifetime n calls) : ∃ start ∈ calls, start.Obtains n := by
  cases h with
  | opened hused => exact ⟨_, List.mem_cons_self, rfl⟩
  | queried hsql => exact ⟨_, List.mem_cons_self, rfl⟩

theorem of_opened (h : Lifetime n calls) (hopened : .opened n ∈ calls) :
    ∃ used, calls = .opened n :: (used ++ [.closed n]) ∧ ∀ e ∈ used, e.Uses n := by
  cases h with
  | opened hused => exact ⟨_, rfl, hused⟩
  | queried hsql => simp at hopened

theorem of_queried (h : Lifetime n calls) {sql : String} (hqueried : .queried n sql ∈ calls) :
    calls = [.queried n sql, .fetched n] ∧ IsPragma sql := by
  cases h with
  | @opened used hused =>
    have hmem : .queried n sql ∈ used := by simpa using hqueried
    exact (hused _ hmem).elim
  | queried hsql =>
    obtain ⟨-, rfl⟩ : n = n ∧ sql = _ := by simpa using hqueried
    exact ⟨rfl, hsql⟩

end Lifetime

/-- A trace of lifetimes, one after the other, of the cursors that are given out between two numbers. -/
inductive Succession : Nat → List CursorEvent → Nat → Prop where
  | nil (n : Nat) : Succession n [] n
  /-- A call for which no cursor is given. -/
  | refused {n m : Nat} {e : CursorEvent} {trace : List CursorEvent} (he : e.cursor? = none)
      (hrest : Succession n trace m) : Succession n (e :: trace) m
  | lifetime {n m : Nat} {calls trace : List CursorEvent} (hcalls : Lifetime (n + 1) calls)
      (hrest : Succession (n + 1) trace m) : Succession n (calls ++ trace) m

namespace Succession

variable {k m n : Nat} {trace more : List CursorEvent}

theorem append (h : Succession n trace m) (h' : Succession m more k) :
    Succession n (trace ++ more) k := by
  induction h with
  | nil => exact h'
  | refused he _ ih => exact .refused he (ih h')
  | lifetime hcalls _ ih =>
    rw [List.append_assoc]
    exact .lifetime hcalls (ih h')

theorem lt_of_mem (h : Succession n trace m) {e : CursorEvent} (he : e ∈ trace) {i : Nat}
    (hi : e.cursor? = some i) : n < i := by
  induction h with
  | nil => exact absurd he List.not_mem_nil
  | refused hnone _ ih =>
    rcases List.mem_cons.1 he with rfl | he
    · rw [hnone] at hi
      cases hi
    · exact ih he
  | lifetime hcalls _ ih =>
    rcases List.mem_append.1 he with he | he
    · obtain rfl := Option.some.inj (hi.symm.trans (hcalls.cursor?_eq e he))
      exact Nat.lt_succ_self _
    · exact (Nat.lt_succ_self _).trans (ih he)

theorem exists_lifetime (h : Succession n trace m) {e : CursorEvent} (he : e ∈ trace) {i : Nat}
    (hi : e.cursor? = some i) : ∃ calls, e ∈ calls ∧ Lifetime i calls ∧ Concern i calls trace := by
  induction h with
  | nil => exact absurd he List.not_mem_nil
  | @refused n m e' trace hnone hrest ih =>
    rcases List.mem_cons.1 he with rfl | he
    · rw [hnone] at hi
      cases hi
    · obtain ⟨calls, hmem, hcalls, before, after, rfl, hbefore, hafter⟩ := ih he
      refine ⟨calls, hmem, hcalls, e' :: before, after, rfl, ?_, hafter⟩
      exact List.forall_mem_cons.2 ⟨fun heq => by simp [hnone] at heq, hbefore⟩
  | @lifetime n m calls trace hcalls hrest ih =>
    rcases List.mem_append.1 he with he | he
    · -- The cursor is the next one, and those that follow have greater numbers.
      obtain rfl := Option.some.inj (hi.symm.trans (hcalls.cursor?_eq e he))
      exact ⟨calls, he, hcalls, [], trace, rfl, List.forall_mem_nil _,
        fun e he heq => lt_irrefl _ (hrest.lt_of_mem he heq)⟩
    · have hlt := hrest.lt_of_mem he hi
      obtain ⟨calls', hmem, hcalls', before, after, rfl, hbefore, hafter⟩ := ih he
      refine ⟨calls', hmem, hcalls', calls ++ before, after, (List.append_assoc ..).symm, ?_, hafter⟩
      refine List.forall_mem_append.2 ⟨fun e' he' heq => ?_, hbefore⟩
      have hnext := Option.some.inj ((hcalls.cursor?_eq e' he').symm.trans heq)
      exact absurd hnext hlt.ne

theorem orderly (h : Succession n trace m) : Orderly trace where
  closed i hi := by
    obtain ⟨calls, hmem, hcalls, hconcern⟩ := h.exists_lifetime hi rfl
    obtain ⟨used, rfl, hused⟩ := hcalls.of_opened hmem
    exact ⟨.opened i, used, rfl, hused, hconcern⟩
  queried i sql hi := by
    obtain ⟨calls, hmem, hcalls, hconcern⟩ := h.exists_lifetime hi rfl
    obtain ⟨rfl, hsql⟩ := hcalls.of_queried hmem
    exact ⟨hsql, hconcern⟩
  obtained i e he hi := by
    obtain ⟨calls, hmem, hcalls, before, after, rfl, -⟩ := h.exists_lifetime he hi
    obtain ⟨start, hstart, hobtains⟩ := hcalls.exists_obtains
    exact ⟨start, by simp [hstart], hobtains⟩

end Succession

/-! ### Traced connections -/

/-- A store with the cursors that its connection has given out. -/
structure Traced (σ : Type) where
  store : σ
  /-- How many there were. -/
  given : Nat := 0
  /-- The one that was given last, to which calls on a cursor go. -/
  current : Nat := 0
  trace : List CursorEvent := []

namespace Traced

/-- Notes a call that leads to another store. -/
def note (x : Traced σ) (store : σ) (e : CursorEvent) : Traced σ :=
  { x with store, trace := x.trace ++ [e] }

/-- Between two states, nothing but uses of the open cursor happens. -/
def Within (x y : Traced σ) : Prop :=
  y.given = x.given ∧ y.current = x.current ∧
    ∃ used, y.trace = x.trace ++ used ∧ ∀ e ∈ used, e.Uses x.current

/-- Between two states, one lifetime follows the other. -/
def Between (x y : Traced σ) : Prop :=
  ∃ trace, y.trace = x.trace ++ trace ∧ Succession x.given trace y.given

instance : IsPreorder (Traced σ) Within where
  refl x := ⟨rfl, rfl, [], (List.append_nil _).symm, List.forall_mem_nil _⟩
  trans x y z h h' := by
    obtain ⟨hgiven, hcurrent, used, htrace, hused⟩ := h
    obtain ⟨hgiven', hcurrent', used', htrace', hused'⟩ := h'
    refine ⟨hgiven'.trans hgiven, hcurrent'.trans hcurrent, used ++ used', ?_, ?_⟩
    · rw [htrace', htrace, List.append_assoc]
    · exact List.forall_mem_append.2 ⟨hused, hcurrent ▸ hused'⟩

instance : IsPreorder (Traced σ) Between where
  refl x := ⟨[], (List.append_nil _).symm, .nil _⟩
  trans x y z h h' := by
    obtain ⟨trace, htrace, hlifetimes⟩ := h
    obtain ⟨trace', htrace', hlifetimes'⟩ := h'
    refine ⟨trace ++ trace', ?_, hlifetimes.append hlifetimes'⟩
    rw [htrace', htrace, List.append_assoc]

end Traced

/-- A connection that answers as another one does and keeps a trace. -/
def Connection.traced (c : Connection σ) : Connection (Traced σ) where
  openCursor x :=
    match c.openCursor x.store with
    | (.ok _, store) =>
      (.ok (), { x.note store (.opened (x.given + 1)) with
        given := x.given + 1, current := x.given + 1 })
    | (.error e, store) => (.error e, x.note store .notOpened)
  execute sql parameters x :=
    let (answer, store) := c.execute sql parameters x.store
    (answer, x.note store (.executed x.current sql))
  fetch x :=
    let (answer, store) := c.fetch x.store
    (answer, x.note store (.fetched x.current))
  closeCursor x :=
    let (answer, store) := c.closeCursor x.store
    (answer, x.note store (.closed x.current))
  query sql x :=
    match c.query sql x.store with
    | (.ok _, store) =>
      (.ok (), { x.note store (.queried (x.given + 1) sql) with
        given := x.given + 1, current := x.given + 1 })
    | (.error e, store) => (.error e, x.note store (.notQueried sql))

theorem Connection.traced_agrees (c : Connection σ) (x : Traced σ) :
    Prod.map id Traced.store (c.traced.openCursor x) = c.openCursor x.store ∧
    (∀ sql parameters, Prod.map id Traced.store (c.traced.execute sql parameters x) =
      c.execute sql parameters x.store) ∧
    Prod.map id Traced.store (c.traced.fetch x) = c.fetch x.store ∧
    Prod.map id Traced.store (c.traced.closeCursor x) = c.closeCursor x.store ∧
    ∀ sql, Prod.map id Traced.store (c.traced.query sql x) = c.query sql x.store := by
  refine ⟨?_, fun sql parameters => rfl, rfl, rfl, fun sql => ?_⟩
  · simp only [Connection.traced]
    cases c.openCursor x.store with
    | mk answer store => cases answer <;> rfl
  · simp only [Connection.traced]
    cases c.query sql x.store with
    | mk answer store => cases answer <;> rfl

/-! ### Programs over a traced connection -/

namespace Action

open Traced (Within Between)

variable {c : Connection σ}

theorem within_execute (sql : String) (parameters : Option (List Value)) :
    (step (c.traced.execute sql parameters)).Moves Within :=
  .step fun x => ⟨rfl, rfl, [.executed x.current sql], rfl, List.forall_mem_singleton.2 rfl⟩

theorem within_fetch : (step c.traced.fetch).Moves Within :=
  .step fun x => ⟨rfl, rfl, [.fetched x.current], rfl, List.forall_mem_singleton.2 rfl⟩

/-- A query whose rows are fetched becomes a lifetime, also if fetching them fails. -/
theorem between_queryRows {sql : String} (hsql : IsPragma sql) :
    (Introspect.queryRows c.traced sql).Moves Between := by
  intro s
  unfold Introspect.queryRows
  cases hquery : c.query sql s.state.store with
  | mk answer store =>
    cases answer with
    | error e =>
      have hrun : (step (c.traced.query sql)).runFrom s =
          (.error e, { s with state := s.state.note store (.notQueried sql) }) := by
        simp only [runFrom_step, Connection.traced, hquery]
      rw [runFrom_bind_error hrun]
      exact ⟨[.notQueried sql], rfl, .refused rfl (.nil _)⟩
    | ok v =>
      let x : Traced σ := { s.state.note store (.queried (s.state.given + 1) sql) with
        given := s.state.given + 1, current := s.state.given + 1 }
      have hrun : (step (c.traced.query sql)).runFrom s = (.ok (), { s with state := x }) := by
        simp only [runFrom_step, Connection.traced, hquery, x]
      rw [runFrom_bind_ok hrun]
      refine state_bind (I := fun s' => Between s.state s'.state) ?_ fun v s' hs' => hs'
      refine ⟨[.queried x.current sql, .fetched x.current], ?_, .lifetime (.queried hsql) (.nil _)⟩
      show _ ++ [CursorEvent.fetched _] = _
      simp [x, Traced.note]

/-- What is done within a cursor becomes a lifetime, also if opening it, or the work itself, fails. -/
theorem between_withCursor {body : Action (Traced σ) α} (h : body.Moves Within) :
    (c.traced.withCursor body).Moves Between := by
  intro s
  unfold Connection.withCursor
  cases hopen : c.openCursor s.state.store with
  | mk answer store =>
    cases answer with
    | error e =>
      have hrun : (step c.traced.openCursor).runFrom s =
          (.error e, { s with state := s.state.note store .notOpened }) := by
        simp only [runFrom_step, Connection.traced, hopen]
      rw [runFrom_bind_error hrun]
      exact ⟨[.notOpened], rfl, .refused rfl (.nil _)⟩
    | ok v =>
      let x : Traced σ := { s.state.note store (.opened (s.state.given + 1)) with
        given := s.state.given + 1, current := s.state.given + 1 }
      have hrun : (step c.traced.openCursor).runFrom s = (.ok (), { s with state := x }) := by
        simp only [runFrom_step, Connection.traced, hopen, x]
      rw [runFrom_bind_ok hrun, runFrom_bind_ok (runFrom_attempt ..)]
      obtain ⟨hgiven, hcurrent, used, htrace, hused⟩ := h { s with state := x }
      -- The outcome of the work is given back after the cursor is closed, and changes nothing.
      refine state_bind (I := fun s' => Between s.state s'.state) ?_ fun v s' hs' => hs'
      refine ⟨.opened x.current :: (used ++ [.closed x.current]), ?_, ?_⟩
      · show _ ++ [CursorEvent.closed _] = _
        rw [hcurrent, htrace]
        simp [x, Traced.note]
      · have hlife := Succession.lifetime (.opened hused) (.nil x.given)
        rw [List.append_nil] at hlife
        exact hgiven ▸ hlife

end Action

end Polystore

import Mathlib
import Polystore.Connection.Basic

/-!
# Running programs over a store

What a program does from a session, by the way in which it is made: one law for each combinator, and
`Runs` for a program that is run on the elements of a list up to the first failure. A preorder on the
states that holds across the parts of a program holds across the whole (`Moves`).
-/

namespace Polystore.Action

variable {σ α β : Type}

/-! ### Combinators -/

theorem runFrom_pure (v : α) (s : Session σ) : (pure v : Action σ α).runFrom s = (.ok v, s) := rfl

theorem runFrom_step (f : σ → Except Error α × σ) (s : Session σ) :
    (step f).runFrom s = ((f s.state).1, { s with state := (f s.state).2 }) := rfl

theorem runFrom_note (level : LogLevel) (source : LogSource) (text : String) (s : Session σ) :
    (note level source text).runFrom s = (.ok (), { s with log := s.log ++ [⟨level, source, text⟩] }) :=
  rfl

theorem runFrom_attempt (a : Action σ α) (s : Session σ) :
    a.attempt.runFrom s = (.ok (a.runFrom s).1, (a.runFrom s).2) := rfl

theorem runFrom_ofFun (f : Session σ → Except Error α × Session σ) (s : Session σ) :
    (ofFun f).runFrom s = f s := rfl

theorem runFrom_mapError (f : Error → Error) (a : Action σ α) (s : Session σ) :
    (a.mapError f).runFrom s = ((a.runFrom s).1.mapError f, (a.runFrom s).2) := by
  rw [mapError, runFrom_ofFun]
  cases a.runFrom s with
  | mk r s' => cases r <;> rfl

theorem runFrom_bind_ok {a : Action σ α} {f : α → Action σ β} {v : α} {s s' : Session σ}
    (h : a.runFrom s = (.ok v, s')) : (a >>= f).runFrom s = (f v).runFrom s' := by
  unfold runFrom at h ⊢
  simp only [ExceptT.run_bind, StateT.run_bind, h]
  rfl

theorem runFrom_bind_error {a : Action σ α} {f : α → Action σ β} {e : Error} {s s' : Session σ}
    (h : a.runFrom s = (.error e, s')) : (a >>= f).runFrom s = (.error e, s') := by
  unfold runFrom at h ⊢
  simp only [ExceptT.run_bind, StateT.run_bind, h]
  rfl

theorem exists_of_bind_ok {a : Action σ α} {f : α → Action σ β} {w : β} {s s' : Session σ}
    (h : (a >>= f).runFrom s = (.ok w, s')) :
    ∃ v s₁, a.runFrom s = (.ok v, s₁) ∧ (f v).runFrom s₁ = (.ok w, s') := by
  cases hrun : a.runFrom s with
  | mk r s₁ =>
    cases r with
    | ok v => exact ⟨v, s₁, rfl, (runFrom_bind_ok hrun).symm.trans h⟩
    | error e =>
      rw [runFrom_bind_error hrun] at h
      exact absurd (Prod.mk.inj h).1 (by simp)

theorem state_bind {I : Session σ → Prop} {a : Action σ α} {f : α → Action σ β} {s : Session σ}
    (ha : I (a.runFrom s).2) (hf : ∀ v s', I s' → I ((f v).runFrom s').2) :
    I ((a >>= f).runFrom s).2 := by
  cases hrun : a.runFrom s with
  | mk r s' =>
    rw [hrun] at ha
    cases r with
    | ok v =>
      rw [runFrom_bind_ok hrun]
      exact hf v s' ha
    | error e =>
      rw [runFrom_bind_error hrun]
      exact ha

/-! ### Lists -/

/-- The runs of a program on the elements of a list, one after the other up to the first that fails:
the elements on which it succeeded with its answers, and the failure. -/
inductive Runs (f : α → Action σ β) :
    List α → Session σ → List (α × β) → Option Error → Session σ → Prop where
  | nil (s : Session σ) : Runs f [] s [] none s
  | ok {a : α} {as : List α} {b : β} {done : List (α × β)} {failure : Option Error}
      {s s₁ s₂ : Session σ} (hfirst : (f a).runFrom s = (.ok b, s₁))
      (hrest : Runs f as s₁ done failure s₂) : Runs f (a :: as) s ((a, b) :: done) failure s₂
  | error {a : α} {as : List α} {e : Error} {s s₁ : Session σ}
      (hfirst : (f a).runFrom s = (.error e, s₁)) : Runs f (a :: as) s [] (some e) s₁

theorem exists_runs (f : α → Action σ β) (as : List α) (s : Session σ) :
    ∃ done failure s', Runs f as s done failure s' := by
  induction as generalizing s with
  | nil => exact ⟨[], none, s, .nil s⟩
  | cons a as ih =>
    cases hfirst : (f a).runFrom s with
    | mk r s₁ =>
      cases r with
      | ok b =>
        obtain ⟨done, failure, s', hrest⟩ := ih s₁
        exact ⟨_, _, _, .ok hfirst hrest⟩
      | error e => exact ⟨_, _, _, .error hfirst⟩

theorem Runs.eq_map {f : α → Action σ β} {answer : α → β}
    (h : ∀ a b s s', (f a).runFrom s = (.ok b, s') → b = answer a) {as : List α}
    {done : List (α × β)} {s s' : Session σ} (hruns : Runs f as s done none s') :
    done = as.map fun a => (a, answer a) := by
  generalize hfailure : (none : Option Error) = failure at hruns
  induction hruns with
  | nil s => rfl
  | ok hfirst _ ih => rw [h _ _ _ _ hfirst, ih hfailure, List.map_cons]
  | error hfirst => exact absurd hfailure (by simp)

/-- How a program over a list ends, by the failure of the last run if there is one. -/
def outcomeOf (failure : Option Error) (v : β) : Except Error β :=
  failure.elim (.ok v) .error

theorem runFrom_forM {f : α → Action σ Unit} {as : List α} {s s' : Session σ}
    {done : List (α × Unit)} {failure : Option Error} (h : Runs f as s done failure s') :
    (as.forM f).runFrom s = (outcomeOf failure (), s') := by
  induction h with
  | nil s => rfl
  | ok hfirst _ ih => exact (runFrom_bind_ok hfirst).trans ih
  | error hfirst => exact runFrom_bind_error hfirst

theorem runFrom_filterAuxM {f : α → Action σ Bool} {as : List α} {s s' : Session σ}
    {done : List (α × Bool)} {failure : Option Error} (h : Runs f as s done failure s')
    (kept : List α) :
    (List.filterAuxM f as kept).runFrom s =
      (outcomeOf failure (((done.filter (·.2)).map (·.1)).reverse ++ kept), s') := by
  induction h generalizing kept with
  | nil s => rfl
  | @ok a as b done failure s s₁ s₂ hfirst _ ih =>
    refine (runFrom_bind_ok hfirst).trans ((ih _).trans ?_)
    cases b <;> simp
  | error hfirst => exact runFrom_bind_error hfirst

theorem runFrom_filterM {f : α → Action σ Bool} {as : List α} {s s' : Session σ}
    {done : List (α × Bool)} {failure : Option Error} (h : Runs f as s done failure s') :
    (as.filterM f).runFrom s = (outcomeOf failure ((done.filter (·.2)).map (·.1)), s') := by
  have hrun := runFrom_filterAuxM h []
  cases failure with
  | none =>
    refine (runFrom_bind_ok hrun).trans ?_
    rw [runFrom_pure, List.append_nil, List.reverse_reverse]
    rfl
  | some e => exact runFrom_bind_error hrun

/-! ### From state to state -/

/-- A program whose last state is related to its first one, however it ends. -/
def Moves (R : σ → σ → Prop) (a : Action σ α) : Prop :=
  ∀ s, R s.state (a.runFrom s).2.state

namespace Moves

variable {R : σ → σ → Prop}

theorem step {f : σ → Except Error α × σ} (h : ∀ x, R x (f x).2) : (Action.step f).Moves R :=
  fun s => h s.state

theorem attempt {a : Action σ α} (h : a.Moves R) : a.attempt.Moves R :=
  h

theorem mapError {a : Action σ α} (f : Error → Error) (h : a.Moves R) : (a.mapError f).Moves R := by
  intro s
  rw [runFrom_mapError]
  exact h s

variable [IsPreorder σ R]

theorem lift (r : Except Error α) : (Action.lift r : Action σ α).Moves R :=
  fun s => refl s.state

theorem note (level : LogLevel) (source : LogSource) (text : String) :
    (Action.note level source text : Action σ Unit).Moves R :=
  fun s => refl s.state

theorem bind {a : Action σ α} {f : α → Action σ β} (h : a.Moves R) (hf : ∀ v, (f v).Moves R) :
    (a >>= f).Moves R :=
  fun s => state_bind (I := fun s' => R s.state s'.state) (h s)
    fun v s' hs' => IsTrans.trans _ _ _ hs' (hf v s')

theorem forM {f : α → Action σ Unit} {as : List α} (h : ∀ a ∈ as, (f a).Moves R) :
    (as.forM f).Moves R := by
  induction as with
  | nil => exact lift (.ok ())
  | cons a as ih =>
    obtain ⟨hfirst, hrest⟩ := List.forall_mem_cons.1 h
    exact hfirst.bind fun _ => ih hrest

theorem foldlM {f : β → α → Action σ β} (h : ∀ b a, (f b a).Moves R) (as : List α) (b : β) :
    (as.foldlM f b).Moves R := by
  induction as generalizing b with
  | nil => exact lift (.ok b)
  | cons a as ih => exact (h b a).bind fun b => ih b

theorem filterM {f : α → Action σ Bool} (h : ∀ a, (f a).Moves R) (as : List α) :
    (as.filterM f).Moves R := by
  have haux : ∀ kept, (List.filterAuxM f as kept).Moves R := by
    induction as with
    | nil => exact fun kept => lift (.ok kept)
    | cons a as ih => exact fun kept => (h a).bind fun b => ih _
  exact (haux []).bind fun kept => lift (.ok kept.reverse)

end Moves

end Polystore.Action

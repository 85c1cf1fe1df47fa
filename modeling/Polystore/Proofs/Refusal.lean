import Polystore.Change
import Polystore.Proofs.Action
import Polystore.Proofs.Outcome

/-!
# Refusals

What a checked computation can fail with: `FailsOnly` bounds its errors by a predicate and has a law for
each way in which computations are put together. The computations that write names refuse nothing but
names.
-/

namespace Polystore

variable {α β ε ε' : Type}

theorem Error.cause?_ne_self (e : Error) : e.cause? ≠ some e := by
  have hsmaller : ∀ cause, e.cause? = some cause → sizeOf cause < sizeOf e := by
    intro cause h
    unfold cause? at h
    split at h <;> cases h <;> simp
  exact fun h => absurd (hsmaller e h) (lt_irrefl _)

/-- A computation that refuses only as a predicate on its errors says. -/
def FailsOnly (P : ε → Prop) (x : Except ε α) : Prop :=
  ∀ e, x = .error e → P e

namespace FailsOnly

variable {P Q : ε → Prop}

theorem ok (a : α) : FailsOnly P (.ok a : Except ε α) := by
  intro e h
  cases h

theorem error {e : ε} (h : P e) : FailsOnly P (.error e : Except ε α) := by
  rintro _ ⟨⟩
  exact h

theorem mono {x : Except ε α} (hx : FailsOnly P x) (h : ∀ e, P e → Q e) : FailsOnly Q x :=
  fun e he => h e (hx e he)

theorem bind {x : Except ε α} {f : α → Except ε β} (hx : FailsOnly P x)
    (hf : ∀ a, x = .ok a → FailsOnly P (f a)) : FailsOnly P (x >>= f) := by
  intro e h
  rcases bind_eq_error.1 h with h | ⟨a, ha, h⟩
  · exact hx e h
  · exact hf a ha e h

theorem guard {p : Prop} [Decidable p] {e : ε} {x : Except ε α} (he : P e) (hx : FailsOnly P x) :
    FailsOnly P (do
      if p then throw e
      x) := by
  by_cases hp : p
  · rw [if_pos hp]
    exact error he
  · rw [if_neg hp]
    exact hx

theorem map {x : Except ε α} (f : α → β) (hx : FailsOnly P x) : FailsOnly P (x.map f) := by
  cases x with
  | ok a => exact ok _
  | error e => exact error (hx e rfl)

theorem mapError {P : ε' → Prop} {x : Except ε α} (f : ε → ε') (hx : FailsOnly (fun e => P (f e)) x) :
    FailsOnly P (x.mapError f) := by
  cases x with
  | ok a => exact ok _
  | error e => exact error (hx e rfl)

theorem mapM {f : α → Except ε β} {as : List α} (h : ∀ a ∈ as, FailsOnly P (f a)) :
    FailsOnly P (as.mapM f) := by
  induction as with
  | nil => exact ok []
  | cons a as ih =>
    obtain ⟨ha, has⟩ := List.forall_mem_cons.1 h
    rw [List.mapM_cons]
    exact ha.bind fun b _ => (ih has).bind fun bs _ => ok (b :: bs)

end FailsOnly

/-! ### Numbers of too many digits -/

/-- An error whose text shows a value is that error, unless the value cannot be shown. -/
theorem Error.showing_cases (v : Value) (e : Error) :
    v.isShowable = true ∧ showing [v] e = e ∨
      v.isShowable = false ∧ showing [v] e = .fault (.tooManyDigits none) := by
  cases h : v.isShowable with
  | true => exact .inl ⟨rfl, showing_of_isShowable (by simpa using h) e⟩
  | false => exact .inr ⟨rfl, showing_of_not_isShowable (List.mem_singleton.2 rfl) h e⟩

/-- An error as one predicate says, or a fault as another one says. -/
def Error.OrFault (P : Error → Prop) (Q : Fault → Prop) (e : Error) : Prop :=
  P e ∨ ∃ f, e = .fault f ∧ Q f

namespace Error.OrFault

variable {P P' : Error → Prop} {Q Q' : Fault → Prop} {e : Error}

theorem imp (h : OrFault P Q e) (hP : P e → P' e) (hQ : ∀ f, Q f → Q' f) : OrFault P' Q' e :=
  Or.imp hP (fun ⟨f, he, hf⟩ => ⟨f, he, hQ f hf⟩) h

theorem mono (h : OrFault P Q e) (hQ : ∀ f, Q f → Q' f) : OrFault P Q' e :=
  h.imp id hQ

theorem showing {v : Value} (he : P e) (hv : v.isShowable = false → Q (.tooManyDigits none)) :
    OrFault P Q (.showing [v] e) := by
  obtain ⟨-, h⟩ | ⟨hlong, h⟩ := showing_cases v e
  · rw [h]
    exact .inl he
  · rw [h]
    exact .inr ⟨_, rfl, hv hlong⟩

end Error.OrFault

theorem FailsOnly.mono_orFault {P : Error → Prop} {Q Q' : Fault → Prop} {x : Except Error α}
    (hx : FailsOnly (Error.OrFault P Q) x) (h : ∀ f, Q f → Q' f) : FailsOnly (Error.OrFault P Q') x :=
  hx.mono fun _ he => he.mono h

theorem Value.toText_fails (v : Value) :
    FailsOnly (fun e => e = .fault (.tooManyDigits none) ∧ v.isShowable = false) v.toText := by
  cases h : v.isShowable with
  | true =>
    rw [toText_of_isShowable h]
    exact .ok _
  | false =>
    rw [toText_of_not_isShowable h]
    exact .error ⟨rfl, rfl⟩

/-! ### Programs over a store -/

namespace Action

variable {σ : Type} {P : Error → Prop}

/-- A program that fails, from whatever session, only as a predicate on its errors says. -/
def FailsOnly (P : Error → Prop) (a : Action σ α) : Prop :=
  ∀ s, Polystore.FailsOnly P (a.runFrom s).1

namespace FailsOnly

theorem pure (v : α) : FailsOnly P (Pure.pure v : Action σ α) := fun _ => .ok v

theorem lift {r : Except Error α} (h : Polystore.FailsOnly P r) :
    FailsOnly P (Action.lift r : Action σ α) := fun _ => h

theorem mapError {f : Error → Error} {a : Action σ α} (h : ∀ e, P (f e)) :
    FailsOnly P (a.mapError f) := by
  intro s
  rw [runFrom_mapError]
  exact .mapError f fun e _ => h e

theorem bind {a : Action σ α} {f : α → Action σ β} (ha : FailsOnly P a)
    (hf : ∀ v, FailsOnly P (f v)) : FailsOnly P (a >>= f) := by
  intro s
  cases hrun : a.runFrom s with
  | mk r s' =>
    cases r with
    | ok v =>
      rw [runFrom_bind_ok hrun]
      exact hf v s'
    | error e =>
      rw [runFrom_bind_error hrun]
      exact .error (ha s e (by rw [hrun]))

end FailsOnly

end Action

/-! ### Refused names -/

/-- A computation that refuses nothing but names. -/
def RefusesNames (x : Except Error α) : Prop :=
  FailsOnly (fun e => ∃ fault, e = .name fault) x

namespace RefusesNames

theorem checkNoNull (context name : String) : RefusesNames (Identifier.checkNoNull context name) := by
  unfold Identifier.checkNoNull
  split
  · exact .error ⟨_, rfl⟩
  · exact .ok _

theorem validate (limit : Int) (name : String) : RefusesNames (Identifier.validate limit name) := by
  refine .guard ⟨_, rfl⟩ ((checkNoNull _ _).bind fun _ _ => .guard ⟨_, rfl⟩ ?_)
  split
  · exact .ok _
  · exact .error ⟨_, rfl⟩

theorem quoteValid (d : SqlDialect) (name : String) : RefusesNames (d.quoteValid name) :=
  (validate _ _).bind fun _ _ => (checkNoNull _ _).bind fun _ _ => .ok _

theorem renderField (d : SqlDialect) (name : String) : RefusesNames (d.renderField name) := by
  refine (validate _ _).bind fun _ _ => ?_
  split
  · exact (checkNoNull _ _).bind fun _ _ => .ok _
  · exact .ok _

theorem createIndex (d : SqlDialect) (table name : String) (fields : List (String × Int))
    (unique : Bool) : RefusesNames (Ddl.createIndex d table name fields unique) := by
  have hfield : ∀ f ∈ fields, RefusesNames (Ddl.indexField d f) :=
    fun f _ => (renderField d f.1).bind fun _ _ => .ok _
  exact (quoteValid d name).bind fun _ _ => (quoteValid d table).bind fun _ _ =>
    (FailsOnly.mapM hfield).bind fun _ _ => .ok _

end RefusesNames

/-! ### Errors of compilation -/

/-- The errors of compilation. -/
def Error.OfCompilation (e : Error) : Prop :=
  e.isA .compile = true

theorem Error.ofCompilation_of_kind {e : Error} {k : Kind} (h : e.kind? = some k)
    (hk : k.lineage.contains .compile = true) : e.OfCompilation := by
  rw [OfCompilation, isA, h]
  exact hk

end Polystore

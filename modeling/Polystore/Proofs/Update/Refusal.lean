import Polystore.Proofs.Refusal
import Polystore.Update.Reading

/-!
# Updates that cannot be read

An update is refused with an error of its own, with one exception: the text of an error shows a key, a
name or an operand, which a whole number of too many digits refuses. `Faults` says when reading comes upon
such a value.

Main statements: `read_fails` and `read_of_faults`.
-/

namespace Polystore

/-- The errors of reading an update. -/
def Error.OfUpdate (e : Error) : Prop :=
  e.kind? = some .invalidUpdate

/-- An error as a predicate says, or one whose text cannot be written, where another one holds. -/
abbrev Error.OrDigits (P : Error → Prop) (Q : Prop) : Error → Prop :=
  OrFault P fun f => f = .tooManyDigits none ∧ Q

theorem FailsOnly.mono_orDigits {α : Type} {P : Error → Prop} {Q Q' : Prop} {x : Except Error α}
    (hx : FailsOnly (Error.OrDigits P Q) x) (h : Q → Q') : FailsOnly (Error.OrDigits P Q') x :=
  hx.mono_orFault fun _ => And.imp_right h

/-- Among elements that are read in turn, the first that is not read has a property. -/
inductive FirstRefused {α β : Type} (read : α → Except Error β) (P : α → Prop) : List α → Prop where
  | here {a : α} {as : List α} (h : P a) : FirstRefused read P (a :: as)
  | later {a : α} {as : List α} {b : β} (hread : read a = .ok b) (h : FirstRefused read P as) :
      FirstRefused read P (a :: as)

namespace FirstRefused

variable {α β : Type} {read : α → Except Error β} {P : α → Prop} {as : List α}

theorem mapM_fails {Q : Error → Prop} (hread : ∀ a, FailsOnly (Error.OrDigits Q (P a)) (read a))
    (as : List α) : FailsOnly (Error.OrDigits Q (FirstRefused read P as)) (as.mapM read) := by
  induction as with
  | nil => exact .ok _
  | cons a as ih =>
    rw [List.mapM_cons]
    refine ((hread a).mono_orDigits fun h => .here h).bind fun b hb => ?_
    exact (ih.mono_orDigits fun h => .later hb h).bind fun _ _ => .ok _

theorem mapM_eq_error {e : Error} (hread : ∀ a, P a → read a = .error e) (h : FirstRefused read P as) :
    as.mapM read = .error e := by
  induction h with
  | here ha =>
    rw [List.mapM_cons, hread _ ha]
    rfl
  | later hb _ ih =>
    rw [List.mapM_cons, hb, ih]
    rfl

end FirstRefused

theorem Name.ofValue?_of_not_isShowable {v : Value} (h : v.isShowable = false) : ofValue? v = none := by
  cases v with
  | str | fieldType => cases h
  | _ => rfl

namespace Update

variable {operator : String} {b : Bucket} {es : List (Value × Value)} {keys : List Value} {k v : Value}

/-! ### Keys -/

/-- The first key that is no text. -/
def foreignKey? (keys : List Value) : Option Value :=
  keys.find? fun k => (Name.ofValue? k).isNone

theorem foreignKey?_cons_of_none (h : Name.ofValue? k = none) (keys : List Value) :
    foreignKey? (k :: keys) = some k := by
  rw [foreignKey?, List.find?_cons, h]
  rfl

theorem foreignKey?_cons_of_some {name : Name} (h : Name.ofValue? k = some name) (keys : List Value) :
    foreignKey? (k :: keys) = foreignKey? keys := by
  rw [foreignKey?, List.find?_cons, h]
  rfl

theorem keyNames_of_foreignKey? (h : foreignKey? keys = some k) :
    keyNames keys = .error (.showing [k] (.update (.keyNotText k))) := by
  induction keys with
  | nil => cases h
  | cons key keys ih =>
    rw [keyNames]
    cases hname : Name.ofValue? key with
    | none =>
      obtain rfl := Option.some.inj ((foreignKey?_cons_of_none hname keys).symm.trans h)
      rfl
    | some name =>
      simp only [ih ((foreignKey?_cons_of_some hname keys).symm.trans h)]
      rfl

theorem exists_keyNames (h : foreignKey? keys = none) : ∃ names, keyNames keys = .ok names := by
  induction keys with
  | nil => exact ⟨[], rfl⟩
  | cons key keys ih =>
    rw [keyNames]
    cases hname : Name.ofValue? key with
    | none => exact absurd ((foreignKey?_cons_of_none hname keys).symm.trans h) (Option.some_ne_none _)
    | some name =>
      obtain ⟨names, hnames⟩ := ih ((foreignKey?_cons_of_some hname keys).symm.trans h)
      exact ⟨name :: names, by simp only [hnames]; rfl⟩

/-! ### Names and operands -/

theorem fieldName_fails (operator : String) (name : Value) :
    FailsOnly (Error.OrDigits Error.OfUpdate (name.isShowable = false)) (fieldName operator name) := by
  unfold fieldName
  cases Name.ofValue? name with
  | none => exact .error (.showing rfl fun hlong => ⟨rfl, hlong⟩)
  | some n =>
    simp only
    split
    · exact .error (.inl rfl)
    · exact .ok _

theorem fieldName_of_not_isShowable {name : Value} (h : name.isShowable = false) (operator : String) :
    fieldName operator name = .error (.fault (.tooManyDigits none)) := by
  rw [fieldName, Name.ofValue?_of_not_isShowable h]
  exact congrArg Except.error (Error.showing_of_not_isShowable (List.mem_singleton.2 rfl) h _)

/-- A field under an operator is refused with a fault: its name cannot be shown, or an amount that is no
number cannot. -/
inductive FieldFaults (operator : String) (b : Bucket) (e : Value × Value) : Prop where
  | name (h : e.1.isShowable = false)
  | amount {name : Name} (hname : fieldName operator e.1 = .ok name) (hb : b = .increment)
      (hnumber : e.2.isNumeric = false) (hlong : e.2.isShowable = false)

theorem readField_fails (operator : String) (b : Bucket) (e : Value × Value) :
    FailsOnly (Error.OrDigits Error.OfUpdate (FieldFaults operator b e)) (readField operator b e) := by
  refine ((fieldName_fails operator e.1).mono_orDigits fun h => .name h).bind
    fun name hname => ?_
  by_cases hguard : b = .increment ∧ e.2.isNumeric = false
  · rw [if_pos hguard]
    exact .error (.showing rfl fun hlong => ⟨rfl, .amount hname hguard.1 hguard.2 hlong⟩)
  · rw [if_neg hguard]
    exact .ok _

theorem readField_of_faults {e : Value × Value} (h : FieldFaults operator b e) :
    readField operator b e = .error (.fault (.tooManyDigits none)) := by
  cases h with
  | name hlong => exact bind_eq_error.2 (.inl (fieldName_of_not_isShowable hlong operator))
  | amount hname hb hnumber hlong =>
    refine bind_eq_error.2 (.inr ⟨_, hname, ?_⟩)
    rw [if_pos ⟨hb, hnumber⟩]
    exact congrArg Except.error (Error.showing_of_not_isShowable (List.mem_singleton.2 rfl) hlong _)

/-- The names that an operand of removal gives. -/
inductive Removes : Value → List Value → Prop where
  | keys (es : List (Value × Value)) : Removes (.map es) (es.map (·.1))
  | elements {operand : Value} {names : List Value} (h : operand.sequence? = some names) :
      Removes operand names

/-- What stands under an operator is refused with a fault, for the first field that is not read. -/
inductive OperandFaults (operator : String) : Bucket → Value → Prop where
  | names {operand : Value} {names : List Value} (hnames : Removes operand names)
      (h : FirstRefused (fieldName operator) (·.isShowable = false) names) :
      OperandFaults operator .remove operand
  | fields {b : Bucket} {es : List (Value × Value)} (hb : b ≠ .remove)
      (h : FirstRefused (readField operator b) (FieldFaults operator b) es) :
      OperandFaults operator b (.map es)

theorem removalNames_of_removes {operand : Value} {names : List Value} (h : Removes operand names)
    (operator : String) : removalNames operator operand = names.mapM (fieldName operator) := by
  cases h with
  | keys es => rfl
  | elements h =>
    cases operand with
    | list | tuple =>
      cases h
      rfl
    | _ => cases h

theorem removalNames_fails (operator : String) (operand : Value) :
    FailsOnly (Error.OrDigits Error.OfUpdate (OperandFaults operator .remove operand))
      (removalNames operator operand) := by
  have hnames : ∀ {names : List Value}, Removes operand names →
      FailsOnly (Error.OrDigits Error.OfUpdate (OperandFaults operator .remove operand))
        (removalNames operator operand) := by
    intro names h
    rw [removalNames_of_removes h]
    exact (FirstRefused.mapM_fails (fieldName_fails operator) names).mono_orDigits
      fun hfirst => .names h hfirst
  cases operand with
  | map es => exact hnames (.keys es)
  | list xs => exact hnames (.elements rfl)
  | tuple xs => exact hnames (.elements rfl)
  | _ => exact .error (.inl rfl)

theorem readOperand_fails (operator : String) (b : Bucket) (operand : Value) :
    FailsOnly (Error.OrDigits Error.OfUpdate (OperandFaults operator b operand))
      (readOperand operator b operand) := by
  have hfields : ∀ (es : List (Value × Value)), b ≠ .remove →
      FailsOnly (Error.OrDigits Error.OfUpdate (OperandFaults operator b (.map es)))
        (es.mapM (readField operator b)) := fun es hb =>
    (FirstRefused.mapM_fails (readField_fails operator b) es).mono_orDigits fun h => .fields hb h
  cases b with
  | remove => exact (removalNames_fails operator operand).map _
  | _ =>
    cases operand with
    | map es => exact hfields es Bucket.noConfusion
    | _ => exact .error (.inl rfl)

theorem readOperand_of_faults {operand : Value} (h : OperandFaults operator b operand) :
    readOperand operator b operand = .error (.fault (.tooManyDigits none)) := by
  cases h with
  | names hnames h =>
    rw [readOperand, removalNames_of_removes hnames,
      h.mapM_eq_error fun _ hname => fieldName_of_not_isShowable hname operator]
    rfl
  | fields hb h =>
    cases b with
    | remove => exact absurd rfl hb
    | _ => exact h.mapM_eq_error fun _ => readField_of_faults

/-! ### Whole updates -/

/-- Among operators that are read in turn, the first that is not read is refused with a fault. -/
inductive OperatorsFault : Entries Name Value → Prop where
  | here {key : Name} {operand : Value} {entries : Entries Name Value} {b : Bucket}
      (hb : Bucket.ofOperator? key.text = some b) (h : OperandFaults key.text b operand) :
      OperatorsFault ((key, operand) :: entries)
  | later {key : Name} {operand : Value} {entries : Entries Name Value} {b : Bucket}
      {fields : Entries Name Value} (hb : Bucket.ofOperator? key.text = some b)
      (hread : readOperand key.text b operand = .ok fields) (h : OperatorsFault entries) :
      OperatorsFault ((key, operand) :: entries)

/-- Reading an update ends with a fault: the first key that is no text cannot be shown, or all keys are
operators and the first that is not read is refused with a fault. -/
inductive Faults : Value → Prop where
  | key {es : List (Value × Value)} {k : Value} (hkey : foreignKey? (es.map (·.1)) = some k)
      (hlong : k.isShowable = false) : Faults (.map es)
  | operators {es : List (Value × Value)} {names : List Name} {entries : Entries Name Value}
      (hnames : keyNames (es.map (·.1)) = .ok names) (hentries : names.zip (es.map (·.2)) = entries)
      (hall : entries.keys.all Filter.isOperatorKey = true) (h : OperatorsFault entries) :
      Faults (.map es)

theorem readOperators_fails (spec : Spec) (entries : Entries Name Value) :
    FailsOnly (Error.OrDigits Error.OfUpdate (OperatorsFault entries)) (readOperators spec entries) := by
  induction entries generalizing spec with
  | nil => exact .ok _
  | cons e entries ih =>
    obtain ⟨key, operand⟩ := e
    rw [readOperators]
    cases hb : Bucket.ofOperator? key.text with
    | none => exact .error (.inl rfl)
    | some b =>
      refine ((readOperand_fails key.text b operand).mono_orDigits fun h => .here hb h).bind
        fun fields hfields => ?_
      exact (ih _).mono_orDigits fun h => .later hb hfields h

theorem readOperators_of_faults {entries : Entries Name Value} (h : OperatorsFault entries) (spec : Spec) :
    readOperators spec entries = .error (.fault (.tooManyDigits none)) := by
  induction h generalizing spec with
  | here hb h =>
    rw [readOperators, hb]
    simp only [readOperand_of_faults h]
    rfl
  | later hb hread _ ih =>
    rw [readOperators, hb]
    simp only [hread]
    exact ih _

theorem read_fails (update : Value) :
    FailsOnly (Error.OrDigits Error.OfUpdate (Faults update)) (read update) := by
  cases update with
  | map es =>
    show FailsOnly _ (readEntries es)
    cases hkey : foreignKey? (es.map (·.1)) with
    | some k =>
      rw [readEntries, keyNames_of_foreignKey? hkey]
      exact .error (.showing rfl fun hlong => ⟨rfl, .key hkey hlong⟩)
    | none =>
      obtain ⟨names, hnames⟩ := exists_keyNames hkey
      rw [readEntries, hnames]
      refine FailsOnly.bind (.ok _) fun _ h => ?_
      cases h
      simp only
      split
      · exact .ok _
      · split
        · exact .error (.inl rfl)
        · rename_i hall
          have hall : Entries.keys (names.zip (es.map (·.2))) |>.all Filter.isOperatorKey := by
            simpa using hall
          refine ((readOperators_fails _ _).mono_orDigits fun h => .operators hnames rfl hall h).bind
            fun spec _ => ?_
          split
          · exact .error (.inl rfl)
          · exact .ok _
  | _ => exact .error (.inl rfl)

end Update

end Polystore

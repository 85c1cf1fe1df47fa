import Polystore.Proofs.Filter.Reading
import Polystore.Proofs.Refusal

/-!
# Filters that cannot be read

A filter is refused with an error of its own, with two exceptions. A presence test compares its operand
with the two flags, which a signaling not-a-number refuses; and the text of an error shows an operand or a
key, which a whole number of too many digits refuses. `EntriesFault` says when reading comes upon such a
value.

Main statements: `readWithin_fails` and `readWithin_of_faults`.
-/

namespace Polystore

/-- The errors of reading a filter: it is malformed, or its groups nest too deep. -/
def Error.OfReading (e : Error) : Prop :=
  e.kind? = some .invalidFilter ∨ e.kind? = some .tooDeep

namespace Filter

variable {limit : Int} {depth : Nat} {field options : Name} {es before after : List (Value × Value)}
  {k v : Value} {f : Fault}

/-! ### Presence tests -/

/-- An operand of a presence test that is refused with a fault: it cannot be compared, or cannot be
shown. -/
inductive OperandFaults : Value → Fault → Prop where
  | signaling {d : Decimal} (h : d.isSignaling = true) : OperandFaults (.decimal d) .signaling
  | digits {v : Value} (h : v.isShowable = false) : OperandFaults v (.tooManyDigits none)

theorem isOneOf_of_not_isShowable (h : v.isShowable = false) : v.isOneOf [0, 1] = .ok false := by
  have hwritable : Text.isWritable 0 = true ∧ Text.isWritable 1 = true := by decide
  cases v with
  | int n =>
    have hflag : ∀ flag ∈ ([0, 1] : List Int), ¬(Value.int n).isInt flag = true := by
      simp only [List.forall_mem_cons, List.not_mem_nil, false_imp_iff, implies_true, and_true,
        Value.isInt_int_iff]
      constructor
      · rintro rfl
        exact Bool.noConfusion (hwritable.1.symm.trans h)
      · rintro rfl
        exact Bool.noConfusion (hwritable.2.symm.trans h)
    exact congrArg Except.ok (List.any_eq_false.2 hflag)
  | list | tuple | set | map => rfl
  | _ => cases h

theorem leafOf_fails (field options : Name) (op : Operator) (v : Value) :
    FailsOnly (Error.OrFault Error.OfReading fun f => op = .exists ∧ OperandFaults v f)
      (leafOf field op v options) := by
  unfold leafOf
  cases op with
  | isIn =>
    cases v.sequence? with
    | none => exact .error (.inl (.inl rfl))
    | some xs => exact .ok _
  | notIn =>
    cases v.sequence? with
    | none => exact .error (.inl (.inl rfl))
    | some xs => exact .ok _
  | «exists» =>
    have hflag : FailsOnly (Error.OrFault Error.OfReading fun f =>
        Operator.exists = .exists ∧ OperandFaults v f) (do
          if ← v.isOneOf [0, 1] then pure { field, operator := .exists, value := .bool v.truthy }
          else throw (.showing [v] (.filter (.booleanExpected .exists field v))) : Except Error Leaf) := by
      refine FailsOnly.bind ?_ fun isFlag _ => ?_
      · unfold Value.isOneOf
        split
        · split
          · rename_i h
            exact .error (.inr ⟨_, rfl, rfl, .signaling h⟩)
          · exact .ok _
        · exact .ok _
      · cases isFlag with
        | true => exact .ok _
        | false => exact .error (.showing (.inl rfl) fun hlong => ⟨rfl, .digits hlong⟩)
    cases v with
    | bool b => exact .ok _
    | _ => exact hflag
  | regex =>
    cases v with
    | str s => exact .ok _
    | fieldType t => exact .ok _
    | pattern p => exact .ok _
    | _ => exact .error (.inl (.inl rfl))
  | _ => exact .ok _

theorem leafOf_of_faults (h : OperandFaults v f) (field options : Name) :
    leafOf field .exists v options = .error (.fault f) := by
  cases h with
  | @signaling d hd =>
    have hflag : (Value.decimal d).isOneOf [0, 1] = .error (.fault .signaling) := by
      simp only [Value.isOneOf, hd, if_true]
      rfl
    simp only [leafOf, hflag]
    rfl
  | digits hlong =>
    have hflag := isOneOf_of_not_isShowable hlong
    have hshowing := Error.showing_of_not_isShowable (List.mem_singleton.2 rfl) hlong
      (.filter (.booleanExpected .exists field v))
    unfold leafOf
    cases v with
    | bool => cases hlong
    | _ =>
      simp only [hflag, hshowing]
      rfl

/-! ### The operators of a field -/

/-- Among operators, the first that cannot be read is a presence test whose operand is refused with a
fault. -/
inductive OperatorsFault (field options : Name) : List (Value × Value) → Fault → Prop where
  | intro (before : List (Value × Value)) {after : List (Value × Value)} {k v : Value} {ns : List Node}
      {f : Fault} (hbefore : readOperators field options before = .ok ns)
      (hkey : k.text? = some Operator.exists.symbol) (hv : OperandFaults v f) :
      OperatorsFault field options (before ++ (k, v) :: after) f

/-- What stands under a field is refused with a fault. -/
inductive FieldFaults (field : Name) (v : Value) (f : Fault) : Prop where
  | intro {es : List (Value × Value)} {options : Name} (hoperators : operators? field v = .ok (some es))
      (hoptions : optionsOf field es = .ok options) (h : OperatorsFault field options es f)

theorem readOperators_append (field options : Name) (before after : List (Value × Value)) :
    readOperators field options (before ++ after) = (do
      let ns ← readOperators field options before
      let rest ← readOperators field options after
      pure (ns ++ rest)) := by
  induction before with
  | nil => simp [readOperators]
  | cons e before ih =>
    obtain ⟨k, v⟩ := e
    rw [List.cons_append, readOperators, readOperators, ih]
    by_cases hkey : k.text?.getD "" = optionsKey
    · rw [if_pos hkey, if_pos hkey]
    · rw [if_neg hkey, if_neg hkey]
      cases Operator.ofSymbol? (k.text?.getD "") with
      | none => rfl
      | some op => simp

theorem OperatorsFault.cons (hfirst : ∃ ns, readOperators field options [(k, v)] = .ok ns)
    (h : OperatorsFault field options es f) : OperatorsFault field options ((k, v) :: es) f := by
  obtain ⟨ns, hns⟩ := hfirst
  cases h with
  | @intro before after k' v' ms f hbefore hkey hv =>
    have hall : readOperators field options ((k, v) :: before) = .ok (ns ++ ms) := by
      rw [← List.singleton_append, readOperators_append, hns, hbefore]
      rfl
    exact .intro ((k, v) :: before) hall hkey hv

theorem readOperators_fails (field options : Name) (es : List (Value × Value)) :
    FailsOnly (Error.OrFault Error.OfReading (OperatorsFault field options es))
      (readOperators field options es) := by
  induction es with
  | nil => exact .ok _
  | cons entry es ih =>
    obtain ⟨k, v⟩ := entry
    have hrest : (∃ ns, readOperators field options [(k, v)] = .ok ns) →
        FailsOnly (Error.OrFault Error.OfReading (OperatorsFault field options ((k, v) :: es)))
          (readOperators field options es) :=
      fun hfirst => ih.mono_orFault fun f hf => hf.cons hfirst
    rw [readOperators]
    by_cases hkey : k.text?.getD "" = optionsKey
    · rw [if_pos hkey]
      refine hrest ⟨[], ?_⟩
      rw [readOperators, if_pos hkey]
      rfl
    · rw [if_neg hkey]
      cases hop : Operator.ofSymbol? (k.text?.getD "") with
      | none => exact .error (.inl (.inl rfl))
      | some op =>
        have hleaf : FailsOnly (Error.OrFault Error.OfReading (OperatorsFault field options ((k, v) :: es)))
            (leafOf field op v options) := by
          refine (leafOf_fails field options op v).mono_orFault fun f hf => ?_
          obtain ⟨rfl, hv⟩ := hf
          exact .intro [] rfl (ofSymbol?_getD_eq_some.1 hop).2 hv
        refine hleaf.bind fun l hl => (hrest ⟨[.leaf l], ?_⟩).bind fun rest _ => .ok _
        simp only [readOperators, if_neg hkey, hop, hl]
        rfl

theorem readOperators_of_faults (h : OperatorsFault field options es f) :
    readOperators field options es = .error (.fault f) := by
  cases h with
  | @intro before after k v ns f hbefore hkey hv =>
    have hnot : ¬k.text?.getD "" = optionsKey := by
      rw [hkey]
      decide
    have hop : Operator.ofSymbol? (k.text?.getD "") = some .exists := by
      rw [hkey]
      decide
    rw [readOperators_append, hbefore]
    simp only [readOperators, if_neg hnot, hop, leafOf_of_faults hv]
    rfl

/-! ### Fields -/

theorem operators?_fails (field : Name) (v : Value) :
    FailsOnly Error.OfReading (operators? field v) := by
  unfold operators?
  cases v with
  | map es =>
    simp only
    split
    · exact .ok _
    · split
      · exact .ok _
      · split
        · exact .error (.inl rfl)
        · exact .ok _
  | _ => exact .ok _

theorem optionsOf_fails (field : Name) (es : List (Value × Value)) :
    FailsOnly Error.OfReading (optionsOf field es) := by
  unfold optionsOf
  split
  · exact .ok _
  · split
    · exact .error (.inl rfl)
    · split
      · exact .ok _
      · exact .error (.inl rfl)

theorem readField_fails (field : Name) (v : Value) :
    FailsOnly (Error.OrFault Error.OfReading (FieldFaults field v)) (readField field v) := by
  refine ((operators?_fails field v).mono fun _ => .inl).bind fun found hfound => ?_
  cases found with
  | none => exact .ok _
  | some es =>
    refine ((optionsOf_fails field es).mono fun _ => .inl).bind fun options hoptions => ?_
    exact (readOperators_fails field options es).mono_orFault fun f hf => .intro hfound hoptions hf

theorem readField_of_faults (h : FieldFaults field v f) : readField field v = .error (.fault f) := by
  obtain ⟨hoperators, hoptions, hfault⟩ := h
  simp only [readField, hoperators, bind, Except.bind, hoptions, readOperators_of_faults hfault]

/-! ### Entries and groups -/

/-- Reading the entries of a filter comes upon a key or an operand that is refused with a fault: all
entries before it are read, and in a group all children before the one that holds it. -/
inductive EntriesFault (limit : Int) : Nat → List (Value × Value) → Fault → Prop where
  | key {depth : Nat} (before : List (Value × Value)) {after : List (Value × Value)} {k v : Value}
      {ns : List Node} (hbefore : readEntries limit depth before = .ok ns)
      (hkey : Name.ofValue? k = none) (hlong : k.isShowable = false) :
      EntriesFault limit depth (before ++ (k, v) :: after) (.tooManyDigits none)
  | field {depth : Nat} (before : List (Value × Value)) {after : List (Value × Value)} {k v : Value}
      {ns : List Node} {name : Name} {f : Fault} (hbefore : readEntries limit depth before = .ok ns)
      (hname : Name.ofValue? k = some name) (hkey : isOperatorKey name.text = false)
      (hv : FieldFaults name v f) : EntriesFault limit depth (before ++ (k, v) :: after) f
  | group {depth : Nat} (before : List (Value × Value)) {after es : List (Value × Value)} {k v : Value}
      {ns : List Node} {name : Name} {c : Connective} {done more : List Value} {children : List (List Node)}
      {f : Fault} (hbefore : readEntries limit depth before = .ok ns) (hname : Name.ofValue? k = some name)
      (hkey : name.text = c.symbol) (hv : v.sequence? = some (done ++ .map es :: more))
      (hdone : readChildren limit depth done = .ok children)
      (hdepth : ((depth + 1 : Nat) : Int) ≤ limit) (hchild : EntriesFault limit (depth + 1) es f) :
      EntriesFault limit depth (before ++ (k, v) :: after) f

/-- What one entry of a filter is read as. -/
def readEntry (limit : Int) (depth : Nat) (k v : Value) : Except Error (List Node) :=
  match Name.ofValue? k with
  | none => throw (.showing [k] (.filter (.keyNotText k)))
  | some name =>
    if isOperatorKey name.text then
      match Connective.ofSymbol? name.text with
      | none => throw (.filter (.unknownGroup name.text))
      | some c => (readGroup limit depth name.text v).map fun children => [.group c children]
    else readField name v

theorem readEntries_cons (limit : Int) (depth : Nat) (k v : Value) (es : List (Value × Value)) :
    readEntries limit depth ((k, v) :: es) = (do
      let ns ← readEntry limit depth k v
      let rest ← readEntries limit depth es
      pure (ns ++ rest)) := by
  rw [readEntries, readEntry]
  cases Name.ofValue? k with
  | none => rfl
  | some name =>
    by_cases hkey : isOperatorKey name.text = true
    · simp only [hkey, if_true]
      cases Connective.ofSymbol? name.text with
      | none => rfl
      | some c => cases readGroup limit depth name.text v <;> rfl
    · simp only [hkey]
      rfl

theorem readEntries_append (limit : Int) (depth : Nat) (before after : List (Value × Value)) :
    readEntries limit depth (before ++ after) = (do
      let ns ← readEntries limit depth before
      let rest ← readEntries limit depth after
      pure (ns ++ rest)) := by
  induction before with
  | nil => simp [readEntries]
  | cons e before ih =>
    obtain ⟨k, v⟩ := e
    rw [List.cons_append, readEntries_cons, readEntries_cons, ih]
    simp only [bind_assoc, pure_bind, List.append_assoc]

theorem readChildren_append (limit : Int) (depth : Nat) (done more : List Value) :
    readChildren limit depth (done ++ more) = (do
      let children ← readChildren limit depth done
      let rest ← readChildren limit depth more
      pure (children ++ rest)) := by
  induction done with
  | nil => simp [readChildren]
  | cons x done ih =>
    rw [List.cons_append, readChildren, readChildren, ih]
    simp

theorem checkDepth_fails (depth : Nat) (limit : Int) :
    FailsOnly (Error.OrFault Error.OfReading fun f =>
      limit < 0 ∧ Text.isWritable limit = false ∧ f = .tooManyDigits none) (checkDepth depth limit) := by
  unfold checkDepth depthError
  split
  · split
    · rename_i hnegative
      exact .error (.showing (.inr rfl) fun hlong => ⟨hnegative, hlong, rfl⟩)
    · exact .error (.inl (.inr rfl))
  · exact .ok _

theorem checkDepth_fails_of_nonneg (hlimit : 0 ≤ limit) (depth : Nat) :
    FailsOnly Error.OfReading (checkDepth depth limit) :=
  (checkDepth_fails depth limit).mono fun _ he => he.resolve_right fun ⟨_, _, hnegative, _⟩ =>
    absurd hnegative (by omega)

theorem EntriesFault.cons (hfirst : ∃ ns, readEntry limit depth k v = .ok ns)
    (h : EntriesFault limit depth es f) : EntriesFault limit depth ((k, v) :: es) f := by
  obtain ⟨ns, hns⟩ := hfirst
  have hall : ∀ {before : List (Value × Value)} {ms : List Node},
      readEntries limit depth before = .ok ms →
      readEntries limit depth ((k, v) :: before) = .ok (ns ++ ms) := by
    intro before ms hbefore
    rw [readEntries_cons, hns, hbefore]
    rfl
  cases h with
  | key before hbefore hkey hlong => exact .key ((k, v) :: before) (hall hbefore) hkey hlong
  | field before hbefore hname hkey hv => exact .field ((k, v) :: before) (hall hbefore) hname hkey hv
  | group before hbefore hname hkey hv hdone hdepth hchild =>
    exact .group ((k, v) :: before) (hall hbefore) hname hkey hv hdone hdepth hchild

theorem readGroup_of_sequence {xs : List Value} (h : v.sequence? = some xs) (limit : Int)
    (depth : Nat) (key : String) : readGroup limit depth key v = readChildren limit depth xs := by
  cases v with
  | list ys =>
    obtain rfl := Option.some.inj h
    rw [readGroup]
  | tuple ys =>
    obtain rfl := Option.some.inj h
    rw [readGroup]
  | _ => cases h

theorem readGroup_fails_of_no_sequence (h : v.sequence? = none) (limit : Int) (depth : Nat)
    (key : String) : FailsOnly Error.OfReading (readGroup limit depth key v) := by
  cases v with
  | list ys => cases h
  | tuple ys => cases h
  | _ => exact .error (.inl rfl)

/-- What reading comes upon with a fault is what the entries are refused for. -/
theorem readEntries_of_faults (h : EntriesFault limit depth es f) :
    readEntries limit depth es = .error (.fault f) := by
  have hentry : ∀ {depth : Nat} {before after : List (Value × Value)} {k v : Value} {ns : List Node}
      {f : Fault}, readEntries limit depth before = .ok ns →
      readEntry limit depth k v = .error (.fault f) →
      readEntries limit depth (before ++ (k, v) :: after) = .error (.fault f) := by
    intro depth before after k v ns f hbefore hrefused
    rw [readEntries_append, hbefore, readEntries_cons, hrefused]
    rfl
  induction h with
  | @key depth before after k v ns hbefore hkey hlong =>
    refine hentry hbefore ?_
    rw [readEntry, hkey]
    exact congrArg Except.error (Error.showing_of_not_isShowable (List.mem_singleton.2 rfl) hlong _)
  | field _ hbefore hname hkey hv =>
    refine hentry hbefore ?_
    simp only [readEntry, hname, hkey, Bool.false_eq_true, if_false]
    exact readField_of_faults hv
  | @group depth before after es k v ns name c done more children f hbefore hname hkey hv hdone hdepth _ ih =>
    have hchild : readAt limit (depth + 1) (.map es) = .error (.fault f) := by
      rw [readAt]
      exact bind_eq_error.2 (.inr ⟨(), checkDepth_eq_ok.2 hdepth, ih⟩)
    have hchildren : readChildren limit depth (done ++ .map es :: more) = .error (.fault f) := by
      rw [readChildren_append, hdone, readChildren, hchild]
      rfl
    refine hentry hbefore ?_
    have hconnective : Connective.ofSymbol? name.text = some c := ofSymbol?_eq_some.2 hkey
    have hoperator : isOperatorKey name.text = true := hkey ▸ isOperatorKey_symbol c
    simp only [readEntry, hname, hoperator, if_true, hconnective, readGroup_of_sequence hv, hchildren]
    rfl

/-- Children of a group are refused with a fault in one of them. -/
inductive ChildrenFault (limit : Int) (depth : Nat) : List Value → Fault → Prop where
  | intro (done : List Value) {more : List Value} {es : List (Value × Value)} {children : List (List Node)}
      {f : Fault} (hdone : readChildren limit depth done = .ok children)
      (hdepth : ((depth + 1 : Nat) : Int) ≤ limit) (hchild : EntriesFault limit (depth + 1) es f) :
      ChildrenFault limit depth (done ++ .map es :: more) f

theorem ChildrenFault.cons {x : Value} {xs : List Value}
    (hfirst : ∃ child, readAt limit (depth + 1) x = .ok child)
    (h : ChildrenFault limit depth xs f) : ChildrenFault limit depth (x :: xs) f := by
  obtain ⟨child, hx⟩ := hfirst
  cases h with
  | @intro done more es children f hdone hdepth hchild =>
    have hall : readChildren limit depth (x :: done) = .ok (child :: children) := by
      rw [readChildren, hx, hdone]
      rfl
    exact .intro (x :: done) hall hdepth hchild

theorem readEntry_fails (hchildren : ∀ xs, v.sequence? = some xs →
    FailsOnly (Error.OrFault Error.OfReading (ChildrenFault limit depth xs)) (readChildren limit depth xs)) :
    FailsOnly (Error.OrFault Error.OfReading (EntriesFault limit depth ((k, v) :: es)))
      (readEntry limit depth k v) := by
  have hnil : readEntries limit depth [] = .ok [] := by
    rw [readEntries]
    rfl
  rw [readEntry]
  cases hname : Name.ofValue? k with
  | none => exact .error (.showing (.inl rfl) (.key [] hnil hname))
  | some name =>
    by_cases hkey : isOperatorKey name.text = true
    · simp only [hkey, if_true]
      cases hc : Connective.ofSymbol? name.text with
      | none => exact .error (.inl (.inl rfl))
      | some c =>
        refine .map _ ?_
        cases hv : v.sequence? with
        | none =>
          exact (readGroup_fails_of_no_sequence hv limit depth name.text).mono fun _ => .inl
        | some xs =>
          rw [readGroup_of_sequence hv]
          refine (hchildren xs hv).mono_orFault fun f hf => ?_
          obtain ⟨_, hdone, hdepth, hchild⟩ := hf
          exact .group [] hnil hname (ofSymbol?_eq_some.1 hc) hv hdone hdepth hchild
    · simp only [hkey]
      exact (readField_fails name v).mono_orFault fun f hf =>
        .field [] hnil hname (by simpa using hkey) hf

mutual

theorem readEntries_fails (hlimit : 0 ≤ limit) : (depth : Nat) → (es : List (Value × Value)) →
    FailsOnly (Error.OrFault Error.OfReading (EntriesFault limit depth es)) (readEntries limit depth es)
  | depth, [] => by
    rw [readEntries]
    exact .ok _
  | depth, (k, v) :: es => by
    rw [readEntries_cons]
    refine FailsOnly.bind (readEntry_fails fun xs hxs => ?_) fun ns hns => ?_
    · have hsmaller : sizeOf xs < sizeOf v := by
        cases v <;> simp [Value.sequence?] at hxs <;> subst hxs <;> simp
      exact readChildren_fails hlimit depth xs
    · have hrest := (readEntries_fails hlimit depth es).mono_orFault fun f hf =>
        hf.cons (k := k) (v := v) ⟨ns, hns⟩
      exact hrest.bind fun rest _ => .ok _
  termination_by _ es => sizeOf es

theorem readChildren_fails (hlimit : 0 ≤ limit) : (depth : Nat) → (xs : List Value) →
    FailsOnly (Error.OrFault Error.OfReading (ChildrenFault limit depth xs)) (readChildren limit depth xs)
  | depth, [] => by
    rw [readChildren]
    exact .ok _
  | depth, x :: xs => by
    rw [readChildren]
    have hdepth : FailsOnly (Error.OrFault Error.OfReading (ChildrenFault limit depth (x :: xs)))
        (checkDepth (depth + 1) limit) :=
      (checkDepth_fails_of_nonneg hlimit _).mono fun _ => .inl
    have hfirst : FailsOnly (Error.OrFault Error.OfReading (ChildrenFault limit depth (x :: xs)))
        (readAt limit (depth + 1) x) := by
      cases x with
      | map es =>
        rw [readAt]
        refine hdepth.bind fun _ hfits => ?_
        refine (readEntries_fails hlimit (depth + 1) es).mono_orFault fun f hf => ?_
        exact .intro [] (by rw [readChildren]; rfl) (checkDepth_eq_ok.1 hfits) hf
      | _ => exact hdepth.bind fun _ _ => .error (.inl (.inl rfl))
    refine hfirst.bind fun child hchild => ?_
    have hrest := (readChildren_fails hlimit depth xs).mono_orFault fun f hf => hf.cons ⟨child, hchild⟩
    exact hrest.bind fun rest _ => .ok _
  termination_by _ xs => sizeOf xs

end

/-! ### Whole filters -/

/-- Reading a filter under a limit ends with a fault: it comes upon a key or an operand that is refused
with one before anything else that cannot be read, or the limit is below all depths and cannot be shown. -/
inductive FaultsWithin (limit : Int) : Value → Fault → Prop where
  | entries {es : List (Value × Value)} {f : Fault} (hlimit : 0 ≤ limit) (h : EntriesFault limit 0 es f) :
      FaultsWithin limit (.map es) f
  | limit {filter : Value} (hfilter : filter.isNull = false) (hnegative : limit < 0)
      (hlong : Text.isWritable limit = false) : FaultsWithin limit filter (.tooManyDigits none)

/-- The same under the usual limit. -/
def FaultsIn (filter : Value) (f : Fault) : Prop :=
  ∃ es, filter = .map es ∧ EntriesFault defaultDepthLimit 0 es f

theorem faultsWithin_iff {filter : Value} : FaultsWithin defaultDepthLimit filter f ↔ FaultsIn filter f := by
  constructor
  · rintro (⟨_, h⟩ | ⟨_, hnegative, _⟩)
    · exact ⟨_, rfl, h⟩
    · exact absurd hnegative (by decide)
  · rintro ⟨es, rfl, h⟩
    exact .entries (by decide) h

theorem readWithin_of_not_isNull {filter : Value} (h : filter.isNull = false) (limit : Int) :
    readWithin limit filter = readAt limit 0 filter :=
  if_neg (h ▸ Bool.false_ne_true)

theorem checkDepth_of_negative (hnegative : limit < 0) (hlong : Text.isWritable limit = false)
    (depth : Nat) : checkDepth depth limit = .error (.fault (.tooManyDigits none)) := by
  have hshown : (Value.int limit).isShowable = false := hlong
  rw [checkDepth, if_pos (by omega), depthError, if_pos hnegative]
  exact congrArg Except.error (Error.showing_of_not_isShowable (List.mem_singleton.2 rfl) hshown _)

theorem readWithin_of_faults {filter : Value} (h : FaultsWithin limit filter f) :
    readWithin limit filter = .error (.fault f) := by
  cases h with
  | entries hlimit h =>
    have hdepth : checkDepth 0 limit = .ok () := checkDepth_eq_ok.2 hlimit
    rw [readWithin_of_not_isNull rfl, readAt, hdepth]
    exact readEntries_of_faults h
  | limit hfilter hnegative hlong =>
    rw [readWithin_of_not_isNull hfilter]
    cases filter <;> rw [readAt, checkDepth_of_negative hnegative hlong] <;> first | rfl | exact nofun

theorem readWithin_fails (limit : Int) (filter : Value) :
    FailsOnly (Error.OrFault Error.OfReading (FaultsWithin limit filter)) (readWithin limit filter) := by
  cases hnull : filter.isNull with
  | true =>
    rw [readWithin, if_pos hnull]
    exact .ok _
  | false =>
    rw [readWithin_of_not_isNull hnull]
    have hdepth : FailsOnly (Error.OrFault Error.OfReading (FaultsWithin limit filter))
        (checkDepth 0 limit) := by
      refine (checkDepth_fails 0 limit).mono_orFault fun f hf => ?_
      obtain ⟨hnegative, hlong, rfl⟩ := hf
      exact .limit hnull hnegative hlong
    cases filter with
    | map es =>
      rw [readAt]
      refine hdepth.bind fun _ hfits => ?_
      have hlimit : 0 ≤ limit := checkDepth_eq_ok.1 hfits
      exact (readEntries_fails hlimit 0 es).mono_orFault fun f hf => .entries hlimit hf
    | _ => exact hdepth.bind fun _ _ => .error (.inl (.inl rfl))

theorem read_fails (filter : Value) :
    FailsOnly (Error.OrFault Error.OfReading (FaultsIn filter)) (read filter) :=
  (readWithin_fails defaultDepthLimit filter).mono_orFault fun _ => faultsWithin_iff.1

end Filter

end Polystore

import Polystore.Filter.Reading
import Polystore.Proofs.Update.Readback
import Polystore.Proofs.Update.Refusal

/-!
# The implicit and the explicit assignment

An update without operator keys assigns its fields, as does the same mapping under the operator of
assignment. The two are read alike up to two kinds of keys: the explicit form refuses a field with an empty
name, and the implicit form assigns it; and where the first key that is no text cannot be shown, neither is
refused as an update for it.

Main statement: `read_explicit`.
-/

namespace Polystore.Update

/-- A mapping under the operator of assignment. -/
def explicit (es : List (Value × Value)) : Value :=
  .map [(.str Bucket.assign.operator, .map es)]

/-- Two updates are read as the same specification, or are both refused as updates. -/
inductive SameOutcome : Except Error Spec → Except Error Spec → Prop where
  | read (spec : Spec) : SameOutcome (.ok spec) (.ok spec)
  | refused {e e' : Error} (h : e.kind? = some .invalidUpdate) (h' : e'.kind? = some .invalidUpdate) :
      SameOutcome (.error e) (.error e')

variable {es : List (Value × Value)} {fields : Entries Name Value} {spec : Spec}

theorem exists_refusal {update : Value} (h : ∀ spec, read update ≠ .ok spec) (hquiet : ¬Faults update) :
    ∃ e, read update = .error e ∧ e.kind? = some .invalidUpdate := by
  cases hread : read update with
  | ok spec => exact absurd hread (h spec)
  | error e => exact ⟨e, rfl, (read_fails update e hread).resolve_right fun ⟨_, _, hf⟩ => hquiet hf.2⟩

/-! ### Keys -/

theorem isOperatorEntry_value (f : Name × Value) :
    Filter.isOperatorEntry (f.1.value, f.2) = Filter.isOperatorKey f.1.text := by
  rw [Filter.isOperatorEntry, Name.text?_value]

theorem exists_fields (h : ∀ e ∈ es, e.1.text? ≠ none) :
    ∃ fields : Entries Name Value, es = fields.map fun f => (f.1.value, f.2) := by
  induction es with
  | nil => exact ⟨[], rfl⟩
  | cons e es ih =>
    obtain ⟨he, hes⟩ := List.forall_mem_cons.1 h
    obtain ⟨fields, rfl⟩ := ih hes
    cases hname : Name.ofValue? e.1 with
    | none => exact absurd (by rw [← Name.map_text_ofValue?, hname]; rfl) he
    | some name => exact ⟨(name, e.2) :: fields, by rw [List.map_cons, ← Name.value_of_ofValue? hname]⟩

theorem text?_ne_none_of_map {e : Value × Value} (h : e ∈ fields.map fun f => (f.1.value, f.2)) :
    e.1.text? ≠ none := by
  obtain ⟨f, -, rfl⟩ := List.mem_map.1 h
  rw [Name.text?_value]
  exact Option.some_ne_none _

theorem foreignKey?_eq_none_iff : foreignKey? (es.map (·.1)) = none ↔ ∀ e ∈ es, e.1.text? ≠ none := by
  rw [foreignKey?, List.find?_eq_none, List.forall_mem_map]
  refine forall₂_congr fun e _ => ?_
  rw [← Name.map_text_ofValue?]
  cases Name.ofValue? e.1 <;> simp

theorem read_of_foreignKey? {k : Value} (h : foreignKey? (es.map (·.1)) = some k) :
    read (.map es) = .error (.showing [k] (.update (.keyNotText k))) := by
  rw [read, readEntries, keyNames_of_foreignKey? h]
  rfl

/-- Where the fields of an assignment are refused with a fault, they are so for the first key that is no
text. -/
theorem exists_foreignKey?_of_firstRefused {operator : String}
    (h : FirstRefused (readField operator .assign) (FieldFaults operator .assign) es) :
    ∃ k, foreignKey? (es.map (·.1)) = some k ∧ k.isShowable = false := by
  induction h with
  | @here e es h =>
    cases h with
    | name hlong =>
      exact ⟨e.1, foreignKey?_cons_of_none (Name.ofValue?_of_not_isShowable hlong) _, hlong⟩
    | amount _ hb => cases hb
  | @later e es f hread _ ih =>
    obtain ⟨k, hk, hlong⟩ := ih
    obtain ⟨name, hname, -⟩ := bind_eq_ok.1 hread
    have htext : Name.ofValue? e.1 = some name := by
      rw [fieldName_eq_ok hname, Name.ofValue?_value]
    exact ⟨k, (foreignKey?_cons_of_some htext _).trans hk, hlong⟩

theorem exists_foreignKey?_of_faults (h : Faults (explicit es)) :
    ∃ k, foreignKey? (es.map (·.1)) = some k ∧ k.isShowable = false := by
  cases h with
  | key hkey => cases hkey
  | operators hnames hentries _ h =>
    cases hnames
    cases hentries
    cases h with
    | here hb h =>
      have hassign : Bucket.ofOperator? Bucket.assign.operator = some .assign := by decide
      cases hassign.symm.trans hb
      cases h with
      | fields _ h => exact exists_foreignKey?_of_firstRefused h
    | later _ _ h => cases h

/-! ### Both forms -/

theorem read_implicit (hplain : ∀ f ∈ fields, Filter.isOperatorKey f.1.text = false) :
    read (Document.mapping fields) = .ok (Spec.empty.placeAll .assign fields) := by
  have hany : fields.keys.any Filter.isOperatorKey = false :=
    List.any_eq_false.2 (List.forall_mem_map.2 fun f hf => Bool.eq_false_iff.1 (hplain f hf))
  rw [read_mapping_eq, hany]
  rfl

/-- A field may be assigned by the explicit form. -/
def Assignable (f : Name × Value) : Prop :=
  f.1.text ≠ "" ∧ Filter.isOperatorKey f.1.text = false

theorem readField_assign_eq_ok {operator : String} {e : Value × Value} {f : Name × Value} :
    readField operator .assign e = .ok f ↔ e = (f.1.value, f.2) ∧ Assignable f := by
  constructor
  · intro h
    obtain ⟨name, hname, h⟩ := bind_eq_ok.1 h
    obtain rfl := pure_eq_ok.1 (guard_eq_ok.1 h).2
    have hkey := fieldName_eq_ok hname
    rw [hkey] at hname
    exact ⟨Prod.ext hkey rfl, fieldName_eq_ok_iff.1 hname⟩
  · rintro ⟨rfl, hf⟩
    exact bind_eq_ok.2 ⟨f.1, fieldName_eq_ok_iff.2 hf, guard_eq_ok.2 ⟨by simp, rfl⟩⟩

theorem readFields_assign_eq_ok {operator : String} :
    es.mapM (readField operator .assign) = .ok fields ↔
      es = fields.map (fun f => (f.1.value, f.2)) ∧ ∀ f ∈ fields, Assignable f := by
  rw [mapM_eq_ok]
  simp only [readField_assign_eq_ok]
  rw [← List.forall₂_eq_eq_eq, List.forall₂_map_right_iff]
  constructor
  · intro h
    refine ⟨h.imp fun _ _ => And.left, fun f hf => ?_⟩
    obtain ⟨e, -, he⟩ := exists_left_of_forall₂ h hf
    exact he.2
  · rintro ⟨h, hall⟩
    have hboth := (List.forall₂_and_left _ _).2 ⟨hall, h.flip⟩
    exact hboth.flip.imp fun _ _ hef => hef.symm

theorem isEmpty_placeAll_assign (h : fields ≠ []) :
    (Spec.empty.placeAll .assign fields).isEmpty = false := by
  have hplaced : Spec.placed (placements .assign fields) = Spec.empty.placeAll .assign fields :=
    placed_append_placements [] .assign fields
  rw [← hplaced]
  obtain ⟨f, hf⟩ := List.exists_mem_of_ne_nil _ h
  have hname : f.1.text ∈ (Spec.placed (placements .assign fields)).names := by
    rw [Spec.mem_names, Spec.exists_mem_keys_items_placed, placements, List.map_map]
    exact List.mem_map_of_mem hf
  exact isEmpty_eq_false (List.ne_nil_of_mem hname)

theorem read_explicit_eq_ok (hne : es ≠ []) : read (explicit es) = .ok spec ↔
    ∃ fields : Entries Name Value, es = fields.map (fun f => (f.1.value, f.2)) ∧
      (∀ f ∈ fields, Assignable f) ∧ Spec.empty.placeAll .assign fields = spec := by
  let entries : Entries Name Value := [(.plain Bucket.assign.operator, .map es)]
  have hoperators : readOperators .empty entries = .ok spec ↔
      ∃ fields, es.mapM (readField Bucket.assign.operator .assign) = .ok fields ∧
        Spec.empty.placeAll .assign fields = spec := by
    show (do
      let fields ← es.mapM (readField Bucket.assign.operator .assign)
      pure (Spec.empty.placeAll .assign fields)) = Except.ok spec ↔ _
    simp only [bind_eq_ok, pure_eq_ok]
  have hmapping : explicit es = Document.mapping entries := rfl
  have hkeys : ∀ e ∈ entries, Filter.isOperatorKey e.1.text = true :=
    List.forall_mem_singleton.2 (show Filter.isOperatorKey Bucket.assign.operator = true by decide)
  rw [hmapping, read_mapping_eq_ok (List.cons_ne_nil _ _) hkeys, hoperators]
  constructor
  · rintro ⟨⟨fields, hfields, rfl⟩, -⟩
    obtain ⟨rfl, hall⟩ := readFields_assign_eq_ok.1 hfields
    exact ⟨fields, rfl, hall, rfl⟩
  · rintro ⟨fields, rfl, hall, rfl⟩
    refine ⟨⟨fields, readFields_assign_eq_ok.2 ⟨rfl, hall⟩, rfl⟩, isEmpty_placeAll_assign ?_⟩
    rintro rfl
    exact hne rfl

theorem not_read_explicit (hne : es ≠ [])
    (h : ∃ e ∈ es, e.1.text? = none ∨ e.1.text? = some "") (spec : Spec) :
    read (explicit es) ≠ .ok spec := by
  intro hread
  obtain ⟨fields, rfl, hall, -⟩ := (read_explicit_eq_ok hne).1 hread
  obtain ⟨_, he, hkey⟩ := h
  obtain ⟨f, hf, rfl⟩ := List.mem_map.1 he
  rcases hkey with hkey | hkey
  · exact text?_ne_none_of_map he hkey
  · rw [Name.text?_value] at hkey
    exact (hall f hf).1 (Option.some.inj hkey)

theorem not_read_explicit_of_foreignKey? {k : Value} (hne : es ≠ [])
    (h : foreignKey? (es.map (·.1)) = some k) : ∀ spec, read (explicit es) ≠ .ok spec := by
  have hforeign : ∃ e ∈ es, e.1.text? = none := by
    by_contra hall
    push Not at hall
    exact Option.some_ne_none _ (h.symm.trans (foreignKey?_eq_none_iff.2 hall))
  obtain ⟨e, he, hkey⟩ := hforeign
  exact not_read_explicit hne ⟨e, he, .inl hkey⟩

theorem read_both (hne : es ≠ []) (hplain : ∀ e ∈ es, Filter.isOperatorEntry e = false)
    (htexts : ∀ e ∈ es, e.1.text? ≠ none) : ∃ spec, read (.map es) = .ok spec ∧
      ((∀ e ∈ es, e.1.text? ≠ some "") → read (explicit es) = .ok spec) := by
  obtain ⟨fields, rfl⟩ := exists_fields htexts
  have hkeys : ∀ f ∈ fields, Filter.isOperatorKey f.1.text = false := fun f hf =>
    (isOperatorEntry_value f).symm.trans (hplain _ (List.mem_map_of_mem hf))
  refine ⟨_, read_implicit hkeys, fun hnames => ?_⟩
  refine (read_explicit_eq_ok hne).2 ⟨fields, rfl, fun f hf => ⟨fun hempty => ?_, hkeys f hf⟩, rfl⟩
  refine hnames _ (List.mem_map_of_mem hf) ?_
  rw [Name.text?_value, hempty]

/-- Neither form reads a key that is no text. Both are refused as updates for the first one if it can be
shown. -/
theorem refused_both {k : Value} (hne : es ≠ []) (hkey : foreignKey? (es.map (·.1)) = some k)
    (hshown : k.isShowable = true) : SameOutcome (read (.map es)) (read (explicit es)) := by
  have hquiet : ¬Faults (explicit es) := by
    intro h
    obtain ⟨k', hk', hlong⟩ := exists_foreignKey?_of_faults h
    cases hkey.symm.trans hk'
    exact Bool.noConfusion (hshown.symm.trans hlong)
  obtain ⟨e, he, hkind⟩ := exists_refusal
    (not_read_explicit_of_foreignKey? hne hkey) hquiet
  rw [he, read_of_foreignKey? hkey, Error.showing_of_isShowable (by simpa using hshown)]
  exact .refused rfl hkind

/-- Without operator keys, the explicit form of a mapping is read like the mapping exactly if every key is
a text and none is empty, or if the first key that is no text can be shown. If an empty key is all that is
wrong, the mapping is read, and its explicit form is refused as an update; if the first key that is no text
cannot be shown, neither form is read, and the mapping is refused for that. -/
theorem read_explicit (hne : es ≠ []) (hplain : ∀ e ∈ es, Filter.isOperatorEntry e = false) :
    (SameOutcome (read (.map es)) (read (explicit es)) ↔
      (∀ e ∈ es, e.1.text? ≠ none ∧ e.1.text? ≠ some "") ∨
        ∃ k, foreignKey? (es.map (·.1)) = some k ∧ k.isShowable = true) ∧
    ((∃ e ∈ es, e.1.text? = some "") → (∀ e ∈ es, e.1.text? ≠ none) →
      (∃ spec, read (.map es) = .ok spec) ∧
      ∃ e, read (explicit es) = .error e ∧ e.kind? = some .invalidUpdate) ∧
    ∀ k, foreignKey? (es.map (·.1)) = some k → k.isShowable = false →
      read (.map es) = .error (.fault (.tooManyDigits none)) ∧ ∃ e, read (explicit es) = .error e := by
  have hparted : (∃ e ∈ es, e.1.text? = some "") → (∀ e ∈ es, e.1.text? ≠ none) →
      (∃ spec, read (.map es) = .ok spec) ∧
      ∃ e, read (explicit es) = .error e ∧ e.kind? = some .invalidUpdate := by
    rintro ⟨e, he, hempty⟩ htexts
    obtain ⟨spec, hspec, -⟩ := read_both hne hplain htexts
    refine ⟨⟨spec, hspec⟩, exists_refusal (not_read_explicit hne ⟨e, he, .inr hempty⟩) fun hfaults => ?_⟩
    obtain ⟨k, hk, -⟩ := exists_foreignKey?_of_faults hfaults
    exact Option.some_ne_none _ (hk.symm.trans (foreignKey?_eq_none_iff.2 htexts))
  have hlong : ∀ k, foreignKey? (es.map (·.1)) = some k → k.isShowable = false →
      read (.map es) = .error (.fault (.tooManyDigits none)) ∧ ∃ e, read (explicit es) = .error e := by
    intro k hk hlong
    refine ⟨by rw [read_of_foreignKey? hk, Error.showing_of_not_isShowable (List.mem_singleton.2 rfl) hlong],
      ?_⟩
    cases hread : read (explicit es) with
    | ok spec => exact absurd hread (not_read_explicit_of_foreignKey? hne hk spec)
    | error e => exact ⟨e, rfl⟩
  refine ⟨⟨fun hsame => ?_, fun h => ?_⟩, hparted, hlong⟩
  · cases hkey : foreignKey? (es.map (·.1)) with
    | none =>
      have htexts := foreignKey?_eq_none_iff.1 hkey
      refine .inl fun e he => ⟨htexts e he, fun hempty => ?_⟩
      obtain ⟨⟨spec, hspec⟩, e', he', -⟩ := hparted ⟨e, he, hempty⟩ htexts
      rw [hspec, he'] at hsame
      cases hsame
    | some k =>
      refine .inr ⟨k, rfl, ?_⟩
      by_contra hnot
      obtain ⟨himplicit, e, hexplicit⟩ := hlong k hkey (by simpa using hnot)
      rw [himplicit, hexplicit] at hsame
      cases hsame with
      | refused h => cases h
  · rcases h with hall | ⟨k, hkey, hshown⟩
    · obtain ⟨spec, himplicit, hexplicit⟩ := read_both hne hplain fun e he => (hall e he).1
      rw [himplicit, hexplicit fun e he => (hall e he).2]
      exact .read spec
    · exact refused_both hne hkey hshown

/-- An update of one field with an empty name. -/
def unnamed : List (Value × Value) :=
  [(.str "", .int 1)]

/-- A field with a name is assigned by both forms; one without a name is assigned by the implicit form
and refused by the explicit one. -/
theorem read_explicit_of_unnamed :
    SameOutcome (read (.map [(.str "a", .int 1)])) (read (explicit [(.str "a", .int 1)])) ∧
    0 < unnamed.length ∧ (∀ e ∈ unnamed, Filter.isOperatorEntry e = false) ∧
    ¬SameOutcome (read (.map unnamed)) (read (explicit unnamed)) ∧
    (∃ spec, read (.map unnamed) = .ok spec) ∧
    ∃ e, read (explicit unnamed) = .error e ∧ e.kind? = some .invalidUpdate := by
  have hnamed := @read_explicit [(.str "a", .int 1)] (by simp) (by decide)
  have hunnamed := @read_explicit unnamed (List.cons_ne_nil _ _) (by decide)
  have hempty : ∃ e ∈ unnamed, e.1.text? = some "" := ⟨_, List.mem_singleton_self _, rfl⟩
  have htexts : ∀ e ∈ unnamed, e.1.text? ≠ none := by decide
  refine ⟨hnamed.1.2 (.inl (by decide)), by decide, by decide, fun hsame => ?_,
    hunnamed.2.1 hempty htexts⟩
  rcases hunnamed.1.1 hsame with hall | ⟨k, hkey, -⟩
  · obtain ⟨e, he, hkey⟩ := hempty
    exact (hall e he).2 hkey
  · cases hkey

/-- The two forms are not always read alike. -/
theorem not_read_explicit_of_unnamed :
    ¬∀ es : List (Value × Value), es ≠ [] → (∀ e ∈ es, Filter.isOperatorEntry e = false) →
      SameOutcome (read (.map es)) (read (explicit es)) := by
  intro h
  have hsame := h unnamed (List.cons_ne_nil _ _) (by decide)
  have himplicit : read (.map unnamed) =
      .ok { assign := [(.plain "", .int 1)], order := [.assign] } := rfl
  have hexplicit : read (explicit unnamed) = .error (.update (.invalidField "$set" (.str ""))) := rfl
  rw [himplicit, hexplicit] at hsame
  cases hsame

end Polystore.Update

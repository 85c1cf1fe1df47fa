import Polystore.Proofs.Update.Native

/-!
# Native updates are read back

The native form of an update is an update itself. Reading it gives the specification that it was made
from, without the buckets that have been emptied (`read_update`), so that a second compilation changes
nothing.
-/

namespace Polystore

theorem Entries.mem_put {κ α : Type} [Named κ] {name : κ} {value : α} {es : Entries κ α} {e : κ × α}
    (h : e ∈ es.put name value) : e ∈ es ∨ Named.text e.1 = Named.text name ∧ e.2 = value := by
  induction es with
  | nil =>
    obtain rfl := List.mem_singleton.1 h
    exact .inr ⟨rfl, rfl⟩
  | cons e' es ih =>
    obtain ⟨n, v⟩ := e'
    unfold put at h
    split at h
    · rename_i hn
      rcases List.mem_cons.1 h with rfl | h
      · exact .inr ⟨hn, rfl⟩
      · exact .inl (List.mem_cons_of_mem _ h)
    · rcases List.mem_cons.1 h with rfl | h
      · exact .inl List.mem_cons_self
      · exact (ih h).imp_left (List.mem_cons_of_mem _)

namespace Update

/-! ### What is read is sound -/

/-- A field may be given to a bucket: its name is no operator key, and what is added to it is a number. -/
def Admits (b : Bucket) (f : Name × Value) : Prop :=
  Filter.isOperatorKey f.1.text = false ∧ (b = .increment → f.2.isNumeric = true)

/-- Every bucket may be given its fields. -/
def Spec.Sound (s : Spec) : Prop :=
  ∀ b, ∀ f ∈ s.items b, Admits b f

namespace Spec

variable {s : Spec} {b : Bucket}

theorem sound_empty : empty.Sound := by
  intro b f hf
  cases b <;> exact absurd hf List.not_mem_nil

theorem Sound.place {name : Name} {v : Value} (hs : s.Sound) (h : Admits b (name, v)) :
    (s.place b name v).Sound := by
  intro b' f hf
  rw [items_place] at hf
  split at hf
  · rename_i hb
    subst hb
    rcases Entries.mem_put hf with hf | ⟨hname, hvalue⟩
    · exact hs b' f hf
    · have htext : f.1.text = name.text := hname
      refine ⟨htext ▸ h.1, ?_⟩
      rintro rfl
      exact hvalue ▸ h.2 rfl
  · rw [Entries.erase_eq_filter] at hf
    exact hs b' f (List.mem_of_mem_filter hf)

theorem Sound.placeAll {fields : Entries Name Value} (hs : s.Sound)
    (h : ∀ f ∈ fields, Admits b f) : (s.placeAll b fields).Sound := by
  induction fields generalizing s with
  | nil => exact hs
  | cons f fields ih =>
    obtain ⟨hf, hfields⟩ := List.forall_mem_cons.1 h
    exact ih (hs.place hf) hfields

end Spec

theorem fieldName_eq_ok_iff {operator : String} {n : Name} :
    fieldName operator n.value = .ok n ↔ n.text ≠ "" ∧ Filter.isOperatorKey n.text = false := by
  unfold fieldName
  simp only [Name.ofValue?_value]
  by_cases h : (n.text = "" || Filter.isOperatorKey n.text) = true
  · rw [if_pos h]
    refine iff_of_false throw_ne_ok ?_
    rintro ⟨hne, hkey⟩
    simp [hne, hkey] at h
  · rw [if_neg h]
    refine iff_of_true rfl ?_
    simpa using h

theorem not_isOperatorKey_of_fieldName {operator : String} {k : Value} {n : Name}
    (h : fieldName operator k = .ok n) : Filter.isOperatorKey n.text = false := by
  obtain rfl := fieldName_eq_ok h
  exact (fieldName_eq_ok_iff.1 h).2

theorem admits_of_readField {operator : String} {b : Bucket} {e : Value × Value}
    {f : Name × Value} (h : readField operator b e = .ok f) : Admits b f := by
  obtain ⟨name, hname, h⟩ := bind_eq_ok.1 h
  obtain ⟨hamount, h⟩ := guard_eq_ok.1 h
  obtain rfl := pure_eq_ok.1 h
  refine ⟨not_isOperatorKey_of_fieldName hname, fun hb => ?_⟩
  simpa [hb] using hamount

theorem not_isOperatorKey_of_removalNames {operator : String} {operand : Value} {names : List Name}
    (h : removalNames operator operand = .ok names) :
    ∀ n ∈ names, Filter.isOperatorKey n.text = false := by
  have hread : ∀ ks : List Value, ks.mapM (fieldName operator) = .ok names →
      ∀ n ∈ names, Filter.isOperatorKey n.text = false := by
    intro ks hks n hn
    obtain ⟨k, -, hk⟩ := exists_left_of_forall₂ (mapM_eq_ok.1 hks) hn
    exact not_isOperatorKey_of_fieldName hk
  cases operand with
  | map es => exact hread _ h
  | list xs => exact hread _ h
  | tuple xs => exact hread _ h
  | _ => exact absurd h throw_ne_ok

theorem admits_of_readOperand {operator : String} {b : Bucket} {operand : Value}
    {fields : Entries Name Value} (h : readOperand operator b operand = .ok fields) :
    ∀ f ∈ fields, Admits b f := by
  intro f hf
  by_cases hb : b = .remove
  · subst hb
    obtain ⟨names, hnames, rfl⟩ := map_eq_ok.1 h
    obtain ⟨n, hn, rfl⟩ := List.mem_map.1 hf
    exact ⟨not_isOperatorKey_of_removalNames hnames n hn, fun h => Bucket.noConfusion h⟩
  · obtain ⟨es, -, hes⟩ := exists_map_of_readOperand hb h
    obtain ⟨e, -, he⟩ := exists_left_of_forall₂ (mapM_eq_ok.1 hes) hf
    exact admits_of_readField he

theorem sound_of_readOperators {s spec : Spec} {entries : Entries Name Value} (hs : s.Sound)
    (h : readOperators s entries = .ok spec) : spec.Sound := by
  induction entries generalizing s with
  | nil => exact pure_eq_ok.1 h ▸ hs
  | cons e entries ih =>
    obtain ⟨key, operand⟩ := e
    rw [readOperators] at h
    cases hb : Bucket.ofOperator? key.text with
    | none =>
      rw [hb] at h
      exact absurd h throw_ne_ok
    | some b =>
      simp only [hb] at h
      obtain ⟨fields, hfields, h⟩ := bind_eq_ok.1 h
      exact ih (hs.placeAll (admits_of_readOperand hfields)) h

theorem sound_of_read {update : Value} {spec : Spec} (h : read update = .ok spec) : spec.Sound := by
  cases update with
  | map es =>
    obtain ⟨entries, -, ⟨hany, rfl⟩ | ⟨-, hread⟩⟩ := readEntries_eq_ok h
    · refine Spec.sound_empty.placeAll fun f hf => ⟨?_, fun h => Bucket.noConfusion h⟩
      exact Bool.eq_false_iff.2 fun hkey =>
        absurd hany (by simpa using ⟨_, List.mem_map_of_mem hf, hkey⟩)
    · exact sound_of_readOperators Spec.sound_empty hread
  | _ => exact absurd h throw_ne_ok

/-! ### Fields that are placed once -/

namespace Spec

variable {s t : Spec} {b : Bucket}

theorem eq_of_items (hitems : ∀ b, s.items b = t.items b) (horder : s.order = t.order) : s = t := by
  have hremove : s.remove = t.remove := by
    have hpair : Function.Injective fun n : Name => (n, Value.null) := fun _ _ h => (Prod.mk.inj h).1
    exact List.map_injective_iff.2 hpair (hitems .remove)
  obtain ⟨assign, increment, remove, append, detach, order⟩ := s
  have hassign := hitems .assign
  have hincrement := hitems .increment
  have happend := hitems .append
  have hdetach := hitems .detach
  simp only [items] at hassign hincrement happend hdetach
  subst hassign hincrement hremove happend hdetach horder
  rfl

theorem kept_of_mem_items {f : Name × Value} (h : f ∈ s.items b) : b.kept f.2 = f.2 := by
  cases b with
  | remove =>
    obtain ⟨n, -, rfl⟩ := List.mem_map.1 h
    rfl
  | _ => rfl

/-- Fields that are placed once stand in their buckets in the order of the placements. -/
theorem items_placed_of_nodup {ps : List Placement} (h : (ps.map fun p => p.name.text).Nodup)
    (b : Bucket) : (placed ps).items b =
      (ps.filter fun p => p.bucket = b).map fun p => (p.name, b.kept p.value) := by
  induction ps using List.reverseRecOn with
  | nil => cases b <;> rfl
  | append_singleton ps p ih =>
    rw [List.map_append, List.nodup_append] at h
    obtain ⟨hps, -, hnew⟩ := h
    have hfresh : ∀ b', p.name.text ∉ ((placed ps).items b').keys := fun b' hmem =>
      hnew _ (exists_mem_keys_items_placed.1 ⟨b', hmem⟩) _ (List.mem_singleton_self _) rfl
    rw [placed_concat, items_place, List.filter_append, List.map_append, ← ih hps]
    by_cases hb : b = p.bucket
    · subst hb
      rw [if_pos rfl, Entries.put_of_get?_eq_none (Entries.get?_eq_none_iff.2 (hfresh _))]
      simp
    · have hkept : ∀ e ∈ (placed ps).items b, Named.text e.1 ≠ p.name.text := fun e he heq =>
        hfresh b (heq ▸ List.mem_map_of_mem he)
      rw [if_neg hb, Entries.erase_eq_filter, List.filter_eq_self.2 (by simpa using hkept)]
      simp [Ne.symm hb]

theorem order_placeAll {fields : Entries Name Value} (h : fields ≠ []) :
    (s.placeAll b fields).order = if b ∈ s.order then s.order else s.order ++ [b] := by
  induction fields generalizing s with
  | nil => exact absurd rfl h
  | cons f fields ih =>
    show ((s.place b f.1 f.2).placeAll b fields).order = _
    have hplace := order_place s f.1 f.2 b
    cases fields with
    | nil => exact hplace
    | cons g fields =>
      have hmem : b ∈ (s.place b f.1 f.2).order := by
        rw [hplace]
        split
        · assumption
        · simp
      rw [ih (List.cons_ne_nil _ _), if_pos hmem, hplace]

end Spec

/-- The placements of some buckets of a specification, one bucket after the other. -/
def refill (spec : Spec) (bs : List Bucket) : List Placement :=
  bs.flatMap fun b => placements b (spec.items b)

section Refill

variable {spec : Spec} {bs : List Bucket}

theorem names_refill (spec : Spec) (bs : List Bucket) :
    (refill spec bs).map (fun p => p.name.text) = bs.flatMap fun b => (spec.items b).keys := by
  rw [refill, List.map_flatMap]
  simp only [placements, List.map_map]
  rfl

theorem filter_refill (hbs : bs.Nodup) (b : Bucket) :
    ((refill spec bs).filter fun p => p.bucket = b).map (fun p => (p.name, b.kept p.value)) =
      if b ∈ bs then spec.items b else [] := by
  have hblock : ∀ b', ((placements b' (spec.items b')).filter fun p => p.bucket = b).map
      (fun p => (p.name, b.kept p.value)) = if b' = b then spec.items b else [] := by
    intro b'
    rw [placements]
    by_cases hb : b' = b
    · subst hb
      have hall : ∀ f ∈ spec.items b', (f.1, b'.kept f.2) = f := fun f hf => by
        rw [Spec.kept_of_mem_items hf]
      rw [if_pos rfl, List.filter_map, List.map_map]
      simp only [Function.comp_def, decide_true, List.filter_true]
      exact List.map_congr_left hall |>.trans (List.map_id _)
    · rw [if_neg hb, List.filter_map]
      simp [Function.comp_def, hb]
  induction bs with
  | nil => rfl
  | cons b' bs ih =>
    obtain ⟨hfresh, hbs⟩ := List.nodup_cons.1 hbs
    rw [refill, List.flatMap_cons, List.filter_append, List.map_append, hblock, ← refill, ih hbs]
    by_cases hb : b' = b
    · subst hb
      simp [hfresh]
    · simp [hb, Ne.symm hb]

theorem order_refill (hbs : bs.Nodup) (hused : ∀ b ∈ bs, spec.items b ≠ []) :
    (Spec.placed (refill spec bs)).order = bs := by
  induction bs using List.reverseRecOn with
  | nil => rfl
  | append_singleton bs b ih =>
    obtain ⟨hnodup, -, hnew⟩ := List.nodup_append.1 hbs
    have hfresh : b ∉ bs := fun hb => hnew b hb b (List.mem_singleton_self b) rfl
    have hconcat : refill spec (bs ++ [b]) = refill spec bs ++ placements b (spec.items b) := by
      rw [refill, List.flatMap_append, List.flatMap_singleton, ← refill]
    rw [hconcat, placed_append_placements, Spec.order_placeAll (hused b (by simp)),
      ih hnodup fun b' hb' => hused b' (List.mem_append_left _ hb'), if_neg hfresh]

end Refill

/-! ### Reading the native form -/

theorem keyNames_value (names : List Name) : keyNames (names.map Name.value) = .ok names := by
  induction names with
  | nil => rfl
  | cons n names ih =>
    rw [List.map_cons, keyNames, Name.ofValue?_value, ih]
    rfl

theorem read_mapping_eq (entries : Entries Name Value) : read (Document.mapping entries) =
    if !entries.keys.any Filter.isOperatorKey then pure (Spec.empty.placeAll .assign entries)
    else if !entries.keys.all Filter.isOperatorKey then throw (.update .mixedKeys)
    else (do
      let spec ← readOperators .empty entries
      if spec.isEmpty then throw (.update (.noOperations (entries.map fun e => e.1.value)))
      else pure spec) := by
  have hkeys : (entries.map fun e => (e.1.value, e.2)).map (·.1) = entries.map fun e => e.1.value := by
    simp
  have hnames : keyNames (entries.map fun e => e.1.value) = .ok (entries.map (·.1)) := by
    rw [← keyNames_value, List.map_map]
    rfl
  have hzip : (entries.map (·.1)).zip ((entries.map fun e => (e.1.value, e.2)).map (·.2)) =
      entries := by
    simp [List.zip_map']
  show readEntries _ = _
  rw [readEntries, hkeys, hnames]
  show (if !(Entries.keys _).any Filter.isOperatorKey then _ else _) = _
  rw [hzip]

theorem read_mapping_eq_ok {entries : Entries Name Value} {spec : Spec} (hne : entries ≠ [])
    (hkeys : ∀ e ∈ entries, Filter.isOperatorKey e.1.text = true) :
    read (Document.mapping entries) = .ok spec ↔
      readOperators .empty entries = .ok spec ∧ spec.isEmpty = false := by
  have hall : entries.keys.all Filter.isOperatorKey = true :=
    List.all_eq_true.2 (List.forall_mem_map.2 hkeys)
  have hany : entries.keys.any Filter.isOperatorKey = true := by
    obtain ⟨e, he⟩ := List.exists_mem_of_ne_nil _ hne
    exact List.any_eq_true.2 ⟨_, List.mem_map_of_mem he, hkeys e he⟩
  rw [read_mapping_eq, hany, hall, if_neg (by simp), if_neg (by simp), bind_eq_ok]
  constructor
  · rintro ⟨read, hread, h⟩
    obtain ⟨hspec, h⟩ := guard_eq_ok.1 h
    obtain rfl := pure_eq_ok.1 h
    exact ⟨hread, by simpa using hspec⟩
  · rintro ⟨hread, hspec⟩
    exact ⟨spec, hread, guard_eq_ok.2 ⟨by simp [hspec], rfl⟩⟩

section Native

variable {spec : Spec}

theorem readOperand_bucketOperand (hsound : spec.Sound) {b : Bucket}
    (hnames : ∀ f ∈ spec.items b, f.1.text ≠ "") :
    readOperand b.operator b (Document.bucketOperand spec b) = .ok (spec.items b) := by
  have hfield : ∀ f ∈ spec.items b, readField b.operator b (f.1.value, f.2) = .ok f := by
    intro f hf
    obtain ⟨hkey, hamount⟩ := hsound b f hf
    refine bind_eq_ok.2 ⟨f.1, fieldName_eq_ok_iff.2 ⟨hnames f hf, hkey⟩, guard_eq_ok.2 ⟨?_, rfl⟩⟩
    rintro ⟨hb, hnot⟩
    rw [hamount hb] at hnot
    exact Bool.noConfusion hnot
  have hfields : ((spec.items b).map fun f => (f.1.value, f.2)).mapM (readField b.operator b) =
      .ok (spec.items b) :=
    mapM_eq_ok.2 (List.forall₂_map_left_iff.2 (List.forall₂_same.2 hfield))
  cases b with
  | remove =>
    refine map_eq_ok.2 ⟨spec.remove, mapM_eq_ok.2 ?_, rfl⟩
    rw [List.map_map, List.map_map, List.forall₂_map_left_iff, List.forall₂_same]
    intro n hn
    have hmem : (n, Value.null) ∈ spec.items .remove := List.mem_map_of_mem hn
    exact fieldName_eq_ok_iff.2 ⟨hnames (n, .null) hmem, (hsound .remove _ hmem).1⟩
  | _ => exact hfields

theorem readOperators_operands (hsound : spec.Sound)
    (hnames : ∀ b, ∀ f ∈ spec.items b, f.1.text ≠ "") (ps : List Placement) (bs : List Bucket) :
    readOperators (Spec.placed ps)
        (bs.map fun b => (.plain b.operator, Document.bucketOperand spec b)) =
      .ok (Spec.placed (ps ++ refill spec bs)) := by
  induction bs generalizing ps with
  | nil =>
    rw [refill, List.flatMap_nil, List.append_nil]
    rfl
  | cons b bs ih =>
    have hkey : Bucket.ofOperator? (Name.plain b.operator).text = some b :=
      Bucket.ofOperator?_operator b
    have hrest := ih (ps ++ placements b (spec.items b))
    rw [placed_append_placements, List.append_assoc] at hrest
    rw [List.map_cons, readOperators]
    simp only [hkey]
    exact bind_eq_ok.2 ⟨_, readOperand_bucketOperand hsound (hnames b), hrest⟩

/-- The specification whose buckets stand in their order without those that are empty. -/
def Spec.compacted (s : Spec) : Spec :=
  { s with order := s.order.filter fun b => !(s.items b).isEmpty }

theorem Spec.items_compacted (s : Spec) (b : Bucket) : s.compacted.items b = s.items b := by
  cases b <;> rfl

theorem placed_refill {ps : List Placement} (hspec : spec = Spec.placed ps) :
    Spec.placed (refill spec (spec.order.filter fun b => !(spec.items b).isEmpty)) =
      spec.compacted := by
  subst hspec
  let spec := Spec.placed ps
  have hsettled : Settled ps spec := settled_placed ps
  have hbs : (spec.order.filter fun b => !(spec.items b).isEmpty).Nodup :=
    hsettled.nodup_order.filter _
  have hnames : ((refill spec (spec.order.filter fun b => !(spec.items b).isEmpty)).map
      fun p => p.name.text).Nodup := by
    rw [names_refill]
    exact Spec.nodup_flatMap_keys_placed ps hbs
  refine Spec.eq_of_items (fun b => ?_) ?_
  · rw [Spec.items_placed_of_nodup hnames, filter_refill hbs, Spec.items_compacted]
    split
    · rfl
    · rename_i hb
      by_contra hne
      have hb' : b ∈ spec.order := hsettled.mem_order b (Ne.symm hne)
      refine hb (List.mem_filter.2 ⟨hb', ?_⟩)
      simpa using Ne.symm hne
  · refine order_refill hbs fun b hb => ?_
    simpa using (List.mem_filter.1 hb).2

theorem update_compacted (spec : Spec) :
    Document.update spec.compacted = Document.update spec := by
  have htotal : spec.compacted.isEmpty = spec.isEmpty := rfl
  have hused : (spec.compacted.order.filter fun b => !(spec.compacted.items b).isEmpty) =
      spec.order.filter fun b => !(spec.items b).isEmpty := by
    simp only [Spec.items_compacted]
    exact List.filter_filter.trans (by simp)
  have hoperand : ∀ b, Document.bucketOperand spec.compacted b = Document.bucketOperand spec b := by
    intro b
    cases b <;> rfl
  unfold Document.update
  simp only [htotal, hused, hoperand]

theorem read_native {ps : List Placement} (hspec : spec = Spec.placed ps) (hsound : spec.Sound)
    (hne : spec.isEmpty = false) (hnames : "" ∉ spec.names) :
    ∃ native, Document.update spec = .ok native ∧ read native = .ok spec.compacted := by
  let used := spec.order.filter fun b => !(spec.items b).isEmpty
  have hused : used ≠ [] := by
    have hfields : spec.names ≠ [] := by
      intro hnil
      simp [Spec.isEmpty, ← Spec.length_names, hnil] at hne
    obtain ⟨field, hfield⟩ := List.exists_mem_of_ne_nil _ hfields
    obtain ⟨b, hb⟩ := Spec.mem_names.1 hfield
    have hitems : spec.items b ≠ [] := by
      intro hnil
      rw [hnil] at hb
      exact List.not_mem_nil hb
    have horder : b ∈ spec.order := by
      subst hspec
      exact (settled_placed ps).mem_order b hitems
    exact List.ne_nil_of_mem (List.mem_filter.2 ⟨horder, by simpa using hitems⟩)
  have hnonempty : ∀ b, ∀ f ∈ spec.items b, f.1.text ≠ "" := fun b f hf htext =>
    hnames (Spec.mem_names.2 ⟨b, htext ▸ List.mem_map_of_mem hf⟩)
  have hread : readOperators .empty (used.map fun b =>
      (.plain b.operator, Document.bucketOperand spec b)) = .ok spec.compacted := by
    rw [← placed_refill hspec]
    exact readOperators_operands hsound hnonempty [] used
  refine ⟨_, by rw [Document.update, hne]; rfl, (read_mapping_eq_ok ?_ ?_).2 ⟨hread, hne⟩⟩
  · simpa using hused
  · refine List.forall_mem_map.2 fun b _ => ?_
    show Filter.isOperatorKey b.operator = true
    cases b <;> decide

/-- For every update that is read, with at least one operation and no empty field name: its native form
is an update that is read as the same buckets, in the same order but without those that have been
emptied, and this specification has the same native form again. -/
theorem read_update {update : Value} (h : read update = .ok spec) (hne : spec.isEmpty = false)
    (hnames : "" ∉ spec.names) :
    let again : Spec := { spec with order := spec.order.filter fun b => !(spec.items b).isEmpty }
    ∃ native, Document.update spec = .ok native ∧ read native = .ok again ∧
      Document.update again = .ok native ∧
      ∀ start, compileUpdate update .document start = .ok (.document native) ∧
        compileUpdate native .document start = .ok (.document native) := by
  obtain ⟨-, qs, -, hplaced, -⟩ := read_eq_ok h
  obtain ⟨native, hnative, hread⟩ := read_native hplaced (sound_of_read h) hne hnames
  have hagain : Document.update spec.compacted = .ok native := (update_compacted spec).trans hnative
  refine ⟨native, hnative, hread, hagain, fun start => ⟨?_, ?_⟩⟩
  · rw [compileUpdate_document h, hnative]
    rfl
  · rw [compileUpdate_document hread, hagain]
    rfl

end Native

/-- A field that moves from one bucket to another empties its first bucket, which the native form leaves
out. -/
theorem read_update_of_moved :
    let update : Value := Document.mapping
      [(.plain "$set", .map [(.str "a", .int 1)]),
        (.plain "$unset", .list [.str "b", .str "c"]),
        (.plain "$push", .map [(.str "a", .int 2), (.str "b", .int 3)])]
    let spec : Spec := {
      remove := [.plain "c"]
      append := [(.plain "a", .int 2), (.plain "b", .int 3)]
      order := [.assign, .remove, .append] }
    read update = .ok spec ∧ spec.isEmpty = false ∧ "" ∉ spec.names ∧
      ∃ native, Document.update spec = .ok native ∧
        read native = .ok { spec with order := [.remove, .append] } ∧
        Document.update { spec with order := [.remove, .append] } = .ok native := by
  intro update spec
  have hread : read update = .ok spec := by rfl
  have hne : spec.isEmpty = false := by decide
  have hnames : "" ∉ spec.names := by decide
  obtain ⟨native, hnative, hagain, hsame, -⟩ := read_update hread hne hnames
  exact ⟨hread, hne, hnames, native, hnative, hagain, hsame⟩

end Update

end Polystore

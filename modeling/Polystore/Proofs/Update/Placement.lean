import Polystore.Document
import Polystore.Proofs.Outcome
import Polystore.Proofs.Value.Keys
import Polystore.Update.Reading

/-!
# Placements

A specification is made by placing fields into buckets, one after the other. `items_place` says what one
placement does to each bucket, and `settled_placed` what any number of them leaves: a field stands in the
bucket of its last placement and in no other.

Main statement: `last_placement_counts`.
-/

namespace Polystore

namespace Entries

variable {κ α : Type} [Named κ]

theorem erase_eq_filter (name : String) (es : Entries κ α) :
    es.erase name = es.filter fun e => Named.text e.1 != name := by
  induction es with
  | nil => rfl
  | cons e es ih =>
    obtain ⟨n, v⟩ := e
    by_cases h : Named.text n = name <;> simp [erase, h, ih]

theorem erase_erase (name : String) (es : Entries κ α) : (es.erase name).erase name = es.erase name := by
  simp [erase_eq_filter]

theorem mem_keys_iff {name : String} {es : Entries κ α} : name ∈ es.keys ↔ ∃ v, es.get? name = some v := by
  rw [← Option.ne_none_iff_exists', ne_eq, get?_eq_none_iff, not_not]

end Entries

namespace Update

/-- What a bucket keeps of an operand; a removal has none. -/
def Bucket.kept (b : Bucket) (v : Value) : Value :=
  if b = .remove then .null else v

/-- One field that is placed into a bucket. -/
structure Placement where
  bucket : Bucket
  name : Name
  value : Value

/-- What a placement asks for: the bucket, and what it keeps of the value. -/
def Placement.operation (p : Placement) : Bucket × Value :=
  (p.bucket, p.bucket.kept p.value)

/-- The last placement of a field. -/
def lastOn? (field : String) (ps : List Placement) : Option Placement :=
  ps.reverse.find? fun p => p.name.text == field

theorem lastOn?_append (field : String) (ps qs : List Placement) :
    lastOn? field (ps ++ qs) = (lastOn? field qs).or (lastOn? field ps) := by
  rw [lastOn?, List.reverse_append, List.find?_append]
  rfl

theorem lastOn?_concat (field : String) (ps : List Placement) (p : Placement) :
    lastOn? field (ps ++ [p]) = if p.name.text = field then some p else lastOn? field ps := by
  rw [lastOn?_append]
  by_cases h : p.name.text = field <;> simp [lastOn?, h]

theorem exists_lastOn?_iff {field : String} {ps : List Placement} :
    (∃ p, lastOn? field ps = some p) ↔ ∃ p ∈ ps, p.name.text = field := by
  rw [← Option.isSome_iff_exists, lastOn?, List.find?_isSome]
  simp

namespace Spec

/-! ### One placement -/

theorem put_removal (names : List Name) (name : Name) :
    Entries.put name Value.null (names.map fun n => (n, .null)) =
      (if names.any fun n => n.text == name.text then names else names ++ [name]).map
        fun n => (n, Value.null) := by
  induction names with
  | nil => rfl
  | cons n names ih =>
    by_cases h : n.text = name.text
    · have hput : Named.text n = Named.text name := h
      simp [Entries.put, hput, h]
    · have hput : ¬Named.text n = Named.text name := h
      rw [List.map_cons, Entries.put, if_neg hput, ih]
      by_cases hany : (names.any fun n => n.text == name.text) = true <;> simp [h, hany]

theorem items_drop (s : Spec) (name : Name) (o b : Bucket) :
    (s.drop name o).items b = if o = b then (s.items b).erase name.text else s.items b := by
  have hremove : (s.drop name .remove).items .remove = (s.items .remove).erase name.text := by
    rw [Entries.erase_eq_filter, items, items, List.filter_map]
    rfl
  cases o <;> cases b <;> first | exact hremove | rfl

theorem items_dropAll (others : List Bucket) (s : Spec) (name : Name) (b : Bucket) :
    (others.foldl (fun s o => s.drop name o) s).items b =
      if b ∈ others then (s.items b).erase name.text else s.items b := by
  induction others generalizing s with
  | nil => rfl
  | cons o others ih =>
    rw [List.foldl_cons, ih, items_drop]
    by_cases ho : o = b
    · subst ho
      simp [Entries.erase_erase]
    · simp [ho, Ne.symm ho]

theorem write_remove (s : Spec) (name : Name) (v : Value) : s.write name v .remove =
    { s with
      remove := if s.remove.any fun n => n.text == name.text then s.remove else s.remove ++ [name] } := by
  show (if _ then s else _) = _
  split <;> rfl

theorem items_write (s : Spec) (name : Name) (v : Value) (b b' : Bucket) :
    (s.write name v b).items b' =
      if b' = b then (s.items b).put name (b.kept v) else s.items b' := by
  cases b with
  | remove =>
    rw [write_remove]
    cases b' with
    | remove => exact (put_removal s.remove name).symm
    | _ => rfl
  | _ => cases b' <;> rfl

/-- A placement writes the field into its bucket and takes it out of every other. -/
theorem items_place (s : Spec) (name : Name) (v : Value) (b b' : Bucket) :
    (s.place b name v).items b' =
      if b' = b then (s.items b).put name (b.kept v) else (s.items b').erase name.text := by
  have hnote : ∀ t : Spec, (t.note b).items b' = t.items b' := by
    intro t
    unfold note
    split <;> rfl
  have hall : b' ∈ Bucket.all := by cases b' <;> decide
  unfold place
  rw [hnote, items_write, items_dropAll, items_dropAll]
  by_cases h : b' = b <;> simp [h, hall]

theorem order_place (s : Spec) (name : Name) (v : Value) (b : Bucket) :
    (s.place b name v).order = if b ∈ s.order then s.order else s.order ++ [b] := by
  have hdrop : ∀ others : List Bucket,
      (others.foldl (fun s o => s.drop name o) s).order = s.order := by
    intro others
    induction others generalizing s with
    | nil => rfl
    | cons o others ih =>
      rw [List.foldl_cons, ih]
      cases o <;> rfl
  have hwrite : ∀ t : Spec, (t.write name v b).order = t.order := by
    intro t
    cases b with
    | remove => rw [write_remove]
    | _ => rfl
  have hnote : ∀ t : Spec, (t.note b).order = if b ∈ t.order then t.order else t.order ++ [b] := by
    intro t
    rw [note]
    simp only [List.contains_iff_mem]
    split <;> rfl
  exact (hnote _).trans (by rw [hwrite, hdrop])

/-! ### Many placements -/

/-- The specification that placements make. -/
def placed (ps : List Placement) : Spec :=
  ps.foldl (fun s p => s.place p.bucket p.name p.value) .empty

theorem placed_concat (ps : List Placement) (p : Placement) :
    placed (ps ++ [p]) = (placed ps).place p.bucket p.name p.value := by
  rw [placed, List.foldl_append]
  rfl

theorem get?_items_placed {ps : List Placement} {b : Bucket} {field : String} {v : Value} :
    ((placed ps).items b).get? field = some v ↔
      (lastOn? field ps).map Placement.operation = some (b, v) := by
  induction ps using List.reverseRecOn with
  | nil => cases b <;> simp [placed, empty, items, Entries.get?, lastOn?]
  | append_singleton ps p ih =>
    have htext : Named.text p.name = p.name.text := rfl
    rw [placed_concat, items_place, lastOn?_concat]
    by_cases hb : b = p.bucket
    · subst hb
      rw [if_pos rfl, Entries.get?_put, htext]
      by_cases hfield : p.name.text = field
      · simp [hfield, Placement.operation]
      · simpa [hfield] using ih
    · rw [if_neg hb, Entries.get?_erase]
      by_cases hfield : p.name.text = field
      · simp [hfield, Placement.operation, Ne.symm hb]
      · simpa [hfield] using ih

theorem nodup_keys_items_placed (ps : List Placement) (b : Bucket) :
    ((placed ps).items b).keys.Nodup := by
  induction ps using List.reverseRecOn with
  | nil => cases b <;> exact List.nodup_nil
  | append_singleton ps p ih =>
    rw [placed_concat, items_place]
    split
    · rename_i hb
      exact Entries.nodup_keys_put _ _ (hb ▸ ih)
    · rw [Entries.keys_erase]
      exact ih.filter _

theorem mem_keys_items_placed {ps : List Placement} {b : Bucket} {field : String} :
    field ∈ ((placed ps).items b).keys ↔ ∃ p, lastOn? field ps = some p ∧ p.bucket = b := by
  rw [Entries.mem_keys_iff]
  simp only [get?_items_placed, Option.map_eq_some_iff]
  constructor
  · rintro ⟨v, p, hp, hoperation⟩
    exact ⟨p, hp, (Prod.mk.inj hoperation).1⟩
  · rintro ⟨p, hp, rfl⟩
    exact ⟨_, p, hp, rfl⟩

theorem eq_of_mem_keys_items_placed {ps : List Placement} {b b' : Bucket} {field : String}
    (h : field ∈ ((placed ps).items b).keys) (h' : field ∈ ((placed ps).items b').keys) : b = b' := by
  obtain ⟨p, hp, rfl⟩ := mem_keys_items_placed.1 h
  obtain ⟨p', hp', rfl⟩ := mem_keys_items_placed.1 h'
  rw [Option.some.inj (hp.symm.trans hp')]

theorem exists_mem_keys_items_placed {ps : List Placement} {field : String} :
    (∃ b, field ∈ ((placed ps).items b).keys) ↔ field ∈ ps.map fun p => p.name.text := by
  simp only [mem_keys_items_placed, List.mem_map]
  rw [← exists_lastOn?_iff]
  exact ⟨fun ⟨_, p, hp, _⟩ => ⟨p, hp⟩, fun ⟨p, hp⟩ => ⟨_, p, hp, rfl⟩⟩

theorem eraseDups_concat (bs : List Bucket) (b : Bucket) :
    (bs ++ [b]).eraseDups = if b ∈ bs then bs.eraseDups else bs.eraseDups ++ [b] := by
  rw [List.eraseDups_append]
  by_cases h : b ∈ bs <;> simp [List.removeAll, h, List.eraseDups_cons]

theorem order_placed (ps : List Placement) :
    (placed ps).order = (ps.map (·.bucket)).eraseDups := by
  induction ps using List.reverseRecOn with
  | nil => rfl
  | append_singleton ps p ih =>
    rw [placed_concat, order_place, List.map_append, List.map_singleton, eraseDups_concat, ih]
    simp only [List.mem_eraseDups]

theorem nodup_order_placed (ps : List Placement) : (placed ps).order.Nodup := by
  induction ps using List.reverseRecOn with
  | nil => exact List.nodup_nil
  | append_singleton ps p ih =>
    rw [placed_concat, order_place]
    split
    · exact ih
    · rename_i hnew
      exact List.nodup_append.2 ⟨ih, List.nodup_singleton _, fun b hb b' hb' heq =>
        hnew (List.mem_singleton.1 hb' ▸ heq ▸ hb)⟩

/-- The names in all buckets. -/
def names (s : Spec) : List String :=
  Bucket.all.flatMap fun b => (s.items b).keys

theorem length_names (s : Spec) : s.names.length = s.total := by
  simp [names, Bucket.all, total, items, Entries.keys]
  omega

theorem mem_names {s : Spec} {field : String} : field ∈ s.names ↔ ∃ b, field ∈ (s.items b).keys := by
  rw [names, List.mem_flatMap]
  constructor
  · rintro ⟨b, -, hb⟩
    exact ⟨b, hb⟩
  · rintro ⟨b, hb⟩
    exact ⟨b, by cases b <;> decide, hb⟩

theorem nodup_flatMap_keys_placed (ps : List Placement) {bs : List Bucket} (hbs : bs.Nodup) :
    (bs.flatMap fun b => ((placed ps).items b).keys).Nodup := by
  refine List.nodup_flatMap.2 ⟨fun b _ => nodup_keys_items_placed ps b, ?_⟩
  refine hbs.imp fun {b b'} hne => ?_
  intro field hb hb'
  exact hne (eq_of_mem_keys_items_placed hb hb')

theorem nodup_names_placed (ps : List Placement) : (placed ps).names.Nodup :=
  nodup_flatMap_keys_placed ps (by decide)

end Spec

/-- What placements have made of a specification. -/
structure Settled (ps : List Placement) (s : Spec) : Prop where
  /-- A bucket has a field once. -/
  nodup : ∀ b, (s.items b).keys.Nodup
  /-- A field is in one bucket. -/
  eq_of_mem : ∀ field b b', field ∈ (s.items b).keys → field ∈ (s.items b').keys → b = b'
  /-- The fields are those that were placed. -/
  exists_mem : ∀ field, (∃ b, field ∈ (s.items b).keys) ↔ field ∈ ps.map fun p => p.name.text
  /-- A field has what its last placement asks for. -/
  get? : ∀ field b v, (s.items b).get? field = some v ↔
    (lastOn? field ps).map Placement.operation = some (b, v)
  /-- There are as many operations as names that were placed. -/
  total : s.total = (ps.map fun p => p.name.text).toFinset.card
  nodup_order : s.order.Nodup
  /-- The buckets stand in the order of their first placements. -/
  order : s.order = (ps.map (·.bucket)).eraseDups
  mem_order : ∀ b, s.items b ≠ [] → b ∈ s.order

theorem settled_placed (ps : List Placement) : Settled ps (Spec.placed ps) where
  nodup := Spec.nodup_keys_items_placed ps
  eq_of_mem _ _ _ := Spec.eq_of_mem_keys_items_placed
  exists_mem _ := Spec.exists_mem_keys_items_placed
  get? _ _ _ := Spec.get?_items_placed
  total := by
    rw [← Spec.length_names, ← List.toFinset_card_of_nodup (Spec.nodup_names_placed ps)]
    congr 1
    ext field
    rw [List.mem_toFinset, List.mem_toFinset, Spec.mem_names, Spec.exists_mem_keys_items_placed]
  nodup_order := Spec.nodup_order_placed ps
  order := Spec.order_placed ps
  mem_order b hb := by
    obtain ⟨e, he⟩ := List.exists_mem_of_ne_nil _ hb
    obtain ⟨p, hp, rfl⟩ := Spec.mem_keys_items_placed.1 (List.mem_map_of_mem he)
    have hmem : p ∈ ps := List.mem_reverse.1 (List.mem_of_find?_eq_some hp)
    rw [Spec.order_placed, List.mem_eraseDups]
    exact List.mem_map_of_mem hmem

/-! ### Updates that are read -/

/-- What an operand names, each with what it is given. -/
def named : Value → List (Value × Value)
  | .map es => es
  | .list xs => xs.map fun x => (x, .null)
  | .tuple xs => xs.map fun x => (x, .null)
  | _ => []

/-- What an operator asks for a field, if its operand names the field. -/
def askedBy? (field : String) (e : Name × Value) : Option (Bucket × Value) := do
  let b ← Bucket.ofOperator? e.1.text
  let found ← (named e.2).reverse.find? fun x => Value.isKey field x.1
  some (b, b.kept found.2)

/-- What an update asks for a field: what the last operator that names the field asks for, or a new value
if there are no operators. -/
def operationOn? (field : String) (entries : Entries Name Value) : Option (Bucket × Value) :=
  if entries.keys.any Filter.isOperatorKey then entries.reverse.findSome? (askedBy? field)
  else (entries.reverse.find? fun e => e.1.text == field).map fun e => (.assign, e.2)

/-- The placements of fields into one bucket. -/
def placements (b : Bucket) (fields : Entries Name Value) : List Placement :=
  fields.map fun f => ⟨b, f.1, f.2⟩

theorem placed_append_placements (ps : List Placement) (b : Bucket) (fields : Entries Name Value) :
    Spec.placed (ps ++ placements b fields) = (Spec.placed ps).placeAll b fields := by
  rw [Spec.placed, List.foldl_append, placements, List.foldl_map]
  rfl

theorem keyNames_eq_ok {ks : List Value} {names : List Name} (h : keyNames ks = .ok names) :
    ks = names.map Name.value := by
  induction ks generalizing names with
  | nil =>
    obtain rfl := pure_eq_ok.1 h
    rfl
  | cons k ks ih =>
    rw [keyNames] at h
    cases hk : Name.ofValue? k with
    | none =>
      rw [hk] at h
      exact absurd h throw_ne_ok
    | some n =>
      rw [hk] at h
      obtain ⟨rest, hrest, rfl⟩ := map_eq_ok.1 h
      rw [List.map_cons, ih hrest, Name.value_of_ofValue? hk]

theorem fieldName_eq_ok {operator : String} {k : Value} {name : Name}
    (h : fieldName operator k = .ok name) : k = name.value := by
  unfold fieldName at h
  cases hk : Name.ofValue? k with
  | none =>
    rw [hk] at h
    exact absurd h throw_ne_ok
  | some n =>
    simp only [hk] at h
    split at h
    · exact absurd h throw_ne_ok
    · rw [← pure_eq_ok.1 h, Name.value_of_ofValue? hk]

/-- A field is what an operand names, and the bucket keeps of it what it would keep of the operand. -/
def Reads (b : Bucket) (e : Value × Value) (f : Name × Value) : Prop :=
  e.1 = f.1.value ∧ b.kept f.2 = b.kept e.2

theorem reads_of_readField {operator : String} {b : Bucket} {e : Value × Value} {f : Name × Value}
    (h : readField operator b e = .ok f) : Reads b e f := by
  obtain ⟨name, hname, h⟩ := bind_eq_ok.1 h
  obtain ⟨-, h⟩ := guard_eq_ok.1 h
  obtain rfl := pure_eq_ok.1 h
  exact ⟨fieldName_eq_ok hname, rfl⟩

theorem reads_of_removalNames {operator : String} {operand : Value} {names : List Name}
    (h : removalNames operator operand = .ok names) :
    List.Forall₂ (Reads .remove) (named operand) (names.map fun n => (n, .null)) := by
  have hnames : ∀ {ks : List Value}, ks.mapM (fieldName operator) = .ok names →
      List.Forall₂ (fun k n => k = Name.value n) ks names :=
    fun hks => (mapM_eq_ok.1 hks).imp fun _ _ hk => fieldName_eq_ok hk
  rw [List.forall₂_map_right_iff]
  cases operand with
  | map es => exact (List.forall₂_map_left_iff.1 (hnames h)).imp fun _ _ hk => ⟨hk, rfl⟩
  | list xs => exact List.forall₂_map_left_iff.2 ((hnames h).imp fun _ _ hk => ⟨hk, rfl⟩)
  | tuple xs => exact List.forall₂_map_left_iff.2 ((hnames h).imp fun _ _ hk => ⟨hk, rfl⟩)
  | _ => exact absurd h throw_ne_ok

theorem exists_map_of_readOperand {operator : String} {b : Bucket} {operand : Value}
    {fields : Entries Name Value} (hb : b ≠ .remove) (h : readOperand operator b operand = .ok fields) :
    ∃ es, operand = .map es ∧ es.mapM (readField operator b) = .ok fields := by
  cases b with
  | remove => exact absurd rfl hb
  | _ =>
    cases operand with
    | map es => exact ⟨es, rfl, h⟩
    | _ => exact absurd h throw_ne_ok

theorem reads_of_readOperand {operator : String} {b : Bucket} {operand : Value}
    {fields : Entries Name Value} (h : readOperand operator b operand = .ok fields) :
    List.Forall₂ (Reads b) (named operand) fields := by
  by_cases hb : b = .remove
  · subst hb
    obtain ⟨names, hnames, rfl⟩ := map_eq_ok.1 h
    exact reads_of_removalNames hnames
  · obtain ⟨es, rfl, hes⟩ := exists_map_of_readOperand hb h
    exact (mapM_eq_ok.1 hes).imp fun _ _ hf => reads_of_readField hf

theorem lastOn?_placements {b : Bucket} {es : List (Value × Value)} {fields : Entries Name Value}
    (h : List.Forall₂ (Reads b) es fields) (field : String) :
    (lastOn? field (placements b fields)).map Placement.operation =
      (es.reverse.find? fun e => Value.isKey field e.1).map fun e => (b, b.kept e.2) := by
  have hreverse := List.forall₂_reverse_iff.2 h
  rw [lastOn?, placements, ← List.map_reverse]
  generalize es.reverse = es, fields.reverse = fields at hreverse
  induction hreverse with
  | nil => rfl
  | @cons e f es fields hread _ ih =>
    obtain ⟨hkey, hkept⟩ := hread
    have htext : Value.isKey field e.1 = (f.1.text == field) := by
      rw [Value.isKey, hkey, Name.text?_value]
      rfl
    rw [List.map_cons, List.find?_cons, List.find?_cons, htext]
    cases hfield : f.1.text == field with
    | true => simp [Placement.operation, hkept]
    | false => simpa using ih

theorem readOperators_eq_ok {ps : List Placement} {entries : Entries Name Value} {spec : Spec}
    (h : readOperators (Spec.placed ps) entries = .ok spec) : ∃ qs, spec = Spec.placed (ps ++ qs) ∧
      ∀ field, (lastOn? field qs).map Placement.operation =
        entries.reverse.findSome? (askedBy? field) := by
  induction entries generalizing ps with
  | nil => exact ⟨[], by rw [List.append_nil]; exact (pure_eq_ok.1 h).symm, fun _ => rfl⟩
  | cons e entries ih =>
    obtain ⟨key, operand⟩ := e
    rw [readOperators] at h
    cases hb : Bucket.ofOperator? key.text with
    | none =>
      rw [hb] at h
      exact absurd h throw_ne_ok
    | some b =>
      simp only [hb] at h
      obtain ⟨fields, hfields, h⟩ := bind_eq_ok.1 h
      rw [← placed_append_placements] at h
      obtain ⟨qs, rfl, hqs⟩ := ih h
      refine ⟨placements b fields ++ qs, by rw [List.append_assoc], fun field => ?_⟩
      have hfirst : askedBy? field (key, operand) =
          (lastOn? field (placements b fields)).map Placement.operation := by
        rw [lastOn?_placements (reads_of_readOperand hfields), askedBy?, hb]
        cases (named operand).reverse.find? fun x => Value.isKey field x.1 <;> rfl
      rw [lastOn?_append, List.reverse_cons, List.findSome?_append, ← hqs field,
        List.findSome?_singleton, hfirst]
      cases lastOn? field qs <;> rfl

theorem lastOn?_assigned (field : String) (entries : Entries Name Value) :
    (lastOn? field (placements .assign entries)).map Placement.operation =
      (entries.reverse.find? fun e => e.1.text == field).map fun e => (.assign, e.2) := by
  rw [lastOn?, placements, ← List.map_reverse, List.find?_map, Option.map_map]
  rfl

theorem readEntries_eq_ok {es : List (Value × Value)} {spec : Spec} (h : readEntries es = .ok spec) :
    ∃ entries : Entries Name Value, es = entries.map (fun e => (e.1.value, e.2)) ∧
      (entries.keys.any Filter.isOperatorKey = false ∧ spec = Spec.empty.placeAll .assign entries ∨
        entries.keys.any Filter.isOperatorKey = true ∧ readOperators .empty entries = .ok spec) := by
  obtain ⟨names, hnames, h⟩ := bind_eq_ok.1 h
  dsimp only at h
  have hes : es = (names.zip (es.map (·.2))).map fun e => (e.1.value, e.2) := by
    have hzip : (es.map (·.1)).zip (es.map (·.2)) = es := by simp [List.zip_map']
    rw [keyNames_eq_ok hnames, List.zip_map_left] at hzip
    exact hzip.symm
  refine ⟨_, hes, ?_⟩
  cases hany : Entries.keys (names.zip (es.map (·.2))) |>.any Filter.isOperatorKey with
  | false =>
    rw [hany] at h
    exact .inl ⟨rfl, (pure_eq_ok.1 h).symm⟩
  | true =>
    cases hall : Entries.keys (names.zip (es.map (·.2))) |>.all Filter.isOperatorKey with
    | false =>
      rw [hany, hall] at h
      exact absurd h throw_ne_ok
    | true =>
      rw [hany, hall] at h
      obtain ⟨read, hread, h⟩ := bind_eq_ok.1 h
      obtain ⟨-, h⟩ := guard_eq_ok.1 h
      obtain rfl := pure_eq_ok.1 h
      exact .inr ⟨rfl, hread⟩

theorem read_eq_ok {update : Value} {spec : Spec} (h : read update = .ok spec) :
    ∃ entries qs, update = Document.mapping entries ∧ spec = Spec.placed qs ∧
      ∀ field, (lastOn? field qs).map Placement.operation = operationOn? field entries := by
  cases update with
  | map es =>
    obtain ⟨entries, rfl, ⟨hany, rfl⟩ | ⟨hany, hread⟩⟩ := readEntries_eq_ok h
    · refine ⟨entries, placements .assign entries, rfl,
        (placed_append_placements [] .assign entries).symm, fun field => ?_⟩
      rw [lastOn?_assigned, operationOn?, hany]
      rfl
    · have hplaced : readOperators (Spec.placed []) entries = .ok spec := hread
      obtain ⟨qs, rfl, hqs⟩ := readOperators_eq_ok hplaced
      refine ⟨entries, qs, rfl, rfl, fun field => ?_⟩
      rw [hqs, operationOn?, hany]
      rfl
  | _ => exact absurd h throw_ne_ok

/-- A field has what its last placement asks for, after any placements, and after reading an update what
the last operator that names it asks for. -/
theorem last_placement_counts (ps : List Placement) {update : Value} {spec : Spec}
    (h : read update = .ok spec) :
    Settled ps (Spec.placed ps) ∧ ∃ entries qs, update = Document.mapping entries ∧ Settled qs spec ∧
      ∀ field b v, (spec.items b).get? field = some v ↔ operationOn? field entries = some (b, v) := by
  obtain ⟨entries, qs, hupdate, rfl, hqs⟩ := read_eq_ok h
  refine ⟨settled_placed ps, entries, qs, hupdate, settled_placed qs, fun field b v => ?_⟩
  rw [Spec.get?_items_placed, hqs]

/-- A field that is removed and then pushed to keeps what is pushed last; one that is set again keeps its
new value. -/
theorem last_placement_counts_of_moved :
    let ps : List Placement := [⟨.assign, .plain "a", .int 1⟩, ⟨.remove, .plain "a", .null⟩,
      ⟨.increment, .plain "b", .int 2⟩, ⟨.assign, .plain "a", .int 3⟩]
    let update : Value := Document.mapping
      [(.plain "$unset", .list [.str "a", .str "b"]),
        (.plain "$push", .map [(.str "a", .int 1)]), (.plain "$addToSet", .map [(.str "a", .int 2)])]
    let spec : Spec := {
      remove := [.plain "b"], append := [(.plain "a", .int 2)], order := [.remove, .append] }
    read update = .ok spec ∧ Settled ps (Spec.placed ps) ∧
      ∃ entries qs, update = Document.mapping entries ∧ Settled qs spec ∧
        ∀ field b v, (spec.items b).get? field = some v ↔ operationOn? field entries = some (b, v) :=
  have hread : read _ = .ok _ := by rfl
  ⟨hread, last_placement_counts _ hread⟩

end Update

end Polystore

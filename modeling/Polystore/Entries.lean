/-!
# Named entries in order

Lists of named values that keep the order in which the names first came. Names are told apart by their
texts. Writing under a name that is there changes the value in its place, and the name stays as it was
first written.

Main statements: `get?_put` and `get?_erase` say what is found afterwards, `keys_put` says that writing
adds a name at the end or leaves the names as they are, and `nodup_keys_put` that names stay distinct.
`get?_putAll_eq_some` and `mem_keys_putAll` say the same of many writes.
-/

namespace Polystore

/-- Things that name entries, each by its text. -/
class Named (κ : Type) where
  text : κ → String

/-- A text names entries by itself. -/
instance : Named String where
  text s := s

/-- Named values in order. -/
abbrev Entries (κ α : Type) := List (κ × α)

namespace Entries

variable {κ α : Type} [Named κ]

/-- The texts of the names in order. -/
def keys (es : Entries κ α) : List String :=
  es.map fun e => Named.text e.1

/-- The value under the name with a text. -/
def get? (name : String) : Entries κ α → Option α
  | [] => none
  | (n, v) :: es => if Named.text n = name then some v else get? name es

/-- Some value is under the name with a text. -/
def has (name : String) (es : Entries κ α) : Bool :=
  (es.get? name).isSome

/-- Writes a value under a name, in the name's place or at the end. -/
def put (name : κ) (value : α) : Entries κ α → Entries κ α
  | [] => [(name, value)]
  | (n, v) :: es =>
    if Named.text n = Named.text name then (n, value) :: es else (n, v) :: put name value es

/-- Takes the name with a text out. -/
def erase (name : String) : Entries κ α → Entries κ α
  | [] => []
  | (n, v) :: es => if Named.text n = name then erase name es else (n, v) :: erase name es

/-- Writes all values, one after the other. -/
def ofList (es : List (κ × α)) : Entries κ α :=
  es.foldl (fun acc e => acc.put e.1 e.2) []

theorem get?_eq_none_iff {name : String} {es : Entries κ α} :
    es.get? name = none ↔ name ∉ es.keys := by
  induction es with
  | nil => simp [get?, keys]
  | cons e es ih =>
    obtain ⟨n, v⟩ := e
    by_cases h : Named.text n = name
    · simp [get?, keys, h]
    · have h' : name ≠ Named.text n := fun h'' => h h''.symm
      simpa [get?, keys, h, h'] using ih

theorem get?_put (name : κ) (other : String) (value : α) (es : Entries κ α) :
    (es.put name value).get? other =
      if Named.text name = other then some value else es.get? other := by
  induction es with
  | nil => by_cases h : Named.text name = other <;> simp [put, get?, h]
  | cons e es ih =>
    obtain ⟨n, v⟩ := e
    by_cases h : Named.text n = Named.text name
    · by_cases h' : Named.text name = other <;> simp [put, get?, h, h']
    · by_cases h' : Named.text n = other
      · subst h'
        have hne : Named.text name ≠ Named.text n := fun hn => h hn.symm
        simp [put, get?, h, hne]
      · simp [put, get?, h, h', ih]

theorem get?_erase (name other : String) (es : Entries κ α) :
    (es.erase name).get? other = if name = other then none else es.get? other := by
  induction es with
  | nil => simp [erase, get?]
  | cons e es ih =>
    obtain ⟨n, v⟩ := e
    by_cases h : Named.text n = name
    · by_cases h' : name = other
      · subst h'
        simpa [erase, h] using ih
      · simp [erase, get?, h, h', ih]
    · by_cases h' : Named.text n = other
      · subst h'
        have hne : name ≠ Named.text n := fun hn => h hn.symm
        simp [erase, get?, h, hne]
      · simp [erase, get?, h, h', ih]

theorem keys_put (name : κ) (value : α) (es : Entries κ α) :
    (es.put name value).keys =
      if Named.text name ∈ es.keys then es.keys else es.keys ++ [Named.text name] := by
  induction es with
  | nil => simp [put, keys]
  | cons e es ih =>
    obtain ⟨n, v⟩ := e
    by_cases h : Named.text n = Named.text name
    · simp [put, keys, h]
    · have h' : Named.text name ≠ Named.text n := fun h'' => h h''.symm
      unfold keys at ih
      by_cases hm : Named.text name ∈ es.map fun e => Named.text e.1
      · simp only [put, h, if_false, keys, List.map_cons, ih, List.mem_cons, h', hm,
          or_true, if_true]
      · simp only [put, h, if_false, keys, List.map_cons, ih, List.mem_cons, h', hm,
          or_self, if_false, List.cons_append]

theorem nodup_keys_put (name : κ) (value : α) {es : Entries κ α} (h : es.keys.Nodup) :
    (es.put name value).keys.Nodup := by
  rw [keys_put]
  split
  · exact h
  · rename_i hn
    exact List.nodup_append.2 ⟨h, by simp, by
      intro a ha b hb hab
      simp only [List.mem_singleton] at hb
      exact hn (hb ▸ hab ▸ ha)⟩

theorem keys_erase (name : String) (es : Entries κ α) :
    (es.erase name).keys = es.keys.filter (· != name) := by
  induction es with
  | nil => rfl
  | cons e es ih =>
    obtain ⟨n, v⟩ := e
    unfold keys at ih
    by_cases h : Named.text n = name <;> simp [erase, keys, h, ih]

theorem get?_append (name : String) (es fs : Entries κ α) :
    Entries.get? name (es ++ fs) = (es.get? name).or (fs.get? name) := by
  induction es with
  | nil => rfl
  | cons e es ih =>
    obtain ⟨n, v⟩ := e
    by_cases h : Named.text n = name
    · simp [get?, h]
    · simpa [get?, h] using ih

/-- A new name is written at the end. -/
theorem put_append_of_get?_eq_none {name : κ} {es : Entries κ α}
    (h : es.get? (Named.text name) = none) (value : α) (fs : Entries κ α) :
    Entries.put name value (es ++ fs) = es ++ fs.put name value := by
  induction es with
  | nil => rfl
  | cons e es ih =>
    obtain ⟨n, v⟩ := e
    by_cases hn : Named.text n = Named.text name
    · simp [get?, hn] at h
    · have h : get? (Named.text name) es = none := by simpa [get?, hn] using h
      simp only [List.cons_append, put, if_neg hn, ih h]

theorem put_of_get?_eq_none {name : κ} {es : Entries κ α} (h : es.get? (Named.text name) = none)
    (value : α) : es.put name value = es ++ [(name, value)] := by
  simpa [put] using put_append_of_get?_eq_none h value []

theorem get?_of_mem {es : Entries κ α} (hnodup : es.keys.Nodup) {name : κ} {value : α}
    (h : (name, value) ∈ es) : es.get? (Named.text name) = some value := by
  induction es with
  | nil => exact absurd h (by simp)
  | cons e es ih =>
    obtain ⟨n, v⟩ := e
    obtain ⟨hfresh, hnodup⟩ := List.nodup_cons.1 hnodup
    rcases List.mem_cons.1 h with heq | h
    · obtain ⟨rfl, rfl⟩ := Prod.mk.inj heq
      simp [get?]
    · have hne : Named.text n ≠ Named.text name := by
        intro heq
        have hname : Named.text name ∈ keys es := List.mem_map.2 ⟨(name, value), h, rfl⟩
        rw [← heq] at hname
        exact hfresh hname
      simpa [get?, hne] using ih hnodup h

theorem exists_mem_of_get? {es : Entries κ α} {name : String} {value : α}
    (h : es.get? name = some value) : ∃ n, Named.text n = name ∧ (n, value) ∈ es := by
  induction es with
  | nil => simp [get?] at h
  | cons e es ih =>
    obtain ⟨n, v⟩ := e
    by_cases hn : Named.text n = name
    · obtain rfl : v = value := by simpa [get?, hn] using h
      exact ⟨n, hn, by simp⟩
    · obtain ⟨n', hn', hmem⟩ := ih (by simpa [get?, hn] using h)
      exact ⟨n', hn', List.mem_cons_of_mem _ hmem⟩

theorem exists_get?_of_mem {es : Entries κ α} {e : κ × α} (h : e ∈ es) :
    ∃ v, es.get? (Named.text e.1) = some v := by
  rw [← Option.ne_none_iff_exists']
  intro hnone
  exact get?_eq_none_iff.1 hnone (List.mem_map.2 ⟨e, h, rfl⟩)

/-- Writes all values over what is there, one after the other. -/
def putAll (acc : Entries κ α) (es : List (κ × α)) : Entries κ α :=
  es.foldl (fun acc e => acc.put e.1 e.2) acc

theorem nodup_keys_putAll (es : List (κ × α)) {acc : Entries κ α} (h : acc.keys.Nodup) :
    (acc.putAll es).keys.Nodup := by
  induction es generalizing acc with
  | nil => exact h
  | cons e es ih => exact ih (nodup_keys_put e.1 e.2 h)

/-- A value that is found after many writes was there before or is one of those written. -/
theorem get?_putAll_eq_some {es : List (κ × α)} {acc : Entries κ α} {name : String} {value : α}
    (h : (acc.putAll es).get? name = some value) :
    acc.get? name = some value ∨ ∃ n, Named.text n = name ∧ (n, value) ∈ es := by
  induction es generalizing acc with
  | nil => exact .inl h
  | cons e es ih =>
    obtain ⟨n, v⟩ := e
    rcases ih h with h | ⟨n', hn', hmem⟩
    · rw [get?_put] at h
      split at h
      · rename_i hn
        obtain rfl := Option.some.inj h
        exact .inr ⟨n, hn, List.mem_cons_self⟩
      · exact .inl h
    · exact .inr ⟨n', hn', List.mem_cons_of_mem _ hmem⟩

theorem mem_keys_putAll {es : List (κ × α)} {acc : Entries κ α} {name : String} :
    name ∈ (acc.putAll es).keys ↔ name ∈ acc.keys ∨ name ∈ keys es := by
  induction es generalizing acc with
  | nil => simp [putAll, keys]
  | cons e es ih =>
    have hput : name ∈ (acc.put e.1 e.2).keys ↔ name ∈ acc.keys ∨ name = Named.text e.1 := by
      rw [keys_put]
      split
      · rename_i h
        exact ⟨.inl, fun h' => h'.elim id fun heq => heq ▸ h⟩
      · simp
    have hcons : keys (e :: es) = Named.text e.1 :: keys es := rfl
    rw [hcons, List.mem_cons, ← or_assoc, ← hput]
    exact ih

/-- Many new names are written one after the other at the end. -/
theorem putAll_of_nodup {es : List (κ × α)} {acc : Entries κ α} (h : (keys (acc ++ es)).Nodup) :
    acc.putAll es = acc ++ es := by
  induction es generalizing acc with
  | nil => simp [putAll]
  | cons e es ih =>
    obtain ⟨n, v⟩ := e
    have hnone : acc.get? (Named.text n) = none := by
      refine get?_eq_none_iff.2 fun hmem => ?_
      rw [keys, List.map_append, List.nodup_append] at h
      exact h.2.2 _ hmem _ (by simp) rfl
    have hput : acc.put n v = acc ++ [(n, v)] := put_of_get?_eq_none hnone v
    have hkeys : (keys (acc.put n v ++ es)).Nodup := by simpa [hput] using h
    exact (ih hkeys).trans (by simp [hput])

end Entries

end Polystore

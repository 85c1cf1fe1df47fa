import Mathlib
import Polystore.Name

/-!
# Keys of mappings

What is found under a text in the entries of a mapping, and mappings in which every text stands once, on
each level of a value (`KeysDistinct`).
-/

namespace Polystore

theorem Name.text?_of_ofValue? {k : Value} {name : Name} (h : Name.ofValue? k = some name) :
    k.text? = some name.text := by
  rw [← Name.map_text_ofValue?, h]
  rfl

theorem Name.value_of_ofValue? {k : Value} {name : Name} (h : Name.ofValue? k = some name) :
    k = name.value := by
  cases k <;> cases h <;> rfl

namespace Value

theorem sizeOf_lt_of_mem {es : List (Value × Value)} {e : Value × Value} (h : e ∈ es) :
    sizeOf e.2 < sizeOf (Value.map es) := by
  have hentry := List.sizeOf_lt_of_mem h
  have hvalue : sizeOf e.2 < sizeOf e := by
    obtain ⟨k, v⟩ := e
    simp
  simp only [Value.map.sizeOf_spec]
  omega

/-- The text keys of a mapping's entries. -/
def keyTexts (es : List (Value × Value)) : List String :=
  es.filterMap fun e => e.1.text?

theorem keyTexts_cons {k : Value} {name : Name} (hname : Name.ofValue? k = some name) (v : Value)
    (es : List (Value × Value)) :
    keyTexts ((k, v) :: es) = name.text :: keyTexts es :=
  List.filterMap_cons_some (Name.text?_of_ofValue? hname)

mutual

/-- Every mapping in a value has each text key once. -/
def KeysDistinct : Value → Prop
  | .list xs => AllKeysDistinct xs
  | .tuple xs => AllKeysDistinct xs
  | .set xs => AllKeysDistinct xs
  | .map es => (keyTexts es).Nodup ∧ EntriesKeysDistinct es
  | _ => True

def AllKeysDistinct : List Value → Prop
  | [] => True
  | x :: xs => x.KeysDistinct ∧ AllKeysDistinct xs

def EntriesKeysDistinct : List (Value × Value) → Prop
  | [] => True
  | (_, v) :: es => v.KeysDistinct ∧ EntriesKeysDistinct es

end

theorem allKeysDistinct_iff {xs : List Value} : AllKeysDistinct xs ↔ ∀ x ∈ xs, x.KeysDistinct := by
  induction xs with
  | nil => simp [AllKeysDistinct]
  | cons x xs ih => simp [AllKeysDistinct, ih]

theorem entriesKeysDistinct_iff {es : List (Value × Value)} :
    EntriesKeysDistinct es ↔ ∀ e ∈ es, e.2.KeysDistinct := by
  induction es with
  | nil => simp [EntriesKeysDistinct]
  | cons e es ih => simp [EntriesKeysDistinct, ih]

theorem KeysDistinct.of_sequence? {v : Value} {xs : List Value} (h : v.KeysDistinct)
    (hxs : v.sequence? = some xs) : AllKeysDistinct xs := by
  cases v with
  | list ys =>
    obtain rfl : ys = xs := Option.some.inj hxs
    simpa [KeysDistinct] using h
  | tuple ys =>
    obtain rfl : ys = xs := Option.some.inj hxs
    simpa [KeysDistinct] using h
  | _ => simp [sequence?] at hxs

theorem lookup_cons (name : String) (k v : Value) (es : List (Value × Value)) :
    lookup name ((k, v) :: es) = if k.text? = some name then some v else lookup name es := by
  unfold lookup isKey
  by_cases h : k.text? = some name <;> simp [h]

theorem exists_mem_of_lookup {name : String} {es : List (Value × Value)} {v : Value}
    (h : lookup name es = some v) : ∃ k, k.text? = some name ∧ (k, v) ∈ es := by
  obtain ⟨e, he, rfl⟩ := Option.map_eq_some_iff.1 h
  exact ⟨e.1, by simpa [isKey] using List.find?_some he, List.mem_of_find?_eq_some he⟩

theorem lookup_eq_none_iff {name : String} {es : List (Value × Value)} :
    lookup name es = none ↔ ∀ e ∈ es, e.1.text? ≠ some name := by
  simp [lookup, isKey]

theorem lookup_mapped (name : String) (es : Entries Name Value) :
    lookup name (es.map fun e => (e.1.value, e.2)) = es.get? name := by
  induction es with
  | nil => rfl
  | cons e es ih =>
    obtain ⟨n, v⟩ := e
    have htext : Named.text n = n.text := rfl
    rw [List.map_cons, lookup_cons, ih, Name.text?_value, Entries.get?, htext]
    simp

end Value

end Polystore

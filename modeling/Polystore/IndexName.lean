import Polystore.Text.Digest

/-!
# Names of generated indexes

An index without a name of its own is called `idx_<table>_<field>…`. A name beyond a limit is cut and
ends in the start of its digest, so that different long names stay different.

Main statement: `length_generate_le` says that the limit is kept if it leaves room for the digest.
-/

namespace Polystore.IndexName

/-- The number of hexadecimal digits that end a cut name. -/
def digestLength : Nat := 8

/-- The parts of a name, joined. -/
def full (table : String) (fields : List String) : String :=
  "_".intercalate ("idx" :: table :: fields)

/-- The part of a text before a position; a negative position counts from the end. -/
def before (position : Int) (cs : List Char) : List Char :=
  if 0 ≤ position then cs.take position.toNat else cs.take (cs.length - position.natAbs)

/-- A name cut to a limit, an underscore, and the start of the whole name's digest. -/
def shorten (limit : Int) (name : String) : String :=
  let digest := (Text.Digest.ofText name).take digestLength
  String.ofList (before (limit - digest.length - 1) name.toList ++ '_' :: digest)

/-- The name of an index; a `limit` of 0 is none. -/
def generate (table : String) (fields : List String) (limit : Int) : String :=
  let name := full table fields
  if limit ≠ 0 ∧ (name.length : Int) > limit then shorten limit name else name

theorem length_digest_take (s : String) :
    ((Text.Digest.ofText s).take digestLength).length = 8 := by
  simp [Text.Digest.length_ofText, digestLength]

theorem length_shorten {limit : Int} {name : String} (h : 9 ≤ limit)
    (hlong : limit < name.length) : ((shorten limit name).length : Int) = limit := by
  have hl : limit < name.toList.length := by rw [String.length_toList]; exact hlong
  have hpos : 0 ≤ limit - 8 - 1 := by omega
  have hd := length_digest_take name
  have hlen : (shorten limit name).length =
      (before (limit - 8 - 1) name.toList).length + 9 := by
    simp only [shorten, hd, String.length_ofList, List.length_append, List.length_cons]
    rfl
  rw [hlen, before, if_pos hpos, List.length_take]
  omega

theorem length_generate_le {table : String} {fields : List String} {limit : Int} (h : 9 ≤ limit) :
    ((generate table fields limit).length : Int) ≤ limit := by
  unfold generate
  dsimp only
  split
  · rename_i hc
    exact Int.le_of_eq (length_shorten h hc.2)
  · rename_i hc
    have : limit ≠ 0 := by omega
    by_cases hlt : limit < (full table fields).length
    · exact absurd ⟨this, hlt⟩ hc
    · omega

end Polystore.IndexName

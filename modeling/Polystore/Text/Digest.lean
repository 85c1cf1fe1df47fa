import Polystore.Text.Digit

/-!
# SHA-1

The digest of a text's UTF-8 octets, as forty hexadecimal digits (`length_digest`).
-/

namespace Polystore.Text.Digest

/-- The five words of the chaining state. -/
structure State where
  a : UInt32
  b : UInt32
  c : UInt32
  d : UInt32
  e : UInt32

def initial : State :=
  ⟨0x67452301, 0xefcdab89, 0x98badcfe, 0x10325476, 0xc3d2e1f0⟩

def rotateLeft (x : UInt32) (n : UInt32) : UInt32 :=
  (x <<< n) ||| (x >>> (32 - n))

/-- A word from its octets, most significant first. -/
def wordOfOctets (bs : List UInt8) : UInt32 :=
  bs.foldl (fun w b => (w <<< 8) ||| b.toUInt32) 0

/-- The octets of a number, most significant first. -/
def octets : (count : Nat) → Nat → List UInt8
  | 0, _ => []
  | count + 1, n => octets count (n / 256) ++ [UInt8.ofNat n]

/-- A message followed by a one bit, zeros and its length in bits, a multiple of 64 octets long. -/
def pad (bs : List UInt8) : List UInt8 :=
  bs ++ 0x80 :: (List.replicate ((119 - bs.length % 64) % 64) 0 ++ octets 8 (8 * bs.length))

/-- The first `count` pieces of a list that are `size` long each. -/
def pieces {α : Type} (size : Nat) : (count : Nat) → List α → List (List α)
  | 0, _ => []
  | count + 1, xs => xs.take size :: pieces size count (xs.drop size)

/-- Adds `count` words to a message schedule that is kept last word first. -/
def extend : (count : Nat) → List UInt32 → List UInt32
  | 0, ws => ws
  | count + 1, ws =>
    let back (i : Nat) : UInt32 := ws[i]?.getD 0
    extend count (rotateLeft (back 2 ^^^ back 7 ^^^ back 13 ^^^ back 15) 1 :: ws)

/-- The eighty words of a block's schedule. -/
def schedule (block : List UInt8) : List UInt32 :=
  (extend 64 ((pieces 4 16 block).map wordOfOctets).reverse).reverse

/-- The round function and constant of a round. -/
def mix (round : Nat) (s : State) : UInt32 × UInt32 :=
  if round < 20 then ((s.b &&& s.c) ||| ((~~~ s.b) &&& s.d), 0x5a827999)
  else if round < 40 then (s.b ^^^ s.c ^^^ s.d, 0x6ed9eba1)
  else if round < 60 then ((s.b &&& s.c) ||| (s.b &&& s.d) ||| (s.c &&& s.d), 0x8f1bbcdc)
  else (s.b ^^^ s.c ^^^ s.d, 0xca62c1d6)

def step (s : State) (word : UInt32 × Nat) : State :=
  let (f, k) := mix word.2 s
  ⟨rotateLeft s.a 5 + f + s.e + k + word.1, s.a, rotateLeft s.b 30, s.c, s.d⟩

/-- Folds one block into the chaining state. -/
def compress (s : State) (block : List UInt8) : State :=
  let t := (schedule block).zipIdx.foldl step s
  ⟨s.a + t.a, s.b + t.b, s.c + t.c, s.d + t.d, s.e + t.e⟩

/-- The hexadecimal digits of a chaining state. -/
def State.hex (s : State) : List Char :=
  [s.a, s.b, s.c, s.d, s.e].flatMap fun w => hexDigits 8 w.toNat

/-- The digest of a string of octets. -/
def ofOctets (bs : List UInt8) : List Char :=
  let message := pad bs
  ((pieces 64 (message.length / 64) message).foldl compress initial).hex

/-- The digest of a text. -/
def ofText (s : String) : List Char :=
  ofOctets s.toUTF8.toList

theorem length_ofOctets (bs : List UInt8) : (ofOctets bs).length = 40 := by
  simp [ofOctets, State.hex, length_hexDigits]

theorem length_ofText (s : String) : (ofText s).length = 40 :=
  length_ofOctets _

end Polystore.Text.Digest

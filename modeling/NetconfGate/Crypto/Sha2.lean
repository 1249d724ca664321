import NetconfGate.Crypto.Blake2b

/-!
# SHA-256 and SHA-512

Both hashes work alike, the first on 32-bit and the second on 64-bit words: the
input is closed with a one bit, zeros and its length in bits, each block is
spread over a schedule of words, and every round mixes one of them and one
constant into eight words. The constants of the narrow hash are the upper halves
of those of the wide one.
-/

namespace NetconfGate.Crypto.Sha2

/-- The first 64 bits of the fractional parts of the cube roots of the first 80 primes. -/
def constants : Array UInt64 := #[
  0x428a2f98d728ae22, 0x7137449123ef65cd, 0xb5c0fbcfec4d3b2f, 0xe9b5dba58189dbbc,
  0x3956c25bf348b538, 0x59f111f1b605d019, 0x923f82a4af194f9b, 0xab1c5ed5da6d8118,
  0xd807aa98a3030242, 0x12835b0145706fbe, 0x243185be4ee4b28c, 0x550c7dc3d5ffb4e2,
  0x72be5d74f27b896f, 0x80deb1fe3b1696b1, 0x9bdc06a725c71235, 0xc19bf174cf692694,
  0xe49b69c19ef14ad2, 0xefbe4786384f25e3, 0x0fc19dc68b8cd5b5, 0x240ca1cc77ac9c65,
  0x2de92c6f592b0275, 0x4a7484aa6ea6e483, 0x5cb0a9dcbd41fbd4, 0x76f988da831153b5,
  0x983e5152ee66dfab, 0xa831c66d2db43210, 0xb00327c898fb213f, 0xbf597fc7beef0ee4,
  0xc6e00bf33da88fc2, 0xd5a79147930aa725, 0x06ca6351e003826f, 0x142929670a0e6e70,
  0x27b70a8546d22ffc, 0x2e1b21385c26c926, 0x4d2c6dfc5ac42aed, 0x53380d139d95b3df,
  0x650a73548baf63de, 0x766a0abb3c77b2a8, 0x81c2c92e47edaee6, 0x92722c851482353b,
  0xa2bfe8a14cf10364, 0xa81a664bbc423001, 0xc24b8b70d0f89791, 0xc76c51a30654be30,
  0xd192e819d6ef5218, 0xd69906245565a910, 0xf40e35855771202a, 0x106aa07032bbd1b8,
  0x19a4c116b8d2d0c8, 0x1e376c085141ab53, 0x2748774cdf8eeb99, 0x34b0bcb5e19b48a8,
  0x391c0cb3c5c95a63, 0x4ed8aa4ae3418acb, 0x5b9cca4f7763e373, 0x682e6ff3d6b2b8a3,
  0x748f82ee5defb2fc, 0x78a5636f43172f60, 0x84c87814a1f0ab72, 0x8cc702081a6439ec,
  0x90befffa23631e28, 0xa4506cebde82bde9, 0xbef9a3f7b2c67915, 0xc67178f2e372532b,
  0xca273eceea26619c, 0xd186b8c721c0c207, 0xeada7dd6cde0eb1e, 0xf57d4f7fee6ed178,
  0x06f067aa72176fba, 0x0a637dc5a2c898a6, 0x113f9804bef90dae, 0x1b710b35131c471b,
  0x28db77f523047d84, 0x32caab7b40c72493, 0x3c9ebe0a15c9bebc, 0x431d67c49c100d4c,
  0x4cc5d4becb3e42b6, 0x597f299cfc657e2a, 0x5fcb6fab3ad6faec, 0x6c44198c4a475817]

/-- Closes the input to a whole number of blocks; `lengthBytes` hold its length in bits. -/
def close (block lengthBytes : Nat) (input : Bytes) : Bytes :=
  let used := (input.length + 1 + lengthBytes) % block
  let zeros := (block - used) % block
  input ++ 0x80 :: List.replicate zeros 0 ++ Bytes.ofNat lengthBytes (8 * input.length)

/-- Big-endian words of `width` bytes. `fuel` bounds their number. -/
def words (width : Nat) : Nat → Bytes → List Nat
  | 0, _ => []
  | fuel + 1, bytes =>
      if bytes.isEmpty then [] else Bytes.toNat (bytes.take width) :: words width fuel (bytes.drop width)

/-- The eight words of a running hash. -/
structure State (α : Type) where
  a : α
  b : α
  c : α
  d : α
  e : α
  f : α
  g : α
  h : α

namespace State

def toList {α : Type} (s : State α) : List α := [s.a, s.b, s.c, s.d, s.e, s.f, s.g, s.h]

/-- Moves every word on by one place; the mixed values enter at the fifth and the first. -/
def shift {α : Type} [Add α] (s : State α) (first second : α) : State α :=
  ⟨first + second, s.a, s.b, s.c, s.d + first, s.e, s.f, s.g⟩

def add {α : Type} [Add α] (s t : State α) : State α :=
  ⟨s.a + t.a, s.b + t.b, s.c + t.c, s.d + t.d, s.e + t.e, s.f + t.f, s.g + t.g, s.h + t.h⟩

end State

section Wide

def bigSigma0 (x : UInt64) : UInt64 := rotateRight x 28 ^^^ rotateRight x 34 ^^^ rotateRight x 39
def bigSigma1 (x : UInt64) : UInt64 := rotateRight x 14 ^^^ rotateRight x 18 ^^^ rotateRight x 41
def smallSigma0 (x : UInt64) : UInt64 := rotateRight x 1 ^^^ rotateRight x 8 ^^^ (x >>> 7)
def smallSigma1 (x : UInt64) : UInt64 := rotateRight x 19 ^^^ rotateRight x 61 ^^^ (x >>> 6)

def round512 (s : State UInt64) (constant word : UInt64) : State UInt64 :=
  let choice := (s.e &&& s.f) ^^^ (~~~s.e &&& s.g)
  let majority := (s.a &&& s.b) ^^^ (s.a &&& s.c) ^^^ (s.b &&& s.c)
  s.shift (s.h + bigSigma1 s.e + choice + constant + word) (bigSigma0 s.a + majority)

def extend512 (w : Array UInt64) : Array UInt64 :=
  let back := fun n => w[w.size - n]?.getD 0
  w.push (smallSigma1 (back 2) + back 7 + smallSigma0 (back 15) + back 16)

def block512 (s : State UInt64) (block : Bytes) : State UInt64 :=
  let first := ((words 8 16 block).map Nat.toUInt64).toArray
  let schedule := (List.range 64).foldl (fun w _ => extend512 w) first
  s.add ((List.zip constants.toList schedule.toList).foldl (fun t p => round512 t p.1 p.2) s)

end Wide

section Narrow

def rotate32 (x : UInt32) (count : UInt32) : UInt32 := (x >>> count) ||| (x <<< (32 - count))

def upper (x : UInt64) : UInt32 := (x >>> 32).toUInt32

def mixA (x : UInt32) : UInt32 := rotate32 x 2 ^^^ rotate32 x 13 ^^^ rotate32 x 22
def mixE (x : UInt32) : UInt32 := rotate32 x 6 ^^^ rotate32 x 11 ^^^ rotate32 x 25
def spread15 (x : UInt32) : UInt32 := rotate32 x 7 ^^^ rotate32 x 18 ^^^ (x >>> 3)
def spread2 (x : UInt32) : UInt32 := rotate32 x 17 ^^^ rotate32 x 19 ^^^ (x >>> 10)

def round256 (s : State UInt32) (constant word : UInt32) : State UInt32 :=
  let choice := (s.e &&& s.f) ^^^ (~~~s.e &&& s.g)
  let majority := (s.a &&& s.b) ^^^ (s.a &&& s.c) ^^^ (s.b &&& s.c)
  s.shift (s.h + mixE s.e + choice + constant + word) (mixA s.a + majority)

def extend256 (w : Array UInt32) : Array UInt32 :=
  let back := fun n => w[w.size - n]?.getD 0
  w.push (spread2 (back 2) + back 7 + spread15 (back 15) + back 16)

def block256 (s : State UInt32) (block : Bytes) : State UInt32 :=
  let first := ((words 4 16 block).map Nat.toUInt32).toArray
  let schedule := (List.range 48).foldl (fun w _ => extend256 w) first
  s.add ((List.zip (constants.toList.map upper) schedule.toList).foldl
    (fun t p => round256 t p.1 p.2) s)

end Narrow

def start512 : State UInt64 :=
  let word := fun i => Blake2b.initial[i]?.getD 0
  ⟨word 0, word 1, word 2, word 3, word 4, word 5, word 6, word 7⟩

def start256 : State UInt32 :=
  ⟨upper start512.a, upper start512.b, upper start512.c, upper start512.d, upper start512.e,
    upper start512.f, upper start512.g, upper start512.h⟩

/-- Works through the blocks in order. `fuel` bounds their number. -/
def absorb {α : Type} (size : Nat) (step : State α → Bytes → State α) :
    Nat → State α → Bytes → State α
  | 0, s, _ => s
  | fuel + 1, s, bytes =>
      if bytes.isEmpty then s
      else absorb size step fuel (step s (bytes.take size)) (bytes.drop size)

def sha512 (input : Bytes) : Bytes :=
  let closed := close 128 16 input
  (absorb 128 block512 closed.length start512 closed).toList.flatMap
    fun word => Bytes.ofNat 8 word.toNat

def sha256 (input : Bytes) : Bytes :=
  let closed := close 64 8 input
  (absorb 64 block256 closed.length start256 closed).toList.flatMap
    fun word => Bytes.ofNat 4 word.toNat

end NetconfGate.Crypto.Sha2

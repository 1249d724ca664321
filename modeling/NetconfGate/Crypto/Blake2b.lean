import NetconfGate.Crypto.Row

/-!
# BLAKE2b

The unkeyed hash with an output of 1 to 64 bytes. The input is cut into blocks
of 128 bytes, the last filled up with zeros and marked; each block is mixed into
eight words in twelve rounds, whose order of message words the schedule gives.
-/

namespace NetconfGate.Crypto.Blake2b

/-- The first 64 bits of the fractional parts of the square roots of 2 to 19. -/
def initial : Array UInt64 := #[
  0x6a09e667f3bcc908, 0xbb67ae8584caa73b, 0x3c6ef372fe94f82b, 0xa54ff53a5f1d36f1,
  0x510e527fade682d1, 0x9b05688c2b3e6c1f, 0x1f83d9abfb41bd6b, 0x5be0cd19137e2179]

/-- Which message word each mixing takes, round after round. -/
def schedule : Array (Array Nat) := #[
  #[0, 1, 2, 3, 4, 5, 6, 7, 8, 9, 10, 11, 12, 13, 14, 15],
  #[14, 10, 4, 8, 9, 15, 13, 6, 1, 12, 0, 2, 11, 7, 5, 3],
  #[11, 8, 12, 0, 5, 2, 15, 13, 10, 14, 3, 6, 7, 1, 9, 4],
  #[7, 9, 3, 1, 13, 12, 11, 14, 2, 6, 5, 10, 4, 0, 15, 8],
  #[9, 0, 5, 7, 2, 4, 10, 15, 14, 1, 11, 12, 6, 8, 3, 13],
  #[2, 12, 6, 10, 0, 11, 8, 3, 4, 13, 7, 5, 15, 14, 1, 9],
  #[12, 5, 1, 15, 14, 13, 4, 10, 0, 7, 6, 3, 9, 2, 8, 11],
  #[13, 11, 7, 14, 12, 1, 3, 9, 5, 0, 15, 4, 8, 6, 2, 10],
  #[6, 15, 14, 9, 11, 3, 0, 8, 12, 2, 13, 7, 1, 4, 10, 5],
  #[10, 2, 8, 4, 7, 6, 1, 5, 15, 11, 9, 14, 3, 12, 13, 0]]

@[inline] def mix (a b c d x y : UInt64) : Quad :=
  let a := a + b + x
  let d := rotateRight (d ^^^ a) 32
  let c := c + d
  let b := rotateRight (b ^^^ c) 24
  let a := a + b + y
  let d := rotateRight (d ^^^ a) 16
  let c := c + d
  let b := rotateRight (b ^^^ c) 63
  ⟨a, b, c, d⟩

def round (message : Array UInt64) (order : Array Nat) (r : Row) : Row :=
  let m := fun i => message[order[i]?.getD 0]?.getD 0
  let p := mix r.w0 r.w4 r.w8 r.w12 (m 0) (m 1)
  let q := mix r.w1 r.w5 r.w9 r.w13 (m 2) (m 3)
  let s := mix r.w2 r.w6 r.w10 r.w14 (m 4) (m 5)
  let t := mix r.w3 r.w7 r.w11 r.w15 (m 6) (m 7)
  let u := mix p.a q.b s.c t.d (m 8) (m 9)
  let v := mix q.a s.b t.c p.d (m 10) (m 11)
  let x := mix s.a t.b p.c q.d (m 12) (m 13)
  let y := mix t.a p.b q.c s.d (m 14) (m 15)
  ⟨u.a, v.a, x.a, y.a, y.b, u.b, v.b, x.b, x.c, y.c, u.c, v.c, v.d, x.d, y.d, u.d⟩

/-- Mixes one block of sixteen words into the state. `count` is the number of
input bytes up to its end. -/
def compress (state message : Array UInt64) (count : Nat) (last : Bool) : Array UInt64 :=
  let mark : UInt64 := if last then 0xffffffffffffffff else 0
  let tweaked := #[initial[4]?.getD 0 ^^^ count.toUInt64,
    initial[5]?.getD 0 ^^^ (count / Nat.pow 2 64).toUInt64, initial[6]?.getD 0 ^^^ mark, initial[7]?.getD 0]
  let start := Row.ofArray (state ++ initial.extract 0 4 ++ tweaked)
  let rounds := (List.range 12).map fun i => schedule[i % 10]?.getD #[]
  let mixed := (rounds.foldl (fun r order => round message order r) start).toList
  (List.zipWith (· ^^^ ·) state.toList
    (List.zipWith (· ^^^ ·) (mixed.take 8) (mixed.drop 8))).toArray

def padded (block : Bytes) : Bytes := block ++ List.replicate (128 - block.length) 0

/-- `fuel` bounds the number of blocks; one for each byte is enough. -/
def absorb : Nat → Array UInt64 → Nat → Bytes → Array UInt64
  | 0, state, _, _ => state
  | fuel + 1, state, done, input =>
      let (block, rest) := (input.take 128, input.drop 128)
      let count := done + block.length
      let message := (wordsOf (padded block)).toArray
      if rest.isEmpty then compress state message count true
      else absorb fuel (compress state message count false) count rest

/-- The first `length` bytes of output of the hash that is made for that length. -/
def hash (length : Nat) (input : Bytes) : Bytes :=
  let start := initial.modify 0 fun word => word ^^^ 0x01010000 ^^^ length.toUInt64
  (bytesOfWords (absorb (input.length + 1) start 0 input).toList).take length

end NetconfGate.Crypto.Blake2b

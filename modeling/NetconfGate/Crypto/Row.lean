import NetconfGate.Bytes

/-!
# Rows of sixteen words

Sixteen 64-bit words are the unit on which both the BLAKE2b rounds and the
memory-hard mixing work: four columns of four words are mixed, then the four
diagonals. Only the way two words are added differs.
-/

namespace NetconfGate.Crypto

structure Row where
  w0 : UInt64
  w1 : UInt64
  w2 : UInt64
  w3 : UInt64
  w4 : UInt64
  w5 : UInt64
  w6 : UInt64
  w7 : UInt64
  w8 : UInt64
  w9 : UInt64
  w10 : UInt64
  w11 : UInt64
  w12 : UInt64
  w13 : UInt64
  w14 : UInt64
  w15 : UInt64

namespace Row

def zero : Row := ⟨0, 0, 0, 0, 0, 0, 0, 0, 0, 0, 0, 0, 0, 0, 0, 0⟩

def toList (r : Row) : List UInt64 :=
  [r.w0, r.w1, r.w2, r.w3, r.w4, r.w5, r.w6, r.w7, r.w8, r.w9, r.w10, r.w11, r.w12, r.w13, r.w14, r.w15]

def ofArray (words : Array UInt64) : Row :=
  let pick := fun i => words[i]?.getD 0
  ⟨pick 0, pick 1, pick 2, pick 3, pick 4, pick 5, pick 6, pick 7, pick 8, pick 9, pick 10, pick 11,
    pick 12, pick 13, pick 14, pick 15⟩

def xor (r s : Row) : Row :=
  ⟨r.w0 ^^^ s.w0, r.w1 ^^^ s.w1, r.w2 ^^^ s.w2, r.w3 ^^^ s.w3, r.w4 ^^^ s.w4, r.w5 ^^^ s.w5,
    r.w6 ^^^ s.w6, r.w7 ^^^ s.w7, r.w8 ^^^ s.w8, r.w9 ^^^ s.w9, r.w10 ^^^ s.w10,
    r.w11 ^^^ s.w11, r.w12 ^^^ s.w12, r.w13 ^^^ s.w13, r.w14 ^^^ s.w14, r.w15 ^^^ s.w15⟩

end Row

def rotateRight (word : UInt64) (count : UInt64) : UInt64 :=
  (word >>> count) ||| (word <<< (64 - count))

/-- Four words, as one mixing leaves them. -/
structure Quad where
  a : UInt64
  b : UInt64
  c : UInt64
  d : UInt64

/-- The little-endian words that a byte string spells, eight bytes each. -/
def wordsOf : Bytes → List UInt64
  | b0 :: b1 :: b2 :: b3 :: b4 :: b5 :: b6 :: b7 :: rest =>
      (b0.toUInt64 ||| b1.toUInt64 <<< 8 ||| b2.toUInt64 <<< 16 ||| b3.toUInt64 <<< 24
        ||| b4.toUInt64 <<< 32 ||| b5.toUInt64 <<< 40 ||| b6.toUInt64 <<< 48 ||| b7.toUInt64 <<< 56)
        :: wordsOf rest
  | _ => []

/-- Least significant byte first. -/
def wordBytes (word : UInt64) : Bytes :=
  (List.range 8).map fun i => (word >>> (8 * i).toUInt64).toUInt8

def bytesOfWords (words : List UInt64) : Bytes := words.flatMap wordBytes

/-- Four little-endian bytes. -/
def littleWord32 (value : Nat) : Bytes := Bytes.ofNatLittle 4 value

end NetconfGate.Crypto

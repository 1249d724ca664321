import NetconfGate.Crypto.Blake2b

/-!
# Argon2

A password hash that fills a memory of blocks of 1024 bytes, each made of the
one before it and one that is chosen by the data, by the position alone, or, in
the hybrid form, by the position in the first half of the first pass and by the
data from then on. The last blocks of all lanes together give the output.
-/

namespace NetconfGate.Crypto.Argon2

/-- How earlier blocks are chosen. -/
inductive Variant where
  | byData
  | byPosition
  | hybrid
deriving DecidableEq

/-- In the first version a later pass replaces what an earlier one left; in the
second it is combined with it. -/
inductive Version where
  | v16
  | v19
deriving DecidableEq

namespace Variant

def number : Variant → Nat
  | byData => 0
  | byPosition => 1
  | hybrid => 2

def name : Variant → String
  | byData => "argon2d"
  | byPosition => "argon2i"
  | hybrid => "argon2id"

end Variant

def Version.number : Version → Nat
  | .v16 => 16
  | .v19 => 19

/-- What is hashed and how. `memory` is in blocks. -/
structure Job where
  variant : Variant
  version : Version
  memory : Nat
  passes : Nat
  lanes : Nat
  outputLength : Nat
  data : Bytes
  salt : Bytes
  password : Bytes

/-- Eight rows of eight 16-byte registers. -/
structure Block where
  r0 : Row
  r1 : Row
  r2 : Row
  r3 : Row
  r4 : Row
  r5 : Row
  r6 : Row
  r7 : Row

namespace Block

def zero : Block := ⟨.zero, .zero, .zero, .zero, .zero, .zero, .zero, .zero⟩

def toList (b : Block) : List UInt64 :=
  b.r0.toList ++ b.r1.toList ++ b.r2.toList ++ b.r3.toList ++ b.r4.toList ++ b.r5.toList ++ b.r6.toList ++ b.r7.toList

def ofList (words : List UInt64) : Block :=
  let row := fun i => Row.ofArray (words.drop (16 * i) |>.take 16).toArray
  ⟨row 0, row 1, row 2, row 3, row 4, row 5, row 6, row 7⟩

def xor (a b : Block) : Block :=
  ⟨a.r0.xor b.r0, a.r1.xor b.r1, a.r2.xor b.r2, a.r3.xor b.r3, a.r4.xor b.r4, a.r5.xor b.r5,
    a.r6.xor b.r6, a.r7.xor b.r7⟩

/-- Exchanges the rows and the columns of registers. -/
def transpose (b : Block) : Block :=
   ⟨⟨b.r0.w0, b.r0.w1, b.r1.w0, b.r1.w1, b.r2.w0, b.r2.w1, b.r3.w0, b.r3.w1, b.r4.w0, b.r4.w1,
      b.r5.w0, b.r5.w1, b.r6.w0, b.r6.w1, b.r7.w0, b.r7.w1⟩,
    ⟨b.r0.w2, b.r0.w3, b.r1.w2, b.r1.w3, b.r2.w2, b.r2.w3, b.r3.w2, b.r3.w3, b.r4.w2, b.r4.w3,
      b.r5.w2, b.r5.w3, b.r6.w2, b.r6.w3, b.r7.w2, b.r7.w3⟩,
    ⟨b.r0.w4, b.r0.w5, b.r1.w4, b.r1.w5, b.r2.w4, b.r2.w5, b.r3.w4, b.r3.w5, b.r4.w4, b.r4.w5,
      b.r5.w4, b.r5.w5, b.r6.w4, b.r6.w5, b.r7.w4, b.r7.w5⟩,
    ⟨b.r0.w6, b.r0.w7, b.r1.w6, b.r1.w7, b.r2.w6, b.r2.w7, b.r3.w6, b.r3.w7, b.r4.w6, b.r4.w7,
      b.r5.w6, b.r5.w7, b.r6.w6, b.r6.w7, b.r7.w6, b.r7.w7⟩,
    ⟨b.r0.w8, b.r0.w9, b.r1.w8, b.r1.w9, b.r2.w8, b.r2.w9, b.r3.w8, b.r3.w9, b.r4.w8, b.r4.w9,
      b.r5.w8, b.r5.w9, b.r6.w8, b.r6.w9, b.r7.w8, b.r7.w9⟩,
    ⟨b.r0.w10, b.r0.w11, b.r1.w10, b.r1.w11, b.r2.w10, b.r2.w11, b.r3.w10, b.r3.w11, b.r4.w10,
      b.r4.w11, b.r5.w10, b.r5.w11, b.r6.w10, b.r6.w11, b.r7.w10, b.r7.w11⟩,
    ⟨b.r0.w12, b.r0.w13, b.r1.w12, b.r1.w13, b.r2.w12, b.r2.w13, b.r3.w12, b.r3.w13, b.r4.w12,
      b.r4.w13, b.r5.w12, b.r5.w13, b.r6.w12, b.r6.w13, b.r7.w12, b.r7.w13⟩,
    ⟨b.r0.w14, b.r0.w15, b.r1.w14, b.r1.w15, b.r2.w14, b.r2.w15, b.r3.w14, b.r3.w15, b.r4.w14,
      b.r4.w15, b.r5.w14, b.r5.w15, b.r6.w14, b.r6.w15, b.r7.w14, b.r7.w15⟩⟩

end Block

/-- Addition with the doubled product of the low halves. -/
@[inline] def add (x y : UInt64) : UInt64 :=
  x + y + 2 * (x &&& 0xffffffff) * (y &&& 0xffffffff)

@[inline] def mix (a b c d : UInt64) : Quad :=
  let a := add a b
  let d := rotateRight (d ^^^ a) 32
  let c := add c d
  let b := rotateRight (b ^^^ c) 24
  let a := add a b
  let d := rotateRight (d ^^^ a) 16
  let c := add c d
  let b := rotateRight (b ^^^ c) 63
  ⟨a, b, c, d⟩

def permute (r : Row) : Row :=
  let p := mix r.w0 r.w4 r.w8 r.w12
  let q := mix r.w1 r.w5 r.w9 r.w13
  let s := mix r.w2 r.w6 r.w10 r.w14
  let t := mix r.w3 r.w7 r.w11 r.w15
  let u := mix p.a q.b s.c t.d
  let v := mix q.a s.b t.c p.d
  let x := mix s.a t.b p.c q.d
  let y := mix t.a p.b q.c s.d
  ⟨u.a, v.a, x.a, y.a, y.b, u.b, v.b, x.b, x.c, y.c, u.c, v.c, v.d, x.d, y.d, u.d⟩

def permuteRows (b : Block) : Block :=
  ⟨permute b.r0, permute b.r1, permute b.r2, permute b.r3, permute b.r4, permute b.r5,
    permute b.r6, permute b.r7⟩

/-- Rows first, then columns; the input is added to the result. -/
def compress (x y : Block) : Block :=
  let sum := x.xor y
  sum.xor (permuteRows (permuteRows sum).transpose).transpose

/-- The hash with an output of any length: 32 bytes of each of a chain of hashes,
and all of the last. -/
def longHash (length : Nat) (input : Bytes) : Bytes :=
  let input := littleWord32 length ++ input
  if length ≤ 64 then Blake2b.hash length input
  else
    let links := (length + 31) / 32 - 2
    let (out, last) := (List.range (links - 1)).foldl
      (fun (out, link) _ => let next := Blake2b.hash 64 link; (out ++ next.take 32, next))
      ((Blake2b.hash 64 input).take 32, Blake2b.hash 64 input)
    out ++ Blake2b.hash (length - 32 * links) last

namespace Job

def segment (j : Job) : Nat := j.memory / (4 * j.lanes)

def laneLength (j : Job) : Nat := 4 * j.segment

/-- All that is hashed, each part of variable length behind its length. -/
def seed (j : Job) : Bytes :=
  let sized := fun (part : Bytes) => littleWord32 part.length ++ part
  Blake2b.hash 64 (littleWord32 j.lanes ++ littleWord32 j.outputLength ++ littleWord32 j.memory
    ++ littleWord32 j.passes ++ littleWord32 j.version.number ++ littleWord32 j.variant.number
    ++ sized j.password ++ sized j.salt ++ sized [] ++ sized j.data)

def firstBlock (seed : Bytes) (lane column : Nat) : Block :=
  Block.ofList (wordsOf (longHash 1024 (seed ++ littleWord32 column ++ littleWord32 lane)))

/-- The memory with the first two blocks of each lane in place. -/
def start (j : Job) : Array Block :=
  let seed := j.seed
  (List.range j.lanes).foldl
    (fun memory lane =>
      (memory.setIfInBounds (lane * j.laneLength) (firstBlock seed lane 0)).setIfInBounds
        (lane * j.laneLength + 1) (firstBlock seed lane 1))
    (Array.replicate (j.lanes * j.laneLength) Block.zero)

/-- A quarter of a lane in one pass. -/
structure Place where
  pass : Nat
  slice : Nat
  lane : Nat

def choosesByPosition (j : Job) (p : Place) : Bool :=
  match j.variant with
  | .byData => false
  | .byPosition => true
  | .hybrid => p.pass = 0 && p.slice < 2

/-- The words that choose the blocks of positions `128 * part` to `128 * part + 127`. -/
def addresses (j : Job) (p : Place) (part : Nat) : Array UInt64 :=
  let input := Block.ofList ([p.pass, p.lane, p.slice, j.lanes * j.laneLength, j.passes,
    j.variant.number, part + 1].map Nat.toUInt64)
  (compress Block.zero (compress Block.zero input)).toList.toArray

/-- The position of the earlier block that the word `choice` stands for. -/
def reference (j : Job) (p : Place) (index : Nat) (choice : UInt64) : Nat :=
  let lane := if p.pass = 0 ∧ p.slice = 0 then p.lane else (choice >>> 32).toNat % j.lanes
  let finished := if p.pass = 0 then p.slice * j.segment else j.laneLength - j.segment
  let area :=
    if lane = p.lane then finished + index - 1
    else if index = 0 then finished - 1 else finished
  let low := (choice &&& 0xffffffff).toNat
  let back := area * (low * low / Nat.pow 2 32) / Nat.pow 2 32
  let origin := if p.pass = 0 ∨ p.slice = 3 then 0 else (p.slice + 1) * j.segment
  lane * j.laneLength + (origin + (area - 1 - back)) % j.laneLength

/-- Fills `count` blocks from `index` on. `choices` holds the words for the
current 128 positions when they do not come from the data. -/
def fillFrom (j : Job) (p : Place) : Nat → Nat → Array UInt64 → Array Block → Array Block
  | 0, _, _, memory => memory
  | count + 1, index, choices, memory =>
      let column := p.slice * j.segment + index
      let current := p.lane * j.laneLength + column
      let before := if column = 0 then current + j.laneLength - 1 else current - 1
      let byPosition := j.choosesByPosition p
      let choices := if byPosition && index % 128 = 0 then j.addresses p (index / 128) else choices
      let previous := memory[before]?.getD Block.zero
      let choice := if byPosition then choices[index % 128]?.getD 0 else previous.r0.w0
      let chosen := memory[j.reference p index choice]?.getD Block.zero
      let made := compress previous chosen
      let block := match j.version with
        | .v16 => made
        | .v19 => if p.pass = 0 then made else made.xor (memory[current]?.getD Block.zero)
      fillFrom j p count (index + 1) choices (memory.setIfInBounds current block)

def fillSegment (j : Job) (p : Place) (memory : Array Block) : Array Block :=
  if p.pass = 0 ∧ p.slice = 0 then
    let choices := if j.choosesByPosition p then j.addresses p 0 else #[]
    j.fillFrom p (j.segment - 2) 2 choices memory
  else j.fillFrom p j.segment 0 #[] memory

/-- Pass by pass, slice by slice, lane by lane. -/
def places (j : Job) : List Place :=
  (List.range j.passes).flatMap fun pass => (List.range 4).flatMap fun slice =>
    (List.range j.lanes).map fun lane => ⟨pass, slice, lane⟩

def output (j : Job) : Bytes :=
  let memory := j.places.foldl (fun memory place => j.fillSegment place memory) j.start
  let last := (List.range j.lanes).foldl
    (fun sum lane => sum.xor (memory[lane * j.laneLength + j.laneLength - 1]?.getD Block.zero))
    Block.zero
  longHash j.outputLength (bytesOfWords last.toList)

end Job

end NetconfGate.Crypto.Argon2

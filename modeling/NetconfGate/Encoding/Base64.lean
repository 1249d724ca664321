import NetconfGate.Bytes

/-!
# Base 64

Four digits stand for three bytes. Without padding, two or three digits at the
end stand for one or two bytes, and the bits that they leave over are zero.
-/

namespace NetconfGate.Base64

def digit (value : Nat) : Char :=
  if value < 26 then Char.ofNat (65 + value)
  else if value < 52 then Char.ofNat (71 + value)
  else if value < 62 then Char.ofNat (value - 4)
  else if value = 62 then '+' else '/'

def value? (c : Char) : Option Nat :=
  if 'A' ≤ c ∧ c ≤ 'Z' then some (c.toNat - 65)
  else if 'a' ≤ c ∧ c ≤ 'z' then some (c.toNat - 71)
  else if '0' ≤ c ∧ c ≤ '9' then some (c.toNat + 4)
  else if c = '+' then some 62
  else if c = '/' then some 63 else none

def encodeChars : Bytes → List Char
  | a :: b :: c :: rest =>
      digit (a.toNat / 4) :: digit (a.toNat % 4 * 16 + b.toNat / 16)
        :: digit (b.toNat % 16 * 4 + c.toNat / 64) :: digit (c.toNat % 64) :: encodeChars rest
  | [a, b] =>
      [digit (a.toNat / 4), digit (a.toNat % 4 * 16 + b.toNat / 16), digit (b.toNat % 16 * 4)]
  | [a] => [digit (a.toNat / 4), digit (a.toNat % 4 * 16)]
  | [] => []

/-- Without padding. -/
def encode (bytes : Bytes) : String := String.ofList (encodeChars bytes)

/-- Filled up with `=` to a multiple of four digits. -/
def encodePadded (bytes : Bytes) : String :=
  let digits := encodeChars bytes
  String.ofList (digits ++ List.replicate ((4 - digits.length % 4) % 4) '=')

/-- Refuses padding, foreign characters, a lone last digit and left-over bits. -/
def decode? : List Char → Option Bytes
  | a :: b :: c :: d :: rest => do
      let a ← value? a
      let b ← value? b
      let c ← value? c
      let d ← value? d
      let tail ← decode? rest
      pure ((a * 4 + b / 16).toUInt8 :: (b % 16 * 16 + c / 4).toUInt8
        :: (c % 4 * 64 + d).toUInt8 :: tail)
  | [a, b, c] => do
      let a ← value? a
      let b ← value? b
      let c ← value? c
      if c % 4 = 0 then pure [(a * 4 + b / 16).toUInt8, (b % 16 * 16 + c / 4).toUInt8] else none
  | [a, b] => do
      let a ← value? a
      let b ← value? b
      if b % 16 = 0 then pure [(a * 4 + b / 16).toUInt8] else none
  | [_] => none
  | [] => some []

/-- How many bytes that many digits stand for. -/
def decodedLength (digits : Nat) : Nat := 3 * (digits / 4) + 3 * (digits % 4) / 4

end NetconfGate.Base64

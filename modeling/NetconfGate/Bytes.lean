/-!
# Byte strings

Everything that crosses a connection, and every file, is a list of bytes. Text
is turned into bytes by its UTF-8 form; the way back is partial. Big-endian
numbers are read and written most significant byte first.
-/

namespace NetconfGate

abbrev Bytes := List UInt8

namespace Bytes

def ofText (text : String) : Bytes := text.toUTF8.data.toList

/-- Defined exactly on valid UTF-8. -/
def text? (bytes : Bytes) : Option String := String.fromUTF8? ⟨bytes.toArray⟩

def hexDigit (value : Nat) : Char :=
  if value < 10 then Char.ofNat (48 + value) else Char.ofNat (87 + value)

/-- Two lower-case digits per byte, the high half first. -/
def hex (bytes : Bytes) : String :=
  String.ofList (bytes.flatMap fun byte => [hexDigit (byte.toNat / 16), hexDigit (byte.toNat % 16)])

def hexValue? (c : Char) : Option Nat :=
  if '0' ≤ c ∧ c ≤ '9' then some (c.toNat - 48)
  else if 'a' ≤ c ∧ c ≤ 'f' then some (c.toNat - 87)
  else if 'A' ≤ c ∧ c ≤ 'F' then some (c.toNat - 55)
  else none

/-- Digits of either case, two per byte. -/
def ofHex? : List Char → Option Bytes
  | [] => some []
  | [_] => none
  | high :: low :: rest => do
      let h ← hexValue? high
      let l ← hexValue? low
      let tail ← ofHex? rest
      pure (UInt8.ofNat (16 * h + l) :: tail)

/-- The number whose base 256 digits these are, most significant first. -/
def toNat (bytes : Bytes) : Nat := bytes.foldl (fun acc byte => acc * 256 + byte.toNat) 0

/-- The last `count` base 256 digits of a number, most significant first. -/
def ofNat : Nat → Nat → Bytes
  | 0, _ => []
  | count + 1, value => ofNat count (value / 256) ++ [UInt8.ofNat (value % 256)]

theorem length_ofNat (count value : Nat) : (ofNat count value).length = count := by
  induction count generalizing value with
  | zero => rfl
  | succ count ih => simp [ofNat, ih]

def toNatLittle (bytes : Bytes) : Nat := toNat bytes.reverse

def ofNatLittle (count value : Nat) : Bytes := (ofNat count value).reverse

/-- Mixes in one byte at a time by exclusive or, then multiplies by the 64-bit prime. -/
def fingerprint64 (bytes : Bytes) : UInt64 :=
  bytes.foldl (fun hash byte => (hash ^^^ byte.toUInt64) * 0x100000001b3) 0xcbf29ce484222325

end Bytes

end NetconfGate

/-!
# Durations

A span of time is a whole number of nanoseconds. As text it uses the largest of
s, ms, µs and ns that does not exceed it, with the fraction's trailing zeros
dropped: `1.5s`, `600s`, `10ms`, `0ns`.
-/

namespace NetconfGate

structure Duration where
  nanos : Nat
deriving DecidableEq

namespace Duration

def nanosPerSecond : Nat := 1000000000

def zero : Duration := ⟨0⟩

def ofSeconds (seconds : Nat) : Duration := ⟨seconds * nanosPerSecond⟩

def ofMillis (millis : Nat) : Duration := ⟨millis * 1000000⟩

/-- Nanoseconds of a second or more carry; whole seconds stay below 2^64. -/
def ofParts? (seconds nanos : Nat) : Option Duration :=
  let total := seconds * nanosPerSecond + nanos
  if total / nanosPerSecond < Nat.pow 2 64 then some ⟨total⟩ else none

def wholeSeconds (d : Duration) : Nat := d.nanos / nanosPerSecond

def subsecond (d : Duration) : Nat := d.nanos % nanosPerSecond

def isZero (d : Duration) : Bool := d.nanos == 0

/-- The shorter of two spans. -/
def min (a b : Duration) : Duration := if b.nanos < a.nanos then b else a

theorem isZero_min (a b : Duration) : (min a b).isZero = (a.isZero || b.isZero) := by
  unfold min isZero
  split <;> rename_i h
  · cases hb : b.nanos == 0 <;> simp_all
    omega
  · cases ha : a.nanos == 0 <;> simp_all
    omega

/-- The digits of `value` at `width` places without the zeros that end them. -/
def fraction (value width : Nat) : String :=
  let digits := Nat.toDigits 10 value
  let padded := List.replicate (width - digits.length) '0' ++ digits
  String.ofList (padded.reverse.dropWhile (· = '0')).reverse

def inUnit (d : Duration) (unit places : Nat) (name : String) : String :=
  let whole := toString (d.nanos / unit)
  if d.nanos % unit = 0 then whole ++ name
  else whole ++ "." ++ fraction (d.nanos % unit) places ++ name

def text (d : Duration) : String :=
  if d.nanos ≥ 1000000000 then d.inUnit 1000000000 9 "s"
  else if d.nanos ≥ 1000000 then d.inUnit 1000000 6 "ms"
  else if d.nanos ≥ 1000 then d.inUnit 1000 3 "µs"
  else d.inUnit 1 0 "ns"

end Duration

end NetconfGate

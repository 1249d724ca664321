import NetconfGate.Decimal.Basic

/-!
# Shortest decimals

A number kept with 53 binary digits, and the decimal that is written for it: of
all decimals that round to it those with the fewest digits, and of those the
nearest.
-/

namespace NetconfGate

/-- The positive number `mantissa * 2 ^ exponent`. -/
structure Binary where
  mantissa : Nat
  exponent : Int
deriving DecidableEq

namespace Binary

def precision : Nat := 53
def leastExponent : Int := -1074
def greatestExponent : Int := 971

/-- The whole number nearest to a quotient, an even one if two are. -/
def roundDiv (num den : Nat) : Nat :=
  let q := num / den
  let r := num % den
  if 2 * r < den then q else if den < 2 * r then q + 1 else q + q % 2

/-- A quotient with a power of two moved into it. -/
def scale (num den : Nat) (power : Int) : Nat × Nat :=
  if 0 ≤ power then (num * Nat.pow 2 power.toNat, den) else (num, den * Nat.pow 2 (-power).toNat)

/-- The power of two at or next below a quotient. -/
def magnitude (num den : Nat) : Int :=
  let guess : Int := (num.log2 : Int) - den.log2
  let (n, d) := scale num den (-guess)
  if n < d then guess - 1 else guess

/-- The nearest number, unless the quotient is zero or too great. -/
def ofRatio (num den : Nat) : Option Binary :=
  if num = 0 then none
  else
    let exponent := max (magnitude num den - (precision - 1)) leastExponent
    let (n, d) := scale num den (-exponent)
    let mantissa := roundDiv n d
    let b : Binary := if mantissa = Nat.pow 2 precision then ⟨Nat.pow 2 (precision - 1), exponent + 1⟩ else ⟨mantissa, exponent⟩
    if greatestExponent < b.exponent then none else some b

/-- The ends of the numbers that round to `b`, in quarters of its last binary digit. -/
def ends (b : Binary) : Nat × Nat :=
  let low :=
    if b.mantissa = Nat.pow 2 (precision - 1) ∧ leastExponent < b.exponent then 4 * b.mantissa - 1
    else 4 * b.mantissa - 2
  (low, 4 * b.mantissa + 2)

/-- The point of the grid of multiples of `10 ^ power` that is nearest to `b`, if it rounds to `b`. -/
def gridPoint? (b : Binary) (power : Int) : Option Nat :=
  let (low, high) := b.ends
  -- Everything is measured in quarters of the last binary digit.
  let (unit, den) := scale (if 0 ≤ power then Nat.pow 10 power.toNat else 1)
    (if 0 ≤ power then 1 else Nat.pow 10 (-power).toNat) (2 - b.exponent)
  let value := 4 * b.mantissa * den
  let below := value / unit
  let inside (c : Nat) : Bool :=
    let x := c * unit
    (low * den < x && x < high * den) || (b.mantissa % 2 = 0 && (low * den = x || x = high * den))
  let nearest := if value - below * unit < (below + 1) * unit - value then below else below + 1
  let other := if nearest = below then below + 1 else below
  if inside nearest then some nearest else if inside other then some other else none

/-- The coarsest grid that has a point, from `power` down. -/
def coarsest (b : Binary) : Nat → Int → Decimal
  | 0, power => ⟨false, 0, power⟩
  | fuel + 1, power =>
      match b.gridPoint? power with
      | some digits => ⟨false, digits, power⟩
      | none => coarsest b fuel (power - 1)

def shortest (b : Binary) : Decimal := coarsest b 700 310

end Binary

namespace Decimal

/-- Rounds to 53 binary digits and back. Numbers too great for that have no text. -/
def shortened? (d : Decimal) : Option Decimal :=
  if d.digits = 0 then some ⟨d.negative, 0, 0⟩
  else
    let size : Int := (toString d.digits).length + d.exponent
    if 310 < size then none
    else if size < -330 then some ⟨d.negative, 0, 0⟩
    else
      let num := d.digits * (if 0 ≤ d.exponent then Nat.pow 10 d.exponent.toNat else 1)
      let den := if 0 ≤ d.exponent then 1 else Nat.pow 10 (-d.exponent).toNat
      (Binary.ofRatio num den).map fun b =>
        if b.mantissa = 0 then ⟨d.negative, 0, 0⟩ else { b.shortest with negative := d.negative }

end Decimal

end NetconfGate

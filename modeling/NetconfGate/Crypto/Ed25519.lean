import NetconfGate.Crypto.Sha2

/-!
# Ed25519 public keys

The public key of a seed: a multiple of the base point of the twisted Edwards
curve `-x² + y² = 1 + d x² y²` modulo `2^255 - 19`, written as its second
coordinate with the parity of the first in the top bit. Points are kept in
extended coordinates, in which adding needs no division.
-/

namespace NetconfGate.Crypto

/-- Powers modulo `m`, by squaring; `fuel` bounds the number of bits of the exponent. -/
def powMod (m : Nat) : Nat → Nat → Nat → Nat
  | 0, _, _ => 1 % m
  | fuel + 1, base, exponent =>
      if exponent = 0 then 1 % m
      else
        let half := powMod m fuel (base * base % m) (exponent / 2)
        if exponent % 2 = 1 then base * half % m else half

/-- The inverse modulo a prime. -/
def inverseMod (p a : Nat) : Nat := powMod p (p.log2 + 1) a (p - 2)

namespace Ed25519

def modulus : Nat := Nat.pow 2 255 - 19

/-- The curve's `d`, minus 121665 divided by 121666. -/
def curveD : Nat := (modulus - 121665) * inverseMod modulus 121666 % modulus

/-- `x = X / Z`, `y = Y / Z` and `x * y = T / Z`. -/
structure Point where
  x : Nat
  y : Nat
  z : Nat
  t : Nat

namespace Point

def identity : Point := ⟨0, 1, 1, 0⟩

/-- Addition with `twice` being two times the curve's `d`. -/
def add (twice : Nat) (p q : Point) : Point :=
  let m := modulus
  let a := (p.y + m - p.x) * (q.y + m - q.x) % m
  let b := (p.y + p.x) * (q.y + q.x) % m
  let c := p.t * q.t % m * twice % m
  let d := 2 * p.z * q.z % m
  let e := b + m - a
  let f := d + m - c
  let g := d + c
  let h := b + a
  ⟨e * f % m, g * h % m, f * g % m, e * h % m⟩

/-- Doubles and adds along the bits; `fuel` bounds their number. -/
def times (twice : Nat) : Nat → Nat → Point → Point
  | 0, _, _ => identity
  | fuel + 1, n, p =>
      if n = 0 then identity
      else
        let half := times twice fuel (n / 2) (add twice p p)
        if n % 2 = 1 then add twice p half else half

/-- Little-endian, with the parity of `x` in the top bit. -/
def encode (p : Point) : Bytes :=
  let inverse := inverseMod modulus p.z
  let x := p.x * inverse % modulus
  let y := p.y * inverse % modulus
  Bytes.ofNatLittle 32 (y + x % 2 * Nat.pow 2 255)

end Point

def baseX : Nat := 15112221349535400772501151409588531511454012693041857206046113283949847762202

/-- The base point has 4/5 as its second coordinate. -/
def base : Point :=
  let y := 4 * inverseMod modulus 5 % modulus
  ⟨baseX, y, 1, baseX * y % modulus⟩

/-- The lower half of the seed's hash with its three lowest bits and its top bit
cleared and the bit below the top set. -/
def scalar (seed : Bytes) : Nat :=
  let n := Bytes.toNatLittle ((Sha2.sha512 seed).take 32)
  Nat.pow 2 254 + n % Nat.pow 2 254 / 8 * 8

def publicKey (seed : Bytes) : Bytes :=
  let twice := 2 * curveD % modulus
  (Point.times twice 256 (scalar seed) base).encode

end Ed25519

end NetconfGate.Crypto

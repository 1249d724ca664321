import NetconfGate.Crypto.Ed25519

/-!
# Elliptic curves over prime fields

The three NIST curves `y² = x³ - 3x + b`. The public key of a scalar is that
multiple of the base point; points are kept as `x = X / Z²`, `y = Y / Z³` until
the end. `Z = 0` is the point at infinity.
-/

namespace NetconfGate.Crypto

structure PrimeCurve where
  name : String
  /-- Bytes in a coordinate or a scalar. -/
  size : Nat
  modulus : Nat
  order : Nat
  coefficient : Nat
  baseX : Nat
  baseY : Nat

namespace PrimeCurve

def p256 : PrimeCurve where
  name := "nistp256"
  size := 32
  modulus := Nat.pow 2 256 - Nat.pow 2 224 + Nat.pow 2 192 + Nat.pow 2 96 - 1
  order := 0xffffffff00000000ffffffffffffffffbce6faada7179e84f3b9cac2fc632551
  coefficient := 0x5ac635d8aa3a93e7b3ebbd55769886bc651d06b0cc53b0f63bce3c3e27d2604b
  baseX := 0x6b17d1f2e12c4247f8bce6e563a440f277037d812deb33a0f4a13945d898c296
  baseY := 0x4fe342e2fe1a7f9b8ee7eb4a7c0f9e162bce33576b315ececbb6406837bf51f5

def p384 : PrimeCurve where
  name := "nistp384"
  size := 48
  modulus := Nat.pow 2 384 - Nat.pow 2 128 - Nat.pow 2 96 + Nat.pow 2 32 - 1
  order := 0xffffffffffffffffffffffffffffffffffffffffffffffffc7634d81f4372ddf581a0db248b0a77aecec196accc52973
  coefficient := 0xb3312fa7e23ee7e4988e056be3f82d19181d9c6efe8141120314088f5013875ac656398d8a2ed19d2a85c8edd3ec2aef
  baseX := 0xaa87ca22be8b05378eb1c71ef320ad746e1d3b628ba79b9859f741e082542a385502f25dbf55296c3a545e3872760ab7
  baseY := 0x3617de4a96262c6f5d9e98bf9292dc29f8f41dbd289a147ce9da3113b5f0b8c00a60b1ce1d7e819d7a431d7c90ea0e5f

def p521 : PrimeCurve where
  name := "nistp521"
  size := 66
  modulus := Nat.pow 2 521 - 1
  order := 0x1fffffffffffffffffffffffffffffffffffffffffffffffffffffffffffffffffffa51868783bf2f966b7fcc0148f709a5d03bb5c9b8899c47aebb6fb71e91386409
  coefficient := 0x051953eb9618e1c9a1f929a21a0b68540eea2da725b99b315f3b8b489918ef109e156193951ec7e937b1652c0bd3bb1bf073573df883d2c34f1ef451fd46b503f00
  baseX := 0xc6858e06b70404e9cd9e3ecb662395b4429c648139053fb521f828af606b4d3dbaa14b5e77efe75928fe1dc127a2ffa8de3348b3c1856a429bf97e7e31c2e5bd66
  baseY := 0x11839296a789a3bc0045c8a5fb42c7d1bd998f54449579b446817afbd17273e662c97ee72995ef42640c550b9013fad0761353c7086a272c24088be94769fd16650

def all : List PrimeCurve := [p256, p384, p521]

structure Point where
  x : Nat
  y : Nat
  z : Nat

def infinity : Point := ⟨1, 1, 0⟩

def base (c : PrimeCurve) : Point := ⟨c.baseX, c.baseY, 1⟩

def sub (c : PrimeCurve) (a b : Nat) : Nat := (a + c.modulus - b % c.modulus) % c.modulus

def double (c : PrimeCurve) (p : Point) : Point :=
  let m := c.modulus
  let delta := p.z * p.z % m
  let gamma := p.y * p.y % m
  let beta := p.x * gamma % m
  let alpha := 3 * (c.sub p.x delta * (p.x + delta)) % m
  let x := c.sub (alpha * alpha) (8 * beta)
  let z := c.sub ((p.y + p.z) * (p.y + p.z)) (gamma + delta)
  ⟨x, c.sub (alpha * c.sub (4 * beta) x) (8 * gamma * gamma), z⟩

def add (c : PrimeCurve) (p q : Point) : Point :=
  let m := c.modulus
  if p.z % m = 0 then q
  else if q.z % m = 0 then p
  else
    let pz2 := p.z * p.z % m
    let qz2 := q.z * q.z % m
    let u1 := p.x * qz2 % m
    let u2 := q.x * pz2 % m
    let s1 := p.y * qz2 % m * q.z % m
    let s2 := q.y * pz2 % m * p.z % m
    let h := c.sub u2 u1
    let r := c.sub s2 s1
    if h = 0 then (if r = 0 then c.double p else infinity)
    else
      let h2 := h * h % m
      let h3 := h * h2 % m
      let v := u1 * h2 % m
      let x := c.sub (r * r) (h3 + 2 * v)
      ⟨x, c.sub (r * c.sub v x) (s1 * h3), p.z * q.z % m * h % m⟩

/-- Doubles and adds along the bits; `fuel` bounds their number. -/
def times (c : PrimeCurve) : Nat → Nat → Point → Point
  | 0, _, _ => infinity
  | fuel + 1, n, p =>
      if n = 0 then infinity
      else
        let half := c.times fuel (n / 2) (c.double p)
        if n % 2 = 1 then c.add p half else half

/-- Both coordinates of the public key of `scalar`. -/
def publicPoint (c : PrimeCurve) (scalar : Nat) : Nat × Nat :=
  let p := c.times (8 * c.size) scalar c.base
  let inverse := inverseMod c.modulus p.z
  let square := inverse * inverse % c.modulus
  (p.x * square % c.modulus, p.y * square % c.modulus * inverse % c.modulus)

/-- The uncompressed form, which the byte 4 opens. -/
def uncompressed (c : PrimeCurve) (point : Nat × Nat) : Bytes :=
  4 :: Bytes.ofNat c.size point.1 ++ Bytes.ofNat c.size point.2

/-- The compressed form: 2 or 3 by the parity of the second coordinate. -/
def compressed (c : PrimeCurve) (point : Nat × Nat) : Bytes :=
  (if point.2 % 2 = 0 then 2 else 3) :: Bytes.ofNat c.size point.1

end PrimeCurve

end NetconfGate.Crypto

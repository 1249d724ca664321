import NetconfGate.HostKey.Basic
import NetconfGate.HostKey.Fault

/-!
# Private key containers

Three DER forms of a private key: the general container, which names its
algorithm and holds the key as octets, and the two forms that belong to RSA and
to elliptic curve keys alone. An RSA key is checked for consistency, and a
public key that accompanies a curve's scalar has to be the scalar's own.
-/

namespace NetconfGate.HostKey.Container

open Der (Reading)

def ed25519Id : Der.Identifier := ⟨[0x2b, 0x65, 0x70]⟩
def rsaId : Der.Identifier := ⟨[0x2a, 0x86, 0x48, 0x86, 0xf7, 0x0d, 0x01, 0x01, 0x01]⟩
def ellipticId : Der.Identifier := ⟨[0x2a, 0x86, 0x48, 0xce, 0x3d, 0x02, 0x01]⟩

def curveIds : List (Der.Identifier × Curve) := [
  (⟨[0x2a, 0x86, 0x48, 0xce, 0x3d, 0x03, 0x01, 0x07]⟩, .p256),
  (⟨[0x2b, 0x81, 0x04, 0x00, 0x22]⟩, .p384),
  (⟨[0x2b, 0x81, 0x04, 0x00, 0x23]⟩, .p521)]

/-- The number of context members that can be passed over in a message of this size. -/
def contextFuel : Reading Nat := fun input => .ok input.rest.length input

structure RsaKey where
  modulus : Nat
  publicExponent : Nat
  privateExponent : Nat
  firstPrime : Nat
  secondPrime : Nat
  coefficient : Nat
  moreThanTwoPrimes : Bool

def version : Reading Nat := do
  let n ← Der.small
  if n > 1 then Der.fail (.value .integer) else pure n

/-- Further primes come as a sequence at the end, exactly when the version says so. -/
def otherPrimes : Reading Bool := do
  match ← Der.peek with
  | none => pure false
  | some first => do
      let tag ← Der.tagOf first
      if tag = .sequence then do
        let _ ← Der.any
        pure true
      else pure false

def rsaContent : Reading RsaKey := Der.sequence do
  let version ← version
  let modulus ← Der.member Der.natural
  let publicExponent ← Der.member Der.natural
  let privateExponent ← Der.member Der.natural
  let firstPrime ← Der.member Der.natural
  let secondPrime ← Der.member Der.natural
  let _ ← Der.member Der.natural
  let _ ← Der.member Der.natural
  let coefficient ← Der.member Der.natural
  let more ← Der.member otherPrimes
  if (version = 1) ≠ more then
    fun input => .error ⟨.value .integer, some input.position⟩ input
  else pure ⟨modulus, publicExponent, privateExponent, firstPrime, secondPrime, coefficient, more⟩

/-- The modulus is the odd product of the primes, has at most 4096 bits and is
above the odd public exponent, and the exponents undo one another. -/
def RsaKey.check (k : RsaKey) : Except RsaFault Unit :=
  if k.modulus ≥ Nat.pow 2 4096 then .error .modulusTooLarge
  else if k.publicExponent ≥ k.modulus ∨ k.modulus % 2 = 0 then .error .modulus
  else if k.publicExponent % 2 = 0 then .error .exponent
  else if k.publicExponent < 2 then .error .exponentTooSmall
  else if k.publicExponent ≥ Nat.pow 2 33 then .error .exponentTooLarge
  else if k.firstPrime < 1 ∨ k.secondPrime < 1 then .error .prime
  else if k.firstPrime * k.secondPrime ≠ k.modulus then .error .modulus
  else
    let product := k.publicExponent * k.privateExponent
    let one := fun prime => prime = 1 ∨ product % (prime - 1) = 1 % (prime - 1)
    if one k.firstPrime ∧ one k.secondPrime then .ok () else .error .exponent

def RsaKey.hostKey (k : RsaKey) : HostKey :=
  ⟨.rsa (signedBytes k.publicExponent) (signedBytes k.modulus),
    [k.privateExponent, k.coefficient, k.firstPrime, k.secondPrime].map signedBytes, ""⟩

/-- The form of RSA keys alone. Whatever is wrong with the numbers is told in one way. -/
def decodeRsa (bytes : Bytes) : Except DecodeFault HostKey :=
  match Der.whole rsaContent bytes with
  | .error e => .error (.pkcs1 (.container (.encoding e)))
  | .ok k =>
      if k.moreThanTwoPrimes then .error (.pkcs1 (.container .keyData))
      else match k.check with
        | .error _ => .error (.pkcs1 (.container .keyData))
        | .ok _ => .ok k.hostKey

structure CurveKey where
  scalar : Bytes
  curve : Option Der.Identifier
  point : Option Bytes

def curveContent : Reading CurveKey := Der.sequence do
  let version ← Der.small
  if version ≠ 1 then Der.fail (.value .integer)
  else do
    let scalar ← Der.octets
    let fuel ← contextFuel
    let curve ← Der.context 0 (Der.explicit Der.identifier) fuel
    let point ← Der.context 1 (Der.explicit Der.bitString) fuel
    pure ⟨scalar, curve, point⟩

/-- A scalar between zero and the order, both excluded, of up to a coordinate's size. -/
def CurveKey.value? (k : CurveKey) (curve : Curve) : Option Nat :=
  let n := k.scalar.toNat
  if 24 ≤ k.scalar.length ∧ k.scalar.length ≤ curve.size ∧ 0 < n ∧ n < curve.shape.order then some n
  else none

def CurveKey.hostKey (k : CurveKey) (curve : Curve) : Except Der.Error HostKey :=
  match k.value? curve with
  | none => .error ⟨.value .sequence, none⟩
  | some scalar =>
      let point := curve.shape.publicPoint scalar
      let forms := [curve.shape.uncompressed point, curve.shape.compressed point]
      match k.point with
      | none => .ok (HostKey.ofScalar curve scalar)
      | some claimed =>
          if forms.contains claimed then .ok (HostKey.ofScalar curve scalar)
          else .error ⟨.value .bitString, none⟩

/-- A message that is one whole value, whatever its tag. -/
def document (bytes : Bytes) : Except DecodeFault Unit :=
  match Der.whole Der.document bytes with
  | .error e => .error (.der e)
  | .ok _ => .ok ()

/-- The form of elliptic curve keys alone; it has to name its curve. -/
def decodeCurve (bytes : Bytes) : Except DecodeFault HostKey := do
  document bytes
  match Der.whole curveContent bytes with
  | .error e => .error (.der e)
  | .ok k =>
      match k.curve with
      | none => .error .unreadable
      | some id =>
          match curveIds.lookup id with
          | none => .error (.algorithm id)
          | some curve => (k.hostKey curve).mapError .der

structure General where
  algorithm : Der.Identifier
  parameters : Option Der.Any
  key : Bytes
  point : Option Bytes

def algorithm : Reading (Der.Identifier × Option Der.Any) := Der.sequence do
  let id ← Der.member Der.identifier
  let parameters ← Der.anyOrNone
  pure (id, parameters)

/-- Context members that are passed over. `fuel` bounds how many. -/
def extensions : Nat → Reading Unit
  | 0 => pure ()
  | fuel + 1 => do
      match ← Der.peek with
      | none => pure ()
      | some _ => do
          let _ ← Der.member (Der.explicit Der.any)
          extensions fuel

def generalContent : Reading General := Der.sequence do
  let version ← version
  let (id, parameters) ← Der.member algorithm
  let key ← Der.octets
  let fuel ← contextFuel
  let point ← Der.context 1 Der.implicitBitString fuel
  if (version = 1) ≠ point.isSome then
    fun input => .error ⟨.value ⟨0xa1⟩, some input.position⟩ input
  else do
    extensions fuel
    pure ⟨id, parameters, key, point⟩

/-- The octets hold a string of 32 octets, and parameters are not given. -/
def General.ed25519 (g : General) : Except DecodeFault HostKey :=
  if g.parameters.isSome then .error (.pkcs8 .parameters)
  else match g.key with
    | 0x04 :: 0x20 :: seed =>
        if seed.length ≠ 32 ∨ g.point.any (·.length ≠ 32) then .error (.pkcs8 .keyData)
        else .ok (HostKey.ofSeed seed)
    | _ => .error (.pkcs8 .keyData)

def General.rsa (g : General) : Except DecodeFault HostKey :=
  match Der.whole rsaContent g.key with
  | .error e => .error (.pkcs1 (.encoding e))
  | .ok k =>
      match k.check with
      | .error fault => .error (.rsa fault)
      | .ok _ => .ok k.hostKey

def General.curveId (g : General) : Except DecodeFault Der.Identifier :=
  match g.parameters with
  | none => .error (.parameters .missing)
  | some found =>
      if found.tag = .null ∧ found.content.isEmpty then .error (.parameters .missing)
      else if found.tag ≠ .objectIdentifier then
        .error (.parameters (.encoding ⟨.unexpected none found.tag, none⟩))
      else (Der.whole (Der.identifierContent found.content.length) found.content).mapError
        fun e => .parameters (.encoding e)

def General.elliptic (g : General) : Except DecodeFault HostKey := do
  let id ← g.curveId
  match curveIds.lookup id with
  | none => .error (.algorithm id)
  | some curve =>
      match Der.whole curveContent g.key with
      | .error e => .error (.pkcs8 (.encoding e))
      | .ok k => (k.hostKey curve).mapError fun e => .pkcs8 (.encoding e)

def decodeGeneral (bytes : Bytes) : Except DecodeFault HostKey := do
  document bytes
  match Der.whole generalContent bytes with
  | .error e => .error (.der e)
  | .ok g =>
      if g.algorithm = rsaId then g.rsa
      else if g.algorithm = ed25519Id then g.ed25519
      else if g.algorithm = ellipticId then g.elliptic
      else .error (.algorithm g.algorithm)

end NetconfGate.HostKey.Container

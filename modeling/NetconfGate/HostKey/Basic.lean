import NetconfGate.Crypto.PrimeCurve
import NetconfGate.Encoding.Base64

/-!
# Host keys

A host key is a private key with the public key that clients see. The public key
is shown as its algorithm and its encoded form, and told by the hash of that
form. Fields of the encoded form are preceded by their length.
-/

namespace NetconfGate

namespace HostKey

/-- The curves that keys may be on. -/
inductive Curve where
  | p256
  | p384
  | p521
deriving DecidableEq

namespace Curve

def all : List Curve := [p256, p384, p521]

def shape : Curve → Crypto.PrimeCurve
  | p256 => .p256
  | p384 => .p384
  | p521 => .p521

def name (c : Curve) : String := c.shape.name

def size (c : Curve) : Nat := c.shape.size

end Curve

inductive PublicKey where
  | ed25519 (point : Bytes)
  /-- `point` is in one of the encoded forms. -/
  | ecdsa (curve : Curve) (point : Bytes)
  /-- Both are signed numbers, most significant byte first. -/
  | rsa (exponent modulus : Bytes)
deriving DecidableEq

/-- Length in four bytes, then the field. -/
def field (bytes : Bytes) : Bytes := Bytes.ofNat 4 bytes.length ++ bytes

/-- The fewest bytes of a number, with a zero in front of a top bit that is set. -/
def signedBytes (value : Nat) : Bytes :=
  if value = 0 then []
  else
    let digits := Bytes.ofNat (value.log2 / 8 + 1) value
    if digits.headD 0 ≥ 128 then 0 :: digits else digits

namespace PublicKey

def algorithm : PublicKey → String
  | ed25519 _ => "ssh-ed25519"
  | ecdsa curve _ => "ecdsa-sha2-" ++ curve.name
  | rsa _ _ => "ssh-rsa"

/-- The fields behind the algorithm's name. -/
def fields : PublicKey → List Bytes
  | ed25519 point => [point]
  | ecdsa curve point => [.ofText curve.name, point]
  | rsa exponent modulus => [exponent, modulus]

def encoded (k : PublicKey) : Bytes := (.ofText k.algorithm :: k.fields).flatMap field

/-- The unpadded base 64 of the SHA-256 of the encoded form. -/
def fingerprint (k : PublicKey) : String :=
  "SHA256:" ++ Base64.encode (Crypto.Sha2.sha256 k.encoded)

/-- One line, the comment at its end if there is one. -/
def line (k : PublicKey) (comment : String) : String :=
  k.algorithm ++ " " ++ Base64.encodePadded k.encoded
    ++ (if comment.isEmpty then "" else " " ++ comment)

end PublicKey

end HostKey

/-- `secret` holds the private fields in the order in which they are stored. -/
structure HostKey where
  publicKey : HostKey.PublicKey
  secret : List Bytes
  comment : String
deriving DecidableEq

namespace HostKey

def algorithm (k : HostKey) : String := k.publicKey.algorithm

/-- The Ed25519 key of a seed of 32 bytes. -/
def ofSeed (seed : Bytes) : HostKey :=
  ⟨.ed25519 (Crypto.Ed25519.publicKey seed), [seed], ""⟩

/-- The key of a scalar on a curve. -/
def ofScalar (curve : Curve) (scalar : Nat) : HostKey :=
  ⟨.ecdsa curve (curve.shape.uncompressed (curve.shape.publicPoint scalar)),
    [Bytes.ofNat curve.size scalar], ""⟩

end HostKey

end NetconfGate

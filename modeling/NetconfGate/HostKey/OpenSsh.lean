import NetconfGate.HostKey.Basic
import NetconfGate.HostKey.Fault

/-!
# OpenSSH private keys

The binary form behind the armour: a mark, the names of a cipher and of a key
derivation, the number of keys, which is one, the public key, and a block that
holds two equal check numbers, the private key with its comment, and padding 1,
2, 3, … to a multiple of eight. A block under a cipher is not looked into.
-/

namespace NetconfGate.HostKey.OpenSsh

abbrev Reading := StateT Bytes (Except OpenSshFault)

def wire {α : Type} (fault : WireFault) : Reading α := throw (.wire fault)

def mark : Bytes := .ofText "openssh-key-v1\x00"

def take (count : Nat) : Reading Bytes := fun bytes =>
  if count ≤ bytes.length then .ok (bytes.take count, bytes.drop count)
  else .error (.wire .length)

def number : Reading Nat := do
  let bytes ← take 4
  pure bytes.toNat

/-- Lengths and counts above 2^20 - 1 are refused. -/
def count : Reading Nat := do
  let n ← number
  if n > 0xfffff then wire .overflow else pure n

/-- Reads a field of the stated length to its end. -/
def inField {α : Type} (read : Reading α) : Reading α := do
  let n ← count
  let bytes ← get
  if n > bytes.length then wire .length
  else match read (bytes.take n) with
    | .error fault => throw fault
    | .ok (value, []) => do
        set (bytes.drop n)
        pure value
    | .ok (_, left) => wire (.trailing left.length)

def rest : Reading Bytes := fun bytes => .ok (bytes, [])

def blob : Reading Bytes := inField rest

/-- A field of exactly `size` bytes. -/
def fixed (size : Nat) : Reading Bytes := inField (take size)

/-- A name of at most 48 bytes. -/
def label : Reading String := do
  let bytes ← blobUpTo 48
  match bytes.text? with
  | some text => pure text
  | none => wire .characters
where
  blobUpTo (most : Nat) : Reading Bytes := inField do
    let bytes ← get
    if bytes.length > most then wire .length else rest

def text : Reading String := do
  let bytes ← blob
  match bytes.text? with
  | some text => pure text
  | none => wire .characters

/-- A signed number without a needless zero in front. -/
def signed : Reading Bytes := do
  let bytes ← blob
  match bytes with
  | [0] => throw .format
  | 0 :: next :: _ => if next < 128 then throw .format else pure bytes
  | _ => pure bytes

/-- Block sizes and whether a tag follows the block, by cipher. -/
def ciphers : List (String × Nat × Bool) := [
  ("none", 8, false), ("aes128-cbc", 16, false), ("aes192-cbc", 16, false),
  ("aes256-cbc", 16, false), ("aes128-ctr", 16, false), ("aes192-ctr", 16, false),
  ("aes256-ctr", 16, false), ("aes128-gcm@openssh.com", 16, true),
  ("aes256-gcm@openssh.com", 16, true), ("chacha20-poly1305@openssh.com", 8, true),
  ("3des-cbc", 8, false)]

/-- Whether a key derivation is named. Without one its options are empty. -/
def derivation : Reading Bool := do
  let name ← label
  if name = "none" then do
    let n ← count
    if n = 0 then pure false else throw .algorithm
  else if name = "bcrypt" then do
    inField do
      let _ ← blob
      let _ ← number
    pure true
  else wire (.label name)

/-- The kinds of keys. -/
inductive Kind where
  | ed25519
  | ecdsa (curve : Curve)
  | rsa

def kinds : List (String × Kind) := [
  ("ssh-ed25519", .ed25519), ("ecdsa-sha2-nistp256", .ecdsa .p256),
  ("ecdsa-sha2-nistp384", .ecdsa .p384), ("ecdsa-sha2-nistp521", .ecdsa .p521),
  ("ssh-rsa", .rsa), ("rsa-sha2-256", .rsa), ("rsa-sha2-512", .rsa)]

def kind : Reading Kind := do
  let name ← label
  match kinds.lookup name with
  | some kind => pure kind
  | none => wire (.label name)

def curve : Reading Curve := do
  let name ← label
  match Curve.all.find? fun curve => curve.name = name with
  | some curve => pure curve
  | none => wire (.label name)

/-- The curve on which a point of these encoded bytes lies, by their number. -/
def curveOfPoint : Bytes → Except OpenSshFault Curve
  | [] => .error (.wire .length)
  | tag :: coordinates =>
      let size : Except OpenSshFault Nat :=
        if tag = 2 ∨ tag = 3 then .ok coordinates.length
        else if tag = 4 then .ok (coordinates.length / 2)
        else if tag = 0 ∨ tag = 5 then .error .algorithm else .error .point
      match size with
      | .error fault => .error fault
      | .ok size =>
          match Curve.all.find? fun curve => curve.size = size with
          | none => .error (.wire .length)
          | some curve =>
              if tag = 4 ∧ coordinates.length ≠ 2 * size then .error .point else .ok curve

/-- A curve's name and a point on it. -/
def pointOn : Reading (Curve × Bytes) := do
  let named ← curve
  let bytes ← label.blobUpTo 133
  match curveOfPoint bytes with
  | .error fault => throw fault
  | .ok curve => if curve = named then pure (curve, bytes) else throw .algorithm

def publicKey : Reading PublicKey := do
  match ← kind with
  | .ed25519 => .ed25519 <$> fixed 32
  | .ecdsa expected => do
      let (curve, point) ← pointOn
      if curve = expected then pure (.ecdsa curve point) else throw .algorithm
  | .rsa => do
      let exponent ← signed
      let modulus ← signed
      pure (.rsa exponent modulus)

/-- The digits of a scalar. On the largest curve one or two may be missing. -/
def digits (curve : Curve) : Reading Bytes := do
  let bytes ← get
  match curve with
  | .p521 => if bytes.length > 63 then take (min bytes.length curve.size) else pure []
  | _ => take curve.size

/-- A scalar, which may have one zero in front. -/
def scalar (curve : Curve) : Reading Bytes := inField do
  let bytes ← get
  if bytes.length = curve.size + 1 then do
    let zero ← take 1
    if zero = [0] then digits curve else throw .format
  else digits curve

/-- The public half is stored twice and has to be the one that the seed gives. -/
def ed25519Pair : Reading (PublicKey × List Bytes) := do
  let point ← fixed 32
  let pair ← fixed 64
  let seed := pair.take 32
  if Crypto.Ed25519.publicKey seed ≠ pair.drop 32 then throw .cryptographic
  else if pair.drop 32 ≠ point then throw .cryptographic
  else pure (.ed25519 point, [seed])

def keyPair : Reading (PublicKey × List Bytes) := do
  match ← kind with
  | .ed25519 => ed25519Pair
  | .ecdsa expected => do
      let (curve, point) ← pointOn
      let secret ← scalar curve
      if curve = expected then pure (.ecdsa curve point, [secret]) else throw .algorithm
  | .rsa => do
      let modulus ← signed
      let exponent ← signed
      let privateExponent ← signed
      let coefficient ← signed
      let first ← signed
      let second ← signed
      pure (.rsa exponent modulus, [privateExponent, coefficient, first, second])

/-- The numbers 1, 2, 3, … -/
def padding (length : Nat) : Bytes := (List.range length).map fun i => (i + 1).toUInt8

/-- The block of a key without a cipher. -/
def block (expected : PublicKey) : Reading HostKey := do
  let bytes ← get
  if bytes.length % 8 ≠ 0 then wire .length
  else do
    let first ← number
    let second ← number
    if first ≠ second then throw .cryptographic
    else do
      let (found, secret) ← keyPair
      if found ≠ expected then throw .publicKey
      else do
        let comment ← text
        let left ← rest
        if left.length ≥ 8 then wire .length
        else if left ≠ padding left.length then throw .format
        else pure ⟨found, secret, comment⟩

/-- What a file of this form holds. -/
inductive Content where
  | plain (key : HostKey)
  | encrypted

def content : Reading Content := do
  let found ← take mark.length
  if found ≠ mark then throw .format
  else do
    let cipher ← label
    match ciphers.lookup cipher with
    | none => wire (.label cipher)
    | some (size, tagged) => do
        let derived ← derivation
        let keys ← count
        if keys ≠ 1 then wire .length
        else do
          let expected ← inField publicKey
          if cipher = "none" then
            if derived then throw .cryptographic
            else Content.plain <$> inField (block expected)
          else do
            let hidden ← blob
            if hidden.length % size ≠ 0 then throw .cryptographic
            else do
              if tagged then discard (take 16)
              pure .encrypted

def decode (bytes : Bytes) : Except OpenSshFault Content :=
  match content bytes with
  | .error fault => .error fault
  | .ok (found, left) =>
      if left.isEmpty then .ok found else .error (.wire (.trailing left.length))

/-- The private fields as they stand in the block; a seed is followed by its point. -/
def secretFields (k : HostKey) : List Bytes :=
  match k.publicKey, k.secret with
  | .ed25519 point, seed :: _ => [point, seed ++ point]
  | .ecdsa curve point, secret => Bytes.ofText curve.name :: point :: secret
  | .rsa exponent modulus, secret => modulus :: exponent :: secret
  | _, secret => secret

/-- `check` is written twice in front of the key. -/
def encode (check : Nat) (k : HostKey) : Bytes :=
  let body := Bytes.ofNat 4 check ++ Bytes.ofNat 4 check
    ++ (Bytes.ofText k.algorithm :: secretFields k ++ [Bytes.ofText k.comment]).flatMap field
  let padded := body ++ padding ((8 - body.length % 8) % 8)
  mark ++ field (.ofText "none") ++ field (.ofText "none") ++ field [] ++ Bytes.ofNat 4 1
    ++ field k.publicKey.encoded ++ field padded

end NetconfGate.HostKey.OpenSsh

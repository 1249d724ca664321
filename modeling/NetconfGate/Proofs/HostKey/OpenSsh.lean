import NetconfGate.HostKey.OpenSsh
import NetconfGate.Proofs.Bytes

/-!
# Reading back a key

Each part of the binary form of a key is read to its own end, whatever follows it.
So the parts are read back one after the other, and a generated key is read from
what was written for it.
-/

namespace NetconfGate.HostKey

theorem length_publicKey (seed : Bytes) : (Crypto.Ed25519.publicKey seed).length = 32 := by
  rw [Crypto.Ed25519.publicKey, Crypto.Ed25519.Point.encode, Bytes.ofNatLittle, List.length_reverse,
    Bytes.length_ofNat]

namespace OpenSsh

variable {α β : Type}

/-- Reads exactly these bytes, whatever follows them. -/
def Reads (read : Reading α) (input : Bytes) (value : α) : Prop :=
  ∀ rest, read (input ++ rest) = .ok (value, rest)

theorem Reads.bind {read : Reading α} {input : Bytes} {value : α} (reads : Reads read input value)
    (next : α → Reading β) (rest : Bytes) :
    (read >>= next) (input ++ rest) = next value rest := by
  change (read (input ++ rest) >>= fun found => next found.1 found.2) = _
  rw [reads]
  rfl

theorem Reads.whole {read : Reading α} {input : Bytes} {value : α}
    (reads : Reads read input value) : read input = .ok (value, []) := by
  have ends := reads []
  rwa [List.append_nil] at ends

theorem reads_take {size : Nat} {input : Bytes} (sized : input.length = size) :
    Reads (take size) input input := by
  intro rest
  subst sized
  have enough : input.length ≤ (input ++ rest).length := by simp
  rw [take, if_pos enough, List.take_left, List.drop_left]

theorem reads_number (n : Nat) : Reads number (Bytes.ofNat 4 n) (n % 4294967296) := by
  intro rest
  have four := reads_take (Bytes.length_ofNat 4 n)
  rw [number, four.bind, Bytes.toNat_ofNat]
  rfl

theorem reads_count {n : Nat} (small : n ≤ 0xfffff) : Reads count (Bytes.ofNat 4 n) n := by
  intro rest
  have same : n % 4294967296 = n := Nat.mod_eq_of_lt (by omega)
  rw [count, (reads_number n).bind, same, if_neg (Nat.not_lt_of_le small)]
  rfl

/-- A field is read by what reads all that is in it. -/
theorem reads_inField {read : Reading α} {input : Bytes} {value : α}
    (small : input.length ≤ 0xfffff) (whole : read input = .ok (value, [])) :
    Reads (inField read) (field input) value := by
  intro rest
  have enough : ¬input.length > (input ++ rest).length := by simp
  rw [inField, field, List.append_assoc, (reads_count small).bind]
  change (if input.length > (input ++ rest).length then wire .length else _ : Reading α)
    (input ++ rest) = _
  rw [if_neg enough, List.take_left, whole, List.drop_left]
  rfl

theorem reads_blob {input : Bytes} (small : input.length ≤ 0xfffff) :
    Reads blob (field input) input := reads_inField small rfl

theorem reads_fixed {size : Nat} {input : Bytes} (sized : input.length = size)
    (small : size ≤ 0xfffff) : Reads (fixed size) (field input) input :=
  reads_inField (by omega) (reads_take sized).whole

theorem reads_label {name : String} (short : (Bytes.ofText name).length ≤ 48) :
    Reads label (field (.ofText name)) name := by
  have found : Reads (label.blobUpTo 48) (field (.ofText name)) (.ofText name) := by
    apply reads_inField (by omega)
    change (if (Bytes.ofText name).length > 48 then wire .length else rest : Reading Bytes)
      (.ofText name) = _
    rw [if_neg (Nat.not_lt_of_le short)]
    rfl
  intro rest
  rw [label, found.bind, Bytes.text?_ofText]
  rfl

theorem reads_text {comment : String} (short : (Bytes.ofText comment).length ≤ 0xfffff) :
    Reads text (field (.ofText comment)) comment := by
  intro rest
  rw [text, (reads_blob short).bind, Bytes.text?_ofText]
  rfl

theorem length_field (input : Bytes) : (field input).length = input.length + 4 := by
  rw [field, List.length_append, Bytes.length_ofNat, Nat.add_comm]

/-- The fields of an Ed25519 key with this seed and this point. -/
def ed25519 (seed point : Bytes) : HostKey := ⟨.ed25519 point, [seed], ""⟩

theorem reads_kind : Reads kind (field (.ofText "ssh-ed25519")) .ed25519 := by
  intro rest
  rw [kind, (reads_label (by decide)).bind]
  rfl

theorem reads_publicKey {point : Bytes} (sized : point.length = 32) :
    Reads publicKey (PublicKey.ed25519 point).encoded (.ed25519 point) := by
  have parts : (PublicKey.ed25519 point).encoded =
      field (.ofText "ssh-ed25519") ++ field point := by
    simp [PublicKey.encoded, PublicKey.algorithm, PublicKey.fields]
  intro rest
  rw [publicKey, parts, List.append_assoc, reads_kind.bind]
  change (fixed 32 >>= fun found => pure (PublicKey.ed25519 found)) (field point ++ rest) = _
  rw [(reads_fixed sized (by decide)).bind]
  rfl

theorem reads_ed25519Pair {seed point : Bytes} (seeded : seed.length = 32)
    (sized : point.length = 32) (made : Crypto.Ed25519.publicKey seed = point) :
    Reads ed25519Pair (field point ++ field (seed ++ point)) (.ed25519 point, [seed]) := by
  have pairSized : (seed ++ point).length = 64 := by rw [List.length_append, seeded, sized]
  intro rest
  rw [ed25519Pair, List.append_assoc, (reads_fixed sized (by decide)).bind,
    (reads_fixed pairSized (by decide)).bind, List.take_left' seeded, List.drop_left' seeded]
  simp only [made, ne_eq, not_true_eq_false, if_false]
  rfl

/-- The fields of the block behind the check numbers. -/
theorem reads_keyPair {seed point : Bytes} (seeded : seed.length = 32)
    (sized : point.length = 32) (made : Crypto.Ed25519.publicKey seed = point) :
    Reads keyPair (field (.ofText "ssh-ed25519") ++ (field point ++ field (seed ++ point)))
      (.ed25519 point, [seed]) := by
  intro rest
  rw [keyPair, List.append_assoc, reads_kind.bind]
  exact reads_ed25519Pair seeded sized made rest

theorem length_padding (length : Nat) : (padding length).length = length := by
  rw [padding, List.length_map, List.length_range]

/-- The block of an Ed25519 key without its padding. -/
def body (check : Nat) (seed point : Bytes) : Bytes :=
  Bytes.ofNat 4 check ++ (Bytes.ofNat 4 check ++
    ((field (.ofText "ssh-ed25519") ++ (field point ++ field (seed ++ point)))
      ++ field (.ofText "")))

theorem length_body (check : Nat) {seed point : Bytes} (seeded : seed.length = 32)
    (sized : point.length = 32) : (body check seed point).length = 131 := by
  have named : (Bytes.ofText "ssh-ed25519").length = 11 := by decide
  have blank : (Bytes.ofText "").length = 0 := by decide
  simp only [body, List.length_append, length_field, Bytes.length_ofNat, seeded, sized, named, blank]

theorem length_block (check : Nat) {seed point : Bytes} (seeded : seed.length = 32)
    (sized : point.length = 32) : (body check seed point ++ padding 5).length = 136 := by
  rw [List.length_append, length_body check seeded sized, length_padding]

/-- A block is read from its check numbers to the end of its padding. -/
theorem block_eq_ok (check : Nat) {seed point : Bytes} (seeded : seed.length = 32)
    (sized : point.length = 32) (made : Crypto.Ed25519.publicKey seed = point) :
    block (.ed25519 point) (body check seed point ++ padding 5) =
      .ok (ed25519 seed point, []) := by
  have even : (body check seed point ++ padding 5).length % 8 = 0 := by
    rw [length_block check seeded sized]
  change (if (body check seed point ++ padding 5).length % 8 ≠ 0 then wire .length
    else _ : Reading HostKey) (body check seed point ++ padding 5) = _
  rw [if_neg (by simpa using even), body, List.append_assoc, (reads_number check).bind,
    List.append_assoc, (reads_number check).bind, if_neg (by simp), List.append_assoc,
    (reads_keyPair seeded sized made).bind]
  dsimp only
  rw [if_neg (by simp), (reads_text (by decide)).bind]
  rfl

theorem reads_derivation : Reads derivation (field (.ofText "none") ++ field []) false := by
  have empty : field [] = Bytes.ofNat 4 0 := rfl
  intro rest
  rw [derivation, List.append_assoc, (reads_label (by decide)).bind, if_pos rfl, empty,
    (reads_count (by decide)).bind, if_pos rfl]
  rfl

/-- The form of one key without a cipher is read field by field. -/
theorem reads_content {publicKey : PublicKey} {encoded blocked : Bytes} {key : HostKey}
    (short : encoded.length ≤ 0xfffff) (expected : Reads OpenSsh.publicKey encoded publicKey)
    (small : blocked.length ≤ 0xfffff) (held : block publicKey blocked = .ok (key, [])) :
    Reads content (mark ++ (field (.ofText "none") ++ ((field (.ofText "none") ++ field []) ++
      (Bytes.ofNat 4 1 ++ (field encoded ++ field blocked))))) (.plain key) := by
  intro rest
  simp only [List.append_assoc]
  rw [content, (reads_take rfl).bind, if_neg (by simp), (reads_label (by decide)).bind]
  change (derivation >>= _) (field (.ofText "none") ++ (field [] ++ _)) = _
  rw [← List.append_assoc (field (.ofText "none")), reads_derivation.bind,
    (reads_count (by decide)).bind, if_neg (by simp),
    (reads_inField short expected.whole).bind, if_pos rfl, if_neg (by simp)]
  change (inField (block publicKey) >>= fun found => pure (Content.plain found))
    (field blocked ++ rest) = _
  rw [(reads_inField small held).bind]
  rfl

theorem encode_ed25519 (check : Nat) {seed point : Bytes} (seeded : seed.length = 32)
    (sized : point.length = 32) :
    encode check (ed25519 seed point) =
      mark ++ (field (.ofText "none") ++ ((field (.ofText "none") ++ field []) ++
        (Bytes.ofNat 4 1 ++ (field (PublicKey.ed25519 point).encoded ++
          field (body check seed point ++ padding 5))))) := by
  have fields : Bytes.ofNat 4 check ++ Bytes.ofNat 4 check
      ++ (Bytes.ofText (ed25519 seed point).algorithm :: secretFields (ed25519 seed point)
        ++ [Bytes.ofText (ed25519 seed point).comment]).flatMap field
      = body check seed point := by
    simp [body, ed25519, secretFields, algorithm, PublicKey.algorithm]
  have filling : (8 - (body check seed point).length % 8) % 8 = 5 := by
    rw [length_body check seeded sized]
  simp only [encode, fields, filling, List.append_assoc]
  rfl

/-- A generated key is read back from its binary form. -/
theorem decode_encode (check : Nat) {seed : Bytes} (seeded : seed.length = 32) :
    decode (encode check (ofSeed seed)) = .ok (.plain (ofSeed seed)) := by
  have sized := length_publicKey seed
  generalize made : Crypto.Ed25519.publicKey seed = point at sized
  have same : ofSeed seed = ed25519 seed point := by rw [ofSeed, made, ed25519]
  have encodedSized : (PublicKey.ed25519 point).encoded.length = 51 := by
    have named : (Bytes.ofText "ssh-ed25519").length = 11 := by decide
    simp only [PublicKey.encoded, PublicKey.algorithm, PublicKey.fields, List.flatMap_cons,
      List.flatMap_nil, List.length_append, length_field, sized, named, List.length_nil]
  have blockSized := length_block check seeded sized
  have read := reads_content (by omega) (reads_publicKey sized) (by omega)
    (block_eq_ok check seeded sized made)
  rw [decode, same, encode_ed25519 check seeded sized, read.whole]
  rfl

end OpenSsh

end NetconfGate.HostKey

import NetconfGate.Proofs.Crypto.Argon2
import NetconfGate.Proofs.Encoding.Base64
import NetconfGate.Proofs.Password.Usable
import NetconfGate.Proofs.Text.Lines

/-!
# Reading back what was stored

The stored form of a password is read back field by field: the dollar signs in
it stand between fields only, and the salt and the output are spelled in digits
that stand for them. So a password is verified with the salt and the costs that
it was hashed with, and exactly the passwords that Argon2id does not tell from it
are accepted.
-/

namespace NetconfGate.Password

open Crypto

namespace Phc

theorem size_cons (c : Char) (rest : List Char) : size (c :: rest) = c.utf8Size + size rest := by
  rw [size, ← List.singleton_append, String.ofList_append, String.utf8ByteSize_append,
    ← String.singleton_eq_ofList, String.utf8ByteSize_singleton, ← size]

theorem size_of_ascii {text : List Char} (ascii : ∀ c ∈ text, c.utf8Size = 1) :
    size text = text.length := by
  induction text with
  | nil => rfl
  | cons c rest ih =>
      obtain ⟨one, others⟩ := List.forall_mem_cons.mp ascii
      rw [size_cons, one, ih others, List.length_cons, Nat.add_comm]

theorem size_encodeChars (bytes : Bytes) :
    size (Base64.encodeChars bytes) = (4 * bytes.length + 2) / 3 := by
  have ascii := Base64.forall_mem_encodeChars (p := fun c => c.utf8Size = 1) (by decide) bytes
  rw [size_of_ascii ascii, Base64.length_encodeChars]

theorem characters_encodeChars (bytes : Bytes) :
    characters (Base64.encodeChars bytes) = .ok () := by
  have valid := Base64.forall_mem_encodeChars (p := fun c => isValueChar c = true) (by decide) bytes
  have none_other : (Base64.encodeChars bytes).find? (fun c => !isValueChar c) = none := by
    simpa using valid
  rw [characters, none_other]

theorem not_mem_encodeChars {c : Char} (foreign : ∀ value < 64, Base64.digit value ≠ c)
    (bytes : Bytes) : c ∉ Base64.encodeChars bytes :=
  fun member => Base64.forall_mem_encodeChars (p := (· ≠ c)) foreign bytes c member rfl

theorem bounded_encodeChars {most : Nat} {bytes : Bytes} (short : bytes.length ≤ most) :
    bounded most (Base64.encodeChars bytes) = .ok bytes := by
  have fits : Base64.decodedLength (size (Base64.encodeChars bytes)) ≤ most := by
    rw [size_encodeChars, Base64.decodedLength]
    omega
  rw [bounded, if_neg (Nat.not_lt_of_le fits), Base64.decode?_encodeChars]

theorem readSalt_encodeChars {salt : Bytes} (long : 3 ≤ salt.length) (short : salt.length ≤ 48) :
    readSalt (Base64.encodeChars salt) = .ok (Base64.encode salt) := by
  have size := size_encodeChars salt
  rw [readSalt, if_neg (by omega), if_neg (by omega), characters_encodeChars]
  rfl

theorem readOutput_encodeChars {output : Bytes} (long : 10 ≤ output.length)
    (short : output.length ≤ 64) : readOutput (Base64.encodeChars output) = .ok output := by
  rw [readOutput, bounded_encodeChars short]
  exact if_neg (Nat.not_lt_of_le long)

end Phc

/-- The stored form of an output of Argon2id with the costs that passwords are
stored with. -/
def Phc.argon2id (salt output : Bytes) : Phc :=
  ⟨"argon2id", some 19, [("m", "19456"), ("t", "2"), ("p", "1")], some (Base64.encode salt),
    some output⟩

theorem toList_text_argon2id (salt output : Bytes) :
    (Phc.argon2id salt output).text.toList =
      [] ++ '$' :: ("argon2id".toList ++ '$' :: ("v=19".toList ++ '$' ::
        ("m=19456,t=2,p=1".toList ++ '$' :: (Base64.encodeChars salt ++ '$' ::
          Base64.encodeChars output)))) := by
  have number : toString 19 = "19" := by cbv
  simp only [Phc.text, Phc.argon2id, number, String.toList_join, Base64.encode]
  simp

/-- All that a hash function reads of a stored form is in its text. -/
theorem parse_text_argon2id {salt : Bytes} (output : Bytes)
    (salted : 3 ≤ salt.length ∧ salt.length ≤ 48)
    (made : 10 ≤ output.length ∧ output.length ≤ 64) :
    Phc.parse (Phc.argon2id salt output).text = .ok (.argon2id salt output) := by
  have free (bytes : Bytes) : '$' ∉ Base64.encodeChars bytes :=
    Phc.not_mem_encodeChars (by decide) bytes
  have named : Phc.readName "argon2id".toList = .ok "argon2id" := by cbv
  have numbered (rest : List (List Char)) :
      Phc.takeVersion ("v=19".toList :: rest) = .ok (some 19, rest) := by cbv
  have costly (rest : List (List Char)) :
      Phc.takeParameters ("m=19456,t=2,p=1".toList :: rest) =
        .ok ([("m", "19456"), ("t", "2"), ("p", "1")], rest) := by cbv
  unfold Phc.parse
  rw [toList_text_argon2id, Text.pieces_append_of_not_mem List.not_mem_nil,
    Text.pieces_append_of_not_mem (by decide), Text.pieces_append_of_not_mem (by decide),
    Text.pieces_append_of_not_mem (by decide), Text.pieces_append_of_not_mem (free _),
    Text.pieces_of_not_mem (free _)]
  simp only [named, numbered, costly, bind, Except.bind,
    Phc.readSalt_encodeChars salted.1 salted.2, Phc.readOutput_encodeChars made.1 made.2]
  rfl

/-- A password is stored as the output of Argon2id, and can be hashed again by what
is stored. -/
theorem ofPhc_argon2id {salt : Bytes} (salted : 8 ≤ salt.length ∧ salt.length ≤ 64)
    (output : Bytes) :
    Recipe.ofPhc (.argon2id salt output) (Base64.encode salt) =
      .ok ⟨⟨19456, 2, 1, []⟩, .hybrid, .v19, salt⟩ := by
  refine Recipe.ofPhc_eq_ok_iff.mpr ⟨?_, rfl, rfl, ?_, salted.1⟩
  · change Costs.ofParameters [("m", "19456"), ("t", "2"), ("p", "1")] = _
    cbv
  · rw [Base64.encode, String.toList_ofList]
    exact Phc.bounded_encodeChars salted.2

/-- What Argon2id gives for a password with these costs: 32 bytes, and nothing for
a password that is too long for it. -/
def argon2id? (memory passes lanes : Nat) (salt password : Bytes) : Option Bytes :=
  (⟨⟨memory, passes, lanes, []⟩, .hybrid, .v19, salt⟩ : Recipe).output? 32 password

theorem length_of_argon2id? {memory passes lanes : Nat} {salt password output : Bytes}
    (given : argon2id? memory passes lanes salt password = some output) : output.length = 32 := by
  unfold argon2id? Recipe.output? at given
  split at given
  · rw [← Option.some.inj given]
    exact Argon2.Job.length_output _
  · cases given

theorem length_ofText (text : String) : (Bytes.ofText text).length = text.utf8ByteSize := rfl

theorem store_eq_argon2id (salt : Bytes) {password : String}
    (short : password.utf8ByteSize < 4294967296) :
    ∃ output, argon2id? 19456 2 1 salt (.ofText password) = some output ∧
      store salt password = .argon2id salt output := by
  have fits : (Bytes.ofText password).length ≤ longestPassword := by
    rw [length_ofText]
    exact Nat.le_of_lt_succ short
  refine ⟨_, if_pos fits, ?_⟩
  have memory : toString 19456 = "19456" := by cbv
  have passes : toString 2 = "2" := by cbv
  have lanes : toString 1 = "1" := by cbv
  simp only [store, Costs.default, memory, passes, lanes]
  rfl

/-- A password is accepted if it has the output that is stored. -/
theorem verify_text_argon2id {salt output : Bytes} (salted : 8 ≤ salt.length ∧ salt.length ≤ 48)
    (made : output.length = 32) (password : String) :
    verify password (Phc.argon2id salt output).text =
      .ok (decide (argon2id? 19456 2 1 salt (.ofText password) = some output)) := by
  have read := parse_text_argon2id output ⟨by omega, salted.2⟩ ⟨by omega, by omega⟩
  rw [verify_of_read read, agrees_eq_map (h := .argon2id salt output) rfl rfl,
    ofPhc_argon2id ⟨salted.1, by omega⟩, made]
  rfl

/--
A password of fewer than 2^32 bytes, hashed with a salt of 16 bytes.  The stored
form is read back as it was made, with its algorithm, its version, its costs, its
salt and its output, and any table takes it.  Verifying the password, and a login
with it, succeed.  For any other password verifying comes to an answer, and the
answer is yes exactly if Argon2id with this salt and these costs gives for it what
it gives for the first.
-/
theorem verify_hash {salt : Bytes} (salted : salt.length = 16) {password : String}
    (short : password.utf8ByteSize < 4294967296) :
    (∃ h, Phc.parse (hash salt password) = .ok h ∧ h.algorithm = "argon2id" ∧
      h.version = some 19 ∧ h.parameters = [("m", "19456"), ("t", "2"), ("p", "1")] ∧
      h.salt = some (Base64.encode salt) ∧
      h.output.isSome ∧ h.output = argon2id? 19456 2 1 salt (.ofText password)) ∧
    (∀ (t : Table) (user : String), ∃ next, t.add user (hash salt password) = .ok next ∧
      next.login user password = true) ∧
    verify password (hash salt password) = .ok true ∧
    ∀ other, ∃ valid, verify other (hash salt password) = .ok valid ∧
      (valid = true ↔ argon2id? 19456 2 1 salt (.ofText other) =
        argon2id? 19456 2 1 salt (.ofText password)) := by
  obtain ⟨output, given, stored⟩ := store_eq_argon2id salt short
  have made := length_of_argon2id? given
  have read : Phc.parse (hash salt password) = .ok (.argon2id salt output) := by
    rw [hash, stored]
    exact parse_text_argon2id output ⟨by omega, by omega⟩ ⟨by omega, by omega⟩
  have answer (other : String) : verify other (hash salt password) =
      .ok (decide (argon2id? 19456 2 1 salt (.ofText other) = some output)) := by
    rw [hash, stored]
    exact verify_text_argon2id ⟨by omega, by omega⟩ made other
  have accepted : verify password (hash salt password) = .ok true := by
    rw [answer, given, decide_eq_true rfl]
  refine ⟨⟨_, read, rfl, rfl, rfl, rfl, rfl, given.symm⟩, fun t user => ?_, accepted,
    fun other => ⟨_, answer other, ?_⟩⟩
  · obtain ⟨next, added⟩ : ∃ next, t.add user (hash salt password) = .ok next := by
      rw [Table.add, read]
      exact ⟨_, rfl⟩
    refine ⟨next, added, ?_⟩
    rw [(Table.read_of_added added).2, accepted]
    rfl
  · rw [given, decide_eq_true_iff]

/-- The empty password, with a salt of sixteen zeros. -/
theorem verify_hash_empty :
    let salt : Bytes := List.replicate 16 0
    salt.length = 16 ∧ "".utf8ByteSize < 4294967296 ∧ verify "" (hash salt "") = .ok true ∧
      ∃ t, Table.empty.add "admin" (hash salt "") = .ok t ∧ t.login "admin" "" = true := by
  intro salt
  have salted : salt.length = 16 := by decide
  have short : "".utf8ByteSize < 4294967296 := by decide
  obtain ⟨_, adds, accepted, _⟩ := verify_hash salted short
  exact ⟨salted, short, accepted, adds .empty "admin"⟩

end NetconfGate.Password

import Mathlib
import NetconfGate.Password.Table
import NetconfGate.Proofs.Except

/-!
# Which stored hashes are of use

What gets into a table is in the form of a stored hash. That is not enough for a
login: a hash function has to take its parameters, its algorithm, its version and
its salt, and none of them is looked at before a password is verified. Whether
they are taken does not depend on the password, so a hash that is of no use for
one login is of none for any.
-/

namespace NetconfGate.Password

open Crypto

namespace Costs

/-- The costs that a hash function takes. The blocks of all lanes are counted
modulo 2^32. -/
structure InRange (c : Costs) : Prop where
  memory : 8 ≤ c.memory
  blocks : c.lanes * 8 % 4294967296 ≤ c.memory
  passes : 1 ≤ c.passes
  lanes : 1 ≤ c.lanes ∧ c.lanes ≤ 16777215

theorem check_eq_ok_iff (c d : Costs) : c.check = .ok d ↔ c = d ∧ c.InRange := by
  unfold check
  constructor
  · intro checked
    split at checked
    · cases checked
    split at checked
    · cases checked
    split at checked
    · cases checked
    split at checked
    · cases checked
    split at checked
    · cases checked
    next memory blocks passes lanes most =>
      cases checked
      exact ⟨rfl, by omega, by omega, by omega, by omega, by omega⟩
  · rintro ⟨rfl, memory, blocks, passes, lanes, most⟩
    rw [if_neg (by omega), if_neg (by omega), if_neg (by omega), if_neg (by omega),
      if_neg (by omega)]

/-- A parameter that has a meaning, and a value for it. -/
inductive Readable : String × String → Prop where
  | memory {value : String} {n : Nat} (read : Phc.decimal value = .ok n) : Readable ("m", value)
  | passes {value : String} {n : Nat} (read : Phc.decimal value = .ok n) : Readable ("t", value)
  | lanes {value : String} {n : Nat} (read : Phc.decimal value = .ok n) : Readable ("p", value)
  | keyId {value : String} {bytes : Bytes} (read : Phc.bounded 8 value.toList = .ok bytes) :
      Readable ("keyid", value)
  | data {value : String} {bytes : Bytes} (read : Phc.bounded 32 value.toList = .ok bytes) :
      Readable ("data", value)

theorem set_isOk_iff (c : Costs) (parameter : String × String) :
    (∃ d, c.set parameter = .ok d) ↔ Readable parameter := by
  constructor
  · rintro ⟨d, settled⟩
    obtain ⟨name, value⟩ := parameter
    unfold set at settled
    split at settled
    · next known =>
        obtain rfl : name = "m" := known
        obtain ⟨_, read, _⟩ := map_eq_ok_iff.mp settled
        exact .memory read
    · next known =>
        obtain rfl : name = "t" := known
        obtain ⟨_, read, _⟩ := map_eq_ok_iff.mp settled
        exact .passes read
    · next known =>
        obtain rfl : name = "p" := known
        obtain ⟨_, read, _⟩ := map_eq_ok_iff.mp settled
        exact .lanes read
    · next known =>
        obtain rfl : name = "keyid" := known
        obtain ⟨_, read, _⟩ := map_eq_ok_iff.mp settled
        exact .keyId read
    · next known =>
        obtain rfl : name = "data" := known
        obtain ⟨_, read, _⟩ := map_eq_ok_iff.mp settled
        exact .data read
    · cases settled
  · intro readable
    cases readable with
    | memory read | passes read | lanes read | keyId read | data read =>
        exact ⟨_, map_eq_ok_iff.mpr ⟨_, read, rfl⟩⟩

theorem foldlM_set_isOk_iff (c : Costs) (parameters : List (String × String)) :
    (∃ d, parameters.foldlM set c = .ok d) ↔ ∀ parameter ∈ parameters, Readable parameter := by
  induction parameters generalizing c with
  | nil => exact iff_of_true ⟨c, rfl⟩ nofun
  | cons parameter rest ih =>
      rw [List.forall_mem_cons, ← set_isOk_iff c, List.foldlM_cons]
      cases settled : c.set parameter with
      | error fault => exact iff_of_false nofun fun both => by simp at both
      | ok next => exact (ih next).trans (by simp)

theorem ofParameters_isOk_iff (parameters : List (String × String)) :
    (∃ c, ofParameters parameters = .ok c) ↔
      (∀ parameter ∈ parameters, Readable parameter) ∧
        ∀ costs, parameters.foldlM set .default = .ok costs → costs.InRange := by
  rw [← foldlM_set_isOk_iff .default, ofParameters]
  cases read : parameters.foldlM set .default with
  | error fault => exact iff_of_false nofun fun both => by simp at both
  | ok costs =>
      change (∃ c, costs.check = .ok c) ↔ _
      simp [check_eq_ok_iff]

end Costs

/-! ## All parts of a hash -/

theorem variant_isOk_iff (name : String) :
    (∃ v, variant name = .ok v) ↔ name ∈ ["argon2d", "argon2i", "argon2id"] := by
  unfold variant
  split <;> simp_all

theorem version_isOk_iff (v : Option Nat) :
    (∃ number, version v = .ok number) ↔ v ∈ [none, some 16, some 19] := by
  unfold version
  split <;> simp_all

/-- A hash function takes all that stands in front of the output. -/
structure Phc.Fit (h : Phc) (salt : String) : Prop where
  parameters : ∀ parameter ∈ h.parameters, Costs.Readable parameter
  costs : ∀ costs, h.parameters.foldlM Costs.set .default = .ok costs → costs.InRange
  algorithm : h.algorithm ∈ ["argon2d", "argon2i", "argon2id"]
  version : h.version ∈ [none, some 16, some 19]
  salt : ∃ bytes, Phc.bounded 64 salt.toList = .ok bytes ∧ 8 ≤ bytes.length

/-- What a password is hashed with. -/
structure Recipe where
  costs : Costs
  variant : Argon2.Variant
  version : Argon2.Version
  salt : Bytes

namespace Recipe

def job (r : Recipe) (outputLength : Nat) (password : Bytes) : Argon2.Job :=
  ⟨r.variant, r.version, r.costs.memory, r.costs.passes, r.costs.lanes, outputLength, r.costs.data,
    r.salt, password⟩

/-- The parts are judged one after the other. -/
def ofPhc (h : Phc) (salt : String) : Except Fault Recipe := do
  let costs ← Costs.ofParameters h.parameters
  let variant ← Password.variant h.algorithm
  let version ← Password.version h.version
  let salt ← Phc.bounded 64 salt.toList
  if salt.length < 8 then .error (.salt .tooShort) else .ok ⟨costs, variant, version, salt⟩

theorem ofPhc_eq_ok_iff {h : Phc} {salt : String} {r : Recipe} :
    ofPhc h salt = .ok r ↔
      Costs.ofParameters h.parameters = .ok r.costs ∧ Password.variant h.algorithm = .ok r.variant ∧
        Password.version h.version = .ok r.version ∧ Phc.bounded 64 salt.toList = .ok r.salt ∧
        8 ≤ r.salt.length := by
  simp only [ofPhc, bind_eq_ok_iff]
  constructor
  · rintro ⟨costs, read, variant, named, version, numbered, bytes, decoded, made⟩
    split at made
    · cases made
    · next long =>
        cases made
        exact ⟨read, named, numbered, decoded, Nat.le_of_not_lt long⟩
  · rintro ⟨read, named, numbered, decoded, long⟩
    exact ⟨_, read, _, named, _, numbered, _, decoded, if_neg (Nat.not_lt_of_le long)⟩

theorem ofPhc_isOk_iff (h : Phc) (salt : String) : (∃ r, ofPhc h salt = .ok r) ↔ h.Fit salt := by
  constructor
  · rintro ⟨r, made⟩
    obtain ⟨read, named, numbered, decoded, long⟩ := ofPhc_eq_ok_iff.mp made
    obtain ⟨parameters, costs⟩ := (Costs.ofParameters_isOk_iff _).mp ⟨_, read⟩
    exact ⟨parameters, costs, (variant_isOk_iff _).mp ⟨_, named⟩,
      (version_isOk_iff _).mp ⟨_, numbered⟩, _, decoded, long⟩
  · rintro ⟨parameters, costs, algorithm, known, bytes, decoded, long⟩
    obtain ⟨c, read⟩ := (Costs.ofParameters_isOk_iff _).mpr ⟨parameters, costs⟩
    obtain ⟨v, named⟩ := (variant_isOk_iff _).mpr algorithm
    obtain ⟨number, numbered⟩ := (version_isOk_iff _).mpr known
    exact ⟨⟨c, v, number, bytes⟩, ofPhc_eq_ok_iff.mpr ⟨read, named, numbered, decoded, long⟩⟩

end Recipe

/-- The password has no part in what a job is refused for. -/
theorem job_eq_map (h : Phc) (salt : String) (length : Nat) (password : Bytes) :
    job h salt length password = (Recipe.ofPhc h salt).map fun r => r.job length password := by
  unfold job Recipe.ofPhc
  cases Costs.ofParameters h.parameters with
  | error fault => rfl
  | ok costs =>
    cases variant h.algorithm with
    | error fault => rfl
    | ok v =>
      cases version h.version with
      | error fault => rfl
      | ok number =>
        cases Phc.bounded 64 salt.toList with
        | error fault => rfl
        | ok bytes =>
          simp only [bind, Except.bind]
          split <;> rfl

/-- What an Argon2 function gives for a password. Longer ones are not hashed. -/
def Recipe.output? (r : Recipe) (length : Nat) (password : Bytes) : Option Bytes :=
  if password.length ≤ longestPassword then some (r.job length password).output else none

theorem agrees_eq_map {h : Phc} {salt : String} {output : Bytes} (salted : h.salt = some salt)
    (made : h.output = some output) (password : Bytes) :
    agrees h password = (Recipe.ofPhc h salt).map fun r =>
      decide (r.output? output.length password = some output) := by
  unfold agrees
  rw [salted, made]
  change (job h salt output.length password >>= fun j => _) = _
  rw [job_eq_map]
  cases Recipe.ofPhc h salt with
  | error fault => rfl
  | ok r =>
      change Except.ok _ = Except.ok _
      by_cases short : password.length ≤ longestPassword
      · simp [Recipe.output?, short]
      · simp [Recipe.output?, short]

/-- A hash of which the salt or the output is missing refuses every password,
whatever its other parts are. -/
def Phc.Usable (h : Phc) : Prop :=
  ∀ salt output, h.salt = some salt → h.output = some output → h.Fit salt

theorem agrees_of_incomplete {h : Phc} (missing : h.salt = none ∨ h.output = none)
    (password : Bytes) : agrees h password = .ok false := by
  unfold agrees
  split
  · next salted made => simp [salted, made] at missing
  · rfl

/-- Either a hash is of use for every password or it is of use for none. -/
theorem agrees_cases (h : Phc) :
    (h.Usable ∧ ∀ password, ∃ valid, agrees h password = .ok valid) ∨
      ¬ h.Usable ∧ ∃ fault, ∀ password, agrees h password = .error fault := by
  cases salted : h.salt with
  | none =>
      exact .inl ⟨by simp [Phc.Usable, salted],
        fun password => ⟨false, agrees_of_incomplete (.inl salted) password⟩⟩
  | some salt =>
      cases made : h.output with
      | none =>
          exact .inl ⟨by simp [Phc.Usable, made],
            fun password => ⟨false, agrees_of_incomplete (.inr made) password⟩⟩
      | some output =>
          have usable_iff : h.Usable ↔ ∃ r, Recipe.ofPhc h salt = .ok r := by
            simp [Phc.Usable, salted, made, Recipe.ofPhc_isOk_iff]
          simp only [usable_iff, agrees_eq_map salted made]
          cases Recipe.ofPhc h salt with
          | ok r => exact .inl ⟨⟨r, rfl⟩, fun password => ⟨_, rfl⟩⟩
          | error fault => exact .inr ⟨nofun, fault, fun password => rfl⟩

theorem verify_of_read {hash : String} {h : Phc} (read : Phc.parse hash = .ok h)
    (password : String) :
    verify password hash =
      (agrees h (.ofText password)).mapError fun fault => .verification fault.message := by
  unfold verify
  rw [read]

namespace Table

/-- Only what can be read gets in, and it is what the user logs in by. -/
theorem read_of_added {t next : Table} {user hash : String} (added : t.add user hash = .ok next) :
    (∃ h, Phc.parse hash = .ok h) ∧
      ∀ password, next.login user password = (verify password hash).toOption.getD false := by
  refine ⟨?_, fun password => ?_⟩
  · unfold add at added
    split at added
    · cases added
    · next h read => exact ⟨h, read⟩
  · rw [login, get?_add added]

/--
A hash that was added for a user.  Every login of the user is answered by
verifying the password if and only if a part of the hash is missing or a hash
function takes all of them: its parameters can be read and their costs are in
range, its algorithm and its version are known, and its salt is one of eight
bytes at least.  Otherwise no password can be verified, all for the same fault,
and every login of the user is refused.
-/
theorem login_of_added {t next : Table} {user hash : String} (added : t.add user hash = .ok next) :
    ∃ h, Phc.parse hash = .ok h ∧
      ((∀ password, verify password hash = .ok (next.login user password)) ↔ h.Usable) ∧
      (¬ h.Usable → ∃ fault : Fault, ∀ password,
        verify password hash = .error (.verification fault.message) ∧
          next.login user password = false) := by
  obtain ⟨⟨h, read⟩, answers⟩ := read_of_added added
  have verified (password : String) := verify_of_read read password
  refine ⟨h, read, ?_⟩
  rcases agrees_cases h with ⟨usable, agreed⟩ | ⟨unusable, fault, failed⟩
  · refine ⟨iff_of_true (fun password => ?_) usable, fun unusable => absurd usable unusable⟩
    obtain ⟨valid, agreed⟩ := agreed (.ofText password)
    rw [answers, verified, agreed]
    rfl
  · have refused (password : String) :
        verify password hash = .error (.verification fault.message) ∧
          next.login user password = false := by
      rw [answers, verified, failed]
      exact ⟨rfl, rfl⟩
    refine ⟨iff_of_false (fun answered => ?_) unusable, fun _ => ⟨fault, refused⟩⟩
    have both := (refused "").1.symm.trans (answered "")
    cases both

/-- Sixteen blocks, two passes and one lane are costs that a hash function takes. -/
theorem login_of_added_argon2id :
    let hash := "$argon2id$v=19$m=16,t=2,p=1$c29tZXNhbHQ$c29tZW91dHB1dA"
    let t : Table := ⟨[("admin", hash)]⟩
    empty.add "admin" hash = .ok t ∧
      ∀ password, verify password hash = .ok (t.login "admin" password) := by
  intro hash t
  have parsed : Phc.parse hash = .ok ⟨"argon2id", some 19, [("m", "16"), ("t", "2"), ("p", "1")],
      some "c29tZXNhbHQ", some (.ofText "someoutput")⟩ := by cbv
  have added : empty.add "admin" hash = .ok t := by
    unfold add
    rw [parsed]
    rfl
  obtain ⟨h, read, usable, _⟩ := login_of_added added
  rw [parsed] at read
  cases read
  refine ⟨added, usable.mpr ?_⟩
  intro salt output salted _
  cases salted
  have judged : Recipe.ofPhc ⟨"argon2id", some 19, [("m", "16"), ("t", "2"), ("p", "1")],
      some "c29tZXNhbHQ", some (.ofText "someoutput")⟩ "c29tZXNhbHQ" =
        .ok ⟨⟨16, 2, 1, []⟩, .hybrid, .v19, .ofText "somesalt"⟩ := by cbv
  exact (Recipe.ofPhc_isOk_iff _ _).mp ⟨_, judged⟩

/-- A hash that another function made is in the form of a stored hash, and gets in. -/
theorem login_of_added_scrypt :
    let hash := "$scrypt$c29tZXNhbHQ$c29tZW91dHB1dA"
    ∃ next, empty.add "admin" hash = .ok next ∧
      ∀ password, verify password hash = .error (.verification "unsupported algorithm") ∧
        next.login "admin" password = false := by
  intro hash
  let h : Phc := ⟨"scrypt", none, [], some "c29tZXNhbHQ", some (.ofText "someoutput")⟩
  have read : Phc.parse hash = .ok h := by cbv
  have judged : Recipe.ofPhc h "c29tZXNhbHQ" = .error .algorithm := by cbv
  have added : empty.add "admin" hash = .ok ⟨[("admin", hash)]⟩ := by
    unfold add
    rw [read]
    rfl
  refine ⟨_, added, fun password => ?_⟩
  have refused : verify password hash = .error (.verification "unsupported algorithm") := by
    rw [verify_of_read read, agrees_eq_map (h := h) rfl rfl, judged]
    rfl
  exact ⟨refused, by rw [(read_of_added added).2, refused]; rfl⟩

end Table

end NetconfGate.Password

import NetconfGate.Password.Error
import NetconfGate.Password.Phc
import NetconfGate.Crypto.Argon2

/-!
# Hashing and verifying passwords

A stored hash says by its own parameters how it was made, so verifying makes it
again and compares outputs. A hash without a salt or an output verifies nothing.
Its parts are judged in order: parameters, algorithm, version, salt.
-/

namespace NetconfGate.Password

open Crypto

/-- The costs of a hash. `data` is hashed along. -/
structure Costs where
  memory : Nat
  passes : Nat
  lanes : Nat
  data : Bytes
deriving DecidableEq

namespace Costs

def default : Costs := ⟨19456, 2, 1, []⟩

/-- A later parameter of a name replaces an earlier one. -/
def set (c : Costs) (parameter : String × String) : Except Fault Costs :=
  match parameter.1 with
  | "m" => (Phc.decimal parameter.2).map fun n => { c with memory := n }
  | "t" => (Phc.decimal parameter.2).map fun n => { c with passes := n }
  | "p" => (Phc.decimal parameter.2).map fun n => { c with lanes := n }
  | "keyid" => (Phc.bounded 8 parameter.2.toList).map fun _ => c
  | "data" => (Phc.bounded 32 parameter.2.toList).map fun bytes => { c with data := bytes }
  | _ => .error .parameterName

/-- Eight blocks of memory for each lane at least; the product is taken modulo 2^32. -/
def check (c : Costs) : Except Fault Costs :=
  if c.memory < 8 then .error (.parameterValue .tooShort)
  else if c.memory < c.lanes * 8 % 4294967296 then .error (.parameterValue .tooShort)
  else if c.passes < 1 then .error (.parameterValue .tooShort)
  else if c.lanes < 1 then .error (.parameterValue .tooShort)
  else if c.lanes > 16777215 then .error (.parameterValue .tooLong)
  else .ok c

def ofParameters (parameters : List (String × String)) : Except Fault Costs := do
  let costs ← parameters.foldlM set default
  costs.check

end Costs

def variant (name : String) : Except Fault Argon2.Variant :=
  match name with
  | "argon2d" => .ok .byData
  | "argon2i" => .ok .byPosition
  | "argon2id" => .ok .hybrid
  | _ => .error .algorithm

/-- Version 19 when none is given. -/
def version : Option Nat → Except Fault Argon2.Version
  | none => .ok .v19
  | some 19 => .ok .v19
  | some 16 => .ok .v16
  | some _ => .error .version

/-- What has to be hashed to check `password` against a stored hash. -/
def job (h : Phc) (salt : String) (outputLength : Nat) (password : Bytes) :
    Except Fault Argon2.Job := do
  let costs ← Costs.ofParameters h.parameters
  let variant ← variant h.algorithm
  let version ← version h.version
  let salt ← Phc.bounded 64 salt.toList
  if salt.length < 8 then .error (.salt .tooShort)
  pure ⟨variant, version, costs.memory, costs.passes, costs.lanes, outputLength, costs.data, salt,
    password⟩

/-- The longest password that is hashed, in bytes. -/
def longestPassword : Nat := 4294967295

def agrees (h : Phc) (password : Bytes) : Except Fault Bool :=
  match h.salt, h.output with
  | some salt, some output => do
      let job ← job h salt output.length password
      pure (decide (password.length ≤ longestPassword) && job.output = output)
  | _, _ => .ok false

/-- `false` says that the password is wrong, an error that the stored hash is unusable. -/
def verify (password hash : String) : Except Error Bool :=
  match Phc.parse hash with
  | .error fault => .error (.format fault.message)
  | .ok h => (agrees h (.ofText password)).mapError fun fault => .verification fault.message

/-- The stored form of a password, with default costs and the given salt. -/
def store (salt : Bytes) (password : String) : Phc :=
  let costs := Costs.default
  let job : Argon2.Job := ⟨.hybrid, .v19, costs.memory, costs.passes, costs.lanes, 32, [], salt,
    .ofText password⟩
  ⟨Argon2.Variant.hybrid.name, some Argon2.Version.v19.number,
    [("m", toString costs.memory), ("t", toString costs.passes), ("p", toString costs.lanes)],
    some (Base64.encode salt), some job.output⟩

/-- Salts are 16 bytes long. -/
def hash (salt : Bytes) (password : String) : String := (store salt password).text

end NetconfGate.Password

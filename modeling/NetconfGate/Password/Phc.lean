import NetconfGate.Encoding.Base64
import NetconfGate.Text.Lines

/-!
# Stored password hashes

A stored hash is one line of fields, each behind a dollar sign: the algorithm,
then, all optional and in this order, `v=` and a version, parameters as
`name=value` with commas between them, a salt and an output, both in base 64
without padding. Reading stops at the first field that is wrong.
-/

namespace NetconfGate.Password

/-- What is wrong with a value. -/
inductive ValueFault where
  | character (c : Char)
  | form
  | malformed
  | tooLong
  | tooShort
deriving DecidableEq

def ValueFault.message : ValueFault → String
  | character c => "contains invalid character: '" ++ String.singleton c ++ "'"
  | form => "value format is invalid"
  | malformed => "value malformed"
  | tooLong => "value to long"
  | tooShort => "value to short"

/-- Why a stored hash cannot be read or used. -/
inductive Fault where
  | missingField
  | trailingData
  | parameterName
  | parameterValue (fault : ValueFault)
  | tooManyParameters
  | salt (fault : ValueFault)
  | encoding
  | encodedLength
  | outputTooShort
  | algorithm
  | version
deriving DecidableEq

def Fault.message : Fault → String
  | missingField => "password hash string missing field"
  | trailingData => "password hash string contains trailing characters"
  | parameterName => "invalid parameter name"
  | parameterValue fault => "invalid parameter value: " ++ fault.message
  | tooManyParameters => "maximum number of parameters reached"
  | salt fault => "salt invalid: " ++ fault.message
  | encoding => "invalid Base64 encoding"
  | encodedLength => "invalid Base64 length"
  | outputTooShort => "output size too short, expected at least 10 bytes"
  | algorithm => "unsupported algorithm"
  | version => "invalid algorithm version"

/-- The fields of a stored hash. Parameters and the salt keep their text. -/
structure Phc where
  algorithm : String
  version : Option Nat
  parameters : List (String × String)
  salt : Option String
  output : Option Bytes
deriving DecidableEq

namespace Phc

/-- Length in bytes. -/
def size (text : List Char) : Nat := (String.ofList text).utf8ByteSize

def isNameChar (c : Char) : Bool :=
  ('a' ≤ c && c ≤ 'z') || ('0' ≤ c && c ≤ '9') || c = '-'

def isValueChar (c : Char) : Bool :=
  ('a' ≤ c && c ≤ 'z') || ('A' ≤ c && c ≤ 'Z') || ('0' ≤ c && c ≤ '9')
    || c = '/' || c = '+' || c = '.' || c = '-'

/-- Lower-case letters, digits and hyphens, 1 to 32 of them. -/
def readName (text : List Char) : Except Fault String :=
  if text.length ≥ 1 ∧ text.length ≤ 32 ∧ text.all isNameChar then .ok (String.ofList text)
  else .error .parameterName

def characters (text : List Char) : Except ValueFault Unit :=
  match text.find? fun c => !isValueChar c with
  | some c => .error (.character c)
  | none => .ok ()

def readValue (text : List Char) : Except Fault String :=
  if size text > 64 then .error (.parameterValue .tooLong)
  else match characters text with
    | .error fault => .error (.parameterValue fault)
    | .ok _ => .ok (String.ofList text)

/-- A number below 2^32 without leading zeros. -/
def decimal (text : String) : Except Fault Nat :=
  let digits := text.toList
  match digits with
  | [] => .error (.parameterValue .malformed)
  | first :: rest =>
      match digits.find? fun c => !c.isDigit with
      | some c => .error (.parameterValue (.character c))
      | none =>
          let number := digits.foldl (fun acc c => acc * 10 + (c.toNat - 48)) 0
          if first = '0' ∧ !rest.isEmpty then .error (.parameterValue .form)
          else if number < 4294967296 then .ok number else .error (.parameterValue .form)

def readParameter (text : List Char) : Except Fault (String × String) := do
  match Text.pieces '=' text with
  | [] => .error .parameterName
  | first :: more =>
      let name ← readName first
      match more with
      | [] => .error (.parameterValue .malformed)
      | second :: others =>
          let value ← readValue second
          if others.isEmpty then pure (name, value) else .error (.parameterValue .malformed)

def readParameters (text : List Char) : Except Fault (List (String × String)) :=
  if size text > 127 then .error .tooManyParameters else (Text.pieces ',' text).mapM readParameter

def readSalt (text : List Char) : Except Fault String :=
  if size text < 4 then .error (.salt .tooShort)
  else if size text > 64 then .error (.salt .tooLong)
  else match characters text with
    | .error fault => .error (.salt fault)
    | .ok _ => .ok (String.ofList text)

/-- At most `most` bytes in base 64. -/
def bounded (most : Nat) (text : List Char) : Except Fault Bytes :=
  if Base64.decodedLength (size text) > most then .error .encodedLength
  else match Base64.decode? text with
    | some bytes => .ok bytes
    | none => .error .encoding

def readOutput (text : List Char) : Except Fault Bytes := do
  let bytes ← bounded 64 text
  if bytes.length < 10 then .error .outputTooShort else pure bytes

/-- The version, if this field holds one, and the fields that are left. -/
def takeVersion : List (List Char) → Except Fault (Option Nat × List (List Char))
  | ('v' :: '=' :: text) :: rest =>
      if text.contains ',' then .ok (none, ('v' :: '=' :: text) :: rest)
      else do
        let text ← readValue text
        let number ← decimal text
        pure (some number, rest)
  | fields => .ok (none, fields)

/-- The parameters, if this field holds an equals sign, and the fields that are left. -/
def takeParameters : List (List Char) → Except Fault (List (String × String) × List (List Char))
  | field :: rest =>
      if field.contains '=' then (readParameters field).map fun found => (found, rest)
      else .ok ([], field :: rest)
  | [] => .ok ([], [])

def parse (text : String) : Except Fault Phc := do
  match Text.pieces '$' text.toList with
  | [] :: algorithm :: fields =>
      let algorithm ← readName algorithm
      let (version, fields) ← takeVersion fields
      let (parameters, fields) ← takeParameters fields
      match fields with
      | [] => pure ⟨algorithm, version, parameters, none, none⟩
      | saltText :: fields =>
          let salt ← readSalt saltText
          match fields with
          | [] => pure ⟨algorithm, version, parameters, some salt, none⟩
          | outputText :: fields =>
              let output ← readOutput outputText
              if fields.isEmpty then pure ⟨algorithm, version, parameters, some salt, some output⟩
              else .error .trailingData
  | _ => .error .missingField

def text (h : Phc) : String :=
  let shown := h.parameters.map fun p => p.1 ++ "=" ++ p.2
  String.join (("$" ++ h.algorithm)
    :: (match h.version with | some v => ["$v=" ++ toString v] | none => [])
    ++ (if shown.isEmpty then [] else ["$" ++ String.intercalate "," shown])
    ++ (match h.salt with | some s => ["$" ++ s] | none => [])
    ++ (match h.output with | some o => ["$" ++ Base64.encode o] | none => []))

end Phc

end NetconfGate.Password

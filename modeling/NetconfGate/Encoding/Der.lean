import NetconfGate.Bytes

/-!
# DER

Reading of the distinguished encoding: a tag byte, a length in the fewest bytes,
and as many bytes of content. A fault may say at which byte it was met. Within a
member that is read on its own the place is the sum of the place in the member
and of how far the enclosing value had been read.
-/

namespace NetconfGate.Der

/-- A tag byte that is in use. -/
structure Tag where
  byte : UInt8
deriving DecidableEq

namespace Tag

def integer : Tag := ⟨0x02⟩
def bitString : Tag := ⟨0x03⟩
def octetString : Tag := ⟨0x04⟩
def null : Tag := ⟨0x05⟩
def objectIdentifier : Tag := ⟨0x06⟩
def sequence : Tag := ⟨0x30⟩

def number (t : Tag) : UInt8 := t.byte &&& 0x1f

def isConstructed (t : Tag) : Bool := t.byte &&& 0x20 != 0

def isContextSpecific (t : Tag) : Bool := t.byte &&& 0xc0 = 0x80

/-- The tags of values that every protocol knows. -/
def universal : List (UInt8 × String) := [
  (0x01, "BOOLEAN"), (0x02, "INTEGER"), (0x03, "BIT STRING"), (0x04, "OCTET STRING"),
  (0x05, "NULL"), (0x06, "OBJECT IDENTIFIER"), (0x09, "REAL"), (0x0a, "ENUMERATED"),
  (0x0c, "UTF8String"), (0x12, "NumericString"), (0x13, "PrintableString"),
  (0x14, "TeletexString"), (0x15, "VideotexString"), (0x16, "IA5String"), (0x17, "UTCTime"),
  (0x18, "GeneralizedTime"), (0x1a, "VisibleString"), (0x1e, "BMPString"),
  (0x30, "SEQUENCE"), (0x31, "SET")]

/-- Application, context and private tags carry their number and form. -/
def name (t : Tag) : String :=
  match universal.lookup t.byte with
  | some name => name
  | none =>
      let family :=
        if t.byte &&& 0xc0 = 0x40 then "APPLICATION"
        else if t.byte &&& 0xc0 = 0x80 then "CONTEXT-SPECIFIC" else "PRIVATE"
      family ++ " [" ++ toString t.number ++ "] ("
        ++ (if t.isConstructed then "constructed" else "primitive") ++ ")"

end Tag

/-- What can be wrong with an encoding. -/
inductive Fault where
  | incomplete (expected actual : Nat)
  | trailing (decoded remaining : Nat)
  | unexpected (expected : Option Tag) (actual : Tag)
  | unknownTag (byte : UInt8)
  | tagNumber
  | value (tag : Tag)
  | length (tag : Tag)
  | notCanonical (tag : Tag)
  | indefiniteLength
  | overlength
  | overflow
  | identifier
deriving DecidableEq

def hexByte (byte : UInt8) : String := "0x" ++ Bytes.hex [byte]

def Fault.message : Fault → String
  | incomplete expected actual =>
      "ASN.1 DER message is incomplete: expected " ++ toString expected ++ ", actual "
        ++ toString actual
  | trailing decoded remaining =>
      "trailing data at end of DER message: decoded " ++ toString decoded ++ " bytes, "
        ++ toString remaining ++ " bytes remaining"
  | unexpected expected actual =>
      "unexpected ASN.1 DER tag: "
        ++ (match expected with | some tag => "expected " ++ tag.name ++ ", " | none => "")
        ++ "got " ++ actual.name
  | unknownTag byte => "unknown/unsupported ASN.1 DER tag: " ++ hexByte byte
  | tagNumber => "invalid tag number"
  | value tag => "malformed ASN.1 DER value for " ++ tag.name
  | length tag => "incorrect length for " ++ tag.name
  | notCanonical tag => "ASN.1 " ++ tag.name ++ " not canonically encoded as DER"
  | indefiniteLength => "indefinite length disallowed"
  | overlength => "ASN.1 DER message is too long"
  | overflow => "integer overflow"
  | identifier => "malformed OID"

structure Error where
  fault : Fault
  place : Option Nat
deriving DecidableEq

def Error.message (e : Error) : String :=
  e.fault.message ++ (match e.place with | some n => " at DER byte " ++ toString n | none => "")

/-- What is left of the value that is being read, how far from the start of the
whole message it stands, and how much of the value was read. -/
structure Input where
  rest : Bytes
  offset : Nat
  position : Nat

abbrev Reading := EStateM Error Input

def Input.advance (input : Input) (count : Nat) : Input :=
  ⟨input.rest.drop count, input.offset + count, input.position + count⟩

def fail {α : Type} (fault : Fault) : Reading α := throw ⟨fault, none⟩

def tooShort (input : Input) (count : Nat) : Error :=
  ⟨.incomplete (input.offset + count) (input.offset + input.rest.length), some input.offset⟩

def take (count : Nat) : Reading Bytes := fun input =>
  if count ≤ input.rest.length then .ok (input.rest.take count) (input.advance count)
  else .error (tooShort input count) input

def peek : Reading (Option UInt8) := fun input => .ok input.rest.head? input

def byte : Reading UInt8 := do
  let bytes ← take 1
  pure (bytes.headD 0)

/-- Reads a value of `count` bytes to its end. -/
def within {α : Type} (count : Nat) (read : Reading α) : Reading α := fun input =>
  if count ≤ input.rest.length then
    match read ⟨input.rest.take count, input.offset, 0⟩ with
    | .ok value inner =>
        if inner.rest.isEmpty then .ok value (input.advance count)
        else .error ⟨.trailing inner.position inner.rest.length, some inner.position⟩
          (input.advance inner.position)
    | .error e inner => .error e (input.advance inner.position)
  else .error (tooShort input count) input

/-- Reads a member on its own, so that its faults are placed. -/
def member {α : Type} (read : Reading α) : Reading α := fun input =>
  match read input with
  | .ok value input => .ok value input
  | .error e input => .error ⟨e.fault, some (input.position + e.place.getD 0)⟩ input

def tagOf (byte : UInt8) : Reading Tag :=
  if byte &&& 0x1f = 0x1f then fail .tagNumber
  else if (Tag.universal.lookup byte).isSome || byte &&& 0xc0 != 0 then pure ⟨byte⟩
  else fail (.unknownTag byte)

def tag : Reading Tag := do
  let first ← byte
  tagOf first

/-- The bytes of a long length, most significant first. -/
def longLength : Nat → Nat → Reading Nat
  | 0, value => pure value
  | count + 1, value => do
      let next ← byte
      longLength count (value * 256 + next.toNat)

/-- How many bytes a long length of this size takes. -/
def lengthBytes (value : Nat) : Nat :=
  if value < 0x80 then 0 else if value < 0x100 then 1 else if value < 0x10000 then 2
  else if value < 0x1000000 then 3 else 4

def length (tag : Tag) : Reading Nat := do
  let first ← byte
  if first < 0x80 then pure first.toNat
  else if first = 0x80 then fail .indefiniteLength
  else if first ≤ 0x84 then do
    let value ← longLength (first.toNat - 0x80) 0
    if value > 0xfffffff then fail .overflow
    else if lengthBytes value = first.toNat - 0x80 then pure value else fail (.length tag)
  else fail (.length tag)

structure Header where
  tag : Tag
  length : Nat

def header : Reading Header := do
  let tag ← tag
  let length ← length tag
  pure ⟨tag, length⟩

/-- A header with this tag; answers the length. -/
def expect (wanted : Tag) : Reading Nat := do
  let header ← header
  if header.tag = wanted then pure header.length else fail (.unexpected (some wanted) header.tag)

def sequence {α : Type} (read : Reading α) : Reading α := do
  let count ← expect .sequence
  within count read

def octets : Reading Bytes := do
  let count ← expect .octetString
  take count

/-- The digits of a number that is not negative, without the zero in front. -/
def unsigned (bytes : Bytes) : Reading Bytes :=
  match bytes with
  | [] => fail (.notCanonical .integer)
  | [0] => pure [0]
  | 0 :: second :: rest =>
      if second < 0x80 then fail (.notCanonical .integer) else pure (second :: rest)
  | first :: rest => if first ≥ 0x80 then fail (.value .integer) else pure (first :: rest)

/-- A number of one byte. -/
def small : Reading Nat := do
  let count ← expect .integer
  let first ← peek
  if count > (if first = some 0 then 2 else 1) then fail (.length .integer)
  else do
    let bytes ← take count
    let digits ← unsigned bytes
    pure (Bytes.toNat digits)

/-- A number of any size that is not negative. -/
def natural : Reading Nat := do
  let count ← expect .integer
  let bytes ← take count
  let digits ← unsigned bytes
  pure (Bytes.toNat digits)

/-- Object identifiers are kept in their encoded form. -/
structure Identifier where
  bytes : Bytes
deriving DecidableEq

/-- Arcs in base 128, the top bit set on all bytes of an arc but the last. -/
def arcs : Nat → Bytes → Option (List Nat)
  | _, [] => some []
  | value, byte :: rest =>
      let value := value * 128 + byte.toNat % 128
      if byte < 0x80 then (arcs 0 rest).map (value :: ·)
      else if rest.isEmpty ∨ value ≥ Nat.pow 2 25 then none else arcs value rest

def Identifier.arcs? (id : Identifier) : Option (List Nat) :=
  match id.bytes with
  | first :: rest =>
      if first.toNat < 120 then
        (arcs 0 rest).map fun more => first.toNat / 40 :: first.toNat % 40 :: more
      else none
  | [] => none

def Identifier.text (id : Identifier) : String :=
  String.intercalate "." ((id.arcs?.getD []).map toString)

def identifierContent (count : Nat) : Reading Identifier := do
  if count > 39 then fail (.length .objectIdentifier)
  else do
    let bytes ← take count
    if bytes.length < 3 ∨ (Identifier.arcs? ⟨bytes⟩).isNone then fail .identifier
    else pure ⟨bytes⟩

def identifier : Reading Identifier := do
  let count ← expect .objectIdentifier
  identifierContent count

/-- A value of any kind. -/
structure Any where
  tag : Tag
  content : Bytes

def any : Reading Any := do
  let header ← header
  let content ← take header.length
  pure ⟨header.tag, content⟩

/-- A value of any kind, if one follows. -/
def anyOrNone : Reading (Option Any) := do
  match ← peek with
  | none => pure none
  | some first => do
      let _ ← tagOf first
      let found ← any
      pure (some found)

/-- The content of a bit string of `count` bytes in all, whose last bits are all in use. -/
def bitStringContent (count : Nat) : Reading Bytes := do
  if count = 0 then fail .overflow
  else do
    let unused ← byte
    let bytes ← take (count - 1)
    if unused > 7 ∨ (unused ≠ 0 ∧ bytes.isEmpty) then fail (.value .bitString)
    else if unused ≠ 0 then fail (.value .bitString) else pure bytes

def bitString : Reading Bytes := do
  let count ← expect .bitString
  bitStringContent count

/-- The member with context tag `number`, past any with a lower one. `fuel` bounds how many. -/
def context {α : Type} (number : UInt8) (read : Reading α) : Nat → Reading (Option α)
  | 0 => pure none
  | fuel + 1 => do
      match ← peek with
      | none => pure none
      | some first => do
          let tag ← tagOf first
          if !tag.isContextSpecific || tag.number > number then pure none
          else if tag.number = number then some <$> read
          else do
            let _ ← any
            context number read fuel

def explicit {α : Type} (read : Reading α) : Reading α := do
  let header ← header
  if header.tag.isContextSpecific && header.tag.isConstructed then within header.length read
  else fail (.unexpected none header.tag)

/-- A bit string whose tag a context tag replaces. -/
def implicitBitString : Reading Bytes := do
  let header ← header
  let bytes ← bitStringContent header.length
  if header.tag.isConstructed then fail (.notCanonical header.tag) else pure bytes

/-- Reads a message that is exactly one value. -/
def whole {α : Type} (read : Reading α) (bytes : Bytes) : Except Error α :=
  match read ⟨bytes, 0, 0⟩ with
  | .ok value rest =>
      if rest.rest.isEmpty then .ok value
      else .error ⟨.trailing rest.position rest.rest.length, some rest.position⟩
  | .error e _ => .error e

/-- One value of any tag, with its header. -/
def document : Reading Bytes := fun input =>
  match header input with
  | .ok found next => take (next.position - input.position + found.length) input
  | .error e _ => .error e input

end NetconfGate.Der

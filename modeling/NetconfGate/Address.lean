/-!
# Socket addresses

`192.0.2.1:830` or `[2001:db8::1%2]:830`. Reading takes the whole text. An
octet has up to three digits and no leading zero, a group up to four
hexadecimal digits, and the last two groups may be written as an IPv4 address.
Writing replaces the first of the longest runs of two or more zero groups.
-/

namespace NetconfGate

inductive Ip where
  | v4 (a b c d : UInt8)
  | v6 (groups : Vector UInt16 8)
deriving DecidableEq

namespace Ip

/-- All zero: every interface. -/
def isUnspecified : Ip → Bool
  | v4 a b c d => a == 0 && b == 0 && c == 0 && d == 0
  | v6 groups => groups.toList.all (· == 0)

def isLoopback : Ip → Bool
  | v4 a _ _ _ => a == 127
  | v6 groups => groups.toList == [0, 0, 0, 0, 0, 0, 0, 1]

end Ip

inductive Address where
  | v4 (a b c d : UInt8) (port : UInt16)
  | v6 (groups : Vector UInt16 8) (scope : UInt32) (port : UInt16)
deriving DecidableEq

namespace Address

def port : Address → UInt16
  | v4 _ _ _ _ port => port
  | v6 _ _ port => port

def ip : Address → Ip
  | v4 a b c d _ => .v4 a b c d
  | v6 groups _ _ => .v6 groups

def withPort : Address → UInt16 → Address
  | v4 a b c d _, port => v4 a b c d port
  | v6 groups scope _, port => v6 groups scope port

/-- `127.0.0.1` with a port. -/
def localhost (port : UInt16) : Address := .v4 127 0 0 1 port

/-- Every interface, on the port that NETCONF over SSH is given. -/
def anyInterface (port : UInt16) : Address := .v4 0 0 0 0 port

def digitValue? (base : Nat) (c : Char) : Option Nat :=
  let value :=
    if '0' ≤ c ∧ c ≤ '9' then c.toNat - 48
    else if 'a' ≤ c ∧ c ≤ 'f' then c.toNat - 87
    else if 'A' ≤ c ∧ c ≤ 'F' then c.toNat - 55
    else base
  if value < base then some value else none

/-- How numbers are written in one place of an address. -/
structure NumberForm where
  base : Nat
  /-- The most digits allowed. -/
  most : Option Nat
  zeroLed : Bool
  bound : Nat

def octetForm : NumberForm := ⟨10, some 3, false, 256⟩
def groupForm : NumberForm := ⟨16, some 4, true, 65536⟩
def portForm : NumberForm := ⟨10, none, true, 65536⟩
def scopeForm : NumberForm := ⟨10, none, true, 4294967296⟩

/-- Takes every digit there is, then decides. -/
def number? (form : NumberForm) (text : List Char) : Option (Nat × List Char) :=
  let isDigit := fun c => (digitValue? form.base c).isSome
  let digits := text.takeWhile isDigit
  let value := digits.foldl (fun acc c => acc * form.base + (digitValue? form.base c).getD 0) 0
  if digits.isEmpty then none
  else if form.most.any (· < digits.length) then none
  else if !form.zeroLed && digits.head? = some '0' && digits.length > 1 then none
  else if value < form.bound then some (value, text.dropWhile isDigit) else none

def char? (c : Char) : List Char → Option (List Char)
  | [] => none
  | d :: rest => if d = c then some rest else none

def octets? (text : List Char) : Option ((UInt8 × UInt8 × UInt8 × UInt8) × List Char) := do
  let (a, text) ← number? octetForm text
  let text ← char? '.' text
  let (b, text) ← number? octetForm text
  let text ← char? '.' text
  let (c, text) ← number? octetForm text
  let text ← char? '.' text
  let (d, text) ← number? octetForm text
  pure ((a.toUInt8, b.toUInt8, c.toUInt8, d.toUInt8), text)

/-- A separator stands before every group but the first. -/
def separated {α : Type} (first : Bool) (read : List Char → Option (α × List Char))
    (text : List Char) : Option (α × List Char) :=
  if first then read text else (char? ':' text).bind read

/-- The groups that are read, whether an IPv4 address ended them, and the rest. -/
structure GroupRun where
  groups : List UInt16
  endsDotted : Bool
  rest : List Char

/-- Up to `limit` groups; an IPv4 address needs room for two. -/
def groupRun : Nat → Bool → List Char → GroupRun
  | 0, _, text => ⟨[], false, text⟩
  | limit + 1, first, text =>
      match (if limit = 0 then none else separated first octets? text) with
      | some ((a, b, c, d), rest) =>
          ⟨[a.toUInt16 * 256 + b.toUInt16, c.toUInt16 * 256 + d.toUInt16], true, rest⟩
      | none =>
          match separated first (number? groupForm) text with
          | some (group, rest) =>
              let run := groupRun limit false rest
              ⟨group.toUInt16 :: run.groups, run.endsDotted, run.rest⟩
          | none => ⟨[], false, text⟩

def vectorOf (groups : List UInt16) : Vector UInt16 8 := Vector.ofFn fun i => groups[i.val]?.getD 0

/-- Eight groups, or fewer on both sides of `::`, which stands for one group at least. -/
def groups? (text : List Char) : Option (Vector UInt16 8 × List Char) :=
  let head := groupRun 8 true text
  if head.groups.length = 8 then some (vectorOf head.groups, head.rest)
  else if head.endsDotted then none
  else do
    let text ← char? ':' head.rest
    let text ← char? ':' text
    let tail := groupRun (7 - head.groups.length) true text
    let zeros := List.replicate (8 - head.groups.length - tail.groups.length) 0
    pure (vectorOf (head.groups ++ zeros ++ tail.groups), tail.rest)

def scope? (text : List Char) : Nat × List Char :=
  match (char? '%' text).bind (number? scopeForm) with
  | some found => found
  | none => (0, text)

def v4? (text : List Char) : Option (Address × List Char) := do
  let ((a, b, c, d), text) ← octets? text
  let text ← char? ':' text
  let (port, text) ← number? portForm text
  pure (.v4 a b c d port.toUInt16, text)

def v6? (text : List Char) : Option (Address × List Char) := do
  let text ← char? '[' text
  let (groups, text) ← groups? text
  let (scope, text) := scope? text
  let text ← char? ']' text
  let text ← char? ':' text
  let (port, text) ← number? portForm text
  pure (.v6 groups scope.toUInt32 port.toUInt16, text)

def parse? (text : String) : Option Address :=
  match (v4? text.toList).orElse fun _ => v6? text.toList with
  | some (address, []) => some address
  | _ => none

/-- What is said of a text that is no address. -/
def syntaxMessage : String := "invalid socket address syntax"

def dotted (a b c d : UInt8) : String :=
  String.intercalate "." [toString a, toString b, toString c, toString d]

def hexGroup (group : UInt16) : String := String.ofList (Nat.toDigits 16 group.toNat)

def colons (groups : List UInt16) : String := String.intercalate ":" (groups.map hexGroup)

/-- Start and length of the first longest run of zeros. -/
def longestZeros (groups : List UInt16) : Nat × Nat :=
  (List.range groups.length).foldl
    (fun best start =>
      let length := ((groups.drop start).takeWhile (· = 0)).length
      if length > best.2 then (start, length) else best) (0, 0)

def groupsText (groups : List UInt16) : String :=
  match groups with
  | [0, 0, 0, 0, 0, 0xffff, high, low] =>
      "::ffff:" ++ dotted (high / 256).toUInt8 high.toUInt8 (low / 256).toUInt8 low.toUInt8
  | _ =>
      let (start, length) := longestZeros groups
      if length > 1 then
        colons (groups.take start) ++ "::" ++ colons (groups.drop (start + length))
      else colons groups

end Address

def Ip.text : Ip → String
  | .v4 a b c d => Address.dotted a b c d
  | .v6 groups => Address.groupsText groups.toList

/-- The scope is written only when it is not zero. -/
def Address.text : Address → String
  | .v4 a b c d port => Address.dotted a b c d ++ ":" ++ toString port
  | .v6 groups scope port =>
      "[" ++ Address.groupsText groups.toList
        ++ (if scope = 0 then "" else "%" ++ toString scope) ++ "]:" ++ toString port

end NetconfGate

import NetconfGate.Yaml.Cursor
import NetconfGate.Yaml.Token.Kind
import NetconfGate.Bytes

/-!
# Anchors, tags and directives

An anchor is a name. A tag is a handle and the rest of it, a directive declares
the version or what a handle stands for. In a tag an octet may be written as a
percent sign and two hexadecimal digits; it is kept as the character of its
number.
-/

namespace NetconfGate.Yaml.Token

open Scan

def isNameEnd (c : Char) : Bool := isGap c || "?:,]\x7d%@\x60".toList.contains c

/-- An anchor or an alias, from its indicator on. -/
def scanName (activity : Activity) : Scan (List Char) := do
  let start := (← get).mark
  skip 1
  let name ← takeWhile isWord
  let ended := match (← get).next? with
    | none => true
    | some c => isNameEnd c
  if name.isEmpty || !ended then fail .noName activity start
  pure name

/-- Two hexadecimal digits after a percent sign. -/
def octet? : List Char → Option Nat
  | '%' :: a :: b :: _ =>
      match Bytes.hexValue? a, Bytes.hexValue? b with
      | some high, some low => some (high * 16 + low)
      | _, _ => none
  | _ => none

/-- How many octets the character takes that begins with this one. -/
def octetWidth (octet : Nat) : Nat :=
  if octet < 0x80 then 1
  else if 0xc0 ≤ octet ∧ octet < 0xe0 then 2
  else if 0xe0 ≤ octet ∧ octet < 0xf0 then 3
  else if 0xf0 ≤ octet ∧ octet < 0xf8 then 4
  else 0

def scanOctet (activity : Activity) (start : Mark) : Scan Nat := do
  match octet? (← get).rest with
  | some octet => pure octet
  | none => fail .noEscapedOctet activity start

/-- The octets of a character after its first. -/
def scanTrailing (activity : Activity) (start : Mark) : Nat → Scan (List Char)
  | 0 => pure []
  | count + 1 => do
      let octet ← scanOctet activity start
      if octet / 64 ≠ 2 then fail .badTrailingOctet activity start
      skip 3
      let more ← scanTrailing activity start count
      pure (Char.ofNat octet :: more)

def scanEscape (activity : Activity) (start : Mark) : Scan (List Char) := do
  let octet ← scanOctet activity start
  let width := octetWidth octet
  if width = 0 then fail .badLeadingOctet activity start
  skip 3
  let more ← scanTrailing activity start (width - 1)
  pure (Char.ofNat octet :: more)

/-- Flow indicators occur only where brackets enclose the tag or a directive holds it. -/
def isUri (verbatim : Bool) (c : Char) : Bool :=
  isWord c || ";/?:@&=+$.%!~*'()".toList.contains c || (verbatim && ",[]".toList.contains c)

def scanUriRest (verbatim : Bool) (activity : Activity) (start : Mark) : Nat → List Char → Scan (List Char)
  | 0, text => pure text
  | fuel + 1, text => do
      match (← get).next? with
      | none => pure text
      | some c =>
          if c = '%' then
            let more ← scanEscape activity start
            scanUriRest verbatim activity start fuel (text ++ more)
          else if isUri verbatim c then
            skip 1
            scanUriRest verbatim activity start fuel (text ++ [c])
          else pure text

/-- `head` is what was taken for a handle, its bang included. -/
def scanUri (verbatim : Bool) (activity : Activity) (head : List Char) (start : Mark) : Scan (List Char) := do
  let text ← scanUriRest verbatim activity start ((← get).rest.length + 1) (head.drop 1)
  if head.isEmpty && text.isEmpty then fail .noTagUri activity start
  pure text

def scanHandle (directive : Bool) (start : Mark) : Scan (List Char) := do
  if (← get).next? ≠ some '!' then
    fail .noBang (if directive then .directiveHandle else .tag) start
  skip 1
  let name ← takeWhile isWord
  if (← get).next? = some '!' then
    skip 1
    pure ('!' :: name ++ ['!'])
  else if directive && !name.isEmpty then fail .noBang .directiveHandleEnd start
  else pure ('!' :: name)

/-- A handle has a bang at each end. -/
def isHandle (text : List Char) : Bool := text.length > 1 && text.getLast? = some '!'

/-- The handle of a tag and its rest. A lone bang is the whole of a tag without a handle. -/
def scanTagParts (start : Mark) : Scan (List Char × List Char) := do
  if (← get).at? 1 = some '<' then
    skip 2
    let rest ← scanUri true .tagUri [] start
    if (← get).next? ≠ some '>' then fail .unclosedVerbatimTag .tag start
    skip 1
    pure ([], rest)
  else
    let handle ← scanHandle false start
    if isHandle handle then
      let rest ← scanUri false .tagUri [] start
      pure (handle, rest)
    else
      let rest ← scanUri false .tagUri handle start
      pure (if rest.isEmpty then ([], ['!']) else (['!'], rest))

def scanTag (inFlow : Bool) : Scan Kind := do
  let start := (← get).mark
  let (handle, rest) ← scanTagParts start
  let next := (← get).next?
  if !(endsWord next || (inFlow && next = some ',')) then fail .noBlankOrBreak .tag start
  pure (.tag handle rest)

/-- At most nine digits. -/
def scanVersionNumber (start : Mark) : Scan Nat := do
  let digits := (← get).rest.takeWhile Char.isDigit
  if digits.length > 9 then
    skip 9
    fail .longVersion .versionDirective start
  if digits.isEmpty then fail .noVersion .versionDirective start
  skip digits.length
  pure (digits.foldl (fun n c => n * 10 + (c.toNat - 48)) 0)

def scanVersion (start : Mark) : Scan Kind := do
  skipWhile isBlank
  let major ← scanVersionNumber start
  if (← get).next? ≠ some '.' then fail .noVersionDot .versionDirective start
  skip 1
  let minor ← scanVersionNumber start
  pure (.version major minor)

def scanHandleDirective (start : Mark) : Scan Kind := do
  skipWhile isBlank
  let name ← scanHandle true start
  match (← get).next? with
  | some c => if !isBlank c then fail .noBlank .tagDirective start
  | none => fail .noBlank .tagDirective start
  skipWhile isBlank
  let lead ← scanUri true .directiveUri [] start
  if !endsWord (← get).next? then fail .noBlankOrBreak .tagDirective start
  pure (.handle name lead)

/-- A directive up to the end of its line; its token ends before that. -/
def scanDirective : Scan Token := do
  let start := (← get).mark
  skip 1
  let name ← takeWhile isWord
  if name.isEmpty then fail .noDirectiveName .directive start
  if !endsWord (← get).next? then fail .oddDirectiveName .directive start
  let kind ←
    if name = "YAML".toList then scanVersion start
    else if name = "TAG".toList then scanHandleDirective start
    else fail .unknownDirective .directive start
  let stop := (← get).mark
  finishLine .directive start
  pure ⟨kind, start, stop⟩

end NetconfGate.Yaml.Token

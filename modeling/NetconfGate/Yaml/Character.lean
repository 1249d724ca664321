import NetconfGate.Yaml.Fault

/-!
# Characters of a document

Classes of characters, and the check that a text holds none that may not occur.
-/

namespace NetconfGate.Yaml

/-- Ends a line. -/
def isBreak (c : Char) : Bool :=
  c = '\n' || c = '\r' || c = '\x85' || c = '\u2028' || c = '\u2029'

def isBlank (c : Char) : Bool := c = ' ' || c = '\t'

def isGap (c : Char) : Bool := isBlank c || isBreak c

/-- Occurs in names of anchors, handles and directives. -/
def isWord (c : Char) : Bool := c.isAlphanum || c = '_' || c = '-'

/-- At the end of the text every word ends. -/
def endsWord : Option Char → Bool
  | none => true
  | some c => isGap c

/-- A line ends as a line feed, except at the separators of lines and paragraphs. -/
def breakText (c : Char) : Char := if c = '\u2028' || c = '\u2029' then c else '\n'

def byteOrderMark : Char := '\ufeff'

/-- Tab and line ends apart, control characters may not occur. -/
def isAllowed (c : Char) : Bool :=
  let n := c.toNat
  n = 9 || n = 10 || n = 13 || (0x20 ≤ n && n ≤ 0x7e) || n = 0x85 || (0xa0 ≤ n && n ≤ 0xfffd)
    || 0x10000 ≤ n

/-- Offsets count bytes. -/
def firstRefused (offset : Nat) : List Char → Option Nat
  | [] => none
  | c :: rest => if isAllowed c then firstRefused (offset + c.utf8Size) rest else some offset

/-- The characters after a byte order mark, if all of them may occur. -/
def characters (text : List Char) : Except Fault (List Char) :=
  let (skipped, body) := match text with
    | c :: rest => if c = byteOrderMark then (c.utf8Size, rest) else (0, text)
    | [] => (0, [])
  match firstRefused skipped body with
  | some offset => .error ⟨.controlCharacter, .offset offset, none⟩
  | none => .ok body

end NetconfGate.Yaml

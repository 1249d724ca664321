import NetconfGate.Yaml.Character

/-!
# A cursor over a document's text

Reading moves a cursor forward. Scalars that run over several lines join their
words over a gap: one break becomes a blank, and of several the first is
dropped.
-/

namespace NetconfGate.Yaml

/-- What has not been read, and the mark at which it starts. -/
structure Cursor where
  rest : List Char
  mark : Mark

namespace Cursor

def next? (c : Cursor) : Option Char := c.rest.head?

def at? (c : Cursor) (n : Nat) : Option Char := c.rest[n]?

def skip (c : Cursor) (count : Nat) : Cursor := ⟨c.rest.drop count, c.mark.right count⟩

/-- A carriage return and the line feed after it are one break. -/
def skipBreak (c : Cursor) : Cursor :=
  match c.rest with
  | '\r' :: '\n' :: rest => ⟨rest, c.mark.nextLine 2⟩
  | _ :: rest => ⟨rest, c.mark.nextLine 1⟩
  | [] => c

/-- A document indicator stands at the start of a line, with nothing joined to it. -/
def atIndicator (c : Cursor) (sign : Char) : Bool :=
  c.mark.column = 0 && c.rest.take 3 = [sign, sign, sign] && endsWord (c.at? 3)

def atDocumentIndicator (c : Cursor) : Bool := c.atIndicator '-' || c.atIndicator '.'

end Cursor

/-- A reading that may fail. -/
abbrev Scan := StateT Cursor (Except Fault)

namespace Scan

def fail {α : Type} (problem : Problem) (activity : Activity) (start : Mark) : Scan α := do
  throw ⟨problem, .mark (← get).mark, some (activity, start)⟩

def skip (count : Nat) : Scan Unit := modify fun c => c.skip count

def takeWhile (p : Char → Bool) : Scan (List Char) :=
  modifyGet fun c =>
    let taken := c.rest.takeWhile p
    (taken, c.skip taken.length)

def skipWhile (p : Char → Bool) : Scan Unit := discard (takeWhile p)

/-- Blanks, and a comment up to the end of its line. -/
def skipComment : Scan Unit := do
  skipWhile isBlank
  if (← get).next? = some '#' then skipWhile fun c => !isBreak c

/-- The rest of a line may hold a comment only; its break is passed. -/
def finishLine (activity : Activity) (start : Mark) : Scan Unit := do
  skipComment
  match (← get).next? with
  | none => pure ()
  | some c =>
      if isBreak c then modify Cursor.skipBreak
      else fail .lineGoesOn activity start

end Scan

/-- What stands between two words of a scalar. -/
structure Gap where
  /-- Blanks on the line of the word before. -/
  blanks : List Char
  /-- Whether a line has ended. -/
  broken : Bool
  first : List Char
  more : List Char

namespace Gap

def empty : Gap := ⟨[], false, [], []⟩

/-- What is left of a line end that is written as an escape. -/
def escaped : Gap := ⟨[], true, [], []⟩

def text (g : Gap) : List Char :=
  if g.broken then
    if g.first = ['\n'] then (if g.more.isEmpty then [' '] else g.more) else g.first ++ g.more
  else g.blanks

/-- Blanks at the start of a line are dropped. -/
def addBlank (g : Gap) (c : Char) : Gap :=
  if g.broken then g else { g with blanks := g.blanks ++ [c] }

def addBreak (g : Gap) (c : Char) : Gap :=
  if g.broken then { g with more := g.more ++ [breakText c] }
  else { g with blanks := [], broken := true, first := [breakText c] }

/-- A tab may not stand before the margin of a later line. -/
def read (margin : Int) (start : Mark) : Nat → Gap → Scan Gap
  | 0, g => pure g
  | fuel + 1, g => do
      let cursor ← get
      match cursor.next? with
      | none => pure g
      | some c =>
          if isBlank c then
            if g.broken && (cursor.mark.column : Int) < margin && c = '\t' then
              Scan.fail .tabInIndentation .plainScalar start
            set (cursor.skip 1)
            read margin start fuel (g.addBlank c)
          else if isBreak c then
            set cursor.skipBreak
            read margin start fuel (g.addBreak c)
          else pure g

end Gap

end NetconfGate.Yaml

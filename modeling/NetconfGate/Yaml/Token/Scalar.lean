import NetconfGate.Yaml.Cursor
import NetconfGate.Yaml.Token.Kind
import NetconfGate.Bytes

/-!
# Scalars

Plain scalars end at an indicator, quoted ones at their quote, and block scalars
where a line is indented less than their first one.
-/

namespace NetconfGate.Yaml.Token

open Scan

def isFlowEnd (c : Char) : Bool := ",[]\x7b\x7d".toList.contains c

/-- The characters of a word, and whether a colon that may not stand there ends it. -/
def plainWord (inFlow : Bool) : List Char → List Char × Bool
  | [] => ([], false)
  | c :: rest =>
      let next := rest.head?
      if isGap c then ([], false)
      else if inFlow && c = ':' && next.any (fun n => n = '?' || isFlowEnd n) then ([], true)
      else if (c = ':' && endsWord next) || (inFlow && isFlowEnd c) then ([], false)
      else
        let (word, odd) := plainWord inFlow rest
        (c :: word, odd)

/-- A gap counts only when a word follows it. The last gap is given back. -/
def plainWords (inFlow : Bool) (margin : Int) (start : Mark) :
    Nat → List Char → Mark → Gap → Scan (List Char × Mark × Gap)
  | 0, text, stop, gap => pure (text, stop, gap)
  | fuel + 1, text, stop, gap => do
      let cursor ← get
      if cursor.atDocumentIndicator || cursor.next? = some '#' then pure (text, stop, gap)
      else
        let (word, odd) := plainWord inFlow cursor.rest
        skip word.length
        if odd then fail .oddColon .plainScalar start
        let cursor ← get
        let (text, stop, gap) :=
          if word.isEmpty then (text, stop, gap) else (text ++ gap.text ++ word, cursor.mark, .empty)
        if cursor.next?.any isGap then
          let gap ← gap.read margin start (cursor.rest.length + 1)
          if !inFlow && ((← get).mark.column : Int) < margin then pure (text, stop, gap)
          else plainWords inFlow margin start fuel text stop gap
        else pure (text, stop, gap)

/-- The token, and whether a line ended after its last word. -/
def scanPlain (inFlow : Bool) (margin : Int) : Scan (Token × Bool) := do
  let cursor ← get
  let start := cursor.mark
  let (text, stop, gap) ← plainWords inFlow margin start (cursor.rest.length + 1) [] start .empty
  pure (⟨.scalar text .plain, start, stop⟩, gap.broken)

/-- Escapes of one character. -/
def escapes : List (Char × Char) := [
  ('0', '\x00'), ('a', '\x07'), ('b', '\x08'), ('t', '\t'), ('\t', '\t'), ('n', '\n'), ('v', '\x0b'),
  ('f', '\x0c'), ('r', '\r'), ('e', '\x1b'), (' ', ' '), ('"', '"'), ('/', '/'), ('\\', '\\'),
  ('N', '\x85'), ('_', '\xa0'), ('L', '\u2028'), ('P', '\u2029')]

/-- Escapes of a code point, with their count of hexadecimal digits. -/
def codeEscapes : List (Char × Nat) := [('x', 2), ('u', 4), ('U', 8)]

def codePoint? (digits : List Char) : Option Nat :=
  digits.foldlM (fun n c => (Bytes.hexValue? c).map (n * 16 + ·)) 0

def isCodePoint (n : Nat) : Bool := !(0xd800 ≤ n && n ≤ 0xdfff) && n ≤ 0x10ffff

/-- The character of an escape, whose backslash is next. -/
def scanCharEscape (start : Mark) : Scan Char := do
  let sign := (← get).at? 1
  match sign.bind (List.lookup · escapes) with
  | some c =>
      skip 2
      pure c
  | none =>
      match sign.bind (List.lookup · codeEscapes) with
      | none => fail .unknownEscape .quotedEscape start
      | some width =>
          skip 2
          let digits := (← get).rest.take width
          match if digits.length = width then codePoint? digits else none with
          | none => fail .noHexNumber .quotedEscape start
          | some n =>
              if !isCodePoint n then fail .badCodePoint .quotedEscape start
              skip width
              pure (Char.ofNat n)

/-- A word up to a blank, a line end or the closing quote. -/
def quotedWord (quote : Char) (start : Mark) : Nat → List Char → Scan (List Char × Gap)
  | 0, word => pure (word, .empty)
  | fuel + 1, word => do
      let cursor ← get
      match cursor.next? with
      | none => pure (word, .empty)
      | some c =>
          if isGap c then pure (word, .empty)
          else if quote = '\'' && c = '\'' && cursor.at? 1 = some '\'' then
            skip 2
            quotedWord quote start fuel (word ++ ['\''])
          else if c = quote then pure (word, .empty)
          else if quote = '"' && c = '\\' then
            if (cursor.at? 1).any isBreak then
              set (cursor.skip 1).skipBreak
              pure (word, .escaped)
            else
              let escaped ← scanCharEscape start
              quotedWord quote start fuel (word ++ [escaped])
          else
            skip 1
            quotedWord quote start fuel (word ++ [c])

def quotedWords (quote : Char) (start : Mark) : Nat → List Char → Scan (List Char)
  | 0, text => pure text
  | fuel + 1, text => do
      let cursor ← get
      if cursor.atDocumentIndicator then fail .documentIndicator .quotedScalar start
      if cursor.rest.isEmpty then fail .endOfStream .quotedScalar start
      let (word, gap) ← quotedWord quote start (cursor.rest.length + 1) []
      if (← get).next? = some quote then pure (text ++ word)
      else
        let gap ← gap.read 0 start (cursor.rest.length + 1)
        quotedWords quote start fuel (text ++ word ++ gap.text)

def scanQuoted (quote : Char) : Scan Token := do
  let cursor ← get
  let start := cursor.mark
  skip 1
  let text ← quotedWords quote start (cursor.rest.length + 1) []
  skip 1
  let style := if quote = '\'' then Style.singleQuoted else .doubleQuoted
  pure ⟨.scalar text style, start, (← get).mark⟩

/-- What becomes of the breaks at the end of a block scalar. -/
inductive Chomping where
  | strip
  | clip
  | keep
deriving DecidableEq

def chompingSign? : Option Char → Option Chomping
  | some '+' => some .keep
  | some '-' => some .strip
  | _ => none

def scanIncrement (start : Mark) : Scan (Option Nat) := do
  match (← get).next? with
  | none => pure none
  | some c =>
      if !c.isDigit then pure none
      else
        if c = '0' then fail .zeroIndentation .blockScalar start
        skip 1
        pure (some (c.toNat - 48))

/-- The two signs of a header may come in either order. -/
def scanHeader (start : Mark) : Scan (Chomping × Option Nat) := do
  match chompingSign? (← get).next? with
  | some chomping =>
      skip 1
      let increment ← scanIncrement start
      pure (chomping, increment)
  | none =>
      let increment ← scanIncrement start
      match increment, chompingSign? (← get).next? with
      | some _, some chomping =>
          skip 1
          pure (chomping, increment)
      | _, _ => pure (.clip, increment)

/-- The empty lines of a block scalar. -/
structure Margin where
  breaks : List Char
  /-- The widest indentation met. -/
  widest : Nat
  /-- After the last break. -/
  stop : Mark

/-- `indent` is zero while the indentation is not known. -/
def scanMargin (indent : Nat) (start : Mark) : Nat → Margin → Scan Margin
  | 0, m => pure m
  | fuel + 1, m => do
      let column := (← get).mark.column
      let spaces := (← get).rest.takeWhile (· = ' ')
      skip (if indent = 0 then spaces.length else min spaces.length (indent - column))
      let cursor ← get
      let column := cursor.mark.column
      let m := { m with widest := max m.widest column }
      if (indent = 0 || column < indent) && cursor.next? = some '\t' then
        fail .tabForIndentation .blockScalar start
      match cursor.next? with
      | none => pure m
      | some c =>
          if isBreak c then
            let after := cursor.skipBreak
            set after
            scanMargin indent start fuel { m with breaks := m.breaks ++ [breakText c], stop := after.mark }
          else pure m

/-- Reads empty lines, and settles an indentation that is not known by the widest of them. -/
def scanBreaks (outer : Int) (indent : Nat) (start : Mark) : Scan (Nat × Margin) := do
  let cursor ← get
  let m ← scanMargin indent start (cursor.rest.length + 1) ⟨[], 0, cursor.mark⟩
  pure (if indent = 0 then max (max m.widest (outer + 1).toNat) 1 else indent, m)

/-- Text so far, the break that ends its last line, the breaks after that, and
whether that line begins with a blank. -/
structure BlockText where
  text : List Char
  lastBreak : List Char
  breaks : List Char
  blank : Bool
  stop : Mark

/-- A folded break between two lines that begin with no blank becomes a blank,
or nothing if empty lines follow it. -/
def BlockText.joint (b : BlockText) (folded nextBlank : Bool) : List Char :=
  if folded && b.lastBreak = ['\n'] && !b.blank && !nextBlank then
    (if b.breaks.isEmpty then [' '] else []) ++ b.breaks
  else b.lastBreak ++ b.breaks

def scanBlockLines (folded : Bool) (outer : Int) (indent : Nat) (start : Mark) :
    Nat → BlockText → Scan BlockText
  | 0, b => pure b
  | fuel + 1, b => do
      let cursor ← get
      match cursor.next? with
      | none => pure b
      | some c =>
          if cursor.mark.column ≠ indent then pure b
          else
            let joint := b.joint folded (isBlank c)
            let line ← takeWhile fun c => !isBreak c
            let lastBreak := ((← get).next?.map breakText).toList
            modify Cursor.skipBreak
            let (_, margin) ← scanBreaks outer indent start
            scanBlockLines folded outer indent start fuel
              ⟨b.text ++ joint ++ line, lastBreak, margin.breaks, isBlank c, margin.stop⟩

def BlockText.chomped (b : BlockText) : Chomping → List Char
  | .strip => b.text
  | .clip => b.text ++ b.lastBreak
  | .keep => b.text ++ b.lastBreak ++ b.breaks

/-- `outer` is the indentation of the collection around the scalar. -/
def scanBlock (folded : Bool) (outer : Int) : Scan Token := do
  let start := (← get).mark
  skip 1
  let (chomping, increment) ← scanHeader start
  finishLine .blockScalar start
  let given := match increment with
    | some n => if 0 ≤ outer then outer.toNat + n else n
    | none => 0
  let (indent, margin) ← scanBreaks outer given start
  let b ← scanBlockLines folded outer indent start ((← get).rest.length + 1)
    ⟨[], [], margin.breaks, false, margin.stop⟩
  pure ⟨.scalar (b.chomped chomping) (if folded then .folded else .literal), start, b.stop⟩

end NetconfGate.Yaml.Token

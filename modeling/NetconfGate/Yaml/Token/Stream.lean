import NetconfGate.Yaml.Token.Tag
import NetconfGate.Yaml.Token.Scalar

/-!
# The stream of tokens

Tokens are read one at a time. A word may turn out to be a key only when a colon
follows it: while that is open, the tokens after it wait in a queue, into which
the key and the start of its mapping are then inserted. In block collections
the columns of their entries open and close them.
-/

namespace NetconfGate.Yaml

/-- A place at which a key may have begun. -/
structure PossibleKey where
  /-- Whether nothing but a key can stand there. -/
  required : Bool
  /-- How many tokens of the stream come before it. -/
  number : Nat
  mark : Mark

structure TokenStream where
  cursor : Cursor
  flow : Nat
  /-- The column of the innermost block collection; less than zero outside of all. -/
  indent : Int
  outer : List Int
  keyAllowed : Bool
  /-- One for each flow level, the innermost first. -/
  keys : List (Option PossibleKey)
  queue : List Token
  /-- How many tokens have been taken off the queue. -/
  taken : Nat
  started : Bool
  /-- The length of the whole text, which bounds every loop. -/
  size : Nat

namespace TokenStream

def ofCharacters (chars : List Char) : TokenStream :=
  ⟨⟨chars, .start⟩, 0, -1, [], false, [none], [], 0, false, chars.length⟩

abbrev Reading := StateT TokenStream (Except Fault)

def fail {α : Type} (problem : Problem) (context : Option (Activity × Mark)) : Reading α := do
  throw ⟨problem, .mark (← get).cursor.mark, context⟩

def onCursor {α : Type} (scan : Scan α) : Reading α := do
  let s ← get
  let (value, cursor) ← liftM (scan s.cursor)
  set { s with cursor }
  pure value

def here : Reading Mark := return (← get).cursor.mark

def push (token : Token) : Reading Unit := modify fun s => { s with queue := s.queue ++ [token] }

/-- Puts a token before the one with the given number. -/
def insert (number : Nat) (token : Token) : Reading Unit :=
  modify fun s => { s with queue := s.queue.insertIdx (number - s.taken) token }

def allowKey (allowed : Bool) : Reading Unit := modify fun s => { s with keyAllowed := allowed }

/-- A token of `width` characters. -/
def pushIndicator (kind : Token.Kind) (width : Nat) : Reading Unit := do
  let start ← here
  onCursor (Scan.skip width)
  push ⟨kind, start, ← here⟩

def refuseKey (key : PossibleKey) : Reading Unit :=
  if key.required then fail .keyWithoutColon (some (.simpleKey, key.mark)) else pure ()

/-- A key lies on one line and is no longer than 1024 characters. -/
def isStale (here : Mark) (key : PossibleKey) : Bool :=
  key.mark.line < here.line || key.mark.index + 1024 < here.index

def dropStaleKeys : Reading Unit := do
  let mark ← here
  let keys := (← get).keys
  match keys.filterMap (fun key => key.filter fun k => isStale mark k && k.required) with
  | key :: _ => refuseKey key
  | [] => modify fun s => { s with keys := keys.map (·.filter fun k => !isStale mark k) }

def setKey (key : Option PossibleKey) : Reading Unit :=
  modify fun s => { s with keys := key :: s.keys.tail }

/-- No key can have begun at the current level any more. -/
def dropKey : Reading Unit := do
  match (← get).keys.head?.join with
  | some key => refuseKey key
  | none => pure ()
  setKey none

/-- A key may begin here. In a block mapping it must, at the column of the entries. -/
def saveKey : Reading Unit := do
  let s ← get
  if s.keyAllowed then
    dropKey
    setKey (some ⟨s.flow = 0 && s.indent = s.cursor.mark.column, s.taken + s.queue.length, s.cursor.mark⟩)

/-- Opens a block collection if the column is further right than the innermost one. -/
def openBlock (column : Nat) (kind : Token.Kind) (mark : Mark) (number : Option Nat) : Reading Unit := do
  let s ← get
  if s.flow = 0 && s.indent < column then
    set { s with indent := column, outer := s.indent :: s.outer }
    match number with
    | some n => insert n ⟨kind, mark, mark⟩
    | none => push ⟨kind, mark, mark⟩

/-- Closes the block collections that are further right than the column. -/
def closeBlocks (column : Int) : Nat → Reading Unit
  | 0 => pure ()
  | fuel + 1 => do
      let s ← get
      if s.flow = 0 && column < s.indent then
        push ⟨.blockEnd, s.cursor.mark, s.cursor.mark⟩
        modify fun s => { s with indent := s.outer.headD (-1), outer := s.outer.tail }
        closeBlocks column fuel

def closeTo (column : Int) : Reading Unit := do
  closeBlocks column ((← get).outer.length + 1)

/-! ## Tokens -/

/-- Passes blanks, comments and line ends. A tab may not stand where a key may begin. -/
def skipToToken : Nat → Reading Unit
  | 0 => pure ()
  | fuel + 1 => do
      let c := (← get).cursor
      if c.mark.column = 0 && c.next? = some byteOrderMark then onCursor (Scan.skip 1)
      let s ← get
      let tabs := 0 < s.flow || !s.keyAllowed
      onCursor (Scan.skipWhile fun c => c = ' ' || (tabs && c = '\t'))
      if (← get).cursor.next? = some '#' then onCursor (Scan.skipWhile fun c => !isBreak c)
      if (← get).cursor.next?.any isBreak then
        modify fun s => { s with cursor := s.cursor.skipBreak, keyAllowed := s.keyAllowed || s.flow = 0 }
        skipToToken fuel

def endStream : Reading Unit := do
  modify fun s =>
    if s.cursor.mark.column = 0 then s
    else { s with cursor := ⟨s.cursor.rest, { s.cursor.mark with line := s.cursor.mark.line + 1, column := 0 }⟩ }
  closeTo (-1)
  dropKey
  allowKey false
  pushIndicator .streamEnd 0

def readDirective : Reading Unit := do
  closeTo (-1)
  dropKey
  allowKey false
  push (← onCursor Token.scanDirective)

def readDocumentIndicator (kind : Token.Kind) : Reading Unit := do
  closeTo (-1)
  dropKey
  allowKey false
  pushIndicator kind 3

def readFlowStart (kind : Token.Kind) : Reading Unit := do
  saveKey
  modify fun s => { s with keys := none :: s.keys, flow := s.flow + 1 }
  allowKey true
  pushIndicator kind 1

def readFlowEnd (kind : Token.Kind) : Reading Unit := do
  dropKey
  modify fun s => if s.flow = 0 then s else { s with keys := s.keys.tail, flow := s.flow - 1 }
  allowKey false
  pushIndicator kind 1

def readFlowEntry : Reading Unit := do
  dropKey
  allowKey true
  pushIndicator .flowEntry 1

/-- In flow collections a dash is left to whoever reads the tokens. -/
def readBlockEntry : Reading Unit := do
  let s ← get
  if s.flow = 0 then
    if !s.keyAllowed then fail .entryNotAllowed none
    openBlock s.cursor.mark.column .blockSequenceStart s.cursor.mark none
  dropKey
  allowKey true
  pushIndicator .blockEntry 1

def readKey : Reading Unit := do
  let s ← get
  if s.flow = 0 then
    if !s.keyAllowed then fail .keyNotAllowed none
    openBlock s.cursor.mark.column .blockMappingStart s.cursor.mark none
  dropKey
  allowKey (s.flow = 0)
  pushIndicator .key 1

/-- A colon makes a key of what may be one. -/
def readValue : Reading Unit := do
  let s ← get
  match s.keys.head?.join with
  | some key =>
      insert key.number ⟨.key, key.mark, key.mark⟩
      openBlock key.mark.column .blockMappingStart key.mark (some key.number)
      setKey none
      allowKey false
  | none =>
      if s.flow = 0 then
        if !s.keyAllowed then fail .valueNotAllowed none
        openBlock s.cursor.mark.column .blockMappingStart s.cursor.mark none
      allowKey (s.flow = 0)
  pushIndicator .value 1

def readName (activity : Activity) (kind : List Char → Token.Kind) : Reading Unit := do
  saveKey
  allowKey false
  let start ← here
  let name ← onCursor (Token.scanName activity)
  push ⟨kind name, start, ← here⟩

def readTag : Reading Unit := do
  saveKey
  allowKey false
  let start ← here
  let inFlow := 0 < (← get).flow
  let kind ← onCursor (Token.scanTag inFlow)
  push ⟨kind, start, ← here⟩

def readBlockScalar (folded : Bool) : Reading Unit := do
  dropKey
  allowKey true
  let outer := (← get).indent
  push (← onCursor (Token.scanBlock folded outer))

def readQuoted (quote : Char) : Reading Unit := do
  saveKey
  allowKey false
  push (← onCursor (Token.scanQuoted quote))

/-- After a line end a key may begin. -/
def readPlain : Reading Unit := do
  saveKey
  allowKey false
  let s ← get
  let (token, broken) ← onCursor (Token.scanPlain (0 < s.flow) (s.indent + 1))
  push token
  if broken then allowKey true

/-- Indicators that begin no plain scalar. -/
def isIndicator (c : Char) : Bool := "-?:,[]\x7b\x7d#&*!|>'\"%@\x60".toList.contains c

def startsPlain (inFlow : Bool) (c : Char) (next : Option Char) : Bool :=
  !(isGap c || isIndicator c)
    || (c = '-' && !next.any isBlank)
    || (!inFlow && (c = '?' || c = ':') && !endsWord next)

/-- Reads one token, and those that its place opens or closes. -/
def readToken : Reading Unit := do
  let s ← get
  if !s.started then
    set { s with started := true, keyAllowed := true }
    pushIndicator .streamStart 0
  else
    skipToToken (s.size + 1)
    dropStaleKeys
    closeTo (← here).column
    let s ← get
    let inFlow : Bool := 0 < s.flow
    match s.cursor.rest with
    | [] => endStream
    | c :: rest =>
        let ended := endsWord rest.head?
        if c = '%' && s.cursor.mark.column = 0 then readDirective
        else if s.cursor.atIndicator '-' then readDocumentIndicator .documentStart
        else if s.cursor.atIndicator '.' then readDocumentIndicator .documentEnd
        else if c = '[' then readFlowStart .flowSequenceStart
        else if c = '\x7b' then readFlowStart .flowMappingStart
        else if c = ']' then readFlowEnd .flowSequenceEnd
        else if c = '\x7d' then readFlowEnd .flowMappingEnd
        else if c = ',' then readFlowEntry
        else if c = '-' && ended then readBlockEntry
        else if c = '?' && (inFlow || ended) then readKey
        else if c = ':' && (inFlow || ended) then readValue
        else if c = '*' then readName .alias .alias
        else if c = '&' then readName .anchor .anchor
        else if c = '!' then readTag
        else if c = '|' && !inFlow then readBlockScalar false
        else if c = '>' && !inFlow then readBlockScalar true
        else if c = '\'' || c = '"' then readQuoted c
        else if startsPlain inFlow c rest.head? then readPlain
        else fail .strayCharacter (some (.nextToken, s.cursor.mark))

/-- Reads on until the first token of the queue cannot be preceded by another. -/
def fill : Nat → Reading Unit
  | 0 => pure ()
  | fuel + 1 => do
      if !(← get).queue.isEmpty then dropStaleKeys
      let s ← get
      if s.queue.isEmpty || s.keys.any (·.any fun k => k.number = s.taken) then
        readToken
        fill fuel

end TokenStream

end NetconfGate.Yaml

import NetconfGate.Yaml.Token.Stream

/-!
# Events

The structure of a stream of tokens: documents, and in them scalars, aliases
and the starts and ends of collections. Content that is left out is an empty
plain scalar. What the structure is inside of is kept on a stack of states.
-/

namespace NetconfGate.Yaml

inductive Event where
  | streamStart
  | streamEnd
  | documentStart
  | documentEnd
  | alias (name : List Char)
  | scalar (anchor tag : Option (List Char)) (text : List Char) (style : Style)
  | sequenceStart (anchor : Option (List Char))
  | sequenceEnd
  | mappingStart (anchor : Option (List Char))
  | mappingEnd
deriving DecidableEq

/-- What comes next in a document. -/
inductive Event.State where
  | streamStart
  | firstDocument
  | document
  | documentContent
  | blockNode
  | documentEnd
  | blockSequence (first : Bool)
  | indentlessSequence
  | blockMappingKey (first : Bool)
  | blockMappingValue
  | flowSequence (first : Bool)
  | pairKey
  | pairValue
  | pairEnd
  | flowMappingKey (first : Bool)
  | flowMappingValue (empty : Bool)
  | ended
deriving DecidableEq

structure EventStream where
  tokens : TokenStream
  state : Event.State
  states : List Event.State
  /-- Where the open collections began, the innermost first. -/
  marks : List Mark
  /-- What the handles of tags stand for. -/
  handles : List (List Char × List Char)

namespace EventStream

open Event (State)

def ofCharacters (chars : List Char) : EventStream := ⟨.ofCharacters chars, .streamStart, [], [], []⟩

abbrev Reading := StateT EventStream (Except Fault)

def fail {α : Type} (problem : Problem) (mark : Mark) (context : Option (Activity × Mark)) : Reading α :=
  throw ⟨problem, .mark mark, context⟩

/-- The next token, which stays where it is. -/
def peek : Reading Token := do
  let s ← get
  let (_, tokens) ← liftM (TokenStream.fill (s.tokens.size + 4) s.tokens)
  set { s with tokens }
  match tokens.queue with
  | token :: _ => pure token
  | [] => pure ⟨.streamEnd, tokens.cursor.mark, tokens.cursor.mark⟩

def skip : Reading Unit :=
  modify fun s => { s with tokens.queue := s.tokens.queue.tail, tokens.taken := s.tokens.taken + 1 }

def goTo (state : State) : Reading Unit := modify fun s => { s with state }

def pushState (state : State) : Reading Unit := modify fun s => { s with states := state :: s.states }

/-- Goes back to what the finished node is inside of. -/
def popState : Reading Unit :=
  modify fun s => { s with state := s.states.headD .ended, states := s.states.tail }

def pushMark (mark : Mark) : Reading Unit := modify fun s => { s with marks := mark :: s.marks }

def popMark : Reading Mark :=
  modifyGet fun s => (s.marks.headD .start, { s with marks := s.marks.tail })

def emptyScalar (mark : Mark) : Reading (Event × Mark) := pure (.scalar none none [] .plain, mark)

/-! ## Documents -/

def defaultHandles : List (List Char × List Char) :=
  [(['!'], ['!']), (['!', '!'], "tag:yaml.org,2002:".toList)]

/-- Handles that a document does not declare keep their usual meaning. -/
def withDefaults (handles : List (List Char × List Char)) : List (List Char × List Char) :=
  handles ++ defaultHandles.filter fun entry => (handles.lookup entry.1).isNone

/-- The directives of a document: one version at most, and each handle once. -/
def readDirectives : Nat → Bool → List (List Char × List Char) → Reading (List (List Char × List Char))
  | 0, _, handles => pure handles
  | fuel + 1, versioned, handles => do
      let token ← peek
      match token.kind with
      | .version major minor =>
          if versioned then fail .secondVersion token.start none
          if !(major = 1 && (minor = 1 || minor = 2)) then fail .incompatible token.start none
          skip
          readDirectives fuel true handles
      | .handle name lead =>
          if (handles.lookup name).isSome then fail .secondHandle token.start none
          skip
          readDirectives fuel versioned (handles ++ [(name, lead)])
      | _ => pure handles

def processDirectives : Reading Unit := do
  let handles ← readDirectives ((← get).tokens.size + 4) false []
  modify fun s => { s with handles := withDefaults handles }

def skipDocumentEnds : Nat → Reading Unit
  | 0 => pure ()
  | fuel + 1 => do
      if (← peek).kind = .documentEnd then
        skip
        skipDocumentEnds fuel

/-- Kinds of tokens that end a document or come before one. -/
def isBoundary : Token.Kind → Bool
  | .version _ _ | .handle _ _ | .documentStart | .documentEnd | .streamEnd => true
  | _ => false

/-- Only the first document may begin without an indicator. -/
def readDocumentStart (first : Bool) : Reading (Event × Mark) := do
  if !first then skipDocumentEnds ((← get).tokens.size + 4)
  let token ← peek
  if first && (!isBoundary token.kind || token.kind = .documentEnd) then
    processDirectives
    pushState .documentEnd
    goTo .blockNode
    pure (.documentStart, token.start)
  else if token.kind ≠ .streamEnd then
    processDirectives
    let indicator ← peek
    if indicator.kind ≠ .documentStart then fail .noDocumentStart indicator.start none
    pushState .documentEnd
    goTo .documentContent
    skip
    pure (.documentStart, token.start)
  else
    goTo .ended
    skip
    pure (.streamEnd, token.start)

def readDocumentEnd : Reading (Event × Mark) := do
  let token ← peek
  if token.kind = .documentEnd then skip
  modify fun s => { s with handles := [] }
  goTo .document
  pure (.documentEnd, token.start)

/-- The anchor and the tag before a node's content. -/
structure Properties where
  anchor : Option (List Char)
  tag : Option (List Char × List Char × Mark)
  start : Mark

/-- An anchor and a tag, in either order. -/
def readProperties : Reading Properties := do
  let token ← peek
  match token.kind with
  | .anchor name =>
      skip
      let next ← peek
      match next.kind with
      | .tag handle rest =>
          skip
          pure ⟨some name, some (handle, rest, next.start), token.start⟩
      | _ => pure ⟨some name, none, token.start⟩
  | .tag handle rest =>
      skip
      let next ← peek
      match next.kind with
      | .anchor name =>
          skip
          pure ⟨some name, some (handle, rest, token.start), token.start⟩
      | _ => pure ⟨none, some (handle, rest, token.start), token.start⟩
  | _ => pure ⟨none, none, token.start⟩

def resolveTag (p : Properties) : Reading (Option (List Char)) := do
  match p.tag with
  | none => pure none
  | some (handle, rest, mark) =>
      if handle.isEmpty then pure (some rest)
      else match (← get).handles.lookup handle with
        | some lead => pure (some (lead ++ rest))
        | none => fail .undefinedHandle mark (some (.node, p.start))

/-- A node. In a block mapping a sequence needs no indentation of its own. -/
def readNode (block indentless : Bool) : Reading (Event × Mark) := do
  let token ← peek
  match token.kind with
  | .alias name =>
      popState
      skip
      pure (.alias name, token.start)
  | _ =>
      let p ← readProperties
      let tag ← resolveTag p
      let token ← peek
      match token.kind with
      | .scalar text style =>
          popState
          skip
          -- A lone bang says no more than no tag at all.
          let tag := if tag = some ['!'] then none else tag
          pure (.scalar p.anchor tag text style, p.start)
      | .blockEntry =>
          if indentless then
            goTo .indentlessSequence
            pure (.sequenceStart p.anchor, p.start)
          else missing p tag token
      | .flowSequenceStart =>
          goTo (.flowSequence true)
          pure (.sequenceStart p.anchor, p.start)
      | .flowMappingStart =>
          goTo (.flowMappingKey true)
          pure (.mappingStart p.anchor, p.start)
      | .blockSequenceStart =>
          if block then
            goTo (.blockSequence true)
            pure (.sequenceStart p.anchor, p.start)
          else missing p tag token
      | .blockMappingStart =>
          if block then
            goTo (.blockMappingKey true)
            pure (.mappingStart p.anchor, p.start)
          else missing p tag token
      | _ => missing p tag token
where
  /-- Content may be left out after an anchor or a tag. -/
  missing (p : Properties) (tag : Option (List Char)) (token : Token) : Reading (Event × Mark) := do
    if p.anchor.isSome || tag.isSome then
      popState
      pure (.scalar p.anchor tag [] .plain, p.start)
    else fail .noContent token.start (some (if block then .blockNode else .flowNode, p.start))

def readDocumentContent : Reading (Event × Mark) := do
  let token ← peek
  if isBoundary token.kind then
    popState
    emptyScalar token.start
  else readNode true false

/-- Enters a collection at its first token. -/
def enter (first : Bool) : Reading Unit := do
  if first then
    pushMark (← peek).start
    skip

/-- Leaves a collection at the token that ends it. -/
def leave (event : Event) : Reading (Event × Mark) := do
  let token ← peek
  popState
  discard popMark
  skip
  pure (event, token.start)

/-- Goes on with a node, or with none if the next token is one of those that follow it. -/
def nodeUnless (ends : Token.Kind → Bool) (next : State) (block indentless : Bool) (mark : Mark) :
    Reading (Event × Mark) := do
  if ends (← peek).kind then
    goTo next
    emptyScalar mark
  else
    pushState next
    readNode block indentless

def readBlockSequence (first : Bool) : Reading (Event × Mark) := do
  enter first
  let token ← peek
  match token.kind with
  | .blockEntry =>
      skip
      nodeUnless (fun k => k = .blockEntry || k = .blockEnd) (.blockSequence false) true false token.stop
  | .blockEnd => leave .sequenceEnd
  | _ =>
      let start ← popMark
      fail .noDash token.start (some (.blockCollection, start))

def readIndentlessSequence : Reading (Event × Mark) := do
  let token ← peek
  if token.kind = .blockEntry then
    skip
    nodeUnless (fun k => k = .blockEntry || k = .key || k = .value || k = .blockEnd) .indentlessSequence
      true false token.stop
  else
    popState
    pure (.sequenceEnd, token.start)

def endsBlockPart (k : Token.Kind) : Bool := k = .key || k = .value || k = .blockEnd

def readBlockMappingKey (first : Bool) : Reading (Event × Mark) := do
  enter first
  let token ← peek
  match token.kind with
  | .key =>
      skip
      nodeUnless endsBlockPart .blockMappingValue true true token.stop
  | .blockEnd => leave .mappingEnd
  | _ =>
      let start ← popMark
      fail .noKey token.start (some (.blockMapping, start))

def readBlockMappingValue : Reading (Event × Mark) := do
  let token ← peek
  if token.kind = .value then
    skip
    nodeUnless endsBlockPart (.blockMappingKey false) true true token.stop
  else
    goTo (.blockMappingKey false)
    emptyScalar token.start

/-- A comma stands between two entries of a flow collection. -/
def readComma (first : Bool) (problem : Problem) (activity : Activity) : Reading Unit := do
  if !first then
    let token ← peek
    if token.kind = .flowEntry then skip
    else
      let start ← popMark
      fail problem token.start (some (activity, start))

def readFlowSequence (first : Bool) : Reading (Event × Mark) := do
  enter first
  if (← peek).kind = .flowSequenceEnd then leave .sequenceEnd
  else
    readComma first .noCommaOrBracket .flowSequence
    let token ← peek
    match token.kind with
    | .key =>
        goTo .pairKey
        skip
        pure (.mappingStart none, token.start)
    | .flowSequenceEnd => leave .sequenceEnd
    | _ =>
        pushState (.flowSequence false)
        readNode false false

/-- The key of a mapping of one entry. What follows a missing key is passed over. -/
def readPairKey : Reading (Event × Mark) := do
  let token ← peek
  if token.kind = .value || token.kind = .flowEntry || token.kind = .flowSequenceEnd then
    skip
    goTo .pairValue
    emptyScalar token.stop
  else
    pushState .pairValue
    readNode false false

def readPairValue : Reading (Event × Mark) := do
  let token ← peek
  if token.kind = .value then
    skip
    let next ← peek
    nodeUnless (fun k => k = .flowEntry || k = .flowSequenceEnd) .pairEnd false false next.start
  else
    goTo .pairEnd
    emptyScalar token.start

def readPairEnd : Reading (Event × Mark) := do
  let token ← peek
  goTo (.flowSequence false)
  pure (.mappingEnd, token.start)

def readFlowMappingKey (first : Bool) : Reading (Event × Mark) := do
  enter first
  if (← peek).kind = .flowMappingEnd then leave .mappingEnd
  else
    readComma first .noCommaOrBrace .flowMapping
    let token ← peek
    match token.kind with
    | .key =>
        skip
        let next ← peek
        nodeUnless (fun k => k = .value || k = .flowEntry || k = .flowMappingEnd) (.flowMappingValue false)
          false false next.start
    | .flowMappingEnd => leave .mappingEnd
    | _ =>
        pushState (.flowMappingValue true)
        readNode false false

def readFlowMappingValue (empty : Bool) : Reading (Event × Mark) := do
  let token ← peek
  if !empty && token.kind = .value then
    skip
    let next ← peek
    nodeUnless (fun k => k = .flowEntry || k = .flowMappingEnd) (.flowMappingKey false) false false next.start
  else
    goTo (.flowMappingKey false)
    emptyScalar token.start

/-! ## The stream -/

/-- The next event with its place. -/
def next : Reading (Event × Mark) := do
  match (← get).state with
  | .streamStart =>
      let token ← peek
      goTo .firstDocument
      skip
      pure (.streamStart, token.start)
  | .firstDocument => readDocumentStart true
  | .document => readDocumentStart false
  | .documentContent => readDocumentContent
  | .blockNode => readNode true false
  | .documentEnd => readDocumentEnd
  | .blockSequence first => readBlockSequence first
  | .indentlessSequence => readIndentlessSequence
  | .blockMappingKey first => readBlockMappingKey first
  | .blockMappingValue => readBlockMappingValue
  | .flowSequence first => readFlowSequence first
  | .pairKey => readPairKey
  | .pairValue => readPairValue
  | .pairEnd => readPairEnd
  | .flowMappingKey first => readFlowMappingKey first
  | .flowMappingValue empty => readFlowMappingValue empty
  | .ended => pure (.streamEnd, .start)

/-- The events up to the end of the stream or to a fault. -/
def read : Nat → EventStream → List (Event × Mark) × Option Fault
  | 0, _ => ([], none)
  | fuel + 1, s =>
      match next s with
      | .error fault => ([], some fault)
      | .ok (event, s) =>
          if event.1 = .streamEnd then ([event], none)
          else
            let (events, fault) := read fuel s
            (event :: events, fault)

end EventStream

/-- The events of a text. A token yields three events at most, and a character four tokens. -/
def events (text : List Char) : List (Event × Mark) × Option Fault :=
  match characters text with
  | .error fault => ([], some fault)
  | .ok chars => EventStream.read (12 * chars.length + 16) (.ofCharacters chars)

end NetconfGate.Yaml

import NetconfGate.Yaml.Event

/-!
# Documents

The first document of a stream as a tree. An alias stands for the node that its
name was last given to; each name is kept by the number of names known before,
so an anchor that is given again shares its number with the next new one, and
the later of the two is meant by both. A fault ends a document where it lies:
everything from there on is missing.
-/

namespace NetconfGate.Yaml

/-- A scalar's text, how it was written and how it was tagged. -/
structure Scalar where
  text : List Char
  style : Style
  tag : Option (List Char)
deriving DecidableEq

inductive Node where
  | scalar (mark : Mark) (value : Scalar)
  | sequence (mark : Mark) (items : List Node)
  | mapping (mark : Mark) (entries : List (Node × Node))
  | alias (number : Nat)
  | missing

/-- Why a document ends early. -/
inductive Document.Fault where
  | malformed (fault : Yaml.Fault)
  | unknownAnchor (mark : Mark)

def Document.Fault.text : Document.Fault → String
  | .malformed fault => fault.text
  | .unknownAnchor mark => "unknown anchor" ++ mark.suffix

structure Document where
  root : Node
  /-- Numbered nodes in the order in which they begin. -/
  anchors : List (Nat × Node)
  fault : Option Document.Fault
  /-- Whether another document follows. -/
  followed : Bool

namespace Document

/-- An event with names of anchors replaced by their numbers. -/
inductive Part where
  | scalar (anchor : Option Nat) (value : Scalar)
  | sequence (anchor : Option Nat)
  | mapping (anchor : Option Nat)
  | close
  | alias (number : Nat)

/-- The numbers of names. -/
abbrev Names := List (List Char × Nat)

/-- The number is how many names are known before this one is given. -/
def Names.give (names : Names) : Option (List Char) → Option Nat × Names
  | none => (none, names)
  | some name => (some names.length, (name, names.length) :: names.filter (·.1 ≠ name))

/-- What the events of a document amount to. -/
structure Contents where
  parts : List (Part × Mark)
  fault : Option Fault
  followed : Bool

def Contents.add (part : Part) (mark : Mark) (c : Contents) : Contents :=
  { c with parts := (part, mark) :: c.parts }

/-- The parts up to the end of the first document. A stream without one has one empty part. -/
def contents (fault : Option Yaml.Fault) : Names → Bool → List (Event × Mark) → Contents
  | _, _, [] => ⟨[], fault.map .malformed, false⟩
  | names, opened, (event, mark) :: rest =>
      match event with
      | .streamStart => contents fault names opened rest
      | .documentStart => contents fault names true rest
      | .streamEnd =>
          if opened then ⟨[], none, false⟩ else ⟨[(.scalar none ⟨[], .plain, none⟩, mark)], none, false⟩
      | .documentEnd => ⟨[], none, rest.head?.map (·.1) ≠ some .streamEnd⟩
      | .alias name =>
          match names.lookup name with
          | none => ⟨[], some (.unknownAnchor mark), false⟩
          | some number => (contents fault names opened rest).add (.alias number) mark
      | .scalar anchor tag text style =>
          let (number, names) := names.give anchor
          (contents fault names opened rest).add (.scalar number ⟨text, style, tag⟩) mark
      | .sequenceStart anchor =>
          let (number, names) := names.give anchor
          (contents fault names opened rest).add (.sequence number) mark
      | .mappingStart anchor =>
          let (number, names) := names.give anchor
          (contents fault names opened rest).add (.mapping number) mark
      | .sequenceEnd => (contents fault names opened rest).add .close mark
      | .mappingEnd => (contents fault names opened rest).add .close mark

abbrev Parts := List (Part × Mark)

/-- A node read from parts, the numbered nodes in it, and the parts after it. -/
abbrev Read (α : Type) := α × List (Nat × Node) × Parts

def number (anchor : Option Nat) (node : Node) (inner : List (Nat × Node)) : List (Nat × Node) :=
  (anchor.map fun n => (n, node)).toList ++ inner

mutual

def readNode : Nat → Parts → Read Node
  | 0, parts => (.missing, [], parts)
  | _, [] => (.missing, [], [])
  | fuel + 1, (part, mark) :: rest =>
      match part with
      | .scalar anchor value =>
          let node := Node.scalar mark value
          (node, number anchor node [], rest)
      | .sequence anchor =>
          let (items, inner, rest) := readItems fuel rest
          let node := Node.sequence mark items
          (node, number anchor node inner, rest)
      | .mapping anchor =>
          let (entries, inner, rest) := readEntries fuel rest
          let node := Node.mapping mark entries
          (node, number anchor node inner, rest)
      | .alias number => (.alias number, [], rest)
      | .close => (.missing, [], rest)

def readItems : Nat → Parts → Read (List Node)
  | 0, parts => ([], [], parts)
  | _, [] => ([.missing], [], [])
  | _, (.close, _) :: rest => ([], [], rest)
  | fuel + 1, parts =>
      let (item, inner, rest) := readNode fuel parts
      let (items, others, rest) := readItems fuel rest
      (item :: items, inner ++ others, rest)

def readEntries : Nat → Parts → Read (List (Node × Node))
  | 0, parts => ([], [], parts)
  | _, [] => ([(.missing, .missing)], [], [])
  | _, (.close, _) :: rest => ([], [], rest)
  | fuel + 1, parts =>
      let (key, inKey, rest) := readNode fuel parts
      let (value, inValue, rest) := readNode fuel rest
      let (entries, others, rest) := readEntries fuel rest
      ((key, value) :: entries, inKey ++ inValue ++ others, rest)

end

def ofContents (c : Contents) : Document :=
  let (root, anchors, _) := readNode (2 * c.parts.length + 2) c.parts
  ⟨root, anchors, c.fault, c.followed⟩

def ofText (text : String) : Document :=
  let (found, fault) := events text.toList
  ofContents (contents fault [] false found)

/-- The node that is meant: the last to begin among those with an alias's number. -/
def resolve (d : Document) : Node → Node
  | .alias number => (d.anchors.reverse.lookup number).getD .missing
  | node => node

end Document

end NetconfGate.Yaml

/-!
# Marks and faults of a document's text

A mark is a place in the text. A fault says what is wrong at a place, and
possibly what was being read and where that began.
-/

namespace NetconfGate.Yaml

/-- Characters before a place, lines before it, and characters before it on its line. -/
structure Mark where
  index : Nat
  line : Nat
  column : Nat
deriving DecidableEq

namespace Mark

def start : Mark := ⟨0, 0, 0⟩

/-- Whether the place is the first of the text, which is never worth naming. -/
def isStart (m : Mark) : Bool := m.line = 0 && m.column = 0

def right (m : Mark) (count : Nat) : Mark := { m with index := m.index + count, column := m.column + count }

def nextLine (m : Mark) (count : Nat) : Mark := ⟨m.index + count, m.line + 1, 0⟩

/-- Lines and columns are counted from one. -/
def text (m : Mark) : String :=
  "line " ++ toString (m.line + 1) ++ " column " ++ toString (m.column + 1)

/-- Follows a message; the first place is not named. -/
def suffix (m : Mark) : String := if m.isStart then "" else " at " ++ m.text

end Mark

/-- What is wrong. -/
inductive Problem where
  | controlCharacter
  | keyWithoutColon
  | strayCharacter
  | valueNotAllowed
  | keyNotAllowed
  | entryNotAllowed
  | unknownDirective
  | lineGoesOn
  | noDirectiveName
  | oddDirectiveName
  | noVersionDot
  | longVersion
  | noVersion
  | noBlank
  | noBlankOrBreak
  | noName
  | unclosedVerbatimTag
  | noBang
  | noTagUri
  | noEscapedOctet
  | badLeadingOctet
  | badTrailingOctet
  | zeroIndentation
  | tabForIndentation
  | tabInIndentation
  | documentIndicator
  | endOfStream
  | unknownEscape
  | noHexNumber
  | badCodePoint
  | oddColon
  | noDocumentStart
  | undefinedHandle
  | noContent
  | noDash
  | noKey
  | noCommaOrBracket
  | noCommaOrBrace
  | secondVersion
  | incompatible
  | secondHandle
deriving DecidableEq

def Problem.text : Problem → String
  | .controlCharacter => "control characters are not allowed"
  | .keyWithoutColon => "could not find expected ':'"
  | .strayCharacter => "found character that cannot start any token"
  | .valueNotAllowed => "mapping values are not allowed in this context"
  | .keyNotAllowed => "mapping keys are not allowed in this context"
  | .entryNotAllowed => "block sequence entries are not allowed in this context"
  | .unknownDirective => "found unknown directive name"
  | .lineGoesOn => "did not find expected comment or line break"
  | .noDirectiveName => "could not find expected directive name"
  | .oddDirectiveName => "found unexpected non-alphabetical character"
  | .noVersionDot => "did not find expected digit or '.' character"
  | .longVersion => "found extremely long version number"
  | .noVersion => "did not find expected version number"
  | .noBlank => "did not find expected whitespace"
  | .noBlankOrBreak => "did not find expected whitespace or line break"
  | .noName => "did not find expected alphabetic or numeric character"
  | .unclosedVerbatimTag => "did not find the expected '>'"
  | .noBang => "did not find expected '!'"
  | .noTagUri => "did not find expected tag URI"
  | .noEscapedOctet => "did not find URI escaped octet"
  | .badLeadingOctet => "found an incorrect leading UTF-8 octet"
  | .badTrailingOctet => "found an incorrect trailing UTF-8 octet"
  | .zeroIndentation => "found an indentation indicator equal to 0"
  | .tabForIndentation => "found a tab character where an indentation space is expected"
  | .tabInIndentation => "found a tab character that violates indentation"
  | .documentIndicator => "found unexpected document indicator"
  | .endOfStream => "found unexpected end of stream"
  | .unknownEscape => "found unknown escape character"
  | .noHexNumber => "did not find expected hexdecimal number"
  | .badCodePoint => "found invalid Unicode character escape code"
  | .oddColon => "found unexpected ':'"
  | .noDocumentStart => "did not find expected <document start>"
  | .undefinedHandle => "found undefined tag handle"
  | .noContent => "did not find expected node content"
  | .noDash => "did not find expected '-' indicator"
  | .noKey => "did not find expected key"
  | .noCommaOrBracket => "did not find expected ',' or ']'"
  | .noCommaOrBrace => "did not find expected ',' or '\x7d'"
  | .secondVersion => "found duplicate %YAML directive"
  | .incompatible => "found incompatible YAML document"
  | .secondHandle => "found duplicate %TAG directive"

/-- What was being read. -/
inductive Activity where
  | simpleKey
  | nextToken
  | directive
  | versionDirective
  | tagDirective
  | directiveHandle
  | directiveHandleEnd
  | directiveUri
  | anchor
  | alias
  | tag
  | tagUri
  | blockScalar
  | quotedScalar
  | quotedEscape
  | plainScalar
  | node
  | blockNode
  | flowNode
  | blockCollection
  | blockMapping
  | flowSequence
  | flowMapping
deriving DecidableEq

def Activity.text : Activity → String
  | .simpleKey => "while scanning a simple key"
  | .nextToken => "while scanning for the next token"
  | .directive => "while scanning a directive"
  | .versionDirective => "while scanning a %YAML directive"
  | .tagDirective => "while scanning a %TAG directive"
  | .directiveHandle => "while scanning a tag directive"
  | .directiveHandleEnd => "while parsing a tag directive"
  | .directiveUri => "while parsing a %TAG directive"
  | .anchor => "while scanning an anchor"
  | .alias => "while scanning an alias"
  | .tag => "while scanning a tag"
  | .tagUri => "while parsing a tag"
  | .blockScalar => "while scanning a block scalar"
  | .quotedScalar => "while scanning a quoted scalar"
  | .quotedEscape => "while parsing a quoted scalar"
  | .plainScalar => "while scanning a plain scalar"
  | .node => "while parsing a node"
  | .blockNode => "while parsing a block node"
  | .flowNode => "while parsing a flow node"
  | .blockCollection => "while parsing a block collection"
  | .blockMapping => "while parsing a block mapping"
  | .flowSequence => "while parsing a flow sequence"
  | .flowMapping => "while parsing a flow mapping"

/-- Characters that may not occur are found before marks are counted. -/
inductive Place where
  | mark (mark : Mark)
  | offset (bytes : Nat)

structure Fault where
  problem : Problem
  place : Place
  context : Option (Activity × Mark)

namespace Fault

def placeText : Place → String
  | .mark mark => mark.suffix
  | .offset bytes => if bytes = 0 then "" else " at position " ++ toString bytes

/-- Whether two marks name the same line and column. -/
def sameSpot (place : Place) (m : Mark) : Bool :=
  match place with
  | .mark p => p.line = m.line && p.column = m.column
  | .offset _ => false

/-- Where an activity began is named unless the fault lies there. -/
def text (f : Fault) : String :=
  f.problem.text ++ placeText f.place ++
    match f.context with
    | none => ""
    | some (activity, mark) =>
        ", " ++ activity.text ++ (if sameSpot f.place mark then "" else mark.suffix)

end Fault

end NetconfGate.Yaml

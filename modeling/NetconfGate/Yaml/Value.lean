import NetconfGate.Decimal.Shortest
import NetconfGate.Yaml.Document
import NetconfGate.Bytes

/-!
# Values of scalars

What a plain scalar says: nothing, a truth value, a number or a text. A tag can
ask for one of these, and then the text must suit it.
-/

namespace NetconfGate.Yaml

inductive Value where
  | null
  | boolean (value : Bool)
  | integer (value : Int)
  /-- A number with a point, by its shortest text. -/
  | real (text : String)
  | text (value : List Char)
deriving DecidableEq

namespace Value

def isNull (text : List Char) : Bool := ["null", "Null", "NULL", "~"].contains (String.ofList text)

def boolean? (text : List Char) : Option Bool :=
  [("true", true), ("True", true), ("TRUE", true), ("false", false), ("False", false), ("FALSE", false)].lookup
    (String.ofList text)

/-- Digits in a base; there must be one. -/
def digits? (base : Nat) (text : List Char) : Option Nat :=
  if text.isEmpty then none
  else text.foldlM (fun n c => (Bytes.hexValue? c).bind fun d => if d < base then some (n * base + d) else none) 0

def bases : List (Char × Nat) := [('x', 16), ('o', 8), ('b', 2)]

def dropSign (sign : Char → Bool) : List Char → List Char
  | [] => []
  | c :: rest => if sign c then rest else c :: rest

def isSign (c : Char) : Bool := c = '+' || c = '-'

/-- Digits after a leading zero make no number. -/
def hasLeadingZero (text : List Char) : Bool :=
  match dropSign isSign text with
  | '0' :: c :: rest => (c :: rest).all Char.isDigit
  | _ => false

/-- The digits after a mark of their base. -/
def based? (text : List Char) : Option Nat :=
  match text with
  | '0' :: mark :: digits => (bases.lookup mark).bind (digits? · digits)
  | _ => none

/-- A number of either base below `bound`. A plus sign may stand before it. -/
def unsigned? (bound : Nat) (text : List Char) : Option Nat :=
  let body := dropSign (· = '+') text
  let inBound (n : Nat) : Option Nat := if n < bound then some n else none
  match (based? body).bind inBound with
  | some n => some n
  | none => if hasLeadingZero text then none else (digits? 10 body).bind inBound

/-- A number with a minus sign, down to `-bound`. -/
def negative? (bound : Nat) (text : List Char) : Option Int :=
  match text with
  | '-' :: body =>
      let inBound (n : Nat) : Option Int := if n ≤ bound then some (-(n : Int)) else none
      match (based? body).bind inBound with
      | some n => some n
      | none => if hasLeadingZero text then none else (digits? 10 body).bind inBound
  | _ => none

def integer? (text : List Char) : Option Int :=
  match unsigned? (Nat.pow 2 128) text with
  | some n => some n
  | none => negative? (Nat.pow 2 127) text

def infinite? (text : List Char) : Option String :=
  [(".inf", "inf"), (".Inf", "inf"), (".INF", "inf"), ("+.inf", "inf"), ("+.Inf", "inf"), ("+.INF", "inf"),
    ("-.inf", "-inf"), ("-.Inf", "-inf"), ("-.INF", "-inf"), (".nan", "NaN"), (".NaN", "NaN"), (".NAN", "NaN")].lookup
    (String.ofList text)

/-- The shortest text of a number with a point or an exponent. Two signs make no number. -/
def real? (text : List Char) : Option String :=
  match infinite? text with
  | some name => some name
  | none => ((Decimal.parse? text).bind Decimal.shortened?).map Decimal.text

def ofPlain (text : List Char) : Value :=
  if text.isEmpty || isNull text then .null
  else match boolean? text with
    | some b => .boolean b
    | none => match integer? text with
      | some n => .integer n
      | none => match if hasLeadingZero text then none else real? text with
        | some number => .real number
        | none => .text text

end Value

namespace Scalar

def core (name : String) : Option (List Char) := some ("tag:yaml.org,2002:" ++ name).toList

def nullTag : Option (List Char) := core "null"
def integerTag : Option (List Char) := core "int"

/-- What was asked for by a tag that the text does not suit. -/
abbrev Refused := String

def need (asked : String) : Option Value → Except Refused Value
  | some value => .ok value
  | none => .error asked

/-- The value of a scalar. Quoted ones and those with a tag that is not known are texts;
a tag of the document's own leaves a plain scalar as it is. -/
def value (s : Scalar) : Except Refused Value :=
  if s.tag = core "bool" then need "a boolean" ((Value.boolean? s.text).map .boolean)
  else if s.tag = integerTag then need "an integer" ((Value.integer? s.text).map .integer)
  else if s.tag = core "float" then need "a float" ((Value.real? s.text).map .real)
  else if s.tag = nullTag then need "null" (if Value.isNull s.text then some .null else none)
  else if s.style = .plain ∧ (s.tag = none ∨ (s.tag.bind List.head?) = some '!') then .ok (.ofPlain s.text)
  else .ok (.text s.text)

end Scalar

end NetconfGate.Yaml

import NetconfGate.Yaml.Value
import NetconfGate.Text.Quoted

/-!
# Decoding documents

Values of the kinds that a settings file holds, read from the nodes of a
document. A fault names the field by its path and the place of its value.
-/

namespace NetconfGate.Yaml

/-- What stands where something else was expected. -/
inductive Found where
  | value (value : Value)
  | sequence
  | mapping

def Found.text : Found → String
  | .value .null => "unit value"
  | .value (.boolean b) => "boolean \x60" ++ (if b then "true" else "false") ++ "\x60"
  | .value (.integer n) =>
      "integer \x60" ++ toString n ++ "\x60"
        ++ (if Nat.pow 2 64 ≤ n then " as u128" else if n < -(Nat.pow 2 63) then " as i128" else "")
  | .value (.real text) => "floating point \x60" ++ text ++ "\x60"
  | .value (.text text) => "string " ++ Text.quoted (String.ofList text)
  | .sequence => "sequence"
  | .mapping => "map"

/-- What is wrong with a value. -/
inductive Decoding.Problem where
  | unexpected (found : Found) (expected : String)
  /-- The text does not suit its tag. -/
  | unsuitable (text : List Char) (expected : String)
  | unknownField (name : List Char) (known : List String)
  | duplicateField (name : String)
  | missingField (name : String)
  | addressSyntax (text : String)

namespace Decoding

def fieldText (name : String) : String := "\x60" ++ name ++ "\x60"

/-- Two alternatives are joined by a word, more are listed. -/
def alternatives : List String → String
  | [a, b] => fieldText a ++ " or " ++ fieldText b
  | names => "one of " ++ String.intercalate ", " (names.map fieldText)

def Problem.text : Problem → String
  | .unexpected found expected => "invalid type: " ++ found.text ++ ", expected " ++ expected
  | .unsuitable text expected =>
      "invalid value: string " ++ Text.quoted (String.ofList text) ++ ", expected " ++ expected
  | .unknownField name known =>
      "unknown field " ++ fieldText (String.ofList name) ++ ", expected " ++ alternatives known
  | .duplicateField name => "duplicate field " ++ fieldText name
  | .missingField name => "missing field " ++ fieldText name
  | .addressSyntax text => text

/-- A value's place: its path from the root, which has none, and its mark. -/
structure Spot where
  path : Option String
  mark : Mark

namespace Spot

def root (mark : Mark) : Spot := ⟨none, mark⟩

/-- The path of a field. A key that is not written out has no name. -/
def field (path : Option String) (name : Option String) : Option String :=
  some ((path.map (· ++ ".")).getD "" ++ name.getD "?")

def item (path : Option String) (index : Nat) : Option String :=
  some (path.getD "." ++ "[" ++ toString index ++ "]")

end Spot

/-- Why a document cannot be decoded. -/
inductive Fault where
  | document (fault : Document.Fault)
  | unfinished
  | value (problem : Problem) (spot : Spot)
  | severalDocuments

def Fault.text : Fault → String
  | .document fault => fault.text
  | .unfinished => "EOF while parsing a value"
  | .value problem spot =>
      (spot.path.map (· ++ ": ")).getD "" ++ problem.text ++ spot.mark.suffix
  | .severalDocuments => "deserializing from YAML containing more than one document is not supported"

variable {α : Type}

/-- The document ends before the value. -/
def missing (d : Document) : Except Fault α :=
  .error ((d.fault.map Fault.document).getD .unfinished)

/-- The value is of another kind. -/
def mismatch (node : Node) (path : Option String) (expected : String) (d : Document) : Except Fault α :=
  match node with
  | .scalar mark s =>
      match s.value with
      | .ok value => .error (.value (.unexpected (.value value) expected) ⟨path, mark⟩)
      | .error asked => .error (.value (.unsuitable s.text asked) ⟨path, mark⟩)
  | .sequence mark _ => .error (.value (.unexpected .sequence expected) ⟨path, mark⟩)
  | .mapping mark _ => .error (.value (.unexpected .mapping expected) ⟨path, mark⟩)
  | .alias _ => missing d
  | .missing => missing d

/-- The text of any scalar, whatever its tag, and its mark. -/
def text (d : Document) (path : Option String) (expected : String) (node : Node) :
    Except Fault (List Char × Mark) :=
  match d.resolve node with
  | .scalar mark s => .ok (s.text, mark)
  | other => mismatch other path expected d

/-- A number is plain, or a literal block with the tag of integers. -/
def holdsNumber (s : Scalar) : Bool :=
  s.style = .plain || (s.style = .literal && s.tag = Scalar.integerTag)

/-- A number below 2 ^ 64. -/
def number (d : Document) (path : Option String) (expected : String) (node : Node) : Except Fault Nat :=
  match d.resolve node with
  | .scalar mark s =>
      match if holdsNumber s then Value.unsigned? (Nat.pow 2 64) s.text else none with
      | some n => .ok n
      | none => mismatch (.scalar mark s) path expected d
  | other => mismatch other path expected d

/-- Whether a plain scalar stands for nothing. `outer` is the spot of the mapping around it. -/
def isAbsent (outer : Spot) (s : Scalar) : Except Fault Bool :=
  if s.style ≠ .plain then .ok false
  else if s.tag = none then .ok (s.text.isEmpty || Value.isNull s.text)
  else if s.tag = Scalar.nullTag then
    if Value.isNull s.text then .ok true else .error (.value (.unsuitable s.text "null") outer)
  else .ok false

/-- Nothing, or what `decode` makes of the node. -/
def optional (d : Document) (outer : Spot) (decode : Node → Except Fault α) (node : Node) :
    Except Fault (Option α) :=
  match d.resolve node with
  | .scalar mark s => do
      if ← isAbsent outer s then pure none
      else some <$> decode (.scalar mark s)
  | .missing => missing d
  | other => some <$> decode other

def isEmptyScalar (s : Scalar) : Bool := s.text.isEmpty && s.style = .plain

/-- The entries of a mapping. An empty plain scalar has none. -/
def entries (d : Document) (path : Option String) (expected : String) (node : Node) :
    Except Fault (List (Node × Node) × Spot) :=
  match d.resolve node with
  | .mapping mark entries => .ok (entries, ⟨path, mark⟩)
  | .scalar mark s =>
      if isEmptyScalar s then .ok ([], ⟨path, mark⟩) else mismatch (.scalar mark s) path expected d
  | other => mismatch other path expected d

/-- The items of a sequence. An empty plain scalar has none. -/
def items (d : Document) (path : Option String) (node : Node) : Except Fault (List Node) :=
  match d.resolve node with
  | .sequence _ items => .ok items
  | .scalar mark s =>
      if isEmptyScalar s then .ok [] else mismatch (.scalar mark s) path "a sequence" d
  | other => mismatch other path "a sequence" d

/-- A key is one of the known names. With it comes the path of its value. -/
def fieldName (d : Document) (outer : Spot) (known : List String) (key : Node) :
    Except Fault (String × Option String) := do
  let (name, mark) ← text d outer.path "field identifier" key
  if known.contains (String.ofList name) then
    let written := match key with
      | .scalar _ _ => some (String.ofList name)
      | _ => none
    pure (String.ofList name, Spot.field outer.path written)
  else .error (.value (.unknownField name known) ⟨outer.path, mark⟩)

end Decoding

end NetconfGate.Yaml

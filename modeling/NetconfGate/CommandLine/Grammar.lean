import NetconfGate.CommandLine.Usage

/-!
# Reading options

The words of a command line are flags, options with values, and plain words. The
value of an option stands in its own word, after an equals sign or behind the
short name, or it is the next word unless that looks like a flag. An option
takes effect when the next one is met, or at the end; then its value is checked.
A double dash makes plain words of all that follow.
-/

namespace NetconfGate.CommandLine

/-- The options of a command, of type `ο`, and how the values `α` keep what was given. -/
structure Grammar (ο α : Type) where
  options : List ο
  name : ο → String
  short : ο → Option Char
  /-- The environment variable that stands in for an option. -/
  standIn? : ο → Option String
  isGiven : α → ο → Bool
  /-- A value that does not suit the option is refused. -/
  give : α → ο → String → Except UsageError α
  /-- Whether the version may be asked for. -/
  versioned : Bool

/-- A word, as it looks. -/
inductive Word where
  | dashes
  | long (name : String) (value : Option String)
  | short (letters : List Char)
  | plain

namespace Word

/-- A lone dash is a plain word. -/
def ofText (text : String) : Word :=
  match text.toList with
  | ['-', '-'] => .dashes
  | '-' :: '-' :: rest =>
      let name := rest.takeWhile (· ≠ '=')
      .long (String.ofList name)
        (if name.length < rest.length then some (String.ofList (rest.drop (name.length + 1))) else none)
  | '-' :: c :: rest => .short (c :: rest)
  | _ => .plain

end Word

/-- The name of an option's value, in capitals. -/
def valueName (name : String) : String := name.map fun c => if c = '-' then '_' else c.toUpper

/-- How an option with a value is named in messages. -/
def optionText (name : String) : String := "--" ++ name ++ " <" ++ valueName name ++ ">"

/-- What has been read of a command. -/
structure Progress (ο α : Type) where
  verbose : Bool
  values : α
  /-- An option that has not taken effect, with its value if it has one. -/
  pending : Option (ο × Option String)
  /-- Whether a double dash was met. -/
  plainOnly : Bool

namespace Grammar

variable {ο α : Type} (g : Grammar ο α)

def optionText (o : ο) : String := CommandLine.optionText (g.name o)

def find (name : String) : Option ο := g.options.find? fun o => g.name o = name

def findShort (letter : Char) : Option ο := g.options.find? fun o => g.short o = some letter

/-- An option is given once only. -/
def store (values : α) (o : ο) (value : String) : Except UsageError α :=
  if g.isGiven values o then .error (.repeated (g.optionText o)) else g.give values o value

/-- Lets the pending option take effect. -/
def settle (p : Progress ο α) : Except UsageError (Progress ο α) :=
  match p.pending with
  | none => .ok p
  | some (o, none) => .error (.valueMissing (g.optionText o))
  | some (o, some value) => do
      let values ← g.store p.values o value
      pure { p with values, pending := none }

/-- A flag of one letter or of its whole name. -/
inductive Flag where
  | verbose
  | help
  | version

def Flag.text : Flag → String
  | .verbose => "--verbose"
  | .help => "--help"
  | .version => "--version"

def flag? (name : String) : Option Flag :=
  if name = "verbose" then some .verbose
  else if name = "help" then some .help
  else if name = "version" ∧ g.versioned then some .version
  else none

def shortFlag? (letter : Char) : Option Flag :=
  if letter = 'v' then some .verbose
  else if letter = 'h' then some .help
  else if letter = 'V' ∧ g.versioned then some .version
  else none

def raise (p : Progress ο α) (f : Flag) : Except UsageError (Progress ο α) := do
  let p ← g.settle p
  match f with
  | .help => .error .helpRequested
  | .version => .error .versionRequested
  | .verbose => if p.verbose then .error (.repeated f.text) else .ok { p with verbose := true }

/-- An option with the value in its own word, or one whose value may come next. -/
def start (p : Progress ο α) (o : ο) (value : Option String) : Except UsageError (Progress ο α) := do
  let p ← g.settle p
  match value with
  | none => .ok { p with pending := some (o, none) }
  | some value =>
      let values ← g.store p.values o value
      pure { p with values }

def readLong (p : Progress ο α) (name : String) (value : Option String) : Except UsageError (Progress ο α) :=
  match g.flag? name with
  | some f =>
      match value with
      | some v => .error (.valueUnneeded v f.text)
      | none => g.raise p f
  | none =>
      match g.find name with
      | some o => g.start p o value
      | none => .error (.unknownArgument ("--" ++ name))

/-- What follows the letter of an option is its value; an equals sign before that is dropped. -/
def attached : List Char → Option String
  | [] => none
  | '=' :: value => some (String.ofList value)
  | value => some (String.ofList value)

def readShort (p : Progress ο α) : List Char → Except UsageError (Progress ο α)
  | [] => .ok p
  | c :: rest =>
      match g.shortFlag? c with
      | some f => do readShort (← g.raise p f) rest
      | none =>
          match g.findShort c with
          | some o => g.start p o (attached rest)
          | none => .error (.unknownArgument (String.ofList ['-', c]))

/-- Reads one word. `plain` says what becomes of a plain word that is no value. -/
def readWord (p : Progress ο α) (word : String) : Except UsageError (Option (Progress ο α)) :=
  if p.plainOnly then .ok none
  else match Word.ofText word with
    | .dashes => .ok (some { p with plainOnly := true })
    | .long name value => some <$> g.readLong p name value
    | .short letters => some <$> g.readShort p letters
    | .plain =>
        -- It is the value of a pending option that has none.
        match p.pending with
        | some (o, none) => .ok (some { p with pending := some (o, some word) })
        | _ => .ok none

/-- Variables stand in for the options that were not given, in the order of the options. -/
def withVariables (environment : String → Option String) (values : α) : Except UsageError α :=
  g.options.foldlM (fun values o =>
    if g.isGiven values o then .ok values
    else match (g.standIn? o).bind environment with
      | some value => g.give values o value
      | none => .ok values) values

/-- Reads the words of a command that takes options only. -/
def readAll (p : Progress ο α) : List String → Except UsageError (Progress ο α)
  | [] => g.settle p
  | word :: rest => do
      match ← g.readWord p word with
      | some next => readAll next rest
      | none => .error (.unknownArgument word)

/-- Whether the command is to be verbose, and the values of its options. -/
def parse (environment : String → Option String) (initial : α) (words : List String) :
    Except UsageError (Bool × α) := do
  let p ← g.readAll ⟨false, initial, none, false⟩ words
  let values ← g.withVariables environment p.values
  pure (p.verbose, values)

end Grammar

end NetconfGate.CommandLine

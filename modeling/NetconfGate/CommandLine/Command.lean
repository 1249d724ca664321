import NetconfGate.CommandLine.Grammar
import NetconfGate.Address

/-!
# Commands

The program serves, or it prints the stored form of a password. Each option of
serving has an environment variable that stands in for it.
-/

namespace NetconfGate.CommandLine

/-- One more digit of a number below `bound`. -/
def addDigit (bound : Nat) (number : Nat) (c : Char) : Except String Nat :=
  if !c.isDigit then .error "invalid digit found in string"
  else
    let next := number * 10 + (c.toNat - 48)
    if next < bound then .ok next else .error "number too large to fit in target type"

/-- Decimal digits after an optional plus sign. -/
def number (bound : Nat) (text : String) : Except String Nat :=
  match text.toList with
  | [] => .error "cannot parse integer from empty string"
  | ['+'] => .error "invalid digit found in string"
  | '+' :: digits => digits.foldlM (addDigit bound) 0
  | digits => digits.foldlM (addDigit bound) 0

def address (text : String) : Except String Address :=
  match Address.parse? text with
  | some a => .ok a
  | none => .error Address.syntaxMessage

/-- What the command line and the environment say about serving. -/
structure ServeFlags where
  config : Option String
  bind : Option Address
  backend : Option Address
  hostKey : Option String
  /-- Timeouts are whole seconds. -/
  idle : Option Nat
  auth : Option Nat
  connect : Option Nat
  workerThreads : Option Nat
deriving DecidableEq

inductive ServeOption where
  | config
  | bind
  | backend
  | hostKey
  | idle
  | auth
  | connect
  | workerThreads
deriving DecidableEq

namespace ServeOption

def all : List ServeOption :=
  [.config, .bind, .backend, .hostKey, .idle, .auth, .connect, .workerThreads]

def name : ServeOption → String
  | .config => "config"
  | .bind => "bind"
  | .backend => "backend"
  | .hostKey => "host-key"
  | .idle => "idle-timeout-secs"
  | .auth => "auth-timeout-secs"
  | .connect => "connect-timeout-secs"
  | .workerThreads => "worker-threads"

def text (o : ServeOption) : String := optionText o.name

/-- A path is not empty. -/
def path (o : ServeOption) (value : String) : Except UsageError String :=
  if value.isEmpty then .error (.valueMissing o.text) else .ok value

/-- Refuses the value for the reason that is given. -/
def refuse {α : Type} (o : ServeOption) (value : String) (read : Except String α) : Except UsageError α :=
  read.mapError fun reason => .valueRefused value o.text reason

end ServeOption

namespace ServeFlags

def empty : ServeFlags := ⟨none, none, none, none, none, none, none, none⟩

def isGiven (f : ServeFlags) : ServeOption → Bool
  | .config => f.config.isSome
  | .bind => f.bind.isSome
  | .backend => f.backend.isSome
  | .hostKey => f.hostKey.isSome
  | .idle => f.idle.isSome
  | .auth => f.auth.isSome
  | .connect => f.connect.isSome
  | .workerThreads => f.workerThreads.isSome

def give (f : ServeFlags) (o : ServeOption) (value : String) : Except UsageError ServeFlags :=
  match o with
  | .config => do pure { f with config := some (← o.path value) }
  | .bind => do pure { f with bind := some (← o.refuse value (address value)) }
  | .backend => do pure { f with backend := some (← o.refuse value (address value)) }
  | .hostKey => do pure { f with hostKey := some (← o.path value) }
  | .idle => do pure { f with idle := some (← o.refuse value (number (Nat.pow 2 64) value)) }
  | .auth => do pure { f with auth := some (← o.refuse value (number (Nat.pow 2 64) value)) }
  | .connect => do pure { f with connect := some (← o.refuse value (number (Nat.pow 2 64) value)) }
  | .workerThreads => do pure { f with workerThreads := some (← o.refuse value (number (Nat.pow 2 64) value)) }

end ServeFlags

def serveGrammar : Grammar ServeOption ServeFlags where
  options := ServeOption.all
  name := ServeOption.name
  short o := if o = .config then some 'c' else none
  standIn? o := some ("NCPROXY_" ++ valueName o.name)
  isGiven := ServeFlags.isGiven
  give := ServeFlags.give
  versioned := false

/-- The one option of hashing is the password. -/
def hashGrammar : Grammar Unit (Option String) where
  options := [()]
  name _ := "password"
  short _ := none
  standIn? _ := some "NCPROXY_PASSWORD"
  isGiven values _ := values.isSome
  give _ _ value := .ok (some value)
  versioned := false

/-- The variables that stand in for options. -/
def standIns : List String :=
  serveGrammar.options.filterMap serveGrammar.standIn?
    ++ hashGrammar.options.filterMap hashGrammar.standIn?

inductive Command where
  | serve (flags : ServeFlags)
  | hashPassword (password : String)
deriving DecidableEq

structure Invocation where
  verbose : Bool
  command : Command
deriving DecidableEq

def commandNames : List String := ["serve", "hash-password", "help"]

/-- Help may be asked for by the name of a command. -/
def help : List String → UsageError
  | [] => .helpRequested
  | [name] => if commandNames.contains name then .helpRequested else .unknownCommand name
  | name :: next :: _ => if commandNames.contains name then .unknownCommand next else .unknownCommand name

/-- Before the command only flags may stand. -/
def mainGrammar : Grammar Empty Unit where
  options := []
  name := Empty.elim
  short := Empty.elim
  standIn? := Empty.elim
  isGiven _ := Empty.elim
  give _ o _ := o.elim
  versioned := true

def readCommand (environment : String → Option String) (verbose : Bool) (name : String) (rest : List String) :
    Except UsageError Invocation :=
  if name = "serve" then do
    let (more, flags) ← serveGrammar.parse environment .empty rest
    pure ⟨verbose || more, .serve flags⟩
  else if name = "hash-password" then do
    let (more, password) ← hashGrammar.parse environment none rest
    match password with
    | some password => pure ⟨verbose || more, .hashPassword password⟩
    | none => .error .requiredMissing
  else if name = "help" then .error (help rest)
  else .error (.unknownCommand name)

/-- What is wrong with a plain word that stands where a command should. After a double
dash the names of commands are plain words. -/
def refuseWord (plainOnly : Bool) (word : String) : UsageError :=
  if plainOnly ∧ commandNames.contains word then .unknownArgument word else .unknownCommand word

def readMain (environment : String → Option String) (p : Progress Empty Unit) :
    List String → Except UsageError Invocation
  | [] => .error (if p.verbose then .commandMissing else .nothingGiven)
  | word :: rest => do
      match ← mainGrammar.readWord p word with
      | some next => readMain environment next rest
      | none =>
          if !p.plainOnly && commandNames.contains word then readCommand environment p.verbose word rest
          else .error (refuseWord p.plainOnly word)

def parse (environment : String → Option String) (words : List String) : Except UsageError Invocation :=
  readMain environment ⟨false, (), none, false⟩ words

end NetconfGate.CommandLine

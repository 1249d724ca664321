import NetconfGate.CommandLine.Command
import NetconfGate.Configuration
import NetconfGate.Password.Table
import NetconfGate.Settings.File

/-!
# Layered settings

A setting is taken from the command line or a variable, else from the settings
file, else it has a default or stays open. Users come from the file alone.
-/

namespace NetconfGate

/-- What serving goes by. -/
structure Settings where
  bind : Address
  backend : Address
  hostKey : String
  idle : Duration
  auth : Option Duration
  connect : Option Duration
  workerThreads : Option Nat
  users : List Settings.User
deriving DecidableEq

namespace Settings

open CommandLine (ServeFlags)

def defaultBind : Address := Address.anyInterface 830
def defaultHostKey : String := "ncproxy_host_ed25519"

/-- Why there are no settings. -/
inductive Error where
  | file (error : File.Error)
  | noBackend

def Error.message : Error → String
  | .file error => error.message
  | .noBackend => "No backend address configured (use --backend or \x60backend:\x60 in the config file)"

def Error.causes : Error → List String
  | .file error => error.causes
  | .noBackend => []

/-- The flags lie over the file. -/
def layer (flags : ServeFlags) (file : File) : Except Error Settings :=
  match flags.backend.or file.backend with
  | none => .error .noBackend
  | some backend => .ok {
      bind := (flags.bind.or file.bind).getD defaultBind
      backend := backend
      hostKey := (flags.hostKey.or file.hostKey).getD defaultHostKey
      idle := ((flags.idle.or file.idle).map Duration.ofSeconds).getD defaultIdleTimeout
      auth := (flags.auth.or file.auth).map Duration.ofSeconds
      connect := (flags.connect.or file.connect).map Duration.ofSeconds
      workerThreads := flags.workerThreads.or file.workerThreads
      users := file.users }

/-- The file that the flags name, or an empty one. -/
def readFile (tree : FileTree) (flags : ServeFlags) : Except Error File :=
  match flags.config with
  | some path => (File.load tree path).mapError .file
  | none => .ok .empty

def resolve (tree : FileTree) (flags : ServeFlags) : Except Error Settings := do
  layer flags (← readFile tree flags)

theorem layer_eq_ok_iff (flags : ServeFlags) (file : File) :
    (∃ s, layer flags file = .ok s) ↔ (flags.backend.or file.backend).isSome := by
  unfold layer
  cases flags.backend.or file.backend <;> simp

/-- The first user whose stored hash is not one. -/
structure UserError where
  user : String
  error : Password.Error

def UserError.message (e : UserError) : String := "Invalid password hash for user '" ++ e.user ++ "'"

def addUser (t : Password.Table) (u : User) : Except UserError Password.Table :=
  (t.add u.name u.hash).mapError fun error => ⟨u.name, error⟩

def credentials (s : Settings) : Except UserError Password.Table := s.users.foldlM addUser .empty

end Settings

end NetconfGate

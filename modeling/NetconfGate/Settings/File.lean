import NetconfGate.Address
import NetconfGate.Yaml.Decoding
import NetconfGate.SystemError
import NetconfGate.FileTree

/-!
# The settings file

A mapping from known names to values. Each name occurs once at most and no other
name occurs, in the file as in each of its user entries. A value may be left out
or empty, except in user entries, which give both of theirs.
-/

namespace NetconfGate.Settings

/-- A user and the stored form of the password. -/
structure User where
  name : String
  hash : String
deriving DecidableEq

structure File where
  bind : Option Address
  backend : Option Address
  hostKey : Option String
  /-- Timeouts are whole seconds. -/
  idle : Option Nat
  auth : Option Nat
  connect : Option Nat
  workerThreads : Option Nat
  users : List User
deriving DecidableEq

namespace File

open Yaml (Node Document)
open Yaml.Decoding

def empty : File := ⟨none, none, none, none, none, none, none, []⟩

inductive Field where
  | bind
  | backend
  | hostKey
  | idle
  | auth
  | connect
  | workerThreads
  | users
deriving DecidableEq

def Field.name : Field → String
  | .bind => "bind"
  | .backend => "backend"
  | .hostKey => "host_key"
  | .idle => "idle_timeout_secs"
  | .auth => "auth_timeout_secs"
  | .connect => "connect_timeout_secs"
  | .workerThreads => "worker_threads"
  | .users => "users"

def Field.all : List Field :=
  [.bind, .backend, .hostKey, .idle, .auth, .connect, .workerThreads, .users]

def Field.names : List String := Field.all.map Field.name

def Field.ofName? (name : String) : Option Field := Field.all.find? fun f => f.name = name

theorem Field.ofName?_name (f : Field) : Field.ofName? f.name = some f := by cases f <;> decide

def address (d : Document) (path : Option String) (node : Node) : Except Fault Address := do
  let (text, mark) ← text d path "socket address" node
  match Address.parse? (String.ofList text) with
  | some a => pure a
  | none => .error (.value (.addressSyntax Address.syntaxMessage) ⟨path, mark⟩)

def keyPath (d : Document) (path : Option String) (node : Node) : Except Fault String := do
  let (text, _) ← text d path "path string" node
  pure (String.ofList text)

inductive UserField where
  | name
  | hash
deriving DecidableEq

def UserField.text : UserField → String
  | .name => "username"
  | .hash => "password_hash"

def UserField.names : List String := [UserField.text .name, UserField.text .hash]

/-- What is known of a user. -/
structure UserDraft where
  name : Option String
  hash : Option String

def UserDraft.complete (u : UserDraft) (spot : Spot) : Except Fault User :=
  match u.name, u.hash with
  | some name, some hash => .ok ⟨name, hash⟩
  | none, _ => .error (.value (.missingField (UserField.text .name)) spot)
  | _, none => .error (.value (.missingField (UserField.text .hash)) spot)

def userEntry (d : Document) (spot : Spot) (u : UserDraft) (entry : Node × Node) : Except Fault UserDraft := do
  let (name, path) ← fieldName d spot UserField.names entry.1
  if name = UserField.text .name then
    if u.name.isSome then .error (.value (.duplicateField name) spot)
    else
      let (value, _) ← text d path "a string" entry.2
      pure { u with name := some (String.ofList value) }
  else
    if u.hash.isSome then .error (.value (.duplicateField name) spot)
    else
      let (value, _) ← text d path "a string" entry.2
      pure { u with hash := some (String.ofList value) }

def user (d : Document) (path : Option String) (node : Node) : Except Fault User := do
  let (entries, spot) ← entries d path "struct UserEntry" node
  let draft ← entries.foldlM (userEntry d spot) ⟨none, none⟩
  draft.complete spot

def usersFrom (d : Document) (path : Option String) : Nat → List Node → Except Fault (List User)
  | _, [] => .ok []
  | index, node :: rest => do
      let first ← user d (Spot.item path index) node
      let more ← usersFrom d path (index + 1) rest
      pure (first :: more)

def userList (d : Document) (path : Option String) (node : Node) : Except Fault (List User) := do
  usersFrom d path 0 (← items d path node)

/-- Sets one field. `outer` is the spot of the whole mapping. -/
def set (d : Document) (outer : Spot) (path : Option String) (node : Node) (f : File) :
    Field → Except Fault File
  | .bind => do pure { f with bind := ← optional d outer (address d path) node }
  | .backend => do pure { f with backend := ← optional d outer (address d path) node }
  | .hostKey => do pure { f with hostKey := ← optional d outer (keyPath d path) node }
  | .idle => do pure { f with idle := ← optional d outer (number d path "u64") node }
  | .auth => do pure { f with auth := ← optional d outer (number d path "u64") node }
  | .connect => do pure { f with connect := ← optional d outer (number d path "u64") node }
  | .workerThreads => do pure { f with workerThreads := ← optional d outer (number d path "usize") node }
  | .users => do pure { f with users := ← userList d path node }

/-- One entry. `seen` are the fields before it. -/
def entry (d : Document) (outer : Spot) (state : List Field × File) (pair : Node × Node) :
    Except Fault (List Field × File) := do
  let (name, path) ← fieldName d outer Field.names pair.1
  match Field.ofName? name with
  | none => .error (.value (.unknownField name.toList Field.names) outer)
  | some field =>
      if state.1.contains field then .error (.value (.duplicateField name) outer)
      else
        let file ← set d outer path pair.2 state.2 field
        pure (field :: state.1, file)

def ofDocument (d : Document) : Except Fault File := do
  let (entries, spot) ← entries d none "struct FileConfig" d.root
  let (_, file) ← entries.foldlM (entry d spot) ([], empty)
  match d.fault with
  | some fault => .error (.document fault)
  | none => if d.followed then .error .severalDocuments else pure file

/-- The file's settings, if its text is a document of the right shape. -/
def parse (text : String) : Except Fault File := ofDocument (Document.ofText text)

/-- Why a settings file is not usable. -/
inductive Error where
  | unreadable (path : String) (reason : SystemError)
  | malformed (path : String) (fault : Fault)

def Error.message : Error → String
  | .unreadable path _ => "Failed to read config file " ++ path
  | .malformed path _ => "Failed to parse config file " ++ path

/-- What lies behind the message. -/
def Error.causes : Error → List String
  | .unreadable _ reason => [reason.message]
  | .malformed _ fault => [fault.text]

def load (tree : FileTree) (path : String) : Except Error File := do
  let text ← (tree.readText path).mapError (.unreadable path)
  (parse text).mapError (.malformed path)

end File

end NetconfGate.Settings

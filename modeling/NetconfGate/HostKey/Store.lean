import NetconfGate.FileTree
import NetconfGate.HostKey.Armour

/-!
# Where host keys come from

Keys are held in memory, or read from a file that is written with a new key when
it is missing and that is allowed, or come from a source of the caller's own. A
new key's file gets its missing directories first, then the text of the key, then
a mode that keeps it to its owner.
-/

namespace NetconfGate.HostKey

inductive Source where
  | memory (keys : List HostKey)
  | file (path : String) (existingOnly : Bool)
  /-- What a source of the caller's own answers. -/
  | foreign (answer : Except Error (List HostKey))

/-- What is told about a load while it goes on. -/
inductive Note where
  | loading (path : String)
  | generating (path : String)
deriving DecidableEq

/-- One call in the writing of a new key. -/
inductive Write where
  | directories (path : String)
  | create (path : String)
  | fill (path : String) (content : Bytes)
  | protect (path : String)
deriving DecidableEq

namespace Write

/-- Directories that were made stay when a later one fails. -/
def apply (mask : Nat) (t : FileTree) : Write → FileTree × Option SystemError
  | directories path => FileTree.makeDirectories (path.length + 2) t path
  | create path => settle t (t.create mask path)
  | fill path content => settle t (t.fill path content)
  | protect path => settle t (t.setMode path 0o600)
where
  settle (t : FileTree) : Except SystemError FileTree → FileTree × Option SystemError
    | .ok changed => (changed, none)
    | .error e => (t, some e)

/-- Call after call to the first that fails. The world outside may fail a call:
`faults` lists, call by call, the error that it forces. -/
def run (mask : Nat) (faults : List (Option SystemError)) (t : FileTree) :
    List Write → FileTree × Option SystemError
  | [] => (t, none)
  | w :: rest =>
      match faults.headD none with
      | some e => (t, some e)
      | none =>
          match w.apply mask t with
          | (t, some e) => (t, some e)
          | (t, none) => run mask faults.tail t rest

end Write

/-- The calls that write a new key to a path. -/
def writes (path : String) (content : Bytes) : List Write :=
  (match FileTree.parent? path with
    | some above => if above = "" then [] else [.directories above]
    | none => [])
  ++ [.create path, .fill path content, .protect path]

/-- A number that depends on the seed. -/
def checkNumber (seed : Bytes) : Nat := Bytes.toNat (seed.take 4)

structure Load where
  result : Except Error (List HostKey)
  tree : FileTree
  notes : List Note

/-- Writes the key of a fresh seed. -/
def generate (mask : Nat) (seed : Bytes) (t : FileTree) (path : String) : Load :=
  let key := ofSeed seed
  let content := Bytes.ofText (Armour.encode (checkNumber seed) key)
  match Write.run mask [] t (writes path content) with
  | (t, none) => ⟨.ok [key], t, [.generating path]⟩
  | (t, some e) => ⟨.error (.access path e), t, [.generating path]⟩

namespace Source

/-- `seed` is what a new key would be made of. -/
def load (mask : Nat) (seed : Bytes) (t : FileTree) : Source → Load
  | memory keys => ⟨if keys.isEmpty then .error .empty else .ok keys, t, []⟩
  | file path existingOnly =>
      match t.readText path with
      | .ok text =>
          let result := match Armour.decode text with
            | .ok key => .ok [key]
            | .error fault => .error (.decode path fault)
          ⟨result, t, [.loading path]⟩
      | .error e =>
          if e.isNotFound && !existingOnly then generate mask seed t path
          else ⟨.error (.access path e), t, []⟩
  | foreign answer => ⟨answer, t, []⟩

end Source

end NetconfGate.HostKey

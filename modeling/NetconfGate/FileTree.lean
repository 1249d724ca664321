import NetconfGate.Bytes
import NetconfGate.SystemError
import NetconfGate.Text.Lines

/-!
# File trees

Files, directories and symbolic links under one top. A path is taken from the
working directory, name by name; a link on the way is followed, and so is one at
its end where the call says so. Each call changes one thing or fails with the
system's number, and nothing is changed by a call that fails.
-/

namespace NetconfGate

/-- Names from the top down. -/
abbrev Location := List String

/-- What a name leads to. -/
inductive Entity where
  | directory
  | file (content : Bytes) (mode : Nat)
  | link (target : String)
deriving DecidableEq

structure FileTree where
  nodes : List (Location × Entity)
deriving DecidableEq

namespace FileTree

/-- Where paths start. -/
def home : Location := ["home"]

def empty : FileTree := ⟨[]⟩

/-- The top and the working directory are always there. -/
def node? (t : FileTree) (l : Location) : Option Entity :=
  if l = [] ∨ l = home then some .directory else t.nodes.lookup l

def isDirectoryAt (t : FileTree) (l : Location) : Bool := t.node? l = some .directory

/-- Puts a node at a location, in the place of what was there. -/
def put (t : FileTree) (l : Location) (n : Entity) : FileTree :=
  ⟨(t.nodes.filter fun entry => entry.1 ≠ l) ++ [(l, n)]⟩

theorem node?_put (t : FileTree) (l : Location) (n : Entity) (h : l ≠ []) (h' : l ≠ home) :
    (t.put l n).node? l = some n := by
  simp only [node?, put, h, h', or_self, ↓reduceIte]
  induction t.nodes with
  | nil => simp
  | cons entry rest ih =>
      obtain ⟨key, value⟩ := entry
      by_cases same : key = l
      · simpa [same] using ih
      · have other : (l == key) = false := by simp [Ne.symm same]
        simpa [same, List.lookup_cons, other] using ih

def tooLongName : SystemError := .code 36

/-- The names between the slashes; a slash at an end leaves an empty name there. -/
def names (path : String) : List String := (Text.pieces '/' path.toList).map String.ofList

/-- A path without the slashes at its end. -/
def trimmed (path : String) : String :=
  String.ofList (path.toList.reverse.dropWhile (· = '/')).reverse

def isAbsolute (path : String) : Bool := path.startsWith "/"

def startOf (path : String) (base : Location) : Location := if isAbsolute path then [] else base

/-- Walks the names from a location. `links` is how many links may still be
followed; the last name may be one that is not there. -/
def walk (t : FileTree) (follow : Bool) :
    Nat → Location → List String → Except SystemError Location
  | _, here, [] => .ok here
  | links, here, name :: rest =>
      match t.node? here with
      | none => .error .noEntry
      | some (.file _ _) => .error .notDirectory
      | some (.link _) => .error .notDirectory
      | some .directory =>
          if name = "" ∨ name = "." then walk t follow links here rest
          else if name = ".." then walk t follow links here.dropLast rest
          else if name.utf8ByteSize > 255 then .error tooLongName
          else
            match t.node? (here ++ [name]) with
            | some (.link target) =>
                if follow || !rest.isEmpty then
                  match links with
                  | 0 => .error .loopOfLinks
                  | links + 1 => walk t follow links (startOf target here) (names target ++ rest)
                else .ok (here ++ [name])
            | _ => walk t follow links (here ++ [name]) rest
termination_by links _ rest => (links, rest.length)

/-- The text cannot be handed to the system. -/
def invalidPath : SystemError := .custom .invalidInput "file name contained an unexpected NUL byte"

def checkPath (path : String) : Except SystemError Unit :=
  if '\x00' ∈ path.toList then .error invalidPath
  else if path = "" then .error .noEntry
  else if path.utf8ByteSize ≥ 4096 then .error tooLongName else .ok ()

def locate (t : FileTree) (follow : Bool) (path : String) : Except SystemError Location := do
  checkPath path
  walk t follow 40 (startOf path home) (names path)

/-- The whole content of a file. -/
def read (t : FileTree) (path : String) : Except SystemError Bytes := do
  let l ← t.locate true path
  match t.node? l with
  | some (.file content _) => .ok content
  | some .directory => .error .isDirectory
  | _ => .error .noEntry

def endsWithSlash (path : String) : Bool := path.endsWith "/"

/-- Opens a file for writing: an existing one is emptied and keeps its mode, a
new one gets what the mask leaves of the mode 0666. -/
def create (t : FileTree) (mask : Nat) (path : String) : Except SystemError FileTree := do
  checkPath path
  let target := if endsWithSlash path then trimmed path else path
  let l ← walk t true 40 (startOf path home) (names target)
  match t.node? l with
  | some .directory => .error .isDirectory
  | some (.file _ mode) =>
      if endsWithSlash path then .error .isDirectory else .ok (t.put l (.file [] mode))
  | some (.link _) => .error .loopOfLinks
  | none =>
      if endsWithSlash path then .error .isDirectory
      else if t.isDirectoryAt l.dropLast then .ok (t.put l (.file [] (0o666 - (0o666 &&& mask))))
      else .error .noEntry

/-- Fills a file that was opened. -/
def fill (t : FileTree) (path : String) (content : Bytes) : Except SystemError FileTree := do
  let l ← t.locate true path
  match t.node? l with
  | some (.file _ mode) => .ok (t.put l (.file content mode))
  | _ => .error .noEntry

def setMode (t : FileTree) (path : String) (mode : Nat) : Except SystemError FileTree := do
  let l ← t.locate true path
  match t.node? l with
  | some (.file content _) => .ok (t.put l (.file content mode))
  | some .directory => .ok t
  | _ => .error .noEntry

/-- Makes one directory; a link in its place is not followed. -/
def makeDirectory (t : FileTree) (path : String) : Except SystemError FileTree := do
  checkPath path
  let l ← walk t false 40 (startOf path home) (names (trimmed path))
  match t.node? l with
  | some _ => .error .entryExists
  | none => if t.isDirectoryAt l.dropLast then .ok (t.put l .directory) else .error .noEntry

def isDirectory (t : FileTree) (path : String) : Bool :=
  match t.locate true path with
  | .ok l => t.isDirectoryAt l
  | .error _ => false

/-- Its names without empty ones and dots, a dot in front apart. -/
def components (path : String) : List String :=
  let kept := (names path).filter fun name => name ≠ "" ∧ name ≠ "."
  if path.startsWith "./" ∨ path = "." then "." :: kept else kept

/-- What is left of a path without its last component. -/
def parent? (path : String) : Option String :=
  match components path with
  | [] => none
  | parts =>
      let text := String.intercalate "/" parts.dropLast
      some (if isAbsolute path then "/" ++ text else text)

/-- Makes a directory and those above it that are missing. `fuel` bounds how many. -/
def makeDirectories : Nat → FileTree → String → FileTree × Option SystemError
  | 0, t, _ => (t, some .noEntry)
  | fuel + 1, t, path =>
      if path = "" then (t, none)
      else match t.makeDirectory path with
        | .ok t => (t, none)
        | .error first =>
            if first.isNotFound then
              match parent? path with
              | none => (t, some (.custom .uncategorized "failed to create whole tree"))
              | some above =>
                  match makeDirectories fuel t above with
                  | (t, some e) => (t, some e)
                  | (t, none) =>
                      match t.makeDirectory path with
                      | .ok t => (t, none)
                      | .error second => (t, if t.isDirectory path then none else some second)
            else (t, if t.isDirectory path then none else some first)

/-- The paths of everything under the working directory, in order. -/
def paths (t : FileTree) : List String :=
  let inside := t.nodes.filterMap fun entry =>
    if home.isPrefixOf entry.1 ∧ entry.1 ≠ home then
      some (String.intercalate "/" (entry.1.drop home.length)) else none
  inside.mergeSort fun a b => decide (a ≤ b)

/-- The mode of the file that a path leads to. -/
def mode? (t : FileTree) (path : String) : Option Nat :=
  match t.locate true path with
  | .ok l => match t.node? l with
    | some (.file _ mode) => some mode
    | _ => none
  | .error _ => none

/-- The bytes of a text file have to be text. -/
def notText : SystemError := .custom .invalidData "stream did not contain valid UTF-8"

def readText (t : FileTree) (path : String) : Except SystemError String := do
  let bytes ← t.read path
  match bytes.text? with
  | some text => .ok text
  | none => .error notText

/-- Puts a node at a path with every directory above it. -/
def plant (t : FileTree) (path : String) (n : Entity) : FileTree :=
  let parts := home ++ components path
  let above := (List.range parts.length).filter fun i => home.length < i
  let t := above.foldl
    (fun t i => if (t.node? (parts.take i)).isSome then t else t.put (parts.take i) .directory) t
  t.put parts n

end FileTree

end NetconfGate

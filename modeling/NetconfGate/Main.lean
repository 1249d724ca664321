import NetconfGate.Program.Basic

/-!
# The command

Reads the variables and the files that a command line is about, runs the
program on them, and writes out what it comes to. The command opens no sockets
itself: it serves up to the point where it would listen.
-/

namespace NetconfGate.Program

/-- There is no call for it here. -/
def notImplemented : SystemError := .code 38

def levelText : Level → String
  | .debug => "DEBUG "
  | .info => " INFO "
  | .warn => " WARN "

/-- The paths that a run may read. -/
def pathsOf (command : CommandLine.Command) (tree : FileTree) : List String :=
  match command with
  | .hashPassword _ => []
  | .serve flags =>
      match Settings.resolve tree flags with
      | .ok s => [s.hostKey]
      | .error _ => []

def configPath? (command : CommandLine.Command) : Option String :=
  match command with
  | .hashPassword _ => none
  | .serve flags => flags.config

/-- Puts what is stored under a path into the tree. What is there and cannot be
read stands as a directory. -/
def fetch (tree : FileTree) (path : String) : IO FileTree := do
  try
    let content ← IO.FS.readBinFile path
    pure (tree.plant path (.file content.toList 0o600))
  catch
    | .noFileOrDirectory .. => pure tree
    | _ => pure (tree.plant path .directory)

/-- Writes a file that only the run's own tree holds, for its owner alone. -/
def store (before after : FileTree) (path : String) : IO Unit := do
  match before.read path, after.read path with
  | .error _, .ok content =>
      match FileTree.parent? path with
      | some above => if above != "" then IO.FS.createDirAll above
      | none => pure ()
      IO.FS.writeBinFile path ⟨content.toArray⟩
      IO.setAccessRights path ⟨⟨true, true, false⟩, ⟨false, false, false⟩, ⟨false, false, false⟩⟩
  | _, _ => pure ()

/-- The files for a command line: first the settings file, then the host key that
the settings name. -/
def gather (environment : String → Option String) (words : List String) : IO (FileTree × List String) := do
  match CommandLine.parse environment words with
  | .error _ => pure (.empty, [])
  | .ok invocation =>
      let tree ← (configPath? invocation.command).toList.foldlM fetch FileTree.empty
      let paths := pathsOf invocation.command tree
      let tree ← paths.foldlM fetch tree
      pure (tree, paths)

end NetconfGate.Program

open NetconfGate in
def main (words : List String) : IO UInt32 := do
  let values ← CommandLine.standIns.filterMapM fun name => do
    pure ((← IO.getEnv name).map fun value => (name, value))
  let environment (name : String) : Option String := values.lookup name
  let (tree, paths) ← Program.gather environment words
  let seed ← IO.getRandomBytes 32
  let salt ← IO.getRandomBytes 16
  let run := Program.run
    { environment := environment
      tree := tree
      mask := 0o22
      seed := seed.toList
      salt := salt.toList
      socket := fun _ _ => .failed Program.notImplemented
      signal := .ok .terminate } words
  for path in paths do
    Program.store tree run.tree path
  for line in run.log do
    IO.println (Program.levelText line.level ++ line.text)
  for line in run.output do
    IO.println line
  match run.exit with
  | .usage _ => IO.eprintln run.exit.errorText
  | _ => IO.eprint run.exit.errorText
  pure (UInt32.ofNat run.exit.code)

import NetconfGate.Password.Verify
import NetconfGate.Program.Serve

/-!
# The program

A command line is read and carried out. It ends well, with a report of what
went wrong, with a word on its usage, or, when the pool cannot have the number
of threads that is asked for, not in an orderly way at all.
-/

namespace NetconfGate.Program

inductive Exit where
  | success
  | failure (failure : Failure)
  | usage (error : CommandLine.UsageError)
  | panicked
deriving DecidableEq

/-- What stands at the head of the usage. -/
def about : String := "SSH-terminating NETCONF proxy"

namespace Exit

def code : Exit → Nat
  | success => 0
  | failure _ => 1
  | usage .helpRequested => 0
  | usage .versionRequested => 0
  | usage _ => 2
  | panicked => 101

/-- What is written to the error output, of a word on the usage its first line. -/
def errorText : Exit → String
  | success => ""
  | failure f => f.report
  | usage .helpRequested => ""
  | usage .versionRequested => ""
  | usage e => e.firstLine.getD about
  | panicked => ""

end Exit

/-- A whole run: how it ended, what it wrote, the files as it left them, its log
without what is told of single clients, and where it listened. -/
structure Run where
  exit : Exit
  output : List String
  tree : FileTree
  log : List Line
  listened : Option Address

def starting : Line := .info "ncproxy 0.1.0 (unknown) starting..."

/-- The threads of a pool are kept in a row, which has room for so many. -/
def mostThreads : Nat := Nat.pow 2 60 - 1

/-- No threads are none to ask for. That there are too many comes out when the row
is laid, after all else that the pool needs was had or `trouble` has kept it from
being built. -/
def poolStarts (trouble : Option SystemError) (threads : Option Nat) : Bool :=
  threads.all fun n => 0 < n && (trouble.isSome || n ≤ mostThreads)

def runServe (o : Outside) (flags : CommandLine.ServeFlags) : Run :=
  match Settings.resolve o.tree flags with
  | .error e => ⟨.failure ⟨e.message, e.causes⟩, [], o.tree, [], none⟩
  | .ok s =>
      if poolStarts o.pool s.workerThreads then
        match o.pool with
        | some e => ⟨.failure ⟨"Failed to build worker pool", [e.message]⟩, [], o.tree, [starting], none⟩
        | none =>
            let course := serve o s
            let exit := match course.result with
              | .ok _ => .success
              | .error f => .failure f
            ⟨exit, [], course.tree, starting :: course.log, course.listened⟩
      else ⟨.panicked, [], o.tree, [starting], none⟩

def runCommand (o : Outside) : CommandLine.Command → Run
  | .hashPassword password => ⟨.success, [Password.hash o.salt password], o.tree, [], none⟩
  | .serve flags => runServe o flags

/-- Details are logged only when they were asked for. -/
def run (o : Outside) (words : List String) : Run :=
  match CommandLine.parse o.environment words with
  | .error e => ⟨.usage e, [], o.tree, [], none⟩
  | .ok invocation =>
      let run := runCommand o invocation.command
      { run with log := run.log.filter (Line.isShown invocation.verbose) }

end NetconfGate.Program

import NetconfGate.Text.Lines

/-!
# Usage errors

Why a command line is not carried out. Asking for help or for the version ends
it as well, and so does a line that says nothing at all.
-/

namespace NetconfGate.CommandLine

inductive UsageError where
  | helpRequested
  | versionRequested
  | nothingGiven
  | commandMissing
  | unknownCommand (word : String)
  | unknownArgument (word : String)
  | repeated (option : String)
  | valueMissing (option : String)
  | valueUnneeded (value option : String)
  | valueRefused (value option reason : String)
  | requiredMissing
deriving DecidableEq

namespace UsageError

/-- Help and version texts are not part of it. -/
def message : UsageError → Option String
  | .helpRequested => none
  | .versionRequested => none
  | .nothingGiven => none
  | .commandMissing => some "error: 'ncproxy' requires a subcommand but one was not provided"
  | .unknownCommand word => some ("error: unrecognized subcommand '" ++ word ++ "'")
  | .unknownArgument word => some ("error: unexpected argument '" ++ word ++ "' found")
  | .repeated option => some ("error: the argument '" ++ option ++ "' cannot be used multiple times")
  | .valueMissing option =>
      some ("error: a value is required for '" ++ option ++ "' but none was supplied")
  | .valueUnneeded value option =>
      some ("error: unexpected value '" ++ value ++ "' for '" ++ option ++ "' found; no more were expected")
  | .valueRefused value option reason =>
      some ("error: invalid value '" ++ value ++ "' for '" ++ option ++ "': " ++ reason)
  | .requiredMissing => some "error: the following required arguments were not provided:"

/-- Words of the command line may bring line ends into the message. -/
def firstLine (e : UsageError) : Option String :=
  e.message.map fun text => String.ofList ((Text.lines text.toList).headD [])

end UsageError

end NetconfGate.CommandLine

/-!
# Session faults

How a running SSH session can fail.
-/

namespace NetconfGate.Secure

inductive Fault where
  /-- Nothing came from the client for as long as it may be idle. -/
  | inactivity
deriving DecidableEq

namespace Fault

def reason : Fault → String
  | inactivity => "Inactivity timeout"

def message (f : Fault) : String := "SSH error: " ++ f.reason

def causes (f : Fault) : List String := [f.reason]

end Fault

end NetconfGate.Secure

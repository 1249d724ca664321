import NetconfGate.Address
import NetconfGate.SystemError

/-!
# Channel errors

What can go wrong with listening, dialling and the sessions they make. A failed
bind says what to look at next.
-/

namespace NetconfGate.Channel

inductive Error where
  | system (cause : SystemError)
  | bind (host : String) (port : Nat) (reason : String)
  | connect (address : Address) (cause : SystemError)
  /-- No group can be made of what was given. -/
  | group (reason : String)
  | groupShutdown
  | alreadyBound (address : Address)
  | interrupted (reason : String)
  | session (reason : String)
  | configuration (reason : String)
deriving DecidableEq

namespace Error

def message : Error → String
  | system cause => "IO error: " ++ cause.message
  | bind host port reason =>
      "Failed to bind to " ++ host ++ ": " ++ reason ++ "\n\nTroubleshooting:\n"
        ++ "  • Check if another process is using this port: lsof -i :" ++ toString port ++ "\n"
        ++ "  • Try using a different address or port"
  | connect address cause => "Failed to connect to " ++ address.text ++ ": " ++ cause.message
  | group reason => "Channel group could not be created: " ++ reason
  | groupShutdown => "Channel group has been shut down"
  | alreadyBound address => "Acceptor is already bound to " ++ address.text
  | interrupted reason => "Interrupted: " ++ reason
  | session reason => "Session error: " ++ reason
  | configuration reason => "Configuration error: " ++ reason

/-- What is behind it, the nearest cause first. -/
def causes : Error → List String
  | system cause => [cause.message]
  | connect _ cause => [cause.message]
  | _ => []

/-- A socket that could not listen on `address`. -/
def ofSocket (address : Address) (cause : SystemError) : Error :=
  .bind address.ip.text address.port.toNat cause.message

end Error

end NetconfGate.Channel

import NetconfGate.Channel.Error
import NetconfGate.Configuration
import NetconfGate.HostKey.Fault

/-!
# Server errors

One constructor for each stage at which a server can fail to listen, and the
refusals of a server that listens already or is closed.
-/

namespace NetconfGate.Server

inductive Error where
  | configuration (cause : ConfigurationError)
  | hostKey (cause : HostKey.Error)
  | resources (cause : Channel.Error)
  | bind (cause : Channel.Error)
  | transport (cause : Channel.Error)
  | alreadyBound (address : Address)
  | closed
  | shutdownInterrupted (reason : String)
deriving DecidableEq

namespace Error

def message : Error → String
  | configuration cause => "Invalid configuration: " ++ cause.message
  | hostKey cause => "Host key error: " ++ cause.message
  | resources cause => "Failed to create I/O resources: " ++ cause.message
  | bind cause => cause.message
  | transport cause => "Transport setup failed: " ++ cause.message
  | alreadyBound address => "Proxy server is already bound to " ++ address.text
  | closed => "Proxy server is closed"
  | shutdownInterrupted reason => "Shutdown interrupted: " ++ reason

/-- What is behind it, the nearest cause first. -/
def causes : Error → List String
  | configuration cause => [cause.message]
  | hostKey cause => cause.message :: cause.causes
  | resources cause => cause.message :: cause.causes
  | bind cause => cause.message :: cause.causes
  | transport cause => cause.message :: cause.causes
  | _ => []

end Error

end NetconfGate.Server

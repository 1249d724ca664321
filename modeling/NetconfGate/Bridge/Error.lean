import NetconfGate.Channel.Error

/-!
# Bridge errors

A bridge fails because its backend cannot be had, because a copy from one side
to the other fails, or because it has no backend to copy to.
-/

namespace NetconfGate.Bridge

inductive Error where
  | backendUnavailable (address : Address) (cause : Channel.Error)
  | relay (cause : SystemError)
  | notConnected
deriving DecidableEq

namespace Error

def message : Error → String
  | backendUnavailable address cause =>
      "Backend " ++ address.text ++ " unavailable: " ++ cause.message
  | relay cause => "Relay failed: " ++ cause.message
  | notConnected => "Backend connection not established"

def causes : Error → List String
  | backendUnavailable _ cause => cause.message :: cause.causes
  | relay cause => [cause.message]
  | notConnected => []

end Error

end NetconfGate.Bridge

import NetconfGate.Configuration
import NetconfGate.HostKey.Basic
import NetconfGate.Text.Quoted

/-!
# Transport setup

What a secure transport is given when a server starts to listen: the ciphers
that the policy left, the host keys, the timeouts, and the names of the
subsystems that a client may ask for.
-/

namespace NetconfGate.Secure

structure Setup where
  ciphers : List String
  hostKeys : List HostKey
  timeouts : Timeouts
  subsystems : List String

namespace Setup

/-- The place of the first subsystem that has the name. -/
def subsystem? (s : Setup) (name : String) : Option Nat :=
  s.subsystems.findIdx? (· == name)

/-- The keys are only counted. -/
def text (s : Setup) : String :=
  Text.Record.line
    ⟨"TransportSettings",
      [("ciphers", Text.quotedList s.ciphers), ("host_keys", toString s.hostKeys.length),
        ("properties", s.timeouts.text), ("subsystems", Text.quotedList s.subsystems)],
      true⟩

end Setup

end NetconfGate.Secure

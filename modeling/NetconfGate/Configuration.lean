import NetconfGate.Address
import NetconfGate.Duration
import NetconfGate.Text.Record

/-!
# Configuration

What one listener needs. A draft collects settings in any order, a later value
for a field replacing an earlier one; completing it names the first required
field that is missing and fills in the timeouts that were not given: a login
may take as long as an idle session lasts, and a dial no longer than that or
ten seconds. Timeouts are usable when none of them is zero.
-/

namespace NetconfGate

/-- Why a configuration cannot be used. -/
inductive ConfigurationError where
  | missingField (name : String)
  | zeroTimeout (name : String)
deriving DecidableEq

def ConfigurationError.message : ConfigurationError → String
  | .missingField name => "Missing required configuration field: " ++ name
  | .zeroTimeout name => "Invalid " ++ name ++ ": must be greater than zero"

def defaultIdleTimeout : Duration := .ofSeconds 600
def defaultConnectTimeout : Duration := .ofSeconds 10

/-- The three limits a transport is given. -/
structure Timeouts where
  idle : Duration
  auth : Duration
  connect : Duration
deriving DecidableEq

namespace Timeouts

/-- Names the first zero among idle, auth and connect. -/
def validate (t : Timeouts) : Except ConfigurationError Unit :=
  if t.idle.isZero then .error (.zeroTimeout "idle_timeout")
  else if t.auth.isZero then .error (.zeroTimeout "auth_timeout")
  else if t.connect.isZero then .error (.zeroTimeout "connect_timeout")
  else .ok ()

theorem validate_eq_ok_iff (t : Timeouts) :
    t.validate = .ok () ↔ t.idle.isZero = false ∧ t.auth.isZero = false ∧ t.connect.isZero = false := by
  unfold validate
  cases t.idle.isZero <;> cases t.auth.isZero <;> cases t.connect.isZero <;> simp

def parts (t : Timeouts) : List (String × String) :=
  [("idle_timeout", t.idle.text), ("auth_timeout", t.auth.text), ("connect_timeout", t.connect.text)]

def text (t : Timeouts) : String := Text.Record.line ⟨"TransportProperties", t.parts, false⟩

end Timeouts

/-- `α` is what answers logins and `κ` where host keys come from. -/
structure Configuration (α κ : Type) where
  bindingAddress : Address
  backendAddress : Address
  authenticator : α
  keySource : κ
  timeouts : Timeouts

namespace Configuration

variable {α κ : Type}

def record (c : Configuration α κ) : Text.Record where
  name := "ProxyConfiguration"
  parts := [("binding_address", c.bindingAddress.text), ("backend_address", c.backendAddress.text)]
    ++ c.timeouts.parts
  abridged := true

/-- The timeouts for the transport, once they are known to be usable. -/
def usableTimeouts (c : Configuration α κ) : Except ConfigurationError Timeouts :=
  c.timeouts.validate.map fun _ => c.timeouts

/-- A configuration on its way. -/
structure Draft (α κ : Type) where
  bindingAddress : Option Address
  backendAddress : Option Address
  authenticator : Option α
  keySource : Option κ
  idle : Option Duration
  auth : Option Duration
  connect : Option Duration

/-- One setting of a draft. -/
inductive Setting (α κ : Type) where
  | bindingAddress (address : Address)
  | backendAddress (address : Address)
  | authenticator (authenticator : α)
  | keySource (source : κ)
  | idle (timeout : Duration)
  | auth (timeout : Duration)
  | connect (timeout : Duration)

namespace Draft

def empty : Draft α κ := ⟨none, none, none, none, none, none, none⟩

def set (d : Draft α κ) : Setting α κ → Draft α κ
  | .bindingAddress address => { d with bindingAddress := some address }
  | .backendAddress address => { d with backendAddress := some address }
  | .authenticator authenticator => { d with authenticator := some authenticator }
  | .keySource source => { d with keySource := some source }
  | .idle timeout => { d with idle := some timeout }
  | .auth timeout => { d with auth := some timeout }
  | .connect timeout => { d with connect := some timeout }

def ofSettings (settings : List (Setting α κ)) : Draft α κ := settings.foldl set empty

/-- The timeouts once the missing ones are filled in from the idle timeout. -/
def timeouts (d : Draft α κ) : Timeouts :=
  let idle := d.idle.getD defaultIdleTimeout
  ⟨idle, d.auth.getD idle, d.connect.getD (defaultConnectTimeout.min idle)⟩

def need {β : Type} (name : String) : Option β → Except ConfigurationError β
  | some value => .ok value
  | none => .error (.missingField name)

def complete (d : Draft α κ) : Except ConfigurationError (Configuration α κ) := do
  let bindingAddress ← need "binding_address" d.bindingAddress
  let backendAddress ← need "backend_address" d.backendAddress
  let authenticator ← need "authenticator" d.authenticator
  let keySource ← need "key_pair_provider" d.keySource
  pure ⟨bindingAddress, backendAddress, authenticator, keySource, d.timeouts⟩

end Draft

end Configuration

end NetconfGate

import NetconfGate.Channel.Error
import NetconfGate.Secure.Setup

/-!
# What an SSH server offers

The ciphers that the protocol library implements come in an order of preference of
its own. An offer keeps those that the setup allows, in that order and once each;
names that are not implemented are of no effect. Without a cipher or without a host
key there is no offer. The lists and the line below are constants of that library,
in its version 0.54.5.
-/

namespace NetconfGate.Secure

/-- The ciphers of the library, the preferred one first. -/
def ownCiphers : List String :=
  ["chacha20-poly1305@openssh.com", "aes256-gcm@openssh.com",
    "aes256-ctr", "aes192-ctr", "aes128-ctr"]

/-- The start of the line with which the library names its protocol. -/
def protocolMark : String := "SSH-2.0-"

/-- That line as it is sent. -/
def identification : String := "SSH-2.0-russh_0.54.5\r\n"

/-- The library's host key algorithms in order of preference, with the kind of key
that each one needs. -/
def hostKeyAlgorithms : List (String × String) :=
  [("ssh-ed25519", "ssh-ed25519"), ("ecdsa-sha2-nistp256", "ecdsa-sha2-nistp256"),
    ("ecdsa-sha2-nistp384", "ecdsa-sha2-nistp384"), ("ecdsa-sha2-nistp521", "ecdsa-sha2-nistp521"),
    ("rsa-sha2-512", "ssh-rsa"), ("rsa-sha2-256", "ssh-rsa"), ("ssh-rsa", "ssh-rsa")]

structure Offer where
  ciphers : List String
  hostKeys : List HostKey

namespace Offer

def noCiphers : String := "no ciphers left to offer"
def noHostKeys : String := "no host keys configured"

def allowed (s : Setup) : List String := ownCiphers.filter fun name => s.ciphers.contains name

theorem mem_allowed {s : Setup} {name : String} :
    name ∈ allowed s ↔ name ∈ ownCiphers ∧ name ∈ s.ciphers := by
  simp [allowed]

def ofSetup (s : Setup) : Except Channel.Error Offer :=
  if (allowed s).isEmpty then .error (.configuration noCiphers)
  else if s.hostKeys.isEmpty then .error (.configuration noHostKeys)
  else .ok ⟨allowed s, s.hostKeys⟩

theorem ofSetup_eq_ok_iff (s : Setup) :
    ofSetup s = .ok ⟨allowed s, s.hostKeys⟩ ↔ allowed s ≠ [] ∧ s.hostKeys ≠ [] := by
  unfold ofSetup
  cases h : (allowed s).isEmpty <;> cases k : s.hostKeys.isEmpty <;> simp_all [List.isEmpty_iff]

/-- The algorithms that the keys can sign with. -/
def keyAlgorithms (o : Offer) : List String :=
  (hostKeyAlgorithms.filter fun entry => o.hostKeys.any fun key => key.algorithm == entry.2).map
    Prod.fst

/-- Names in a list of the key exchange. -/
def listed (names : List String) : String := String.intercalate "," names

end Offer

end NetconfGate.Secure

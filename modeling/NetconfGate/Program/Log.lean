import NetconfGate.Server.Basic

/-!
# The log

What is told while the program serves, as lines of a level and a text. Named
values follow the text. Details are left out unless they are asked for.
-/

namespace NetconfGate.Program

/-- Ordered by weight. -/
inductive Level where
  | debug
  | info
  | warn
deriving DecidableEq

structure Line where
  level : Level
  text : String
deriving DecidableEq

namespace Line

def debug (text : String) : Line := ⟨.debug, text⟩
def info (text : String) : Line := ⟨.info, text⟩
def warn (text : String) : Line := ⟨.warn, text⟩

def value (name text : String) : String := " " ++ name ++ "=" ++ text

def count (number total : Nat) : String := toString number ++ "/" ++ toString total

def ofKeyNote : HostKey.Note → Line
  | .loading path => debug ("Loading host key from " ++ path)
  | .generating path => info ("Generating new Ed25519 host key at " ++ path)

def ofChannelNote : Channel.Note → Line
  | .portInUse port attempt =>
      warn ("Port " ++ toString port ++ " is in use (attempt " ++ count attempt Channel.bindAttempts
        ++ ", may be in TIME_WAIT state), retrying in 1 second...")
  | .boundAtLast address attempt =>
      info ("Successfully bound to " ++ address.text ++ " on attempt "
        ++ count attempt Channel.bindAttempts)
  | .listening address => info ("Listening for connections" ++ value "local_addr" address.text)
  | .loopStopped => debug "Accept loop stopped"
  | .stoppedListening address => info ("Stopped listening" ++ value "local_addr" address.text)
  | .alreadyClosed => debug "I/O service already closed"
  | .drained => debug "Channel group drained"
  | .forcing active =>
      debug ("Channel group did not drain within " ++ Channel.closeTimeout.text
        ++ ", forcing shutdown" ++ value "active" (toString active))
  | .cancelling active =>
      debug ("Cancelling channel group tasks" ++ value "active" (toString active))
  | .terminated => debug "Channel group terminated"

def ofNote : Server.Note → Line
  | .key note => ofKeyNote note
  | .configuring setup => debug ("Configuring secure transport" ++ value "settings" setup.text)
  | .configured setup =>
      debug ("SSH transport configured" ++ value "ciphers" (Text.quotedList setup.ciphers))
  | .channel note => ofChannelNote note
  | .bound address backend =>
      info ("Proxy server bound" ++ value "local_addr" address.text ++ value "backend" backend.text)
  | .closing address => info ("Closing proxy server" ++ value "local_addr" address.text)
  | .nothingToRelease => debug "Proxy server not bound, nothing to release"

/-- Whether a line is shown. -/
def isShown (verbose : Bool) (line : Line) : Bool := verbose || line.level != .debug

end Line

end NetconfGate.Program

import NetconfGate.Program.Log
import NetconfGate.Program.Report
import NetconfGate.Secure.Offer
import NetconfGate.Server.Closedown
import NetconfGate.Settings.Layers

/-!
# Serving

From settings to the end of the server: the stored hashes of all users are
checked, the server binds, a signal is waited for, and the server is closed
whatever the wait came to.
-/

namespace NetconfGate.Program

/-- The signals that end the program. -/
inductive Signal where
  | terminate
  | interrupt
deriving DecidableEq

/-- What happens to a server while a signal is waited for. -/
inductive Happening where
  | traffic (event : Server.Event)
  | ends (task : Nat) (outcome : Channel.Outcome)

def Happening.incident : Happening → Server.Incident Password.Table
  | .traffic event => .call (.traffic event)
  | .ends task outcome => .ends task outcome

/-- All that lies outside of the program. `pool` and `handler` are what keeps the
pool from being built and the handler of a signal from being installed, if
anything does; `signal` is what the wait for one comes to then. -/
structure Outside where
  environment : String → Option String
  tree : FileTree
  mask : Nat
  /-- What a new host key is made of. -/
  seed : Bytes
  /-- What a new password hash is made with. -/
  salt : Bytes
  socket : Address → Nat → Channel.SocketAnswer
  signal : Except SystemError Signal
  pool : Option SystemError := none
  handler : Option SystemError := none
  meanwhile : List Happening := []

/-- How serving went, and where the server listened, if it came to that. -/
structure Course where
  result : Except Failure Unit
  tree : FileTree
  log : List Line
  listened : Option Address

def noUsers : String := "No users configured, every login will be rejected"

def configuration (s : Settings) (users : Password.Table) :
    Except ConfigurationError (Configuration Password.Table HostKey.Source) :=
  Configuration.Draft.complete
    ⟨some s.bind, some s.backend, some users, some (.file s.hostKey false), some s.idle, s.auth,
      s.connect⟩

theorem configuration_isOk (s : Settings) (users : Password.Table) :
    ∃ c, configuration s users = .ok c := ⟨_, rfl⟩

def seconds (d : Duration) : String := toString d.wholeSeconds ++ "s"

/-- What is told of a configuration before the server binds. -/
def announce (s : Settings) (users : Password.Table) (t : Timeouts) : List Line :=
  (if users.isEmpty then [.warn noUsers] else [])
    ++ [.info ("Backend: " ++ s.backend.text), .info ("Host key: " ++ s.hostKey),
      .info ("Idle timeout: " ++ seconds t.idle ++ ", auth timeout: " ++ seconds t.auth
        ++ ", backend connect timeout: " ++ seconds t.connect)]

def surroundings (o : Outside) : Server.Surroundings :=
  ⟨o.tree, o.mask, o.seed, .multiThreaded, Secure.ownCiphers,
    fun setup => (Secure.Offer.ofSetup setup).map fun _ => (), o.socket⟩

def signalLine : Signal → Line
  | .terminate => .info "Received SIGTERM, shutting down..."
  | .interrupt => .info "Received Ctrl+C, shutting down..."

/-- Installs the handler of one signal and waits for either. -/
def wait (o : Outside) : Except Failure Signal :=
  match o.handler with
  | some e => .error ⟨"Failed to install SIGTERM handler", [e.message]⟩
  | none => o.signal.mapError fun e => ⟨"Failed to listen for Ctrl+C", [e.message]⟩

/-- A close that failed is told before a wait that failed. -/
def serveBound (o : Outside) (server : Server) : Except Failure Unit × List Line :=
  let listening := (server.localAddress?.map fun a =>
    Line.info ("ncproxy listening on " ++ a.text)).toList
  let waited := wait o
  let signalled := match waited with
    | .ok signal => [signalLine signal]
    | .error _ => []
  let closing := (server.live (o.meanwhile.map Happening.incident)).close
  let log := listening ++ signalled ++ closing.notes.map Line.ofNote
  match closing.result, waited with
  | .error e, _ => (.error ⟨"Failed to close proxy server", e.message :: e.causes⟩, log)
  | .ok _, .error failure => (.error failure, log)
  | .ok _, .ok _ => (.ok (), log ++ [.info "ncproxy stopped"])

def serveConfigured (o : Outside) (config : Configuration Password.Table HostKey.Source) : Course :=
  let report := (Server.new .default).bind config (surroundings o)
  let log := report.notes.map Line.ofNote
  match report.result with
  | .error e => ⟨.error ⟨"Failed to start proxy server", e.message :: e.causes⟩, report.tree, log,
      none⟩
  | .ok _ =>
      let (result, more) := serveBound o report.server
      ⟨result, report.tree, log ++ more, report.server.localAddress?⟩

def serve (o : Outside) (s : Settings) : Course :=
  match s.credentials with
  | .error e => ⟨.error ⟨e.message, [e.error.message]⟩, o.tree, [], none⟩
  | .ok users =>
      match configuration s users with
      | .error e => ⟨.error ⟨"Invalid proxy configuration", [e.message]⟩, o.tree, [], none⟩
      | .ok config =>
          let course := serveConfigured o config
          { course with log := announce s users config.timeouts ++ course.log }

end NetconfGate.Program

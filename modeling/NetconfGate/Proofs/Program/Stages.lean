import NetconfGate.Proofs.Password.Table
import NetconfGate.Proofs.Program.Messages
import NetconfGate.Proofs.Server.Lifecycle

/-!
# The stages of a start

What can be wrong at each stage of a start, whatever the others come to, and how
serving ends when it is over with one of them.
-/

namespace NetconfGate.Program

open CommandLine (ServeFlags)

inductive Stage where
  | settings
  | pool
  | users
  | timeouts
  | hostKey
  | transport
  | listening
deriving DecidableEq

namespace Stage

/-- In the order in which they are gone through. -/
def all : List Stage := [settings, pool, users, timeouts, hostKey, transport, listening]

def before (stage : Stage) : List Stage := all.takeWhile (· ≠ stage)

end Stage

/-- What keeps a server from listening. -/
def notStarted (e : Server.Error) : Failure :=
  ⟨"Failed to start proxy server", e.message :: e.causes⟩

def userFault? (u : Settings.User) : Option Failure :=
  match Password.Phc.parse u.hash with
  | .ok _ => none
  | .error fault =>
      some ⟨"Invalid password hash for user '" ++ u.name ++ "'",
        [(Password.Error.format fault.message).message]⟩

/-- The timeouts of settings. An open login timeout is the idle timeout, an open
connect timeout ten seconds or the idle timeout, if that is shorter. -/
def timeoutsOf (s : Settings) : Timeouts :=
  ⟨s.idle, s.auth.getD s.idle, s.connect.getD ((Duration.ofSeconds 10).min s.idle)⟩

def zeroFault? (timeout : String × Duration) : Option Failure :=
  if timeout.2.isZero then some (notStarted (.configuration (.zeroTimeout timeout.1))) else none

/-- The load of the host key, which may write one. -/
def keyLoad (o : Outside) (s : Settings) : HostKey.Load :=
  HostKey.Source.load o.mask o.seed o.tree (.file s.hostKey false)

def setupOf (s : Settings) (keys : List HostKey) : Secure.Setup :=
  ⟨CipherPolicy.default.filtered Secure.ownCiphers, keys, timeoutsOf s, [Bridge.subsystem]⟩

/-- What is wrong at a stage, whatever the others come to. -/
def faultIn (o : Outside) (s : Settings) : Stage → Option Failure
  | .settings => none
  | .pool => o.pool.map fun e => ⟨"Failed to build worker pool", [e.message]⟩
  | .users => s.users.findSome? userFault?
  | .timeouts =>
      [("idle_timeout", (timeoutsOf s).idle), ("auth_timeout", (timeoutsOf s).auth),
        ("connect_timeout", (timeoutsOf s).connect)].findSome? zeroFault?
  | .hostKey =>
      match (keyLoad o s).result with
      | .ok _ => none
      | .error e => some (notStarted (.hostKey e))
  | .transport =>
      match (keyLoad o s).result with
      | .error _ => none
      | .ok keys =>
          match Secure.Offer.ofSetup (setupOf s keys) with
          | .ok _ => none
          | .error e => some (notStarted (.transport e))
  | .listening =>
      match (Channel.Service.openSocket s.bind (o.socket s.bind)).1 with
      | .ok _ => none
      | .error e => some (notStarted (.bind e))

/-- Without settings there is nothing else that could be wrong. -/
def fault (o : Outside) (flags : ServeFlags) (stage : Stage) : Option Failure :=
  match Settings.resolve o.tree flags with
  | .error e => if stage = .settings then some ⟨e.message, e.causes⟩ else none
  | .ok s => faultIn o s stage

variable {o o' : Outside} {s : Settings} {users : Password.Table} {failure : Failure}
  {flags : ServeFlags} {stage : Stage}

theorem fault_of_error {e : Settings.Error} (failed : Settings.resolve o.tree flags = .error e) :
    fault o flags stage = if stage = .settings then some ⟨e.message, e.causes⟩ else none := by
  rw [fault, failed]

theorem fault_of_ok (resolved : Settings.resolve o.tree flags = .ok s) :
    fault o flags stage = faultIn o s stage := by
  rw [fault, resolved]

/-! ## The stages of serving -/

theorem credentials_of_fault (wrong : s.users.findSome? userFault? = some failure) :
    ∃ e, s.credentials = .error e ∧ failure = ⟨e.message, [e.error.message]⟩ := by
  rcases s.credentials_cases with ⟨read, _⟩ | ⟨before, u, after, fault, split, read, unread, made⟩
  · obtain ⟨u, member, found⟩ := List.exists_of_findSome?_eq_some wrong
    obtain ⟨h, parsed⟩ := read u member
    rw [userFault?, parsed] at found
    cases found
  · have clear : before.findSome? userFault? = none := by
      refine List.findSome?_eq_none_iff.mpr fun other member => ?_
      obtain ⟨h, parsed⟩ := read other member
      rw [userFault?, parsed]
    rw [split, List.findSome?_append, clear, Option.none_or, List.findSome?_cons, userFault?,
      unread] at wrong
    cases wrong
    exact ⟨_, made, rfl⟩

theorem credentials_of_no_fault (right : s.users.findSome? userFault? = none) :
    ∃ users, s.credentials = .ok users := by
  rcases s.credentials_cases with ⟨_, made⟩ | ⟨before, u, after, fault, split, _, unread, _⟩
  · exact ⟨_, made⟩
  · have clear := List.findSome?_eq_none_iff.mp right u (by simp [split])
    rw [userFault?, unread] at clear
    cases clear

/-- What a server is bound with. -/
def configOf (s : Settings) (users : Password.Table) :
    Configuration Password.Table HostKey.Source :=
  ⟨s.bind, s.backend, users, .file s.hostKey false, timeoutsOf s⟩

theorem configuration_eq (s : Settings) (users : Password.Table) :
    configuration s users = .ok (configOf s users) := rfl

/-- The first timeout that is zero is the one that is found wrong. -/
theorem zeroFault?_timeouts (t : Timeouts) :
    [("idle_timeout", t.idle), ("auth_timeout", t.auth),
        ("connect_timeout", t.connect)].findSome? zeroFault? =
      match t.validate with
      | .ok _ => none
      | .error e => some (notStarted (.configuration e)) := by
  unfold Timeouts.validate
  simp only [List.findSome?_cons, List.findSome?_nil, zeroFault?]
  cases t.idle.isZero with
  | true => rfl
  | false =>
      cases t.auth.isZero with
      | true => rfl
      | false => cases t.connect.isZero <;> rfl

theorem usableTimeouts_of_fault (wrong : faultIn o s .timeouts = some failure)
    (users : Password.Table) :
    ∃ e, (configOf s users).usableTimeouts = .error e ∧
      failure = notStarted (.configuration e) := by
  have first := (zeroFault?_timeouts (timeoutsOf s)).symm.trans wrong
  split at first
  · cases first
  · next e invalid =>
      cases first
      refine ⟨e, ?_, rfl⟩
      rw [Configuration.usableTimeouts, configOf, invalid]
      rfl

theorem usableTimeouts_of_no_fault (right : faultIn o s .timeouts = none)
    (users : Password.Table) : (configOf s users).usableTimeouts = .ok (timeoutsOf s) := by
  have first := (zeroFault?_timeouts (timeoutsOf s)).symm.trans right
  split at first
  · next valid =>
      rw [Configuration.usableTimeouts, configOf, valid]
      rfl
  · cases first

/-- The bind of a run. -/
def bound (o : Outside) (s : Settings) (users : Password.Table) : Server.Report :=
  (Server.new .default).bind (configOf s users) (surroundings o)

theorem bound_of_unusable {e : ConfigurationError}
    (unusable : (configOf s users).usableTimeouts = .error e) :
    bound o s users = ⟨.error (.configuration e), .new .default, o.tree, []⟩ := by
  simp only [bound, Server.bind, Server.new, unusable, surroundings]

/-- Once the timeouts are usable the host key is loaded. -/
theorem bound_of_usable (usable : (configOf s users).usableTimeouts = .ok (timeoutsOf s)) :
    bound o s users =
      match (keyLoad o s).result with
      | .error e => ⟨.error (.hostKey e), .new .default, (keyLoad o s).tree,
          (keyLoad o s).notes.map .key⟩
      | .ok keys =>
          let report := (Server.new .default).setUp (configOf s users) (surroundings o)
            (timeoutsOf s) keys (keyLoad o s).tree
          { report with notes := (keyLoad o s).notes.map .key ++ report.notes } := by
  simp only [bound, Server.bind, Server.new, usable]
  rfl

/-- A loaded key and the ciphers of the default policy make an offer. -/
theorem exists_offer {keys : List HostKey} (loaded : (keyLoad o s).result = .ok keys) :
    ∃ offer, Secure.Offer.ofSetup (setupOf s keys) = .ok offer := by
  have some_ : keys ≠ [] := by
    rintro rfl
    unfold keyLoad HostKey.Source.load at loaded
    dsimp only at loaded
    split at loaded
    · split at loaded <;> cases loaded
    · split at loaded
      · unfold HostKey.generate at loaded
        dsimp only at loaded
        split at loaded <;> cases loaded
      · cases loaded
  have allowed : Secure.Offer.allowed (setupOf s keys) ≠ [] := by
    have kept : "aes256-ctr" ∈ Secure.Offer.allowed (setupOf s keys) :=
      Secure.Offer.mem_allowed.mpr ⟨by decide, CipherPolicy.mem_filtered.mpr ⟨by decide, by decide⟩⟩
    exact List.ne_nil_of_mem kept
  exact ⟨_, (Secure.Offer.ofSetup_eq_ok_iff _).mpr ⟨allowed, some_⟩⟩

theorem no_fault_transport (o : Outside) (s : Settings) : faultIn o s .transport = none := by
  rw [faultIn]
  split
  · rfl
  next keys loaded =>
    obtain ⟨offer, offered⟩ := exists_offer loaded
    rw [offered]

/-- What is left for the socket to decide. -/
theorem outcome_of_offered {keys : List HostKey} {offer : Secure.Offer}
    (usable : (configOf s users).usableTimeouts = .ok (timeoutsOf s))
    (loaded : (keyLoad o s).result = .ok keys)
    (offered : Secure.Offer.ofSetup (setupOf s keys) = .ok offer) :
    Server.outcome .default (configOf s users) (surroundings o) =
      (Channel.Service.openSocket s.bind (o.socket s.bind)).1.mapError .bind := by
  have prepared : Server.prepare (configOf s users) (surroundings o) =
      .ok (timeoutsOf s, keys) := by
    rw [Server.prepare, usable]
    change ((keyLoad o s).result.mapError Server.Error.hostKey >>= _) = _
    rw [loaded]
    rfl
  rw [Server.outcome, prepared]
  change (((Secure.Offer.ofSetup (setupOf s keys)).map fun _ => ()).mapError _ >>= _) = _
  rw [offered]
  rfl

/-- How serving goes on once the users are known. -/
theorem serve_eq (stored : s.credentials = .ok users) :
    serve o s = { serveConfigured o (configOf s users) with
      log := announce s users (timeoutsOf s) ++ (serveConfigured o (configOf s users)).log } := by
  unfold serve
  simp only [stored, configuration_eq]
  rfl

theorem serve_of_error {e : Server.Error} (stored : s.credentials = .ok users)
    (failed : (bound o s users).result = .error e) :
    serve o s = ⟨.error (notStarted e), (bound o s users).tree,
      announce s users (timeoutsOf s) ++ (bound o s users).notes.map Line.ofNote, none⟩ := by
  rw [serve_eq stored]
  unfold bound at failed ⊢
  simp only [serveConfigured, failed]
  rfl

theorem serve_of_users (wrong : faultIn o s .users = some failure) (o' : Outside) :
    serve o' s = ⟨.error failure, o'.tree, [], none⟩ := by
  obtain ⟨e, failed, rfl⟩ := credentials_of_fault wrong
  simp only [serve, failed]

theorem serve_of_timeouts (stored : s.credentials = .ok users)
    (wrong : faultIn o s .timeouts = some failure) (o' : Outside) :
    serve o' s = ⟨.error failure, o'.tree, announce s users (timeoutsOf s), none⟩ := by
  obtain ⟨e, unusable, rfl⟩ := usableTimeouts_of_fault wrong users
  have stops := bound_of_unusable (o := o') unusable
  rw [serve_of_error stored (e := .configuration e) (by rw [stops]), stops]
  simp only [List.map_nil, List.append_nil]

/-- What is told before the transport is asked. -/
def loadingLog (o : Outside) (s : Settings) (users : Password.Table) : List Line :=
  announce s users (timeoutsOf s) ++ (keyLoad o s).notes.map fun note => Line.ofNote (.key note)

theorem serve_of_hostKey (stored : s.credentials = .ok users)
    (right : faultIn o s .timeouts = none) (wrong : faultIn o s .hostKey = some failure) :
    serve o s = ⟨.error failure, (keyLoad o s).tree, loadingLog o s users, none⟩ := by
  have stops := bound_of_usable (o := o) (usableTimeouts_of_no_fault right users)
  rw [faultIn] at wrong
  split at wrong
  · cases wrong
  · next e keyless =>
      cases wrong
      rw [keyless] at stops
      rw [serve_of_error stored (e := .hostKey e) (by rw [stops]), stops, loadingLog, List.map_map]
      rfl

/-- With the host key it is up to the socket. -/
theorem outcome_eq {keys : List HostKey} (right : faultIn o s .timeouts = none)
    (loaded : (keyLoad o s).result = .ok keys) (users : Password.Table) :
    Server.outcome .default (configOf s users) (surroundings o) =
      (Channel.Service.openSocket s.bind (o.socket s.bind)).1.mapError .bind := by
  obtain ⟨offer, offered⟩ := exists_offer loaded
  exact outcome_of_offered (usableTimeouts_of_no_fault right users) loaded offered

/-- What binding comes to, and the address that is listened on then. -/
theorem bound_report {keys : List HostKey} (right : faultIn o s .timeouts = none)
    (loaded : (keyLoad o s).result = .ok keys) (users : Password.Table) :
    match (Channel.Service.openSocket s.bind (o.socket s.bind)).1 with
    | .error e => (bound o s users).result = .error (.bind e)
    | .ok address =>
        (bound o s users).result = .ok () ∧
          ∃ b, (bound o s users).server.lifecycle = .bound b ∧ b.address = address := by
  have created : (Server.new .default).lifecycle = .created := rfl
  have stages := Server.bind_created created (configOf s users) (surroundings o)
  have same : Server.outcome (Server.new .default).policy (configOf s users) (surroundings o) =
      (Channel.Service.openSocket s.bind (o.socket s.bind)).1.mapError .bind :=
    outcome_eq right loaded users
  rw [same] at stages
  cases opened : (Channel.Service.openSocket s.bind (o.socket s.bind)).1 with
  | error e =>
      rw [opened] at stages
      exact stages.result
  | ok address =>
      rw [opened] at stages
      obtain ⟨⟨result, b, server, begins⟩, _⟩ := stages
      refine ⟨result, b, ?_, begins.found⟩
      rw [bound, server]

theorem serve_of_listening {keys : List HostKey} (stored : s.credentials = .ok users)
    (right : faultIn o s .timeouts = none) (loaded : (keyLoad o s).result = .ok keys)
    (wrong : faultIn o s .listening = some failure) :
    ∃ tree log, serve o s = ⟨.error failure, tree, log, none⟩ ∧ ∀ line ∈ log, line.Quiet := by
  have report := bound_report right loaded users
  rw [faultIn] at wrong
  split at wrong
  · cases wrong
  next e unheard =>
    cases wrong
    rw [unheard] at report
    refine ⟨_, _, serve_of_error stored report, fun line told => ?_⟩
    rcases List.mem_append.mp told with announced | noted
    · exact Line.quiet_announce s users _ line announced
    · exact Line.quiet_ofNotes (fun note => Server.ofClose_bind _ _ _ note) line noted

end NetconfGate.Program

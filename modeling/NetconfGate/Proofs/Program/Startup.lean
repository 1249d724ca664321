import Mathlib
import NetconfGate.Proofs.Program.Stages
import NetconfGate.Proofs.Server.Closedown

/-!
# Starting and stopping

A start goes through its stages in one order, and is over with the first that
fails. Up to the host key no stage does anything to the files, and before the last
of them nothing is listened on. A start that gets through ends with one close of
its server, whatever ended the wait.
-/

namespace NetconfGate

namespace Server

theorem onTraffic_bound {s : Server} {b : Bound} (bound : s.lifecycle = .bound b)
    (change : Traffic → Traffic) :
    (s.onTraffic change).lifecycle = .bound { b with traffic := change b.traffic } := by
  simp only [onTraffic, bound]

/-- Nothing that happens unbinds it. -/
theorem meet_happening {s : Server} {b : Bound} (bound : s.lifecycle = .bound b)
    (happening : Program.Happening) :
    ∃ b', (s.meet happening.incident).lifecycle = .bound b' ∧ b'.address = b.address := by
  cases happening with
  | traffic event =>
      refine ⟨{ b with traffic := (b.traffic.step event).1 }, ?_, rfl⟩
      simp only [Program.Happening.incident, meet, call, onEvent, bound]
  | ends task outcome => exact ⟨_, onTraffic_bound bound _, rfl⟩

theorem live_happenings {s : Server} {b : Bound} (bound : s.lifecycle = .bound b)
    (meanwhile : List Program.Happening) :
    ∃ b', (s.live (meanwhile.map Program.Happening.incident)).lifecycle = .bound b' ∧
      b'.address = b.address := by
  induction meanwhile generalizing s b with
  | nil => exact ⟨b, bound, rfl⟩
  | cons first rest ih =>
      obtain ⟨next, still, same⟩ := meet_happening bound first
      obtain ⟨last, stays, kept⟩ := ih still
      exact ⟨last, stays, kept.trans same⟩

/-- The close of a bound server is told before anything that it does. -/
theorem notes_close {s : Server} {b : Bound} (bound : s.lifecycle = .bound b) :
    ∃ later : List Channel.Note, s.close.notes = .closing b.address :: later.map .channel := by
  simp only [close, bound]
  exact ⟨_, rfl⟩

end Server

namespace Program

open CommandLine (ServeFlags)

variable {o o' : Outside} {s : Settings} {users : Password.Table} {failure : Failure}
  {flags : ServeFlags} {stage : Stage}

theorem runServe_of_unresolved {e : Settings.Error}
    (failed : Settings.resolve o.tree flags = .error e) :
    runServe o flags = ⟨.failure ⟨e.message, e.causes⟩, [], o.tree, [], none⟩ := by
  simp only [runServe, failed]

theorem runServe_of_pool {e : SystemError} (resolved : Settings.resolve o.tree flags = .ok s)
    (starts : poolStarts (some e) s.workerThreads = true) (broken : o.pool = some e) :
    runServe o flags =
      ⟨.failure ⟨"Failed to build worker pool", [e.message]⟩, [], o.tree, [starting], none⟩ := by
  simp only [runServe, resolved, starts, broken, if_true]

/-- How a run ends with the result of its serving. -/
def exitOf : Except Failure Unit → Exit
  | .ok _ => .success
  | .error failure => .failure failure

/-- Once the pool is built, all is up to serving. -/
theorem runServe_eq (resolved : Settings.resolve o.tree flags = .ok s)
    (starts : poolStarts none s.workerThreads = true) (built : o.pool = none) :
    runServe o flags =
      ⟨exitOf (serve o s).result, [], (serve o s).tree, starting :: (serve o s).log,
        (serve o s).listened⟩ := by
  cases served : (serve o s).result with
  | error failure => simp only [runServe, resolved, starts, built, served, exitOf, if_true]
  | ok _ => simp only [runServe, resolved, starts, built, served, exitOf, if_true]

theorem runServe_of_serve {tree : FileTree} {log : List Line}
    (resolved : Settings.resolve o.tree flags = .ok s)
    (starts : poolStarts none s.workerThreads = true) (built : o.pool = none)
    (served : serve o s = ⟨.error failure, tree, log, none⟩) :
    runServe o flags = ⟨.failure failure, [], tree, starting :: log, none⟩ := by
  rw [runServe_eq resolved starts built, served, exitOf]

/-- What the stages before the host key look at. -/
structure SameFiles (o o' : Outside) : Prop where
  environment : o'.environment = o.environment
  tree : o'.tree = o.tree
  pool : o'.pool = o.pool

/-- What the stages before the last look at. -/
structure SameKey (o o' : Outside) : Prop extends SameFiles o o' where
  mask : o'.mask = o.mask
  seed : o'.seed = o.seed

theorem SameKey.keyLoad_eq (same : SameKey o o') (s : Settings) : keyLoad o' s = keyLoad o s := by
  rw [keyLoad, keyLoad, same.mask, same.seed, same.tree]

/-- The pool can have the number of threads that it is asked for, so that building
it does not panic. -/
def Calm (o : Outside) (flags : ServeFlags) : Prop :=
  ∀ s, Settings.resolve o.tree flags = .ok s → poolStarts o.pool s.workerThreads = true

/-- A stage with a fault, and none before. -/
structure FirstFault (o : Outside) (flags : ServeFlags) (stage : Stage) (failure : Failure) :
    Prop where
  wrong : fault o flags stage = some failure
  clear : ∀ earlier ∈ stage.before, fault o flags earlier = none

/-- What is left of a start for the host key and the stages after it. -/
structure Ready (o : Outside) (flags : ServeFlags) (s : Settings) (users : Password.Table) :
    Prop where
  resolved : Settings.resolve o.tree flags = .ok s
  threads : poolStarts none s.workerThreads = true
  built : o.pool = none
  stored : s.credentials = .ok users
  timely : faultIn o s .timeouts = none

theorem exists_resolved (clear : fault o flags .settings = none) :
    ∃ s, Settings.resolve o.tree flags = .ok s := by
  cases resolved : Settings.resolve o.tree flags with
  | error e =>
      rw [fault_of_error resolved] at clear
      cases clear
  | ok s => exact ⟨s, rfl⟩

theorem exists_ready (calm : Calm o flags)
    (clear : ∀ earlier ∈ Stage.before .hostKey, fault o flags earlier = none) :
    ∃ s users, Ready o flags s users := by
  obtain ⟨s, resolved⟩ := exists_resolved (clear .settings (by decide))
  simp only [fault_of_ok resolved] at clear
  obtain ⟨users, stored⟩ := credentials_of_no_fault (clear .users (by decide))
  have built : o.pool = none := Option.map_eq_none_iff.mp (clear .pool (by decide))
  exact ⟨s, users, resolved, built ▸ calm s resolved, built, stored, clear .timeouts (by decide)⟩

/-- A failed run that has told of no listening and of no close. All that are the
same in some respect go the same way. -/
structure Halts (same : Outside → Prop) (flags : ServeFlags) (failure : Failure)
    (tree : FileTree) : Prop where
  run : ∃ log, (∀ line ∈ log, line.Quiet) ∧
    ∀ o', same o' → runServe o' flags = ⟨.failure failure, [], tree, log, none⟩

theorem Halts.mono {same fewer : Outside → Prop} {tree : FileTree}
    (halts : Halts same flags failure tree) (narrow : ∀ o', fewer o' → same o') :
    Halts fewer flags failure tree := by
  obtain ⟨log, quiet, run⟩ := halts.run
  exact ⟨log, quiet, fun o' agrees => run o' (narrow o' agrees)⟩

/-- Before the host key nothing is done to the files. -/
theorem FirstFault.halts_early (first : FirstFault o flags stage failure) (calm : Calm o flags)
    (early : stage ∈ Stage.before .hostKey) : Halts (SameFiles o) flags failure o.tree := by
  obtain ⟨wrong, clear⟩ := first
  cases resolved : Settings.resolve o.tree flags with
  | error e =>
      rw [fault_of_error resolved] at wrong
      split at wrong
      · cases wrong
        refine ⟨[], List.forall_mem_nil _, fun o' same => ?_⟩
        rw [← same.tree] at resolved ⊢
        exact runServe_of_unresolved resolved
      · cases wrong
  | ok s =>
      have threads := calm s resolved
      -- What a stage needs of the ones before it is got from their being clear.
      simp only [fault_of_ok resolved] at wrong clear
      have again {o' : Outside} (same : SameFiles o o') :
          Settings.resolve o'.tree flags = .ok s := by
        rw [same.tree, resolved]
      have began : ∀ line ∈ [starting], line.Quiet :=
        List.forall_mem_singleton.mpr Line.quiet_starting
      cases stage with
      | settings => cases wrong
      | pool =>
          obtain ⟨e, broken, rfl⟩ := Option.map_eq_some_iff.mp wrong
          rw [broken] at threads
          refine ⟨[starting], began, fun o' same => ?_⟩
          rw [← same.pool] at broken
          rw [runServe_of_pool (again same) threads broken, same.tree]
      | users =>
          have built : o.pool = none := Option.map_eq_none_iff.mp (clear .pool (by decide))
          rw [built] at threads
          refine ⟨[starting], began, fun o' same => ?_⟩
          rw [← same.pool] at built
          rw [runServe_of_serve (again same) threads built (serve_of_users wrong o'), same.tree]
      | timeouts =>
          have built : o.pool = none := Option.map_eq_none_iff.mp (clear .pool (by decide))
          rw [built] at threads
          obtain ⟨users, stored⟩ := credentials_of_no_fault (clear .users (by decide))
          refine ⟨starting :: announce s users (timeoutsOf s),
            List.forall_mem_cons.mpr ⟨Line.quiet_starting, Line.quiet_announce _ _ _⟩,
            fun o' same => ?_⟩
          rw [← same.pool] at built
          rw [runServe_of_serve (again same) threads built (serve_of_timeouts stored wrong o'),
            same.tree]
      | hostKey | transport | listening => exact absurd early (by decide)

theorem Ready.halts_hostKey (ready : Ready o flags s users)
    (wrong : faultIn o s .hostKey = some failure) :
    Halts (SameKey o) flags failure (keyLoad o s).tree := by
  refine ⟨starting :: loadingLog o s users, List.forall_mem_cons.mpr ⟨Line.quiet_starting, ?_⟩,
    fun o' same => ?_⟩
  · intro line told
    rcases List.mem_append.mp told with announced | noted
    · exact Line.quiet_announce s users _ line announced
    · obtain ⟨note, _, rfl⟩ := List.mem_map.mp noted
      exact ⟨Line.saysListening_ofNote _, Line.tellsClose_ofNote _⟩
  · have loads := same.keyLoad_eq s
    have resolved : Settings.resolve o'.tree flags = .ok s := by rw [same.tree, ready.resolved]
    have same_log : loadingLog o' s users = loadingLog o s users := by
      rw [loadingLog, loadingLog, loads]
    have wrong' : faultIn o' s .hostKey = some failure := by
      rw [faultIn, loads]
      exact wrong
    rw [runServe_of_serve resolved ready.threads (same.pool.trans ready.built)
      (serve_of_hostKey ready.stored ready.timely wrong'), loads, same_log]

/-- Before the last stage no socket is asked for. -/
theorem FirstFault.halts (first : FirstFault o flags stage failure) (calm : Calm o flags)
    (unheard : stage ∈ Stage.before .listening) :
    ∃ tree, Halts (SameKey o) flags failure tree := by
  cases stage with
  | settings | pool | users | timeouts =>
      exact ⟨o.tree, (first.halts_early calm (by decide)).mono fun _ same => same.toSameFiles⟩
  | hostKey =>
      obtain ⟨s, users, ready⟩ := exists_ready calm first.clear
      exact ⟨_, ready.halts_hostKey ((fault_of_ok ready.resolved).symm.trans first.wrong)⟩
  | transport =>
      obtain ⟨s, resolved⟩ := exists_resolved (first.clear .settings (by decide))
      have wrong := (fault_of_ok resolved).symm.trans first.wrong
      rw [no_fault_transport] at wrong
      cases wrong
  | listening => exact absurd unheard (by decide)

/-- How a run ends that has failed to start. -/
structure Run.Failed (failure : Failure) (r : Run) : Prop where
  exit : r.exit = .failure failure
  listened : r.listened = none
  quiet : ∀ line ∈ r.log, line.Quiet

theorem Halts.failed {same : Outside → Prop} {tree : FileTree}
    (halts : Halts same flags failure tree) (agrees : same o) :
    (runServe o flags).Failed failure := by
  obtain ⟨log, quiet, run⟩ := halts.run
  rw [run o agrees]
  exact ⟨rfl, rfl, quiet⟩

theorem SameKey.refl (o : Outside) : SameKey o o := ⟨⟨rfl, rfl, rfl⟩, rfl, rfl⟩

theorem exists_keys (right : faultIn o s .hostKey = none) :
    ∃ keys, (keyLoad o s).result = .ok keys := by
  rw [faultIn] at right
  split at right
  · next keys loaded => exact ⟨keys, loaded⟩
  · cases right

theorem FirstFault.failed (first : FirstFault o flags stage failure) (calm : Calm o flags) :
    (runServe o flags).Failed failure := by
  by_cases last : stage = .listening
  · subst last
    obtain ⟨s, users, ready⟩ := exists_ready calm fun earlier member =>
      first.clear earlier (by revert earlier; decide)
    obtain ⟨wrong, clear⟩ := first
    simp only [fault_of_ok ready.resolved] at wrong clear
    obtain ⟨keys, loaded⟩ := exists_keys (clear .hostKey (by decide))
    obtain ⟨tree, log, served, quiet⟩ := serve_of_listening ready.stored ready.timely loaded wrong
    rw [runServe_of_serve ready.resolved ready.threads ready.built served]
    exact ⟨rfl, rfl, List.forall_mem_cons.mpr ⟨Line.quiet_starting, quiet⟩⟩
  · have unheard : stage ∈ Stage.before .listening := by
      cases stage with
      | listening => exact absurd rfl last
      | _ => decide
    obtain ⟨tree, halts⟩ := first.halts calm unheard
    exact halts.failed (SameKey.refl o)

/-- Of the stages at the head of all, the first with a fault is a first fault. -/
theorem exists_first {stages : List Stage} (head : stages <+: Stage.all)
    (found : stages.findSome? (fault o flags) = some failure) :
    ∃ stage ∈ stages, FirstFault o flags stage failure := by
  obtain ⟨earlier, stage, later, rfl, wrong, clear⟩ := List.findSome?_eq_some_iff.mp found
  obtain ⟨rest, whole⟩ := head
  refine ⟨stage, by simp, wrong, fun other member => clear other ?_⟩
  -- No stage stands twice in the list, so what is before this one is what was looked at.
  have distinct : Stage.all.Nodup := by decide
  rw [← whole, List.append_assoc, List.nodup_append] at distinct
  have before : stage.before = earlier := by
    rw [Stage.before, ← whole, List.append_assoc, List.takeWhile_append_of_pos]
    · simp
    · intro other member
      simpa using distinct.2.2 other member stage (by simp)
  rwa [before] at member

/-! ## Runs that serve -/

/-- How a run ends that has closed its server and has waited before. -/
def ended (closed : Except Server.Error Unit) (waited : Except Failure Signal) : Exit :=
  match closed, waited with
  | .error e, _ => .failure ⟨"Failed to close proxy server", e.message :: e.causes⟩
  | .ok _, .error failure => .failure failure
  | .ok _, .ok _ => .success

theorem code_ended (closed : Except Server.Error Unit) (waited : Except Failure Signal) :
    (ended closed waited).code = 0 ↔ closed = .ok () ∧ ∃ signal, waited = .ok signal := by
  cases closed with
  | error e => simp [ended, Exit.code]
  | ok _ =>
      cases waited with
      | error failure => simp [ended, Exit.code]
      | ok signal => simp [ended, Exit.code]

def listeningLine (address : Address) : Line := .info ("ncproxy listening on " ++ address.text)

def closingLine (address : Address) : Line := .ofNote (.closing address)

/-- A log that tells of one listening and of one close after it. -/
structure Tells (address : Address) (log : List Line) : Prop where
  parts : ∃ before between after : List Line,
    log = before ++ listeningLine address :: (between ++ closingLine address :: after) ∧
    (∀ line ∈ before, line.Quiet) ∧ (∀ line ∈ between, line.Quiet) ∧ ∀ line ∈ after, line.Quiet

theorem Tells.cons {address : Address} {log : List Line} (tells : Tells address log) {line : Line}
    (quiet : line.Quiet) : Tells address (line :: log) := by
  obtain ⟨before, between, after, rfl, first, second, third⟩ := tells.parts
  exact ⟨line :: before, between, after, rfl, List.forall_mem_cons.mpr ⟨quiet, first⟩, second,
    third⟩

theorem Tells.append {address : Address} {log earlier : List Line} (tells : Tells address log)
    (quiet : ∀ line ∈ earlier, line.Quiet) : Tells address (earlier ++ log) := by
  induction earlier with
  | nil => exact tells
  | cons first rest ih =>
      obtain ⟨now, next⟩ := List.forall_mem_cons.mp quiet
      exact (ih next).cons now

/-- The close of a server that was bound, after what has happened to it since. -/
def closing (o : Outside) (server : Server) : Server.Closing :=
  (server.live (o.meanwhile.map Happening.incident)).close

theorem serveBound_of_bound {server : Server} {b : Server.Bound}
    (isBound : server.lifecycle = .bound b) (o : Outside) :
    Tells b.address (serveBound o server).2 ∧
      exitOf (serveBound o server).1 = ended (closing o server).result (wait o) := by
  obtain ⟨last, still, same⟩ := Server.live_happenings isBound o.meanwhile
  obtain ⟨later, told⟩ := Server.notes_close still
  have heard : server.localAddress? = some b.address := by
    simp only [Server.localAddress?, Server.bound?, isBound, Option.map_some]
  have noted : ∀ line ∈ (later.map Server.Note.channel).map Line.ofNote, line.Quiet :=
    Line.quiet_ofNotes (Server.ofClose_channel later)
  unfold serveBound closing
  dsimp only
  rw [heard, told, same]
  cases ((server.live (o.meanwhile.map Happening.incident)).close).result with
  | error e =>
      refine ⟨⟨[], _, _, rfl, List.forall_mem_nil _, ?_, noted⟩, rfl⟩
      cases wait o with
      | error failure => exact List.forall_mem_nil _
      | ok signal => exact List.forall_mem_singleton.mpr (Line.quiet_signalLine signal)
  | ok _ =>
      cases wait o with
      | error failure =>
          exact ⟨⟨[], [], _, rfl, List.forall_mem_nil _, List.forall_mem_nil _, noted⟩, rfl⟩
      | ok signal =>
          refine ⟨⟨[], [signalLine signal], _, rfl, List.forall_mem_nil _,
            List.forall_mem_singleton.mpr (Line.quiet_signalLine signal), ?_⟩, rfl⟩
          exact List.forall_mem_append.mpr ⟨noted, List.forall_mem_singleton.mpr Line.quiet_stopped⟩

/-- How a run ends whose server was bound. -/
structure Run.Served (o : Outside) (server : Server) (r : Run) : Prop where
  tells : ∃ address, server.localAddress? = some address ∧ r.listened = some address ∧
    Tells address r.log
  exit : r.exit = ended (closing o server).result (wait o)

theorem serve_of_bound (stored : s.credentials = .ok users)
    (succeeded : (bound o s users).result = .ok ()) :
    serve o s = ⟨(serveBound o (bound o s users).server).1, (bound o s users).tree,
      announce s users (timeoutsOf s) ++ ((bound o s users).notes.map Line.ofNote ++
        (serveBound o (bound o s users).server).2), (bound o s users).server.localAddress?⟩ := by
  rw [serve_eq stored]
  unfold bound at succeeded ⊢
  simp only [serveConfigured, succeeded]

theorem Ready.served (ready : Ready o flags s users) (keyed : faultIn o s .hostKey = none)
    (heard : faultIn o s .listening = none) :
    (bound o s users).result = .ok () ∧
      (runServe o flags).Served o (bound o s users).server := by
  obtain ⟨keys, loaded⟩ := exists_keys keyed
  have report := bound_report ready.timely loaded users
  rw [faultIn] at heard
  split at heard
  next address opened =>
    rw [opened] at report
    obtain ⟨succeeded, b, isBound, _⟩ := report
    obtain ⟨tells, exit⟩ := serveBound_of_bound isBound o
    have address : (bound o s users).server.localAddress? = some b.address := by
      simp only [Server.localAddress?, Server.bound?, isBound, Option.map_some]
    have notes : ∀ line ∈ (bound o s users).notes.map Line.ofNote, line.Quiet :=
      Line.quiet_ofNotes (Server.ofClose_bind _ _ _)
    rw [runServe_eq ready.resolved ready.threads ready.built, serve_of_bound ready.stored succeeded]
    exact ⟨succeeded, ⟨b.address, address, address,
      ((tells.append notes).append (Line.quiet_announce _ _ _)).cons Line.quiet_starting⟩, exit⟩
  · cases heard

/-! ## Runs of a command line that serves -/

/-- The fault of the first stage that has one. -/
def reported (o : Outside) (flags : ServeFlags) : Option Failure :=
  Stage.all.findSome? (fault o flags)

/-- Where a stage has a fault, the first fault is there or before. -/
theorem exists_first_before {last : Stage} (member : stage ∈ last.before)
    (wrong : fault o flags stage = some failure) :
    ∃ first ∈ last.before, ∃ found, FirstFault o flags first found := by
  have faulty : (last.before.findSome? (fault o flags)).isSome :=
    List.findSome?_isSome_iff.mpr ⟨stage, member, by rw [wrong]; rfl⟩
  obtain ⟨found, is_⟩ := Option.isSome_iff_exists.mp faulty
  obtain ⟨first, early, isFirst⟩ := exists_first (List.takeWhile_prefix _) is_
  exact ⟨first, early, found, isFirst⟩

theorem Run.Failed.of_reported (calm : Calm o flags) (found : reported o flags = some failure) :
    (runServe o flags).Failed failure := by
  obtain ⟨stage, _, first⟩ := exists_first (List.prefix_refl _) found
  exact first.failed calm

theorem exists_served (calm : Calm o flags) (right : reported o flags = none) :
    ∃ s users, Ready o flags s users ∧ (bound o s users).result = .ok () ∧
      (runServe o flags).Served o (bound o s users).server := by
  have clear : ∀ stage, fault o flags stage = none := fun stage =>
    List.findSome?_eq_none_iff.mp right stage (by cases stage <;> decide)
  obtain ⟨s, users, ready⟩ := exists_ready calm fun stage _ => clear stage
  have each (stage : Stage) := (fault_of_ok ready.resolved).symm.trans (clear stage)
  exact ⟨s, users, ready, ready.served (each .hostKey) (each .listening)⟩

theorem countP_of_quiet {log : List Line} (quiet : ∀ line ∈ log, line.Quiet) :
    log.countP Line.saysListening = 0 ∧ log.countP Line.tellsClose = 0 := by
  constructor
  · exact List.countP_eq_zero.mpr fun line told => by simp [(quiet line told).listening]
  · exact List.countP_eq_zero.mpr fun line told => by simp [(quiet line told).close]

/-- Each is told of once. -/
theorem Tells.counts {address : Address} {log : List Line} (tells : Tells address log) :
    log.countP Line.saysListening = 1 ∧ log.countP Line.tellsClose = 1 := by
  obtain ⟨before, between, after, rfl, first, second, third⟩ := tells.parts
  obtain ⟨spoken, others⟩ : (listeningLine address).saysListening = true ∧
      (listeningLine address).tellsClose = false := Line.saysListening_listening address
  have closes : (closingLine address).tellsClose = true := Line.tellsClose_ofNote _
  have silent : (closingLine address).saysListening = false := Line.saysListening_ofNote _
  constructor
  · simp only [List.countP_append, List.countP_cons, (countP_of_quiet first).1,
      (countP_of_quiet second).1, (countP_of_quiet third).1, spoken, silent]
    rfl
  · simp only [List.countP_append, List.countP_cons, (countP_of_quiet first).2,
      (countP_of_quiet second).2, (countP_of_quiet third).2, others, closes]
    rfl

theorem Tells.mem {address : Address} {log : List Line} (tells : Tells address log) :
    listeningLine address ∈ log := by
  obtain ⟨before, between, after, rfl, _⟩ := tells.parts
  simp

variable {verbose : Bool} {words : List String}

theorem run_eq (parsed : CommandLine.parse o.environment words = .ok ⟨verbose, .serve flags⟩) :
    run o words = { runServe o flags with
      log := (runServe o flags).log.filter (Line.isShown verbose) } := by
  simp only [run, parsed, runCommand]

theorem run_eq_of_same
    (parsed : CommandLine.parse o.environment words = .ok ⟨verbose, .serve flags⟩)
    (environment : o'.environment = o.environment)
    (same : runServe o' flags = runServe o flags) : run o' words = run o words := by
  rw [← environment] at parsed
  rw [run_eq parsed, same]
  rw [environment] at parsed
  rw [run_eq parsed]

/-- What it is for a run of the program that it halts. -/
theorem run_of_halts {same : Outside → Prop} {tree : FileTree}
    (parsed : CommandLine.parse o.environment words = .ok ⟨verbose, .serve flags⟩)
    (halts : Halts same flags failure tree) (agrees : same o)
    (environment : ∀ o', same o' → o'.environment = o.environment) :
    (run o words).tree = tree ∧ (run o words).listened = none ∧
      ∀ o', same o' → run o' words = run o words := by
  obtain ⟨log, _, go⟩ := halts.run
  have own := go o agrees
  refine ⟨?_, ?_, fun o' also => run_eq_of_same parsed (environment o' also) ?_⟩
  · rw [run_eq parsed]
    exact congrArg Run.tree own
  · rw [run_eq parsed]
    exact congrArg Run.listened own
  · rw [go o' also, own]

/-- The line that tells of listening is among those that are always shown. -/
theorem saysListening_run_iff
    (parsed : CommandLine.parse o.environment words = .ok ⟨verbose, .serve flags⟩)
    (calm : Calm o flags) :
    (∃ line ∈ (run o words).log, line.saysListening = true) ↔ reported o flags = none := by
  rw [run_eq parsed]
  cases found : reported o flags with
  | some failure =>
      refine iff_of_false ?_ (Option.some_ne_none failure)
      rintro ⟨line, told, spoken⟩
      have quiet := (Run.Failed.of_reported calm found).quiet line (List.mem_of_mem_filter told)
      rw [quiet.listening] at spoken
      cases spoken
  | none =>
      obtain ⟨_, _, _, _, served⟩ := exists_served calm found
      obtain ⟨address, _, _, tells⟩ := served.tells
      refine iff_of_true ⟨listeningLine address, List.mem_filter.mpr ⟨tells.mem, ?_⟩,
        (Line.saysListening_listening address).1⟩ rfl
      cases verbose <;> rfl

/--
A command line that serves, with settings, if it has any, whose pool is built without
a panic. The stages are the settings, the pool, the stored hashes of the users, the
timeouts, the host key, the transport, and the listening, and the fault of a stage
is what is wrong there, whatever is wrong elsewhere.

The first stage with a fault gives the error that is reported, and then nothing is
listened on and no close is told of. With a fault before the host key the files are
left as they were, and nothing but the files, the variables and the pool has been
looked at. With a fault before the listening no socket has been asked for.
That the program listens is told just when no stage has a fault. Then the server
was bound, and whatever happened to it and whatever the wait for a signal came to,
the log tells of one listening and later of one close; the exit is that of the
close and of the wait, and its code is zero just when both went well.
-/
theorem startup_run
    (parsed : CommandLine.parse o.environment words = .ok ⟨verbose, .serve flags⟩)
    (calm : ∀ s, Settings.resolve o.tree flags = .ok s → poolStarts o.pool s.workerThreads = true) :
    let whole := runServe o flags
    let r := run o words
    r = { whole with log := whole.log.filter (Line.isShown verbose) } ∧
    (∀ failure, reported o flags = some failure →
      r.exit = .failure failure ∧ r.listened = none ∧ ∀ line ∈ whole.log, line.Quiet) ∧
    (∀ stage ∈ Stage.before .hostKey, fault o flags stage ≠ none →
      r.tree = o.tree ∧ r.listened = none ∧ ∀ o', SameFiles o o' → run o' words = r) ∧
    (∀ stage ∈ Stage.before .listening, fault o flags stage ≠ none →
      r.listened = none ∧ ∀ o', SameKey o o' → run o' words = r) ∧
    ((∃ line ∈ r.log, line.saysListening = true) ↔ reported o flags = none) ∧
    (reported o flags = none → ∃ s users,
      Settings.resolve o.tree flags = .ok s ∧ s.credentials = .ok users ∧
      (bound o s users).result = .ok () ∧
      (∃ address, (bound o s users).server.localAddress? = some address ∧
        r.listened = some address ∧ Tells address whole.log) ∧
      whole.log.countP Line.saysListening = 1 ∧ whole.log.countP Line.tellsClose = 1 ∧
      let closed := (closing o (bound o s users).server).result
      r.exit = ended closed (wait o) ∧
      (r.exit.code = 0 ↔ closed = .ok () ∧ ∃ signal, wait o = .ok signal)) := by
  intro whole r
  have shown : r = { whole with log := whole.log.filter (Line.isShown verbose) } := run_eq parsed
  refine ⟨shown, fun failure found => ?failed, fun stage early wrong => ?early,
    fun stage unheard wrong => ?unheard, saysListening_run_iff parsed calm, fun right => ?served⟩
  case failed =>
    obtain ⟨exit, listened, quiet⟩ := Run.Failed.of_reported calm found
    rw [shown]
    exact ⟨exit, listened, quiet⟩
  case early =>
    obtain ⟨failure, found⟩ := Option.ne_none_iff_exists'.mp wrong
    obtain ⟨first, before, _, isFirst⟩ := exists_first_before early found
    exact run_of_halts parsed (isFirst.halts_early calm before) ⟨rfl, rfl, rfl⟩
      fun _ same => same.environment
  case unheard =>
    obtain ⟨failure, found⟩ := Option.ne_none_iff_exists'.mp wrong
    obtain ⟨first, before, _, isFirst⟩ := exists_first_before unheard found
    obtain ⟨tree, halts⟩ := isFirst.halts calm before
    exact (run_of_halts parsed halts (SameKey.refl o) fun _ same => same.environment).2
  case served =>
    obtain ⟨s, users, ready, succeeded, served⟩ := exists_served calm right
    obtain ⟨address, heard, listened, tells⟩ := served.tells
    obtain ⟨once, closedOnce⟩ := tells.counts
    have exit : r.exit = ended (closing o (bound o s users).server).result (wait o) := by
      rw [shown]
      exact served.exit
    refine ⟨s, users, ready.resolved, ready.stored, succeeded, ⟨address, heard, ?_, tells⟩, once,
      closedOnce, exit, ?_⟩
    · rw [shown]
      exact listened
    · rw [exit]
      exact code_ended _ _

/-- A start with a timeout of zero on an address that is in use, and one that gets
through to a wait that fails. -/
theorem startup_run_calls :
    let o (socket : Address → Nat → Channel.SocketAnswer) : Outside :=
      ⟨fun _ => none, .empty, 18, List.replicate 32 0, [], socket, .error (.code 22), none, none,
        [.ends 0 .completed]⟩
    let busy := o fun _ _ => .failed (.code 98)
    let free := o fun address _ => .opened address
    let words := ["serve", "--backend", "127.0.0.1:830", "--host-key", "key"]
    let idle := words ++ ["--idle-timeout-secs", "0"]
    ((run busy idle).exit = .failure ⟨"Failed to start proxy server",
        ["Invalid configuration: Invalid idle_timeout: must be greater than zero",
          "Invalid idle_timeout: must be greater than zero"]⟩ ∧
      (run busy idle).tree = .empty ∧ (run busy idle).listened = none ∧
      run free idle = run busy idle) ∧
    ((∃ line ∈ (run free words).log, line.saysListening = true) ∧
      (run free words).exit.code ≠ 0) := by
  intro o busy free words idle
  let flags (seconds : Option Nat) : ServeFlags :=
    ⟨none, none, some (.localhost 830), some "key", seconds, none, none, none⟩
  let settings (seconds : Option Nat) : Settings :=
    ⟨.anyInterface 830, .localhost 830, "key",
      (seconds.map Duration.ofSeconds).getD defaultIdleTimeout, none, none, none, []⟩
  have resolved (seconds : Option Nat) :
      Settings.resolve .empty (flags seconds) = .ok (settings seconds) := by
    cases seconds <;> rfl
  have calm (seconds : Option Nat) (s : Settings)
      (is_ : Settings.resolve .empty (flags seconds) = .ok s) :
      poolStarts none s.workerThreads = true := by
    rw [resolved seconds] at is_
    cases is_
    rfl
  have parsedIdle : CommandLine.parse busy.environment idle =
      .ok ⟨false, .serve (flags (some 0))⟩ := by decide +kernel
  have parsed : CommandLine.parse free.environment words =
      .ok ⟨false, .serve (flags none)⟩ := by decide +kernel
  obtain ⟨_, failed, early, _⟩ := startup_run parsedIdle (calm (some 0))
  obtain ⟨_, _, _, _, listening, served⟩ := startup_run parsed (calm none)
  have wrong : fault busy (flags (some 0)) .timeouts = some ⟨"Failed to start proxy server",
      ["Invalid configuration: Invalid idle_timeout: must be greater than zero",
        "Invalid idle_timeout: must be greater than zero"]⟩ := by
    rw [fault_of_ok (resolved (some 0)), faultIn, List.findSome?_cons, zeroFault?,
      if_pos (by decide)]
    decide +kernel
  have found : reported busy (flags (some 0)) = fault busy (flags (some 0)) .timeouts := by
    rw [wrong, reported, List.findSome?_eq_some_iff]
    refine ⟨[.settings, .pool, .users], .timeouts, [.hostKey, .transport, .listening], rfl, wrong,
      ?_⟩
    intro stage member
    rw [fault_of_ok (resolved (some 0))]
    revert stage
    simp [faultIn, busy, o, settings]
  have right : reported free (flags none) = none := by
    rw [reported, List.findSome?_eq_none_iff]
    intro stage member
    rw [fault_of_ok (resolved none)]
    cases stage with
    | settings | pool | users | timeouts | listening => rfl
    | transport => exact no_fault_transport _ _
    | hostKey =>
      have missing : FileTree.empty.readText "key" = .error .noEntry := by cbv
      have ran (content : Bytes) : HostKey.Write.run 18 [] .empty (HostKey.writes "key" content) =
          (⟨[(["home", "key"], .file content 0o600)]⟩, none) := by cbv
      have made : (keyLoad free (settings none)).result =
          .ok [HostKey.ofSeed (List.replicate 32 0)] := by
        change (HostKey.Source.load 18 (List.replicate 32 0) .empty (.file "key" false)).result = _
        rw [HostKey.Source.load, missing]
        change (HostKey.generate 18 (List.replicate 32 0) .empty "key").result = _
        simp only [HostKey.generate, ran]
      rw [faultIn, made]
  refine ⟨⟨(failed _ (found.trans wrong)).1, ?_⟩, listening.mpr right, ?_⟩
  · obtain ⟨tree, listened, same⟩ := early .timeouts (by decide) (by simp [wrong])
    exact ⟨tree, listened, same free ⟨rfl, rfl, rfl⟩⟩
  · obtain ⟨_, _, _, _, _, _, _, _, _, code⟩ := served right
    rw [ne_eq, code]
    rintro ⟨_, signal, waited⟩
    cases waited

end Program

end NetconfGate

import NetconfGate.Proofs.Program.Startup
import NetconfGate.Proofs.Settings.Ranges

/-!
# Panics

Every number that the readers admit is judged before it is put to use, but for one.
A timeout of zero, a stored hash that is none and a file that cannot be read are
reported. The number of threads goes to the pool as it was given, and the pool has
no error for a number that it cannot have.
-/

namespace NetconfGate

namespace Program

open CommandLine (ServeFlags)

variable {o : Outside} {flags : ServeFlags} {s : Settings} {words : List String} {shown : Bool}

/-- No pool has so few threads, or so many, unless it is not built for another
reason. -/
def Unstartable (trouble : Option SystemError) (threads : Nat) : Prop :=
  threads = 0 ∨ (trouble = none ∧ mostThreads < threads)

theorem poolStarts_some_iff {trouble : Option SystemError} {threads : Nat} :
    poolStarts trouble (some threads) = false ↔ Unstartable trouble threads := by
  unfold poolStarts Unstartable
  simp only [Option.all_some, Bool.and_eq_false_iff, Bool.or_eq_false_iff,
    decide_eq_false_iff_not, Option.isSome_eq_false_iff, Option.isNone_iff_eq_none, Nat.not_lt,
    Nat.not_le, Nat.le_zero]

theorem poolStarts_eq_false_iff {trouble : Option SystemError} {threads : Option Nat} :
    poolStarts trouble threads = false ↔ ∃ n, threads = some n ∧ Unstartable trouble n := by
  cases threads with
  | none => simp [poolStarts]
  | some n => simp [poolStarts_some_iff]

theorem runServe_of_unstartable (resolved : Settings.resolve o.tree flags = .ok s)
    (stops : poolStarts o.pool s.workerThreads = false) :
    runServe o flags = ⟨.panicked, [], o.tree, [starting], none⟩ := by
  simp only [runServe, resolved, stops, Bool.false_eq_true, if_false]

theorem runServe_of_startable (resolved : Settings.resolve o.tree flags = .ok s)
    (starts : poolStarts o.pool s.workerThreads = true) : (runServe o flags).exit ≠ .panicked := by
  cases built : o.pool with
  | some e =>
      rw [built] at starts
      rw [runServe_of_pool resolved starts built]
      nofun
  | none =>
      rw [built] at starts
      rw [runServe_eq resolved starts built]
      cases (serve o s).result <;> nofun

theorem runServe_panicked_iff :
    (runServe o flags).exit = .panicked ↔
      ∃ s, Settings.resolve o.tree flags = .ok s ∧ poolStarts o.pool s.workerThreads = false := by
  cases resolved : Settings.resolve o.tree flags with
  | error e =>
      rw [runServe_of_unresolved resolved]
      simp
  | ok s =>
      cases starts : poolStarts o.pool s.workerThreads with
      | true =>
          refine iff_of_false (runServe_of_startable resolved starts) ?_
          rintro ⟨_, same, stops⟩
          cases same
          rw [starts] at stops
          cases stops
      | false =>
          rw [runServe_of_unstartable resolved starts]
          exact iff_of_true rfl ⟨s, rfl, starts⟩

/-- A run that has reported an error, and has done nothing. -/
structure Run.Refused (o : Outside) (r : Run) : Prop where
  exit : ∃ failure, r.exit = .failure failure
  tree : r.tree = o.tree
  listened : r.listened = none

theorem exit_run (parsed : CommandLine.parse o.environment words = .ok ⟨shown, .serve flags⟩) :
    (run o words).exit = (runServe o flags).exit := by
  rw [run_eq parsed]

/-- Nothing but serving panics, and that for the number of threads alone. -/
theorem exit_run_eq_panicked_iff :
    (run o words).exit = .panicked ↔ ∃ shown flags s,
      CommandLine.parse o.environment words = .ok ⟨shown, .serve flags⟩ ∧
      Settings.resolve o.tree flags = .ok s ∧ poolStarts o.pool s.workerThreads = false := by
  cases parsed : CommandLine.parse o.environment words with
  | error e => simp [run, parsed]
  | ok invocation =>
      obtain ⟨shown, command⟩ := invocation
      cases command with
      | hashPassword password => simp [run, parsed, runCommand]
      | serve flags =>
          rw [exit_run parsed, runServe_panicked_iff]
          constructor
          · rintro ⟨s, resolved, stops⟩
            exact ⟨shown, flags, s, rfl, resolved, stops⟩
          · rintro ⟨_, _, s, same, resolved, stops⟩
            cases same
            exact ⟨s, resolved, stops⟩

theorem run_of_panicked (panicked : (run o words).exit = .panicked) :
    (run o words).exit.code = 101 ∧ (run o words).output = [] ∧ (run o words).tree = o.tree ∧
      (run o words).listened = none := by
  obtain ⟨shown, flags, s, parsed, resolved, stops⟩ := exit_run_eq_panicked_iff.mp panicked
  rw [run_eq parsed, runServe_of_unstartable resolved stops]
  exact ⟨rfl, rfl, rfl, rfl⟩

theorem Exit.code_of_orderly {exit : Exit} (orderly : exit ≠ .panicked) :
    exit.code = 0 ∨ exit.code = 1 ∨ exit.code = 2 := by
  cases exit with
  | success => exact .inl rfl
  | failure f => exact .inr (.inl rfl)
  | usage e => cases e <;> first | exact .inl rfl | exact .inr (.inr rfl)
  | panicked => exact absurd rfl orderly

/-- A fault before the host key is reported. -/
theorem Run.Refused.of_fault {stage : Stage}
    (parsed : CommandLine.parse o.environment words = .ok ⟨shown, .serve flags⟩)
    (calm : Calm o flags) (early : stage ∈ Stage.before .hostKey)
    (wrong : fault o flags stage ≠ none) : (run o words).Refused o := by
  obtain ⟨failure, found⟩ := Option.ne_none_iff_exists'.mp wrong
  obtain ⟨first, before, told, isFirst⟩ := exists_first_before early found
  have halts := isFirst.halts_early calm before
  obtain ⟨tree, listened, _⟩ := run_of_halts parsed halts ⟨rfl, rfl, rfl⟩ fun _ same =>
    same.environment
  refine ⟨⟨told, ?_⟩, tree, listened⟩
  rw [exit_run parsed]
  exact (isFirst.failed calm).exit

theorem fault_of_zero (resolved : Settings.resolve o.tree flags = .ok s)
    (zero : ¬ (timeoutsOf s).validate = .ok ()) : fault o flags .timeouts ≠ none := by
  rw [fault_of_ok resolved]
  change [_, _, _].findSome? zeroFault? ≠ none
  rw [zeroFault?_timeouts]
  cases valid : (timeoutsOf s).validate with
  | ok _ => exact absurd valid zero
  | error e => nofun

theorem fault_of_user (resolved : Settings.resolve o.tree flags = .ok s)
    {u : Settings.User} (member : u ∈ s.users) (unusable : userFault? u ≠ none) :
    fault o flags .users ≠ none := by
  rw [fault_of_ok resolved]
  exact fun right => unusable (List.findSome?_eq_none_iff.mp right u member)

/-! ## Layers -/

open Settings (IsFile Merged highest)

/-- The line, the variables and a file make settings, and the highest of them that
says how many threads there are says a number that no pool has. -/
structure Unstartable.Layered (o : Outside) (words : List String) (given : ServeFlags)
    (file : Settings.File) (n : Nat) : Prop where
  parsed : ∃ shown, CommandLine.parse (fun _ => none) words = .ok ⟨shown, .serve given⟩
  fits : ∀ option, given.Fits o.environment option
  named : IsFile o.tree (given.config.or (ServeFlags.ofVariables o.environment).config) file
  merged : ∃ s, Merged given (.ofVariables o.environment) file s
  threads : highest given.workerThreads (ServeFlags.ofVariables o.environment).workerThreads
    file.workerThreads = some n
  unstartable : Unstartable o.pool n

theorem exit_run_eq_panicked_iff_layered :
    (run o words).exit = .panicked ↔
      ∃ given file n, Unstartable.Layered o words given file n := by
  rw [exit_run_eq_panicked_iff]
  constructor
  · rintro ⟨shown, flags, s, parsed, resolved, stops⟩
    obtain ⟨given, alone, fits, rfl⟩ := CommandLine.parse_serve_eq_ok_iff.mp parsed
    obtain ⟨file, named, merged⟩ := Settings.resolve_atop_eq_ok_iff.mp resolved
    obtain ⟨n, threads, unstartable⟩ := poolStarts_eq_false_iff.mp stops
    exact ⟨given, file, n, ⟨shown, alone⟩, fits, named, ⟨s, merged⟩,
      merged.workerThreads.symm.trans threads, unstartable⟩
  · rintro ⟨given, file, n, ⟨shown, alone⟩, fits, named, ⟨s, merged⟩, threads, unstartable⟩
    exact ⟨shown, _, s, CommandLine.parse_serve_eq_ok_iff.mpr ⟨given, alone, fits, rfl⟩,
      Settings.resolve_atop_eq_ok_iff.mpr ⟨file, named, merged⟩,
      poolStarts_eq_false_iff.mpr ⟨n, merged.workerThreads.trans threads, unstartable⟩⟩

/-- A line that gives a backend and a number of threads. -/
def lineFor (threads : String) : List String :=
  "serve" :: [(CommandLine.ServeOption.backend, "127.0.0.1:2830"), (.workerThreads, threads)].map
    CommandLine.spelled

theorem parse_lineFor {text : String} {n : Nat}
    (read : CommandLine.number (Nat.pow 2 64) text = .ok n) :
    CommandLine.parse (fun _ => none) (lineFor text) = .ok ⟨false, .serve
      { ServeFlags.empty with backend := some (.localhost 2830), workerThreads := some n }⟩ := by
  have address : CommandLine.address "127.0.0.1:2830" = .ok (.localhost 2830) := by
    decide +kernel
  refine (CommandLine.parse_spelled (by simp) ?_).trans ?_
  · simp [ServeFlags.Suits, ServeFlags.reading, ServeFlags.isGiven, read, address, Except.toOption]
  · simp [CommandLine.ofWritten, ServeFlags.atop, ServeFlags.reading, ServeFlags.empty, read,
      address, Except.toOption]

/-- Each text of a number that no pool has makes the program panic. -/
theorem exit_run_lineFor {text : String} {n : Nat} (silent : o.environment = fun _ => none)
    (read : CommandLine.number (Nat.pow 2 64) text = .ok n) :
    (run o (lineFor text)).exit = .panicked ↔ Unstartable o.pool n := by
  have parsed := parse_lineFor read
  rw [← silent] at parsed
  rw [exit_run parsed, runServe_panicked_iff, ← poolStarts_some_iff]
  constructor
  · rintro ⟨s, resolved, stops⟩
    cases resolved
    exact stops
  · exact fun stops => ⟨_, rfl, stops⟩

/--
Every command line, all variables and every tree of files. A run panics just when
there are settings to serve by and the highest of line, variables and file that
says a number of threads says zero, or more than the row of a pool has room for
when all else is there to build one.
Then it ends with the code of a panic, has told nothing on its output, has left
the files as they were and has not listened. So each text of such a number makes
a line on which the program panics.

All other runs end with the code 0, 1 or 2. A line that is not understood ends
with a word on usage, a password is hashed, and without settings an error is
reported. The settings are in the range that the readers admit, and with a number
of threads that a pool can have whatever is wrong with them is reported before a
file is touched: a timeout of zero, among those that are filled in too, as well as
a stored hash that is none. The first stage with a fault gives the error, and
without one the run ends as the close and the wait for a signal do.
-/
theorem panics_for_threads_only (o : Outside) (words : List String) :
    let r := run o words
    (r.exit = .panicked ↔ ∃ given file n, Unstartable.Layered o words given file n) ∧
    (r.exit = .panicked →
      r.exit.code = 101 ∧ r.output = [] ∧ r.tree = o.tree ∧ r.listened = none) ∧
    (r.exit ≠ .panicked → r.exit.code = 0 ∨ r.exit.code = 1 ∨ r.exit.code = 2) ∧
    (∀ text n, CommandLine.number (Nat.pow 2 64) text = .ok n →
      ((run { o with environment := fun _ => none } (lineFor text)).exit = .panicked ↔
        Unstartable o.pool n)) ∧
    (∀ e, CommandLine.parse o.environment words = .error e → r.exit = .usage e) ∧
    (∀ shown password,
      CommandLine.parse o.environment words = .ok ⟨shown, .hashPassword password⟩ →
      r.exit = .success) ∧
    ∀ shown flags, CommandLine.parse o.environment words = .ok ⟨shown, .serve flags⟩ →
      (∀ e, Settings.resolve o.tree flags = .error e → r.Refused o) ∧
      ∀ s, Settings.resolve o.tree flags = .ok s →
        s.InRange ∧
        (poolStarts o.pool s.workerThreads = true →
          (¬ (timeoutsOf s).validate = .ok () → r.Refused o) ∧
          (∀ u ∈ s.users, userFault? u ≠ none → r.Refused o) ∧
          (∀ failure, reported o flags = some failure → r.exit = .failure failure) ∧
          (reported o flags = none → ∃ users, s.credentials = .ok users ∧
            r.exit = ended (closing o (bound o s users).server).result (wait o))) := by
  intro r
  refine ⟨exit_run_eq_panicked_iff_layered, run_of_panicked, Exit.code_of_orderly,
    fun text n read => exit_run_lineFor rfl read, fun e refused => ?usage,
    fun shown password hashed => ?hashed, fun shown flags parsed => ⟨fun e failed => ?unresolved,
      fun s resolved => ⟨Settings.inRange_of_resolve parsed resolved, fun starts => ?startable⟩⟩⟩
  case usage => simp only [r, run, refused]
  case hashed => simp only [r, run, hashed, runCommand]
  case unresolved =>
    have calm : Calm o flags := by
      intro s resolved
      rw [failed] at resolved
      cases resolved
    have wrong : fault o flags .settings ≠ none := by simp [fault_of_error failed]
    exact Run.Refused.of_fault parsed calm (by decide) wrong
  case startable =>
    have calm : Calm o flags := by
      intro other also
      rw [resolved] at also
      cases also
      exact starts
    refine ⟨fun zero => Run.Refused.of_fault parsed calm (by decide) (fault_of_zero resolved zero),
      fun u member unusable =>
        Run.Refused.of_fault parsed calm (by decide) (fault_of_user resolved member unusable),
      fun failure found => ?_, fun right => ?_⟩
    · rw [exit_run parsed]
      exact (Run.Failed.of_reported calm found).exit
    · obtain ⟨settings, users, ready, _, served⟩ := exists_served calm right
      obtain rfl : settings = s := Except.ok.inj (ready.resolved.symm.trans resolved)
      refine ⟨users, ready.stored, ?_⟩
      rw [exit_run parsed]
      exact served.exit

/-- A panic for no threads, asked for by the line, by a variable and by a file. A
timeout of zero is reported. -/
theorem panics_without_threads :
    let o (environment : String → Option String) (tree : FileTree) : Outside :=
      ⟨environment, tree, 18, List.replicate 32 0, [], fun address _ => .opened address,
        .ok .terminate, none, none, []⟩
    let silent : String → Option String := fun _ => none
    let threads : String → Option String := fun name =>
      if name = "NCPROXY_WORKER_THREADS" then some "0" else none
    let file : FileTree := ⟨[(["home", "c.yaml"], .file (.ofText "worker_threads: 0") 0o644)]⟩
    let serve := ["serve", "--bind", "127.0.0.1:0", "--backend", "127.0.0.1:2830"]
    (run (o silent .empty) (serve ++ ["--worker-threads", "0"])).exit = .panicked ∧
    (run (o threads .empty) serve).exit = .panicked ∧
    (run (o silent file) (serve ++ ["--config", "c.yaml"])).exit = .panicked ∧
    (run (o silent .empty) (serve ++ ["--worker-threads", "0"])).exit.code = 101 ∧
    (run (o silent .empty) (serve ++ ["--idle-timeout-secs", "0"])).exit.code = 1 := by
  intro o silent threads file serve
  let flags (config : Option String) (idle workerThreads : Option Nat) : ServeFlags :=
    ⟨config, some (.localhost 0), some (.localhost 2830), none, idle, none, none, workerThreads⟩
  let settings (idle workerThreads : Option Nat) : Settings :=
    ⟨.localhost 0, .localhost 2830, "ncproxy_host_ed25519",
      (idle.map Duration.ofSeconds).getD defaultIdleTimeout, none, none, workerThreads, []⟩
  have spoken : CommandLine.parse silent (serve ++ ["--worker-threads", "0"]) =
      .ok ⟨false, .serve (flags none none (some 0))⟩ := by decide +kernel
  have ambient : CommandLine.parse threads serve =
      .ok ⟨false, .serve (flags none none (some 0))⟩ := by decide +kernel
  have named : CommandLine.parse silent (serve ++ ["--config", "c.yaml"]) =
      .ok ⟨false, .serve (flags (some "c.yaml") none none)⟩ := by decide +kernel
  have text : file.readText "c.yaml" = .ok "worker_threads: 0" := by cbv
  let inFile : Settings.File := ⟨none, none, none, none, none, none, some 0, []⟩
  have read : Settings.File.parse "worker_threads: 0" = .ok inFile :=
    toOption_eq_some_iff.mp (by decide +kernel)
  have loaded : Settings.resolve file (flags (some "c.yaml") none none) =
      .ok (settings none (some 0)) := by
    have found := Settings.File.load_eq_ok_iff.mpr ⟨_, text, read⟩
    rw [Settings.resolve_of_isFile (flags (some "c.yaml") none none) found]
    rfl
  have panicked {environment : String → Option String} {tree : FileTree} {words : List String}
      {flags : ServeFlags}
      (parsed : CommandLine.parse environment words = .ok ⟨false, .serve flags⟩)
      (resolved : Settings.resolve tree flags = .ok (settings none (some 0))) :
      (run (o environment tree) words).exit = .panicked :=
    exit_run_eq_panicked_iff.mpr ⟨false, flags, _, parsed, resolved, rfl⟩
  refine ⟨panicked spoken rfl, panicked ambient rfl, panicked named loaded, ?_, ?_⟩
  · rw [panicked spoken rfl]
    rfl
  · have untimely : CommandLine.parse silent (serve ++ ["--idle-timeout-secs", "0"]) =
        .ok ⟨false, .serve (flags none (some 0) none)⟩ := by decide +kernel
    have resolved : Settings.resolve .empty (flags none (some 0) none) =
        .ok (settings (some 0) none) := rfl
    have calm : Calm (o silent .empty) (flags none (some 0) none) := by
      intro s is_
      cases is_
      rfl
    have zero : ¬ (timeoutsOf (settings (some 0) none)).validate = .ok () := by decide
    obtain ⟨failure, exit⟩ := (Run.Refused.of_fault untimely calm (by decide)
      (fault_of_zero resolved zero)).exit
    rw [exit]
    rfl

end Program

end NetconfGate

import NetconfGate.Program.Serve
import NetconfGate.Proofs.CommandLine.Serving
import NetconfGate.Proofs.Configuration

/-!
# Each setting from its highest layer

The command line lies over the variables and these over the file, for each field
by itself. What depends on another field is filled in last, when the
configuration is built, so nothing that was said in any layer is lost to a value
that was only computed.
-/

namespace NetconfGate.Settings

open CommandLine (ServeFlags)

/-- What the highest of three layers says that says anything. -/
def highest {α : Type} (upper middle lower : Option α) : Option α := upper.or (middle.or lower)

theorem or_or {α : Type} (upper middle lower : Option α) :
    (upper.or middle).or lower = highest upper middle lower := Option.or_assoc ..

theorem isSome_highest {α : Type} (upper middle lower : Option α) :
    (highest upper middle lower).isSome ↔ upper.isSome ∨ middle.isSome ∨ lower.isSome := by
  simp [highest, Option.isSome_or]

/-- The settings of three layers. Each field is the highest there is, or its
default. -/
structure Merged (given ambient : ServeFlags) (file : File) (s : Settings) : Prop where
  bind : s.bind = (highest given.bind ambient.bind file.bind).getD (.anyInterface 830)
  backend : highest given.backend ambient.backend file.backend = some s.backend
  hostKey : s.hostKey = (highest given.hostKey ambient.hostKey file.hostKey).getD
    "ncproxy_host_ed25519"
  idle : s.idle = ((highest given.idle ambient.idle file.idle).map .ofSeconds).getD
    (.ofSeconds 600)
  auth : s.auth = (highest given.auth ambient.auth file.auth).map .ofSeconds
  connect : s.connect = (highest given.connect ambient.connect file.connect).map .ofSeconds
  workerThreads : s.workerThreads =
    highest given.workerThreads ambient.workerThreads file.workerThreads
  users : s.users = file.users

theorem layer_atop_eq_ok_iff {given ambient : ServeFlags} {file : File} {s : Settings} :
    layer (given.atop ambient) file = .ok s ↔ Merged given ambient file s := by
  unfold layer
  simp only [ServeFlags.atop, or_or]
  constructor
  · intro merged
    cases backend : highest given.backend ambient.backend file.backend with
    | none =>
        rw [backend] at merged
        cases merged
    | some address =>
        rw [backend] at merged
        cases merged
        exact ⟨rfl, backend, rfl, rfl, rfl, rfl, rfl, rfl⟩
  · intro merged
    obtain ⟨bind, backend, hostKey, idle, auth, connect, workerThreads, users⟩ := s
    obtain ⟨rfl, backend, rfl, rfl, rfl, rfl, rfl, rfl⟩ := merged
    rw [backend]
    rfl

theorem layer_atop_eq_noBackend {given ambient : ServeFlags} {file : File}
    (nothing : highest given.backend ambient.backend file.backend = none) :
    layer (given.atop ambient) file = .error .noBackend := by
  unfold layer
  simp only [ServeFlags.atop, or_or, nothing]

/-- The file that is named, or an empty one when none is. -/
def IsFile (tree : FileTree) (config : Option String) (file : File) : Prop :=
  match config with
  | some path => File.load tree path = .ok file
  | none => file = .empty

theorem readFile_eq_ok_iff {tree : FileTree} {flags : ServeFlags} {file : File} :
    readFile tree flags = .ok file ↔ IsFile tree flags.config file := by
  unfold readFile IsFile
  cases flags.config with
  | none => simp [eq_comm]
  | some path =>
      change (File.load tree path).mapError _ = _ ↔ File.load tree path = _
      cases File.load tree path with
      | error cause => exact ⟨nofun, nofun⟩
      | ok loaded => exact ⟨fun same => by cases same; rfl, fun same => by cases same; rfl⟩

theorem resolve_of_isFile {tree : FileTree} (flags : ServeFlags) {file : File}
    (named : IsFile tree flags.config file) : resolve tree flags = layer flags file := by
  unfold resolve
  rw [readFile_eq_ok_iff.mpr named]
  rfl

theorem resolve_of_load_error {tree : FileTree} (flags : ServeFlags) {path : String}
    {error : File.Error} (named : flags.config = some path)
    (failed : File.load tree path = .error error) :
    resolve tree flags = .error (.file error) := by
  have read : readFile tree flags = .error (.file error) := by
    unfold readFile
    rw [named]
    change (File.load tree path).mapError _ = _
    rw [failed]
    rfl
  unfold resolve
  rw [read]
  rfl

theorem resolve_atop_eq_ok_iff {tree : FileTree} {given ambient : ServeFlags} {s : Settings} :
    resolve tree (given.atop ambient) = .ok s ↔
      ∃ file, IsFile tree (given.config.or ambient.config) file ∧
        Merged given ambient file s := by
  constructor
  · intro resolved
    cases read : readFile tree (given.atop ambient) with
    | error e =>
        unfold resolve at resolved
        rw [read] at resolved
        cases resolved
    | ok file =>
        have named := readFile_eq_ok_iff.mp read
        rw [resolve_of_isFile _ named] at resolved
        exact ⟨file, named, layer_atop_eq_ok_iff.mp resolved⟩
  · rintro ⟨file, named, merged⟩
    rw [resolve_of_isFile (given.atop ambient) named]
    exact layer_atop_eq_ok_iff.mpr merged

theorem resolve_atop_succeeds_iff {tree : FileTree} {given ambient : ServeFlags} :
    (∃ s, resolve tree (given.atop ambient) = .ok s) ↔
      ∃ file, IsFile tree (given.config.or ambient.config) file ∧
        (given.backend.isSome ∨ ambient.backend.isSome ∨ file.backend.isSome) := by
  simp only [← isSome_highest]
  constructor
  · rintro ⟨s, resolved⟩
    obtain ⟨file, named, merged⟩ := resolve_atop_eq_ok_iff.mp resolved
    exact ⟨file, named, Option.isSome_iff_exists.mpr ⟨_, merged.backend⟩⟩
  · rintro ⟨file, named, there⟩
    rw [← or_or] at there
    obtain ⟨s, layered⟩ := (layer_eq_ok_iff (given.atop ambient) file).mpr there
    exact ⟨s, (resolve_of_isFile (given.atop ambient) named).trans layered⟩

/-- Each node is a user, and the users stand in the order of the nodes. -/
theorem usersFrom_eq_mapM (d : Yaml.Document) (path : Option String) (index : Nat)
    (nodes : List Yaml.Node) :
    File.usersFrom d path index nodes =
      (nodes.zipIdx index).mapM fun entry =>
        File.user d (Yaml.Decoding.Spot.item path entry.2) entry.1 := by
  induction nodes generalizing index with
  | nil => rfl
  | cons node rest ih => rw [File.usersFrom, List.zipIdx_cons, List.mapM_cons, ih]

/-- The configuration of settings. An open login timeout is the idle timeout, an
open connect timeout ten seconds or the idle timeout, if that is shorter. -/
structure Built (s : Settings) (users : Password.Table)
    (c : Configuration Password.Table HostKey.Source) : Prop where
  bindingAddress : c.bindingAddress = s.bind
  backendAddress : c.backendAddress = s.backend
  authenticator : c.authenticator = users
  keySource : c.keySource = .file s.hostKey false
  idle : c.timeouts.idle = s.idle
  auth : c.timeouts.auth = s.auth.getD s.idle
  connect : c.timeouts.connect =
    s.connect.getD ⟨min (Duration.ofSeconds 10).nanos s.idle.nanos⟩

theorem configuration_built (s : Settings) (users : Password.Table) :
    ∃ c, Program.configuration s users = .ok c ∧ Built s users c := by
  obtain ⟨c, made⟩ := Program.configuration_isOk s users
  refine ⟨c, made, ?_⟩
  cases made
  exact ⟨rfl, rfl, rfl, rfl, rfl, rfl, by rw [← min_nanos]; rfl⟩

/-- Serving goes on with the configuration of the settings. -/
theorem serve_of_credentials {o : Program.Outside} {s : Settings} {users : Password.Table}
    {c : Configuration Password.Table HostKey.Source} (stored : s.credentials = .ok users)
    (made : Program.configuration s users = .ok c) :
    Program.serve o s = { Program.serveConfigured o c with
      log := Program.announce s users c.timeouts ++ (Program.serveConfigured o c).log } := by
  unfold Program.serve
  simp only [stored, made]

/-- The timeouts of three layers. What no layer says is computed from the idle
timeout that comes of the layers. -/
structure Effective (given ambient : ServeFlags) (file : File) (t : Timeouts) : Prop where
  idle : t.idle = ((highest given.idle ambient.idle file.idle).map .ofSeconds).getD
    (.ofSeconds 600)
  auth : t.auth = ((highest given.auth ambient.auth file.auth).map .ofSeconds).getD t.idle
  connect : t.connect =
    ((highest given.connect ambient.connect file.connect).map .ofSeconds).getD
      ⟨min (Duration.ofSeconds 10).nanos t.idle.nanos⟩

theorem Merged.effective {given ambient : ServeFlags} {file : File} {s : Settings}
    {users : Password.Table} {c : Configuration Password.Table HostKey.Source}
    (merged : Merged given ambient file s) (built : Built s users c) :
    Effective given ambient file c.timeouts where
  idle := built.idle.trans merged.idle
  auth := by rw [built.auth, built.idle, merged.auth]
  connect := by rw [built.connect, built.idle, merged.connect]

/-- A timeout that some layer says is the timeout, whatever the others are. -/
theorem Effective.said {given ambient : ServeFlags} {file : File} {t : Timeouts}
    (effective : Effective given ambient file t) (n : Nat) :
    (highest given.idle ambient.idle file.idle = some n → t.idle = .ofSeconds n) ∧
      (highest given.auth ambient.auth file.auth = some n → t.auth = .ofSeconds n) ∧
      (highest given.connect ambient.connect file.connect = some n →
        t.connect = .ofSeconds n) := by
  refine ⟨fun said => ?_, fun said => ?_, fun said => ?_⟩
  · rw [effective.idle, said]
    rfl
  · rw [effective.auth, said]
    rfl
  · rw [effective.connect, said]
    rfl

/-- For every line, every set of variables and every tree of files. A line that
serves gives what it spells out, and the variables lie under it. There are
settings just when the file that is named can be read and one of the layers has
a backend, and of the two failures the one of the file is reported. Each setting
is the one of its highest layer, else its default, and the users are those of
the file. A configuration can always be built of settings, serving goes on with
it, and a timeout of any layer stands in it as it was said. -/
theorem resolve_by_layers :
    (∀ environment words shown flags,
      CommandLine.parse environment words = .ok ⟨shown, .serve flags⟩ ↔
        ∃ given, CommandLine.parse (fun _ => none) words = .ok ⟨shown, .serve given⟩ ∧
          (∀ o, given.Fits environment o) ∧ flags = given.atop (.ofVariables environment)) ∧
    (∀ written : List (CommandLine.ServeOption × String), (written.map Prod.fst).Nodup →
      (∀ w ∈ written, ServeFlags.Suits w.1 w.2) →
      CommandLine.parse (fun _ => none) ("serve" :: written.map CommandLine.spelled) =
        .ok ⟨false, .serve (CommandLine.ofWritten written .empty)⟩) ∧
    (∀ (tree : FileTree) (given ambient : ServeFlags),
      ((∃ s, resolve tree (given.atop ambient) = .ok s) ↔
        ∃ file, IsFile tree (given.config.or ambient.config) file ∧
          (given.backend.isSome ∨ ambient.backend.isSome ∨ file.backend.isSome)) ∧
      (∀ path error, given.config.or ambient.config = some path →
        File.load tree path = .error error →
        resolve tree (given.atop ambient) = .error (.file error)) ∧
      (∀ file, IsFile tree (given.config.or ambient.config) file →
        highest given.backend ambient.backend file.backend = none →
        resolve tree (given.atop ambient) = .error .noBackend) ∧
      (∀ s, resolve tree (given.atop ambient) = .ok s ↔
        ∃ file, IsFile tree (given.config.or ambient.config) file ∧
          Merged given ambient file s)) ∧
    (∀ d path index nodes, File.usersFrom d path index nodes =
      (nodes.zipIdx index).mapM fun entry =>
        File.user d (Yaml.Decoding.Spot.item path entry.2) entry.1) ∧
    (∀ s users, ∃ c, Program.configuration s users = .ok c ∧ Built s users c ∧
      (∀ o, s.credentials = .ok users →
        Program.serve o s = { Program.serveConfigured o c with
          log := Program.announce s users c.timeouts ++ (Program.serveConfigured o c).log }) ∧
      ∀ given ambient file, Merged given ambient file s →
        Effective given ambient file c.timeouts ∧
          ∀ n, (highest given.idle ambient.idle file.idle = some n →
              c.timeouts.idle = .ofSeconds n) ∧
            (highest given.auth ambient.auth file.auth = some n →
              c.timeouts.auth = .ofSeconds n) ∧
            (highest given.connect ambient.connect file.connect = some n →
              c.timeouts.connect = .ofSeconds n)) := by
  refine ⟨fun _ _ _ _ => CommandLine.parse_serve_eq_ok_iff,
    fun _ nodup suits => CommandLine.parse_spelled nodup suits, fun tree given ambient => ?_,
    usersFrom_eq_mapM, fun s users => ?_⟩
  · refine ⟨resolve_atop_succeeds_iff,
      fun _ _ named failed => resolve_of_load_error (given.atop ambient) named failed,
      fun file named nothing => ?_, fun _ => resolve_atop_eq_ok_iff⟩
    rw [resolve_of_isFile (given.atop ambient) named]
    exact layer_atop_eq_noBackend nothing
  · obtain ⟨c, made, built⟩ := configuration_built s users
    refine ⟨c, made, built, fun _ stored => serve_of_credentials stored made,
      fun _ _ _ merged => ?_⟩
    have effective := merged.effective built
    exact ⟨effective, effective.said⟩

end NetconfGate.Settings

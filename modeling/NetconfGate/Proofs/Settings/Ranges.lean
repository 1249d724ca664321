import NetconfGate.Proofs.Settings.Layers
import NetconfGate.Proofs.Yaml.Decoding

/-!
# The range of the numbers that settings hold

Three readers let numbers in, that of options, that of variables and that of the
file. Each of them keeps to 64 bits, and nothing between a reader and the settings
makes a number larger. Zero is in the range.
-/

namespace NetconfGate

/-- All numbers that are given fit in 64 bits. -/
def Bounded (numbers : List (Option Nat)) : Prop :=
  ∀ given ∈ numbers, ∀ n ∈ given, n < Nat.pow 2 64

theorem Bounded.or {upper lower : List (Option Nat)} (above : Bounded upper)
    (below : Bounded lower) : Bounded (List.zipWith Option.or upper lower) := by
  intro given member n is_
  obtain ⟨i, inside, rfl⟩ := List.mem_iff_getElem.mp member
  rw [List.getElem_zipWith] at is_
  rcases Option.or_eq_some_iff.mp is_ with upmost | ⟨_, lower⟩
  · exact above _ (List.getElem_mem _) n upmost
  · exact below _ (List.getElem_mem _) n lower

namespace CommandLine

theorem addDigit_lt {bound n next : Nat} {c : Char} (added : addDigit bound n c = .ok next) :
    next < bound := by
  unfold addDigit at added
  split at added
  · cases added
  · dsimp only at added
    split at added
    · next inside =>
        cases added
        exact inside
    · cases added

theorem number_lt {bound n : Nat} {text : String} (positive : 0 < bound)
    (read : number bound text = .ok n) : n < bound := by
  have digits {digits : List Char} (folded : digits.foldlM (addDigit bound) 0 = .ok n) :
      n < bound :=
    foldlM_keeps (fun _ _ _ _ added => addDigit_lt added) positive folded
  unfold number at read
  split at read
  · cases read
  · cases read
  · exact digits read
  · exact digits read

namespace Grammar

variable {ο α : Type} {g : Grammar ο α} {Good : α → Prop}

/-- No value that is given spoils what was good. -/
def Keeps (g : Grammar ο α) (Good : α → Prop) : Prop :=
  ∀ values o text next, Good values → g.give values o text = .ok next → Good next

variable {p q : Progress ο α}

theorem Keeps.store (keeps : g.Keeps Good) {values next : α} {o : ο} {text : String}
    (good : Good values) (stored : g.store values o text = .ok next) : Good next := by
  unfold Grammar.store at stored
  split at stored
  · cases stored
  · exact keeps values o text next good stored

theorem Keeps.settle (keeps : g.Keeps Good) (good : Good p.values)
    (settled : g.settle p = .ok q) : Good q.values := by
  unfold Grammar.settle at settled
  split at settled
  · cases settled
    exact good
  · cases settled
  · obtain ⟨values, stored, same⟩ := bind_eq_ok_iff.mp settled
    cases same
    exact keeps.store good stored

theorem Keeps.raise (keeps : g.Keeps Good) {f : Flag} (good : Good p.values)
    (raised : g.raise p f = .ok q) : Good q.values := by
  obtain ⟨settled, ready, rest⟩ := bind_eq_ok_iff.mp raised
  have still := keeps.settle good ready
  cases f with
  | help | version => cases rest
  | verbose =>
      dsimp only at rest
      split at rest
      · cases rest
      · cases rest
        exact still

theorem Keeps.start (keeps : g.Keeps Good) {o : ο} {value : Option String} (good : Good p.values)
    (started : g.start p o value = .ok q) : Good q.values := by
  obtain ⟨settled, ready, rest⟩ := bind_eq_ok_iff.mp started
  have still := keeps.settle good ready
  cases value with
  | none =>
      cases rest
      exact still
  | some text =>
      obtain ⟨values, stored, same⟩ := bind_eq_ok_iff.mp rest
      cases same
      exact keeps.store still stored

theorem Keeps.readLong (keeps : g.Keeps Good) {name : String} {value : Option String}
    (good : Good p.values) (read : g.readLong p name value = .ok q) : Good q.values := by
  unfold Grammar.readLong at read
  split at read
  · split at read
    · cases read
    · exact keeps.raise good read
  · split at read
    · exact keeps.start good read
    · cases read

theorem Keeps.readShort (keeps : g.Keeps Good) {letters : List Char} (good : Good p.values)
    (read : g.readShort p letters = .ok q) : Good q.values := by
  induction letters generalizing p with
  | nil =>
      cases read
      exact good
  | cons c rest ih =>
      rw [Grammar.readShort] at read
      split at read
      · obtain ⟨next, raised, read⟩ := bind_eq_ok_iff.mp read
        exact ih (keeps.raise good raised) read
      · split at read
        · exact keeps.start good read
        · cases read

theorem Keeps.readWord (keeps : g.Keeps Good) {word : String} (good : Good p.values)
    (read : g.readWord p word = .ok (some q)) : Good q.values := by
  unfold Grammar.readWord at read
  split at read
  · cases read
  · split at read
    · cases read
      exact good
    · obtain ⟨next, long, same⟩ := map_eq_ok_iff.mp read
      cases same
      exact keeps.readLong good long
    · obtain ⟨next, short, same⟩ := map_eq_ok_iff.mp read
      cases same
      exact keeps.readShort good short
    · split at read
      · cases read
        exact good
      · cases read

theorem Keeps.readAll (keeps : g.Keeps Good) {words : List String} (good : Good p.values)
    (read : g.readAll p words = .ok q) : Good q.values := by
  induction words generalizing p with
  | nil => exact keeps.settle good read
  | cons word rest ih =>
      rw [Grammar.readAll] at read
      obtain ⟨next, first, read⟩ := bind_eq_ok_iff.mp read
      cases next with
      | none => cases read
      | some next => exact ih (keeps.readWord good first) read

theorem Keeps.withVariables (keeps : g.Keeps Good) {environment : String → Option String}
    {values next : α} (good : Good values)
    (filled : g.withVariables environment values = .ok next) : Good next := by
  refine foldlM_keeps (fun values o next good step => ?_) good filled
  split at step
  · cases step
    exact good
  · split at step
    · exact keeps values o _ next good step
    · cases step
      exact good

/-- What each option keeps holds of all that is read of a command. -/
theorem Keeps.parse (keeps : g.Keeps Good) {environment : String → Option String}
    {initial values : α} {words : List String} {shown : Bool} (good : Good initial)
    (parsed : g.parse environment initial words = .ok (shown, values)) : Good values := by
  obtain ⟨p, read, rest⟩ := bind_eq_ok_iff.mp parsed
  obtain ⟨next, filled, same⟩ := bind_eq_ok_iff.mp rest
  cases same
  exact keeps.withVariables (keeps.readAll good read) filled

end Grammar

/-- The timeouts, in seconds, and the number of threads. -/
def ServeFlags.numbers (f : ServeFlags) : List (Option Nat) :=
  [f.idle, f.auth, f.connect, f.workerThreads]

theorem serveGrammar_keeps : serveGrammar.Keeps fun f => Bounded f.numbers := by
  intro f o text next bounded given
  have small {n : Nat} (read : (o.refuse text (number (Nat.pow 2 64) text)).toOption = some n) :
      n < Nat.pow 2 64 := by
    rw [ServeFlags.toOption_refuse] at read
    exact number_lt (by decide) (toOption_eq_some_iff.mp read)
  change ServeFlags.give f o text = .ok next at given
  cases o <;> rw [ServeFlags.give, ServeFlags.set_eq_ok_iff] at given <;>
    obtain ⟨value, read, rfl⟩ := given
  -- The others hold no number, and leave those that there are.
  case idle | auth | connect | workerThreads =>
    have inRange := small read
    simp_all [Bounded, ServeFlags.numbers]
  all_goals exact bounded

/-- A line that serves has a part that is read by the grammar of serving. -/
theorem parse_of_readMain {environment : String → Option String} {p : Progress Empty Unit}
    {words : List String} {shown : Bool} {flags : ServeFlags}
    (read : readMain environment p words = .ok ⟨shown, .serve flags⟩) :
    ∃ rest more, serveGrammar.parse environment .empty rest = .ok (more, flags) := by
  induction words generalizing p with
  | nil => cases read
  | cons word rest ih =>
      rw [readMain] at read
      obtain ⟨next, first, read⟩ := bind_eq_ok_iff.mp read
      cases next with
      | some next => exact ih read
      | none =>
          dsimp only at read
          split at read
          · obtain rfl := serve_of_readCommand read
            obtain ⟨more, parsed, _⟩ := readCommand_serve_iff.mp read
            exact ⟨rest, more, parsed⟩
          · cases read

/-- Whatever is written and whatever the variables say. -/
theorem bounded_of_parse {environment : String → Option String} {words : List String}
    {shown : Bool} {flags : ServeFlags}
    (parsed : parse environment words = .ok ⟨shown, .serve flags⟩) : Bounded flags.numbers := by
  obtain ⟨rest, more, served⟩ := parse_of_readMain parsed
  have nothing : Bounded ServeFlags.empty.numbers := by
    simp [Bounded, ServeFlags.numbers, ServeFlags.empty]
  exact serveGrammar_keeps.parse nothing served

end CommandLine

/-! ## The file -/

namespace Yaml

theorem Value.unsigned?_lt {bound n : Nat} {text : List Char}
    (read : Value.unsigned? bound text = some n) : n < bound := by
  have inBound {read? : Option Nat}
      (kept : (read?.bind fun n => if n < bound then some n else none) = some n) : n < bound := by
    obtain ⟨m, _, inside⟩ := Option.bind_eq_some_iff.mp kept
    split at inside
    · next small =>
        cases inside
        exact small
    · cases inside
  unfold Value.unsigned? at read
  dsimp only at read
  split at read
  · next based =>
      cases read
      exact inBound based
  · split at read
    · cases read
    · exact inBound read

namespace Decoding

theorem number_lt {d : Document} {path : Option String} {expected : String} {node : Node}
    {n : Nat} (read : number d path expected node = .ok n) : n < Nat.pow 2 64 := by
  have digits := (decodes_number d path expected node n).mp read
  obtain ⟨s, _, digits⟩ := Option.bind_eq_some_iff.mp digits
  unfold Scalar.unsigned? at digits
  split at digits
  · exact Value.unsigned?_lt digits
  · cases digits

/-- What is there was decoded. -/
theorem optional_some {α : Type} {d : Document} {outer : Spot} {decode : Node → Except Fault α}
    {node : Node} {a : α} (read : optional d outer decode node = .ok (some a)) :
    ∃ inner, decode inner = .ok a := by
  have mapped {inner : Node} (decoded : some <$> decode inner = .ok (some a)) :
      ∃ inner, decode inner = .ok a := by
    obtain ⟨value, made, same⟩ := map_eq_ok_iff.mp decoded
    cases same
    exact ⟨inner, made⟩
  unfold optional at read
  split at read
  · obtain ⟨absent, _, rest⟩ := bind_eq_ok_iff.mp read
    split at rest
    · cases rest
    · exact mapped rest
  · cases read
  · exact mapped read

end Decoding

end Yaml

namespace Settings

open CommandLine (ServeFlags)

namespace File

open Yaml (Node Document)
open Yaml.Decoding

def numbers (f : File) : List (Option Nat) := [f.idle, f.auth, f.connect, f.workerThreads]

theorem bounded_empty : Bounded File.empty.numbers := by
  simp [Bounded, numbers, empty]

theorem bounded_set {d : Document} {outer : Spot} {path : Option String} {node : Node}
    {f next : File} {field : Field} (bounded : Bounded f.numbers)
    (made : set d outer path node f field = .ok next) : Bounded next.numbers := by
  have small {expected : String} {read : Option Nat}
      (decoded : optional d outer (number d path expected) node = .ok read) :
      ∀ n ∈ read, n < Nat.pow 2 64 := by
    rintro n rfl
    obtain ⟨_, number⟩ := optional_some decoded
    exact number_lt number
  cases field <;> obtain ⟨value, read, same⟩ := bind_eq_ok_iff.mp made <;> cases same
  case idle | auth | connect | workerThreads =>
    have inRange := small read
    simp_all [Bounded, numbers]
  all_goals exact bounded

theorem bounded_entry {d : Document} {outer : Spot} {state next : List Field × File}
    {pair : Node × Node} (bounded : Bounded state.2.numbers)
    (made : entry d outer state pair = .ok next) : Bounded next.2.numbers := by
  obtain ⟨⟨name, path⟩, _, made⟩ := bind_eq_ok_iff.mp made
  dsimp only at made
  split at made
  · cases made
  · split at made
    · cases made
    · obtain ⟨file, done, same⟩ := bind_eq_ok_iff.mp made
      cases same
      exact bounded_set bounded done

theorem bounded_of_parse {text : String} {file : File} (parsed : parse text = .ok file) :
    Bounded file.numbers := by
  obtain ⟨⟨entries, spot⟩, _, rest⟩ := bind_eq_ok_iff.mp parsed
  obtain ⟨⟨seen, last⟩, folded, rest⟩ := bind_eq_ok_iff.mp rest
  have keeps (state : List Field × File) (pair : Node × Node) (next : List Field × File)
      (held : Bounded state.2.numbers)
      (made : entry (Document.ofText text) spot state pair = .ok next) : Bounded next.2.numbers :=
    bounded_entry held made
  have bounded : Bounded last.numbers := foldlM_keeps keeps bounded_empty folded
  dsimp only at rest
  split at rest
  · cases rest
  · split at rest
    · cases rest
    · cases rest
      exact bounded

theorem load_eq_ok_iff {tree : FileTree} {path : String} {file : File} :
    load tree path = .ok file ↔
      ∃ text, tree.readText path = .ok text ∧ parse text = .ok file := by
  unfold load
  rw [bind_eq_ok_iff]
  simp only [mapError_eq_ok_iff]

theorem bounded_of_isFile {tree : FileTree} {config : Option String} {file : File}
    (named : IsFile tree config file) : Bounded file.numbers := by
  cases config with
  | none =>
      obtain rfl : file = .empty := named
      exact bounded_empty
  | some path =>
      obtain ⟨text, _, parsed⟩ := load_eq_ok_iff.mp named
      exact bounded_of_parse parsed

end File

/-- A timeout of whole seconds that fit in 64 bits. -/
def Admitted (timeout : Duration) : Prop := ∃ n < Nat.pow 2 64, timeout = .ofSeconds n

/-- What the readers admit. -/
structure InRange (s : Settings) : Prop where
  idle : Admitted s.idle
  auth : ∀ timeout ∈ s.auth, Admitted timeout
  connect : ∀ timeout ∈ s.connect, Admitted timeout
  workerThreads : ∀ n ∈ s.workerThreads, n < Nat.pow 2 64

theorem admitted_of_mem {given : Option Nat} (small : ∀ n ∈ given, n < Nat.pow 2 64) :
    ∀ timeout ∈ given.map Duration.ofSeconds, Admitted timeout := by
  intro timeout is_
  obtain ⟨n, isGiven, rfl⟩ := Option.map_eq_some_iff.mp is_
  exact ⟨n, small n isGiven, rfl⟩

theorem inRange_of_layer {flags : ServeFlags} {file : File} {s : Settings}
    (ofFlags : Bounded flags.numbers) (ofFile : Bounded file.numbers)
    (layered : layer flags file = .ok s) : s.InRange := by
  have bounded : Bounded [flags.idle.or file.idle, flags.auth.or file.auth,
      flags.connect.or file.connect, flags.workerThreads.or file.workerThreads] :=
    Bounded.or ofFlags ofFile
  simp only [Bounded, List.forall_mem_cons] at bounded
  obtain ⟨idle, auth, connect, threads, _⟩ := bounded
  unfold layer at layered
  split at layered
  · cases layered
  · cases layered
    refine ⟨?_, admitted_of_mem auth, admitted_of_mem connect, threads⟩
    dsimp only
    cases given : (flags.idle.or file.idle).map Duration.ofSeconds with
    | none => exact ⟨600, by decide, rfl⟩
    | some timeout => exact admitted_of_mem idle timeout given

/-- Whatever the line, the variables and the file say. -/
theorem inRange_of_resolve {environment : String → Option String} {words : List String}
    {shown : Bool} {flags : ServeFlags} {tree : FileTree} {s : Settings}
    (parsed : CommandLine.parse environment words = .ok ⟨shown, .serve flags⟩)
    (resolved : resolve tree flags = .ok s) : s.InRange := by
  obtain ⟨file, read, layered⟩ := bind_eq_ok_iff.mp resolved
  exact inRange_of_layer (CommandLine.bounded_of_parse parsed)
    (File.bounded_of_isFile (readFile_eq_ok_iff.mp read)) layered

end Settings

end NetconfGate

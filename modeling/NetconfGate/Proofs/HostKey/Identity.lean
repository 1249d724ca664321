import Mathlib
import NetconfGate.HostKey.Store
import NetconfGate.Proofs.FileTree.Writing
import NetconfGate.Proofs.HostKey.Armour

/-!
# The same key on every start

A file is either there or it is not when the first provider looks for it. What is
there is read, and never written to. What is not is written once, by the first
call that may write, and what was written is what all later calls read.
-/

namespace NetconfGate.HostKey

open FileTree

variable {t t' : FileTree} {path : String} {mask : Nat} {seed content : Bytes}

/-- A tree in which a path leads to a file of this content that only its owner can
read. Nothing else is new but directories where the paths above it lead. -/
structure Planted (path : String) (content : Bytes) (t t' : FileTree) (l : Location) : Prop where
  located : t'.locate true path = .ok l
  stored : t'.node? l = some (.file content 0o600)
  free : Free (t.node? l)
  others : ∀ m ≠ l, t'.node? m = t.node? m ∨
    (t.node? m = none ∧ t'.node? m = some .directory ∧ ∃ p, Above path p ∧ t'.locate true p = .ok m)

namespace Write

theorem run_cons {w : Write} {rest : List Write} (ran : run mask [] t (w :: rest) = (t', none)) :
    ∃ t₁, w.apply mask t = (t₁, none) ∧ run mask [] t₁ rest = (t', none) := by
  rw [run] at ran
  dsimp only [List.headD_nil] at ran
  split at ran
  · cases ran
  next t₁ applied => exact ⟨t₁, applied, ran⟩

theorem settle_eq {outcome : Except SystemError FileTree}
    (settled : apply.settle t outcome = (t', none)) : outcome = .ok t' := by
  cases outcome with
  | error e => cases settled
  | ok changed =>
      cases settled
      rfl

/-- Once a file could be opened, it is filled and protected. -/
theorem written_of_run
    (ran : run mask [] t [.create path, .fill path content, .protect path] = (t', none)) :
    ∃ l, Written path content 0o600 l t t' := by
  obtain ⟨t₁, created, ran⟩ := run_cons ran
  obtain ⟨t₂, filled, ran⟩ := run_cons ran
  obtain ⟨t₃, protected_, ran⟩ := run_cons ran
  cases ran
  obtain ⟨l, opened⟩ := written_of_create (settle_eq created)
  obtain ⟨_, filling, full⟩ := opened.fill_eq content
  cases filling.symm.trans (settle_eq filled)
  obtain ⟨_, closing, shut⟩ := full.setMode_eq 0o600
  cases closing.symm.trans (settle_eq protected_)
  exact ⟨l, (opened.trans full).trans shut⟩

end Write

/-- The directories above a path are made before its file is opened. -/
theorem furnished_of_run (ran : Write.run mask [] t (writes path content) = (t', none)) :
    ∃ t₁, Furnished (Above path) t t₁ ∧
      Write.run mask [] t₁ [.create path, .fill path content, .protect path] = (t', none) := by
  rw [writes] at ran
  split at ran
  · next above up =>
      split at ran
      · exact ⟨t, .refl _ t, ran⟩
      · obtain ⟨t₁, made, ran⟩ := Write.run_cons ran
        have furnished := furnished_makeDirectories (above.length + 2) t above
        rw [show makeDirectories (above.length + 2) t above = (t₁, none) from made] at furnished
        refine ⟨t₁, furnished.mono fun p listed => ?_, ran⟩
        rcases listed with rfl | higher
        · exact .parent up
        · exact .of_parent up higher
  · exact ⟨t, .refl _ t, ran⟩

theorem planted_of_run (ran : Write.run mask [] t (writes path content) = (t', none)) :
    ∃ l, Planted path content t t' l := by
  obtain ⟨t₁, furnished, ran⟩ := furnished_of_run ran
  obtain ⟨l, written⟩ := Write.written_of_run ran
  refine ⟨l, written.relocated, written.node?_eq, furnished.free_of written.free, fun m other => ?_⟩
  rw [written.others other]
  rcases furnished.made m with same | ⟨missing, made, p, above, placed⟩
  · exact .inl same
  · exact .inr ⟨missing, made, p, above, written.grows.locate placed⟩

/-- What is written for the key of a seed. -/
def contentOf (seed : Bytes) : Bytes := .ofText (Armour.encode (checkNumber seed) (ofSeed seed))

theorem planted_of_generate {keys : List HostKey}
    (generated : (generate mask seed t path).result = .ok keys) :
    keys = [ofSeed seed] ∧ ∃ l, Planted path (contentOf seed) t (generate mask seed t path).tree l := by
  unfold generate at generated ⊢
  dsimp only at generated ⊢
  split at generated
  · next t₁ ran =>
      cases generated
      exact ⟨rfl, planted_of_run ran⟩
  · cases generated

/-- What a load makes of the text of a file. -/
def answer (path text : String) : Except Error (List HostKey) :=
  match Armour.decode text with
  | .ok key => .ok [key]
  | .error fault => .error (.decode path fault)

/-- A file that was written for a key is read as that key. -/
theorem Planted.readText {l : Location} (planted : Planted path (contentOf seed) t t' l) :
    t'.readText path = .ok (Armour.encode (checkNumber seed) (ofSeed seed)) :=
  readText_of_ofText planted.located planted.stored

theorem answer_encode (path : String) (check : Nat) (seeded : seed.length = 32) :
    answer path (Armour.encode check (ofSeed seed)) = .ok [ofSeed seed] := by
  rw [answer, Armour.decode_encode check seeded]

/-- One call of a provider: whether it may write, the mask of the process, and the
seed that a new key would be made of. -/
structure Call where
  existingOnly : Bool
  mask : Nat
  seed : Bytes
  seeded : seed.length = 32

def Call.load (call : Call) (t : FileTree) (path : String) : Load :=
  Source.load call.mask call.seed t (.file path call.existingOnly)

/-- The answers of calls one after the other, and the tree that they leave. -/
def loadAll (path : String) : FileTree → List Call → List (Except Error (List HostKey)) × FileTree
  | t, [] => ([], t)
  | t, call :: rest =>
      let made := call.load t path
      let later := loadAll path made.tree rest
      (made.result :: later.1, later.2)

theorem load_of_text {text : String} (read : t.readText path = .ok text) (call : Call) :
    (call.load t path).result = answer path text ∧ (call.load t path).tree = t := by
  rw [Call.load, Source.load, read]
  exact ⟨rfl, rfl⟩

theorem load_of_error {e : SystemError} (failed : t.readText path = .error e) {call : Call}
    (barred : e.isNotFound = false ∨ call.existingOnly = true) :
    (call.load t path).result = .error (.access path e) ∧ (call.load t path).tree = t := by
  have closed : (e.isNotFound && !call.existingOnly) = false := by
    rcases barred with other | only
    · rw [other, Bool.false_and]
    · rw [only, Bool.not_true, Bool.and_false]
  rw [Call.load, Source.load, failed]
  simp only [closed]
  exact ⟨rfl, rfl⟩

theorem load_of_missing {e : SystemError} (failed : t.readText path = .error e)
    (missing : e.isNotFound = true) {call : Call} (allowed : call.existingOnly = false) :
    call.load t path = generate call.mask call.seed t path := by
  rw [Call.load, Source.load, failed]
  simp only [missing, allowed]
  rfl

/-- Calls that all answer the same and leave the tree as it is. -/
theorem loadAll_of_steady {result : Except Error (List HostKey)} {calls : List Call}
    (steady : ∀ call ∈ calls, (call.load t path).result = result ∧ (call.load t path).tree = t) :
    loadAll path t calls = (List.replicate calls.length result, t) := by
  induction calls with
  | nil => rfl
  | cons call rest ih =>
      obtain ⟨first, others⟩ := List.forall_mem_cons.mp steady
      rw [loadAll, first.1, first.2, ih others]
      rfl

theorem loadAll_append (path : String) (t : FileTree) (first second : List Call) :
    loadAll path t (first ++ second) =
      ((loadAll path t first).1 ++ (loadAll path (loadAll path t first).2 second).1,
        (loadAll path (loadAll path t first).2 second).2) := by
  induction first generalizing t with
  | nil => rfl
  | cons call rest ih =>
      rw [List.cons_append, loadAll, ih]
      rfl

/-- The run after the first call that may write. -/
theorem loadAll_of_planted {l : Location} (planted : Planted path (contentOf seed) t t' l)
    (seeded : seed.length = 32) (calls : List Call) :
    loadAll path t' calls = (List.replicate calls.length (.ok [ofSeed seed]), t') := by
  refine loadAll_of_steady fun call _ => ?_
  rw [← answer_encode path (checkNumber seed) seeded]
  exact load_of_text planted.readText call

/--
Any calls for one path, of any providers, with nobody else writing.  If the file can
be read, each call answers with what its text holds, a key or why it holds none, and
the tree stays.  If it cannot, and either it is not missing or no call may write,
each call answers with why, and the tree stays.  If it is missing, the calls that may
not write answer so until one that may comes first.  If that one succeeds it gives
the key of its seed; the path leads to a file of that key with the mode 0600, which
was missing or a file before, everything else is as it was, except for directories
where paths above it lead and nothing was; and all later calls give the same key and
change nothing.
-/
theorem identity_loadAll (path : String) (t : FileTree) (calls : List Call) :
    (∀ text, t.readText path = .ok text →
      loadAll path t calls = (List.replicate calls.length (answer path text), t)) ∧
    (∀ e, t.readText path = .error e →
      (e.isNotFound = false ∨ ∀ call ∈ calls, call.existingOnly = true) →
      loadAll path t calls = (List.replicate calls.length (.error (.access path e)), t)) ∧
    (∀ e barred first later keys, t.readText path = .error e → e.isNotFound = true →
      calls = barred ++ first :: later → (∀ call ∈ barred, call.existingOnly = true) →
      first.existingOnly = false → (first.load t path).result = .ok keys →
      keys = [ofSeed first.seed] ∧
      ∃ t' l, Planted path (contentOf first.seed) t t' l ∧
        loadAll path t calls =
          (List.replicate barred.length (.error (.access path e)) ++
            List.replicate (later.length + 1) (.ok [ofSeed first.seed]), t')) := by
  refine ⟨fun text read => ?_, fun e failed barred => ?_,
    fun e barred first later keys failed missing split closed allowed made => ?_⟩
  · exact loadAll_of_steady fun call _ => load_of_text read call
  · refine loadAll_of_steady fun call member => load_of_error failed ?_
    exact barred.imp id fun all => all call member
  · have waited : loadAll path t barred =
        (List.replicate barred.length (.error (.access path e)), t) :=
      loadAll_of_steady fun call member => load_of_error failed (.inr (closed call member))
    rw [load_of_missing failed missing allowed] at made
    obtain ⟨rfl, l, planted⟩ := planted_of_generate made
    refine ⟨rfl, _, l, planted, ?_⟩
    rw [split, loadAll_append, waited, loadAll, load_of_missing failed missing allowed, made,
      loadAll_of_planted planted first.seeded later]
    rfl

/-- A file that holds a key; a missing one, and calls that may not write; a missing
one in a missing directory, and a call that may write between two that may not. -/
theorem identity_loadAll_calls :
    let seed : Bytes := List.replicate 32 0
    let barred : Call := ⟨true, 18, seed, List.length_replicate⟩
    let free : Call := ⟨false, 18, seed, List.length_replicate⟩
    let text := Armour.encode 7 (ofSeed seed)
    let keyed : FileTree := ⟨[(["home", "host"], .file (.ofText text) 0o644)]⟩
    keyed.readText "host" = .ok text ∧
    loadAll "host" keyed [free, barred] = (List.replicate 2 (.ok [ofSeed seed]), keyed) ∧
    FileTree.empty.readText "keys/host" = .error .noEntry ∧
    loadAll "keys/host" .empty [barred, barred] =
      (List.replicate 2 (.error (.access "keys/host" .noEntry)), .empty) ∧
    (free.load .empty "keys/host").result = .ok [ofSeed seed] ∧
    (loadAll "keys/host" .empty [barred, free, barred]).1 =
      [.error (.access "keys/host" .noEntry), .ok [ofSeed seed], .ok [ofSeed seed]] := by
  intro seed barred free text keyed
  have read : keyed.readText "host" = .ok text := by
    have located : keyed.locate true "host" = .ok ["home", "host"] := by
      unfold keyed
      generalize Bytes.ofText text = content
      cbv
    have stored : keyed.node? ["home", "host"] = some (.file (.ofText text) 0o644) := rfl
    exact readText_of_ofText located stored
  have missing : FileTree.empty.readText "keys/host" = .error .noEntry := by cbv
  have made : (free.load .empty "keys/host").result = .ok [ofSeed seed] := by
    have ran : Write.run 18 [] .empty (writes "keys/host" (contentOf seed)) =
        (⟨[(["home", "keys"], .directory),
          (["home", "keys", "host"], .file (contentOf seed) 0o600)]⟩, none) := by
      generalize contentOf seed = content
      cbv
    unfold contentOf at ran
    rw [load_of_missing missing rfl rfl]
    simp only [generate, free, ran]
  obtain ⟨readable, _, _⟩ := identity_loadAll "host" keyed [free, barred]
  obtain ⟨_, unreadable, _⟩ := identity_loadAll "keys/host" .empty [barred, barred]
  obtain ⟨_, _, new⟩ := identity_loadAll "keys/host" .empty [barred, free, barred]
  obtain ⟨_, _, _, _, all⟩ := new .noEntry [barred] free [barred] _ missing rfl rfl
    (List.forall_mem_singleton.mpr rfl) rfl made
  refine ⟨read, ?_, missing, ?_, made, ?_⟩
  · rw [readable text read, answer_encode _ _ List.length_replicate]
    rfl
  · exact unreadable .noEntry missing (.inr (by simp [barred]))
  · rw [all]
    rfl

end NetconfGate.HostKey

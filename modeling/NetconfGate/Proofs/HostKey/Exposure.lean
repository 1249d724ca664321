import NetconfGate.Proofs.HostKey.Identity

/-!
# Who can read a new key

The calls that write a key may stop after any of them, because one fails or
because nothing more comes of the process. A tree that is left so holds the key
with the mode that its file was opened with, until the last call has given the
file to its owner alone.
-/

namespace NetconfGate.HostKey

open FileTree

variable {t t₁ t' : FileTree} {path : String} {mask : Nat} {content : Bytes} {l m : Location}
  {faults : List (Option SystemError)} {outcome : Option SystemError}

/-- Neither the group nor others are granted anything. -/
def Private (mode : Nat) : Prop := mode &&& 0o077 = 0

instance (mode : Nat) : Decidable (Private mode) := inferInstanceAs (Decidable (_ = _))

/-- A new file is private just when the mask withholds all that would be granted to
the group and to others. -/
theorem private_openMode_none (mask : Nat) :
    Private (openMode mask none) ↔ mask &&& 0o066 = 0o066 := by
  have low (bits : Nat) (few : bits < 512) : bits &&& mask = bits &&& (mask % 512) := by
    rw [show 512 = 2 ^ 9 from rfl, ← Nat.and_two_pow_sub_one_eq_mod, Nat.and_comm mask,
      ← Nat.and_assoc, Nat.and_two_pow_sub_one_eq_mod, Nat.mod_eq_of_lt few]
  have small : ∀ rest < 512, Private (0o666 - (0o666 &&& rest)) ↔ 0o066 &&& rest = 0o066 := by
    decide +kernel
  rw [Nat.and_comm mask, low 0o066 (by decide), ← small (mask % 512) (Nat.mod_lt _ (by decide)),
    ← low 0o666 (by decide)]
  rfl

/-- A tree that has been left by a writing, and why it was left, if not because all
was done. -/
inductive Left (mask : Nat) (path : String) (content : Bytes) (t : FileTree) :
    Option SystemError → FileTree → Prop where
  | furnished {t' : FileTree} (e : SystemError) (furnished : Furnished (Above path) t t') :
      Left mask path content t (some e) t'
  | opened {t₁ t' : FileTree} {l : Location} (e : SystemError)
      (furnished : Furnished (Above path) t t₁)
      (written : Written path [] (openMode mask (t₁.node? l)) l t₁ t') :
      Left mask path content t (some e) t'
  | filled {t₁ t' : FileTree} {l : Location} (e : SystemError)
      (furnished : Furnished (Above path) t t₁)
      (written : Written path content (openMode mask (t₁.node? l)) l t₁ t') :
      Left mask path content t (some e) t'
  | done {t₁ t' : FileTree} {l : Location} (furnished : Furnished (Above path) t t₁)
      (written : Written path content 0o600 l t₁ t') : Left mask path content t none t'

namespace Write

/-- A call is stopped, it fails, or the others follow. -/
theorem run_cons_cases {w : Write} {rest : List Write}
    (ran : run mask faults t (w :: rest) = (t', outcome)) :
    (∃ e, outcome = some e ∧ t' = t) ∨
    (∃ e, outcome = some e ∧ w.apply mask t = (t', some e)) ∨
    (∃ t₁, w.apply mask t = (t₁, none) ∧ run mask faults.tail t₁ rest = (t', outcome)) := by
  rw [run] at ran
  split at ran
  -- The fault of this call, then what the call itself comes to.
  · next e _ =>
      cases ran
      exact .inl ⟨e, rfl, rfl⟩
  · split at ran
    · next e applied =>
        cases ran
        exact .inr (.inl ⟨e, rfl, applied⟩)
    · next t₁ applied => exact .inr (.inr ⟨t₁, applied, ran⟩)

/-- A call on a file is stopped or fails, and then nothing is changed, or it is done
and the others follow. -/
theorem run_settled_cases {w : Write} {rest : List Write} {result : Except SystemError FileTree}
    (call : w.apply mask t = apply.settle t result)
    (ran : run mask faults t (w :: rest) = (t', outcome)) :
    (∃ e, outcome = some e ∧ t' = t) ∨
    (∃ t₁, result = .ok t₁ ∧ run mask faults.tail t₁ rest = (t', outcome)) := by
  rcases run_cons_cases ran with stopped | ⟨e, rfl, failed⟩ | ⟨t₁, applied, ran⟩
  · exact .inl stopped
  · rw [call] at failed
    cases result with
    | error _ =>
        cases failed
        exact .inl ⟨e, rfl, rfl⟩
    | ok _ => cases failed
  · rw [call] at applied
    exact .inr ⟨t₁, settle_eq applied, ran⟩

end Write

/-- Opened, filled and protected, as far as it comes. -/
theorem left_of_file_run (furnished : Furnished (Above path) t t₁)
    (ran : Write.run mask faults t₁ [.create path, .fill path content, .protect path] =
      (t', outcome)) : Left mask path content t outcome t' := by
  rcases Write.run_settled_cases rfl ran with ⟨e, rfl, rfl⟩ | ⟨t₂, created, ran⟩
  · exact .furnished e furnished
  obtain ⟨l, opened⟩ := written_of_create created
  obtain ⟨_, filling, full⟩ := opened.fill_eq content
  rcases Write.run_settled_cases rfl ran with ⟨e, rfl, rfl⟩ | ⟨t₃, filled, ran⟩
  · exact .opened e furnished opened
  cases filling.symm.trans filled
  have written := opened.trans full
  obtain ⟨_, closing, shut⟩ := written.setMode_eq 0o600
  rcases Write.run_settled_cases rfl ran with ⟨e, rfl, rfl⟩ | ⟨t₄, closed, ran⟩
  · exact .filled e furnished written
  cases closing.symm.trans closed
  cases ran
  exact .done furnished (written.trans shut)

theorem left_of_run (ran : Write.run mask faults t (writes path content) = (t', outcome)) :
    Left mask path content t outcome t' := by
  rw [writes] at ran
  split at ran
  · next above up =>
      split at ran
      · exact left_of_file_run (.refl _ t) ran
      · have furnished := (furnished_makeDirectories (above.length + 2) t above).mono
          fun p listed => show Above path p from listed.elim (fun same => same ▸ .parent up)
            (.of_parent up)
        rcases Write.run_cons_cases ran with
          ⟨e, rfl, rfl⟩ | ⟨e, rfl, failed⟩ | ⟨t₁, made, ran⟩
        · exact .furnished e (.refl _ t')
        · change makeDirectories (above.length + 2) t above = (t', some e) at failed
          rw [failed] at furnished
          exact .furnished e furnished
        · change makeDirectories (above.length + 2) t above = (t₁, none) at made
          rw [made] at furnished
          exact left_of_file_run furnished ran
  · exact left_of_file_run (.refl _ t) ran

/-- A file of the furnished tree was one before. -/
theorem file_of_furnished {paths : String → Prop} (furnished : Furnished paths t t₁) {mode : Nat}
    (held : t₁.node? m = some (.file content mode)) : t.node? m = some (.file content mode) := by
  rcases furnished.made m with same | ⟨_, made, _⟩
  · rwa [← same]
  · cases made.symm.trans held

/-- Where a file may be written the furnished tree is the tree from before. -/
theorem node?_of_furnished {paths : String → Prop} (furnished : Furnished paths t t₁)
    (free : Free (t₁.node? l)) : t₁.node? l = t.node? l := by
  rcases furnished.made l with same | ⟨_, made, _⟩
  · exact same
  · exact absurd made free.not_directory

/-- The mode of a file that is left with the key. -/
def leftMode (mask : Nat) (before : Option Entity) : Option SystemError → Nat
  | none => 0o600
  | some _ => openMode mask before

theorem holds_of_written {paths : String → Prop} {written' : Bytes} {mode mode' : Nat}
    (furnished : Furnished paths t t₁) (written : Written path written' mode' l t₁ t')
    (held : t'.node? m = some (.file content mode)) :
    t.node? m = some (.file content mode) ∨
      (m = l ∧ t'.locate true path = .ok m ∧ mode = mode' ∧ t₁.node? m = t.node? m) := by
  by_cases same : m = l
  · subst same
    cases written.node?_eq.symm.trans held
    exact .inr ⟨rfl, written.relocated, rfl, node?_of_furnished furnished written.free⟩
  · rw [written.others same] at held
    exact .inl (file_of_furnished furnished held)

/-- A file that holds what was to be written held it before, or it is the one that
the path leads to. -/
theorem Left.holds (left : Left mask path content t outcome t') {mode : Nat}
    (held : t'.node? m = some (.file content mode)) :
    t.node? m = some (.file content mode) ∨
      (t'.locate true path = .ok m ∧ mode = leftMode mask (t.node? m) outcome) := by
  cases left with
  | furnished e furnished => exact .inl (file_of_furnished furnished held)
  | opened e furnished written | filled e furnished written =>
      refine (holds_of_written furnished written held).imp_right ?_
      rintro ⟨rfl, located, rfl, same⟩
      exact ⟨located, by rw [same, leftMode]⟩
  | done furnished written =>
      refine (holds_of_written furnished written held).imp_right ?_
      rintro ⟨_, located, rfl, _⟩
      exact ⟨located, rfl⟩

/-- What is done is protected. -/
theorem Left.protected_ (left : Left mask path content t none t') :
    ∃ l, t'.locate true path = .ok l ∧ t'.node? l = some (.file content 0o600) := by
  cases left with
  | done furnished written => exact ⟨_, written.relocated, written.node?_eq⟩

/-! ## Stopped before the end -/

theorem Write.exists_stopped {before : List Write} {last : Write}
    (ran : Write.run mask [] t (before ++ [last]) = (t', none)) (e : SystemError) :
    ∃ t₂, last.apply mask t₂ = (t', none) ∧
      Write.run mask (List.replicate before.length none ++ [some e]) t (before ++ [last]) =
        (t₂, some e) := by
  induction before generalizing t with
  | nil =>
      obtain ⟨_, applied, rest⟩ := run_cons ran
      cases rest
      exact ⟨t, applied, rfl⟩
  | cons w rest ih =>
      obtain ⟨t₁, applied, ran⟩ := run_cons ran
      obtain ⟨t₂, final, stopped⟩ := ih ran
      refine ⟨t₂, final, ?_⟩
      rw [List.cons_append, run]
      simp only [List.length_cons, List.replicate_succ, List.cons_append, List.headD_cons,
        List.tail_cons, applied]
      exact stopped

theorem writes_eq (path : String) (content : Bytes) :
    ∃ before, writes path content = before ++ [.protect path] :=
  ⟨_, (List.append_assoc _ [Write.create path, .fill path content] [.protect path]).symm⟩

/-- A file that was given a mode had its content before. -/
theorem file_of_setMode {mode mode' : Nat} (changed : t.setMode path mode = .ok t')
    (located : t'.locate true path = .ok l)
    (stored : t'.node? l = some (.file content mode')) :
    t.locate true path = .ok l ∧ ∃ old, t.node? l = some (.file content old) := by
  rcases written_of_setMode changed with rfl | ⟨m, held, old, found, written⟩
  · exact ⟨located, mode', stored⟩
  · cases written.relocated.symm.trans located
    cases written.node?_eq.symm.trans stored
    exact ⟨written.located, old, found⟩

/-- A writing that would be done may be stopped with the key in a file that is as it
was opened. -/
theorem exists_exposed (ran : Write.run mask [] t (writes path content) = (t', none))
    (located : t'.locate true path = .ok l) (e : SystemError) :
    ∃ faults t₂, Write.run mask faults t (writes path content) = (t₂, some e) ∧
      t₂.locate true path = .ok l ∧
      t₂.node? l = some (.file content (openMode mask (t.node? l))) := by
  obtain ⟨l', planted⟩ := planted_of_run ran
  cases planted.located.symm.trans located
  obtain ⟨before, split⟩ := writes_eq path content
  rw [split] at ran
  obtain ⟨t₂, final, stopped⟩ := Write.exists_stopped ran e
  rw [← split] at stopped
  obtain ⟨placed, mode, held⟩ :=
    file_of_setMode (Write.settle_eq final) planted.located planted.stored
  refine ⟨_, t₂, stopped, placed, ?_⟩
  -- A file that held the key already keeps the mode that it has, which is that of its opening.
  rcases (left_of_run stopped).holds held with already | ⟨_, rfl⟩
  · rw [held, already, openMode]
  · exact held

theorem Write.grows_of_apply {w : Write} (applied : w.apply mask t = (t', none)) : Grows t t' := by
  cases w with
  | directories path =>
      have furnished := furnished_makeDirectories (path.length + 2) t path
      rw [show makeDirectories (path.length + 2) t path = (t', none) from applied] at furnished
      exact furnished.grows
  | create path =>
      obtain ⟨l, opened⟩ := written_of_create (settle_eq applied)
      exact opened.grows
  | fill path content =>
      obtain ⟨l, mode, filled⟩ := written_of_fill (settle_eq applied)
      exact filled.grows
  | protect path =>
      rcases written_of_setMode (settle_eq applied) with rfl | ⟨_, _, _, _, shut⟩
      · exact .refl t'
      · exact shut.grows

theorem Write.grows_of_run {ws : List Write} (ran : Write.run mask [] t ws = (t', none)) :
    Grows t t' := by
  induction ws generalizing t with
  | nil =>
      cases ran
      exact .refl _
  | cons w rest ih =>
      obtain ⟨t₁, applied, ran⟩ := run_cons ran
      exact (grows_of_apply applied).trans (ih ran)

/-- A writing that is stopped is on the way of the one that is not. -/
theorem Write.grows_of_stopped {ws : List Write} (ran : Write.run mask [] t ws = (t', none))
    (stopped : Write.run mask faults t ws = (t₁, outcome)) : Grows t₁ t' := by
  induction ws generalizing t faults with
  | nil =>
      cases ran
      cases stopped
      exact .refl _
  | cons w rest ih =>
      obtain ⟨t₂, applied, onward⟩ := run_cons ran
      rcases run_cons_cases stopped with ⟨_, _, rfl⟩ | ⟨_, _, failed⟩ | ⟨t₃, again, stopped⟩
      · exact grows_of_run ran
      · cases applied.symm.trans failed
      · cases applied.symm.trans again
        exact ih onward stopped

variable {seed : Bytes}

/-- What was left is read as a key by every later call, and stays as it is. -/
theorem loadAll_of_stored {mode : Nat} (located : t.locate true path = .ok l)
    (stored : t.node? l = some (.file (contentOf seed) mode)) (seeded : seed.length = 32)
    (calls : List Call) :
    loadAll path t calls = (List.replicate calls.length (.ok [ofSeed seed]), t) := by
  refine loadAll_of_steady fun call _ => ?_
  rw [← answer_encode path (checkNumber seed) seeded]
  exact load_of_text (readText_of_ofText located stored) call

/-- If the key was nowhere before, it is never exposed just when the file that it is
written to is private from its opening on. -/
theorem private_iff (ran : Write.run mask [] t (writes path content) = (t', none))
    (located : t'.locate true path = .ok l)
    (new : ∀ m mode, t.node? m ≠ some (.file content mode)) :
    (∀ faults m mode, (Write.run mask faults t (writes path content)).1.node? m =
      some (.file content mode) → Private mode) ↔ Private (openMode mask (t.node? l)) := by
  constructor
  · intro always
    obtain ⟨faults, t₂, stopped, _, held⟩ := exists_exposed ran located .noEntry
    refine always faults l _ ?_
    rw [stopped]
    exact held
  · intro opened faults m mode held
    rcases (left_of_run rfl).holds held with already | ⟨placed, rfl⟩
    · exact absurd already (new m mode)
    -- The path leads to the same file in the tree that is left and in the one of the whole.
    have onward := Write.grows_of_stopped ran
      (show Write.run mask faults t (writes path content) = _ from rfl)
    cases (onward.locate placed).symm.trans located
    cases (Write.run mask faults t (writes path content)).2 with
    | none => exact (by decide : Private 0o600)
    | some e => exact opened

/--
The writing of a key to a path, with any mask, in any tree, and stopped by any
error before any of its calls. Once it is stopped or done, a file that holds the key
held it before, or it is the file that the path leads to. That file has the mode 0600
if all was done. Otherwise it has the mode that it was opened with, its own if it was
there and what the mask leaves of 0666 if it was new.

Where nothing stops the writing, an error after the filling leaves the key in a file
with that mode, and every later call gives this key and leaves the file so. So a key
that is new in the tree is never exposed just when the file is private as it is
opened, and that is a new file just when the mask withholds all that would be granted
to the group and to others.
-/
theorem exposure_of_key (mask : Nat) (path : String) (t : FileTree) (seed : Bytes) :
    let content := contentOf seed
    let left (faults : List (Option SystemError)) :=
      Write.run mask faults t (writes path content)
    (∀ faults m mode, (left faults).1.node? m = some (.file content mode) →
      t.node? m = some (.file content mode) ∨
        ((left faults).1.locate true path = .ok m ∧
          mode = leftMode mask (t.node? m) (left faults).2)) ∧
    (∀ faults, (left faults).2 = none → ∃ l, (left faults).1.locate true path = .ok l ∧
      (left faults).1.node? l = some (.file content 0o600)) ∧
    (∀ t' l, left [] = (t', none) → t'.locate true path = .ok l →
      (∀ e, ∃ faults t₂, left faults = (t₂, some e) ∧
        t₂.node? l = some (.file content (openMode mask (t.node? l))) ∧
        (seed.length = 32 → ∀ calls,
          loadAll path t₂ calls = (List.replicate calls.length (.ok [ofSeed seed]), t₂))) ∧
      ((∀ m mode, t.node? m ≠ some (.file content mode)) →
        ((∀ faults m mode, (left faults).1.node? m = some (.file content mode) →
          Private mode) ↔ Private (openMode mask (t.node? l))))) ∧
    (Private (openMode mask none) ↔ mask &&& 0o066 = 0o066) := by
  intro content left
  refine ⟨fun faults m mode held => (left_of_run rfl).holds held, fun faults done => ?done,
    fun t' l ran located => ⟨fun e => ?stopped, private_iff ran located⟩, private_openMode_none mask⟩
  case done =>
    have finished : Left mask path content t (left faults).2 (left faults).1 := left_of_run rfl
    rw [done] at finished
    exact finished.protected_
  case stopped =>
    obtain ⟨faults, t₂, stopped, placed, held⟩ := exists_exposed ran located e
    exact ⟨faults, t₂, stopped, held, fun seeded => loadAll_of_stored placed held seeded⟩

/-- With the mask 022 a new key is left to the group and to others by an error in
its protection, and to nobody with the mask 077. -/
theorem exposure_of_key_calls :
    let content := contentOf (List.replicate 32 0)
    let left (mask : Nat) (faults : List (Option SystemError)) :=
      Write.run mask faults .empty (writes "key" content)
    let stopped := [none, none, some (SystemError.code 1)]
    (left 0o022 stopped).1.node? ["home", "key"] = some (.file content 0o644) ∧
    ¬ Private 0o644 ∧
    (∀ faults m mode, (left 0o077 faults).1.node? m = some (.file content mode) →
      Private mode) := by
  intro content left stopped
  have new (m : Location) (mode : Nat) :
      FileTree.empty.node? m ≠ some (.file content mode) := by
    unfold node?
    split <;> nofun
  have ran : left 0o077 [] = (⟨[(["home", "key"], .file content 0o600)]⟩, none) := by
    unfold left
    generalize content = content
    cbv
  have located : (⟨[(["home", "key"], .file content 0o600)]⟩ : FileTree).locate true "key" =
      .ok ["home", "key"] := by
    generalize content = content
    cbv
  refine ⟨?_, by decide, (private_iff ran located new).mpr (by decide)⟩
  unfold left
  generalize content = content
  cbv

end NetconfGate.HostKey

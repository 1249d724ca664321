import NetconfGate.Proofs.Bytes
import NetconfGate.Proofs.FileTree.Walk

/-!
# What a call does to a tree

A file that is opened for writing, filled or protected is the only thing that
changes, and is what its path leads to afterwards. The making of directories puts
directories where nothing was, and only where a path above the wanted one leads.
-/

namespace NetconfGate.FileTree

variable {t t' : FileTree} {l m : Location} {path : String}

/-- Nothing, or a file. -/
inductive Free : Option Entity → Prop where
  | missing : Free none
  | file (content : Bytes) (mode : Nat) : Free (some (.file content mode))

theorem Free.not_directory {found : Option Entity} (free : Free found) : found ≠ some .directory := by
  rintro rfl
  cases free

theorem Free.grows (free : Free (t.node? l)) (content : Bytes) (mode : Nat) :
    Grows t (t.put l (.file content mode)) := by
  refine grows_put free.not_directory ?_
  generalize t.node? l = found at free
  cases free with
  | missing => exact .file content mode
  | file old mode' => exact .refill old content mode' mode

/-- A tree in which the file of a path has been written. -/
structure Written (path : String) (content : Bytes) (mode : Nat) (l : Location) (t t' : FileTree) :
    Prop where
  located : t.locate true path = .ok l
  free : Free (t.node? l)
  result : t' = t.put l (.file content mode)

namespace Written

variable {content content' : Bytes} {mode mode' : Nat}

theorem grows (written : Written path content mode l t t') : Grows t t' := by
  rw [written.result]
  exact written.free.grows content mode

theorem relocated (written : Written path content mode l t t') : t'.locate true path = .ok l :=
  written.grows.locate written.located

theorem node?_eq (written : Written path content mode l t t') :
    t'.node? l = some (.file content mode) := by
  rw [written.result]
  exact node?_put_self written.free.not_directory _

theorem others (written : Written path content mode l t t') (other : m ≠ l) :
    t'.node? m = t.node? m := by
  rw [written.result]
  exact node?_put_of_ne other _

theorem put_put (t : FileTree) (l : Location) (n n' : Entity) : (t.put l n).put l n' = t.put l n' := by
  simp [put, List.filter_append, List.filter_filter]

/-- The last writing stays. -/
theorem trans {t'' : FileTree} (first : Written path content mode l t t')
    (second : Written path content' mode' l t' t'') : Written path content' mode' l t t'' where
  located := first.located
  free := first.free
  result := by rw [second.result, first.result, put_put]

theorem fill_eq (written : Written path content mode l t t') (content' : Bytes) :
    ∃ t'', t'.fill path content' = .ok t'' ∧ Written path content' mode l t' t'' := by
  refine ⟨_, ?_, written.relocated, ?_, rfl⟩
  · simp only [fill, written.relocated, bind, Except.bind, written.node?_eq]
  · rw [written.node?_eq]
    exact .file content mode

theorem setMode_eq (written : Written path content mode l t t') (mode' : Nat) :
    ∃ t'', t'.setMode path mode' = .ok t'' ∧ Written path content mode' l t' t'' := by
  refine ⟨_, ?_, written.relocated, ?_, rfl⟩
  · simp only [setMode, written.relocated, bind, Except.bind, written.node?_eq]
  · rw [written.node?_eq]
    exact .file content mode

end Written

/-- The mode of a file that is opened for writing. An old file keeps its own. -/
def openMode (mask : Nat) : Option Entity → Nat
  | some (.file _ mode) => mode
  | _ => 0o666 - (0o666 &&& mask)

/-- A file that could be opened for writing is where its path leads. -/
theorem written_of_create {mask : Nat} (created : t.create mask path = .ok t') :
    ∃ l, Written path [] (openMode mask (t.node? l)) l t t' := by
  obtain ⟨_, checked, opened⟩ := bind_eq_ok_iff.mp created
  obtain ⟨l, walked, put⟩ := bind_eq_ok_iff.mp opened
  have located (closed : ¬endsWithSlash path = true) : t.locate true path = .ok l := by
    rw [if_neg closed] at walked
    rw [locate, checked]
    exact walked
  split at put
  · cases put
  · next found =>
      split at put
      · cases put
      next closed =>
        cases put
        refine ⟨l, located closed, ?_, by rw [found]; rfl⟩
        rw [found]
        exact .file ..
  · cases put
  · next found =>
      split at put
      · cases put
      next closed =>
        split at put
        · cases put
          refine ⟨l, located closed, ?_, by rw [found]; rfl⟩
          rw [found]
          exact .missing
        · cases put

theorem written_of_fill {content : Bytes} (filled : t.fill path content = .ok t') :
    ∃ l mode, Written path content mode l t t' := by
  obtain ⟨l, located, put⟩ := bind_eq_ok_iff.mp filled
  split at put
  · next old mode found =>
      cases put
      exact ⟨l, mode, located, found ▸ .file old mode, rfl⟩
  · cases put

/-- A file keeps its content when it is given a mode. To a directory nothing is done. -/
theorem written_of_setMode {mode : Nat} (changed : t.setMode path mode = .ok t') :
    t' = t ∨ ∃ l content old,
      t.node? l = some (.file content old) ∧ Written path content mode l t t' := by
  obtain ⟨l, located, put⟩ := bind_eq_ok_iff.mp changed
  split at put
  · next content old found =>
      cases put
      exact .inr ⟨l, content, old, found, located, found ▸ .file content old, rfl⟩
  · cases put
    exact .inl rfl
  · cases put

/-- A file that was filled with a text is read as that text. -/
theorem readText_of_ofText {text : String} {mode : Nat} (located : t.locate true path = .ok l)
    (stored : t.node? l = some (.file (.ofText text) mode)) : t.readText path = .ok text := by
  have read : t.read path = .ok (.ofText text) := by
    simp only [FileTree.read, located, bind, Except.bind, stored]
  simp only [readText, read, bind, Except.bind, Bytes.text?_ofText]

/-- Paths that are left when components at the end are taken off. -/
inductive Above (path : String) : String → Prop where
  | parent {above : String} (up : parent? path = some above) : Above path above
  | further {above higher : String} (before : Above path above) (up : parent? above = some higher) :
      Above path higher

theorem Above.of_parent {above higher : String} (up : parent? path = some above)
    (before : Above above higher) : Above path higher := by
  induction before with
  | parent next => exact .further (.parent up) next
  | further _ next ih => exact .further ih next

/-- A tree in which directories have been made where some of the paths lead. -/
structure Furnished (paths : String → Prop) (t t' : FileTree) : Prop where
  grows : Grows t t'
  made : ∀ l, t'.node? l = t.node? l ∨
    (t.node? l = none ∧ t'.node? l = some .directory ∧ ∃ path, paths path ∧ t'.locate true path = .ok l)

namespace Furnished

variable {paths wider : String → Prop}

theorem refl (paths : String → Prop) (t : FileTree) : Furnished paths t t :=
  ⟨.refl t, fun _ => .inl rfl⟩

theorem mono (furnished : Furnished paths t t') (wide : ∀ path, paths path → wider path) :
    Furnished wider t t' := by
  refine ⟨furnished.grows, fun l => ?_⟩
  rcases furnished.made l with same | ⟨missing, made, path, listed, placed⟩
  · exact .inl same
  · exact .inr ⟨missing, made, path, wide path listed, placed⟩

theorem trans {t'' : FileTree} (first : Furnished paths t t') (second : Furnished paths t' t'') :
    Furnished paths t t'' := by
  refine ⟨first.grows.trans second.grows, fun l => ?_⟩
  rcases first.made l with same | ⟨missing, made, path, listed, placed⟩
  · rw [← same]
    exact second.made l
  · exact .inr ⟨missing, (second.grows l).directory_of made, path, listed, second.grows.locate placed⟩

/-- A file or nothing in the furnished tree was there before. -/
theorem free_of (furnished : Furnished paths t t') (free : Free (t'.node? l)) : Free (t.node? l) := by
  rcases furnished.made l with same | ⟨missing, _, _⟩
  · rwa [← same]
  · rw [missing]
    exact .missing

end Furnished

/-- A directory is where the path leads, with or without slashes at the end. -/
theorem locate_of_trimmed (checked : checkPath path = .ok ())
    (passes : Passes t true 40 (startOf path home) (names (trimmed path)) l)
    (inside : t.node? l = some .directory) : t.locate true path = .ok l := by
  obtain ⟨count, named⟩ := names_trimmed path
  rw [locate, checked, named]
  exact (passes.append_blanks inside count).walk

theorem furnished_of_makeDirectory (made : t.makeDirectory path = .ok t') :
    Furnished (· = path) t t' := by
  obtain ⟨_, checked, walking⟩ := bind_eq_ok_iff.mp made
  obtain ⟨l, walked, put⟩ := bind_eq_ok_iff.mp walking
  split at put
  · cases put
  next missing =>
    split at put
    · cases put
      have firm : Firm (t.node? l) := by
        rw [missing]
        exact nofun
      have vacant : t.node? l ≠ some .directory := by simp [missing]
      have grows : Grows t (t.put l .directory) := by
        refine grows_put vacant ?_
        rw [missing]
        exact .directory
      have passes := ((passes_of_walk walked).follows firm).grows grows
      refine ⟨grows, fun m => ?_⟩
      by_cases same : m = l
      · subst same
        have inside := node?_put_self vacant .directory
        exact .inr ⟨missing, inside, path, rfl, locate_of_trimmed checked passes inside⟩
      · exact .inl (node?_put_of_ne same _)
    · cases put

/-- Directories are made at the path and above it only, also by a call that fails. -/
theorem furnished_makeDirectories (fuel : Nat) (t : FileTree) (path : String) :
    Furnished (fun p => p = path ∨ Above path p) t (makeDirectories fuel t path).1 := by
  induction fuel generalizing t path with
  | zero => exact .refl _ t
  | succ fuel ih =>
      rw [makeDirectories]
      split
      · exact .refl _ t
      split
      · next t₁ made => exact (furnished_of_makeDirectory made).mono fun _ same => .inl same
      next first failed =>
        split
        · split
          · exact .refl _ t
          next above up =>
            have below : Furnished (fun p => p = path ∨ Above path p) t
                (makeDirectories fuel t above).1 := by
              refine (ih t above).mono fun p listed => .inr ?_
              rcases listed with rfl | higher
              · exact .parent up
              · exact .of_parent up higher
            generalize makeDirectories fuel t above = result at below
            obtain ⟨t₁, outcome⟩ := result
            cases outcome with
            | some e => exact below
            | none =>
                dsimp only
                split
                · next t₂ made =>
                    exact below.trans ((furnished_of_makeDirectory made).mono fun _ same => .inl same)
                · exact below
        · exact .refl _ t

end NetconfGate.FileTree

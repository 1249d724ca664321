import NetconfGate.CommandLine.Command

/-!
# What the command line and the variables say

The variables stand in for the options that the command line leaves open, and for
no others: a variable that is not needed is not even read. So what is said about
serving is the command line, read as if there were no variables, over the
variables.
-/

namespace NetconfGate.CommandLine

/-- A path is not empty. -/
def readPath? (text : String) : Option String := if text.isEmpty then none else some text

/-- The variable that stands in for an option. -/
def ServeOption.variable : ServeOption → String
  | .config => "NCPROXY_CONFIG"
  | .bind => "NCPROXY_BIND"
  | .backend => "NCPROXY_BACKEND"
  | .hostKey => "NCPROXY_HOST_KEY"
  | .idle => "NCPROXY_IDLE_TIMEOUT_SECS"
  | .auth => "NCPROXY_AUTH_TIMEOUT_SECS"
  | .connect => "NCPROXY_CONNECT_TIMEOUT_SECS"
  | .workerThreads => "NCPROXY_WORKER_THREADS"

theorem standIn?_eq (o : ServeOption) : serveGrammar.standIn? o = some o.variable := by
  cases o <;> decide +kernel

namespace ServeFlags

/-- One option with a text, if there is one. It stays open if the text does not
suit it. -/
def reading (o : ServeOption) (text : Option String) : ServeFlags :=
  match o with
  | .config => { empty with config := text.bind readPath? }
  | .bind => { empty with bind := text.bind fun text => (address text).toOption }
  | .backend => { empty with backend := text.bind fun text => (address text).toOption }
  | .hostKey => { empty with hostKey := text.bind readPath? }
  | .idle => { empty with idle := text.bind fun text => (number (Nat.pow 2 64) text).toOption }
  | .auth => { empty with auth := text.bind fun text => (number (Nat.pow 2 64) text).toOption }
  | .connect =>
      { empty with connect := text.bind fun text => (number (Nat.pow 2 64) text).toOption }
  | .workerThreads =>
      { empty with workerThreads := text.bind fun text => (number (Nat.pow 2 64) text).toOption }

/-- Each option for itself. -/
def atop (upper lower : ServeFlags) : ServeFlags where
  config := upper.config.or lower.config
  bind := upper.bind.or lower.bind
  backend := upper.backend.or lower.backend
  hostKey := upper.hostKey.or lower.hostKey
  idle := upper.idle.or lower.idle
  auth := upper.auth.or lower.auth
  connect := upper.connect.or lower.connect
  workerThreads := upper.workerThreads.or lower.workerThreads

/-- All that the variables say, whether it is needed or not. -/
def ofVariables (environment : String → Option String) : ServeFlags where
  config := (environment "NCPROXY_CONFIG").bind readPath?
  bind := (environment "NCPROXY_BIND").bind fun text => (address text).toOption
  backend := (environment "NCPROXY_BACKEND").bind fun text => (address text).toOption
  hostKey := (environment "NCPROXY_HOST_KEY").bind readPath?
  idle :=
    (environment "NCPROXY_IDLE_TIMEOUT_SECS").bind fun text =>
      (number (Nat.pow 2 64) text).toOption
  auth :=
    (environment "NCPROXY_AUTH_TIMEOUT_SECS").bind fun text =>
      (number (Nat.pow 2 64) text).toOption
  connect :=
    (environment "NCPROXY_CONNECT_TIMEOUT_SECS").bind fun text =>
      (number (Nat.pow 2 64) text).toOption
  workerThreads :=
    (environment "NCPROXY_WORKER_THREADS").bind fun text =>
      (number (Nat.pow 2 64) text).toOption

/-- The text suits the option. -/
def Suits (o : ServeOption) (text : String) : Prop := (reading o (some text)).isGiven o = true

@[simp]
theorem atop_empty (f : ServeFlags) : f.atop empty = f := by
  simp [atop, empty]

@[simp]
theorem reading_none (o : ServeOption) : reading o none = empty := by
  cases o <;> rfl

theorem isGiven_atop (upper lower : ServeFlags) (o : ServeOption) :
    (upper.atop lower).isGiven o = (upper.isGiven o || lower.isGiven o) := by
  cases o <;> simp [isGiven, atop, Option.isSome_or]

theorem isGiven_reading_of_ne {o other : ServeOption} (different : other ≠ o)
    (text : Option String) : (reading o text).isGiven other = false := by
  cases o <;> cases other <;> first | exact absurd rfl different | rfl

/-- An option that is given hides what is read for it below. -/
theorem atop_reading_of_given {f : ServeFlags} {o : ServeOption} (given : f.isGiven o = true)
    (text : Option String) : f.atop (reading o text) = f := by
  obtain ⟨config, bind, backend, hostKey, idle, auth, connect, workerThreads⟩ := f
  cases o <;> obtain ⟨value, same⟩ := Option.isSome_iff_exists.mp given <;>
    simp_all [atop, reading, empty]

theorem set_eq_ok_iff {α : Type} {read : Except UsageError α} (set : α → ServeFlags)
    {next : ServeFlags} :
    (do pure (set (← read))) = Except.ok (ε := UsageError) next ↔
      ∃ value, read.toOption = some value ∧ next = set value := by
  cases read with
  | error e =>
      refine iff_of_false nofun ?_
      rintro ⟨_, read, _⟩
      cases read
  | ok value =>
      constructor
      · intro made
        cases made
        exact ⟨value, rfl, rfl⟩
      · rintro ⟨_, read, rfl⟩
        cases read
        rfl

theorem toOption_path (o : ServeOption) (text : String) :
    (o.path text).toOption = readPath? text := by
  unfold ServeOption.path readPath?
  split <;> rfl

theorem toOption_refuse {α : Type} (o : ServeOption) (text : String) (read : Except String α) :
    (o.refuse text read).toOption = read.toOption := by
  cases read <;> rfl

/-- An option is given by a text that suits it, and by no other. -/
theorem give_eq_ok_iff {f next : ServeFlags} {o : ServeOption} (isOpen : f.isGiven o = false)
    (text : String) :
    f.give o text = .ok next ↔ Suits o text ∧ next = f.atop (reading o (some text)) := by
  cases o with
  | config | hostKey =>
      have nothing := Option.isSome_eq_false_iff.mp isOpen
      rw [give, set_eq_ok_iff, toOption_path]
      cases read : readPath? text <;> simp_all [Suits, reading, isGiven, atop, empty]
  | bind | backend =>
      have nothing := Option.isSome_eq_false_iff.mp isOpen
      rw [give, set_eq_ok_iff, toOption_refuse]
      cases read : (address text).toOption <;> simp_all [Suits, reading, isGiven, atop, empty]
  | idle | auth | connect | workerThreads =>
      have nothing := Option.isSome_eq_false_iff.mp isOpen
      rw [give, set_eq_ok_iff, toOption_refuse]
      cases read : (number (Nat.pow 2 64) text).toOption <;>
        simp_all [Suits, reading, isGiven, atop, empty]

/-- What the variable of an option says. -/
def ofVariable (environment : String → Option String) (o : ServeOption) : ServeFlags :=
  reading o (environment o.variable)

/-- An option that is still open takes its variable, if there is one. -/
def fill (environment : String → Option String) (f : ServeFlags) (o : ServeOption) :
    Except UsageError ServeFlags :=
  if f.isGiven o then .ok f
  else match environment o.variable with
    | some text => f.give o text
    | none => .ok f

/-- The variables that are looked at for want of an option suit it. -/
def Fits (environment : String → Option String) (f : ServeFlags) (o : ServeOption) : Prop :=
  f.isGiven o = false → ∀ text, environment o.variable = some text → Suits o text

theorem withVariables_eq (environment : String → Option String) (f : ServeFlags) :
    serveGrammar.withVariables environment f = ServeOption.all.foldlM (fill environment) f := by
  unfold Grammar.withVariables
  have steps : (fun (values : ServeFlags) (o : ServeOption) =>
      if serveGrammar.isGiven values o then .ok values
      else match (serveGrammar.standIn? o).bind environment with
        | some value => serveGrammar.give values o value
        | none => .ok values) = fill environment := by
    funext values o
    rw [standIn?_eq]
    rfl
  rw [← steps]
  rfl

theorem fill_eq_ok_iff {environment : String → Option String} {f next : ServeFlags}
    {o : ServeOption} :
    fill environment f o = .ok next ↔
      Fits environment f o ∧ next = f.atop (ofVariable environment o) := by
  unfold fill Fits ofVariable
  cases given : f.isGiven o with
  | true =>
      rw [atop_reading_of_given given]
      simp [eq_comm]
  | false =>
      cases said : environment o.variable with
      | none => simp [eq_comm]
      | some text => simpa using give_eq_ok_iff given text

/-- The variables of other options are of no effect on one. -/
theorem fits_atop_of_ne {environment : String → Option String} {f : ServeFlags}
    {o other : ServeOption} (different : other ≠ o) :
    Fits environment (f.atop (ofVariable environment o)) other ↔ Fits environment f other := by
  unfold Fits ofVariable
  rw [isGiven_atop, isGiven_reading_of_ne different, Bool.or_false]

theorem foldlM_fill {environment : String → Option String} {options : List ServeOption}
    (nodup : options.Nodup) {f next : ServeFlags} :
    options.foldlM (fill environment) f = .ok next ↔
      (∀ o ∈ options, Fits environment f o) ∧
        next = options.foldl (fun f o => f.atop (ofVariable environment o)) f := by
  induction options generalizing f with
  | nil => simp [pure, Except.pure, eq_comm]
  | cons o rest ih =>
      obtain ⟨fresh, others⟩ := List.nodup_cons.mp nodup
      have apart (other : ServeOption) (member : other ∈ rest) : other ≠ o :=
        fun same => fresh (same ▸ member)
      have kept : (∀ other ∈ rest, Fits environment (f.atop (ofVariable environment o)) other) ↔
          ∀ other ∈ rest, Fits environment f other :=
        forall₂_congr fun other member => fits_atop_of_ne (apart other member)
      rw [List.foldlM_cons, List.foldl_cons, List.forall_mem_cons]
      cases filled : fill environment f o with
      | error e =>
          refine iff_of_false nofun fun fits => ?_
          have done := fill_eq_ok_iff.mpr ⟨fits.1.1, rfl⟩
          rw [filled] at done
          cases done
      | ok first =>
          obtain ⟨fits, rfl⟩ := fill_eq_ok_iff.mp filled
          change rest.foldlM (fill environment) _ = _ ↔ _
          rw [ih others, kept]
          simp [fits]

theorem foldl_ofVariable (environment : String → Option String) (f : ServeFlags) :
    ServeOption.all.foldl (fun f o => f.atop (ofVariable environment o)) f =
      f.atop (ofVariables environment) := by
  simp [ServeOption.all, atop, ofVariable, reading, ofVariables, ServeOption.variable, empty]

/-- The variables lie under what is given, and those that are needed suit. -/
theorem withVariables_eq_ok_iff {environment : String → Option String} {f next : ServeFlags} :
    serveGrammar.withVariables environment f = .ok next ↔
      (∀ o, Fits environment f o) ∧ next = f.atop (ofVariables environment) := by
  have all (o : ServeOption) : o ∈ ServeOption.all := by cases o <;> decide
  rw [withVariables_eq, foldlM_fill (by decide), foldl_ofVariable]
  exact and_congr_left' ⟨fun fits o => fits o (all o), fun fits o _ => fits o⟩

theorem withVariables_none (f : ServeFlags) :
    serveGrammar.withVariables (fun _ => none) f = .ok f :=
  withVariables_eq_ok_iff.mpr ⟨fun _ _ _ => nofun, (f.atop_empty).symm⟩

end ServeFlags

/-! ## The command line -/

/-- What follows the command, the variables aside. -/
theorem parse_serve (environment : String → Option String) (rest : List String) :
    serveGrammar.parse environment .empty rest =
      (do
        let p ← serveGrammar.readAll ⟨false, .empty, none, false⟩ rest
        let flags ← serveGrammar.withVariables environment p.values
        return (p.verbose, flags)) := rfl

theorem parse_serve_iff {environment : String → Option String} {rest : List String}
    {shown : Bool} {flags : ServeFlags} :
    serveGrammar.parse environment .empty rest = .ok (shown, flags) ↔
      ∃ given, serveGrammar.parse (fun _ => none) .empty rest = .ok (shown, given) ∧
        serveGrammar.withVariables environment given = .ok flags := by
  rw [parse_serve, parse_serve]
  cases read : serveGrammar.readAll ⟨false, .empty, none, false⟩ rest with
  | error e =>
      refine iff_of_false nofun ?_
      rintro ⟨_, failed, _⟩
      cases failed
  | ok p =>
      have alone : serveGrammar.withVariables (fun _ => none) p.values = .ok p.values :=
        ServeFlags.withVariables_none p.values
      change (serveGrammar.withVariables environment p.values >>= fun flags =>
          Except.ok (p.verbose, flags)) = _ ↔
        ∃ given, (serveGrammar.withVariables (fun _ => none) p.values >>= fun flags =>
          Except.ok (p.verbose, flags)) = _ ∧ _
      rw [alone]
      constructor
      · intro made
        cases filled : serveGrammar.withVariables environment p.values with
        | error e =>
            rw [filled] at made
            cases made
        | ok values =>
            rw [filled] at made
            cases made
            exact ⟨p.values, rfl, filled⟩
      · rintro ⟨given, same, filled⟩
        cases same
        rw [filled]
        rfl

/-- No other command serves. -/
theorem serve_of_readCommand {environment : String → Option String} {verbose shown : Bool}
    {name : String} {rest : List String} {flags : ServeFlags}
    (read : readCommand environment verbose name rest = .ok ⟨shown, .serve flags⟩) :
    name = "serve" := by
  refine Decidable.byContradiction fun other => ?_
  unfold readCommand at read
  rw [if_neg other] at read
  split at read
  · cases hashed : hashGrammar.parse environment none rest with
    | error e =>
        rw [hashed] at read
        cases read
    | ok answer =>
        obtain ⟨more, _ | password⟩ := answer <;> rw [hashed] at read <;> cases read
  · split at read <;> cases read

theorem readCommand_serve_iff {environment : String → Option String} {verbose shown : Bool}
    {rest : List String} {flags : ServeFlags} :
    readCommand environment verbose "serve" rest = .ok ⟨shown, .serve flags⟩ ↔
      ∃ more, serveGrammar.parse environment .empty rest = .ok (more, flags) ∧
        shown = (verbose || more) := by
  unfold readCommand
  rw [if_pos rfl]
  cases parsed : serveGrammar.parse environment .empty rest with
  | error e =>
      refine iff_of_false nofun ?_
      rintro ⟨_, failed, _⟩
      cases failed
  | ok answer =>
      constructor
      · intro made
        cases made
        exact ⟨answer.1, rfl, rfl⟩
      · rintro ⟨more, same, rfl⟩
        cases same
        rfl

/-- Only serving makes use of the variables that stand in for its options. -/
theorem readCommand_serve {environment : String → Option String} {verbose shown : Bool}
    {name : String} {rest : List String} {flags : ServeFlags} :
    readCommand environment verbose name rest = .ok ⟨shown, .serve flags⟩ ↔
      ∃ given, readCommand (fun _ => none) verbose name rest = .ok ⟨shown, .serve given⟩ ∧
        serveGrammar.withVariables environment given = .ok flags := by
  constructor
  · intro read
    obtain rfl := serve_of_readCommand read
    obtain ⟨more, parsed, same⟩ := readCommand_serve_iff.mp read
    obtain ⟨given, alone, filled⟩ := parse_serve_iff.mp parsed
    exact ⟨given, readCommand_serve_iff.mpr ⟨more, alone, same⟩, filled⟩
  · rintro ⟨given, read, filled⟩
    obtain rfl := serve_of_readCommand read
    obtain ⟨more, alone, same⟩ := readCommand_serve_iff.mp read
    exact readCommand_serve_iff.mpr ⟨more, parse_serve_iff.mpr ⟨given, alone, filled⟩, same⟩

theorem readMain_serve {environment : String → Option String} {p : Progress Empty Unit}
    {words : List String} {shown : Bool} {flags : ServeFlags} :
    readMain environment p words = .ok ⟨shown, .serve flags⟩ ↔
      ∃ given, readMain (fun _ => none) p words = .ok ⟨shown, .serve given⟩ ∧
        serveGrammar.withVariables environment given = .ok flags := by
  induction words generalizing p with
  | nil =>
      rw [readMain, readMain]
      refine iff_of_false nofun ?_
      rintro ⟨_, read, _⟩
      cases read
  | cons word rest ih =>
      rw [readMain, readMain]
      cases read : mainGrammar.readWord p word with
      | error e =>
          refine iff_of_false nofun ?_
          rintro ⟨_, read, _⟩
          cases read
      | ok progress =>
          cases progress with
          | some next => exact ih
          | none =>
              dsimp only [bind, Except.bind]
              by_cases isCommand : (!p.plainOnly && commandNames.contains word) = true
              · rw [if_pos isCommand, if_pos isCommand]
                exact readCommand_serve
              · rw [if_neg isCommand, if_neg isCommand]
                refine iff_of_false nofun ?_
                rintro ⟨_, read, _⟩
                cases read

/-- A line that serves says so by itself. The variables lie under what it gives,
and those that are looked at suit their options. -/
theorem parse_serve_eq_ok_iff {environment : String → Option String} {words : List String}
    {shown : Bool} {flags : ServeFlags} :
    parse environment words = .ok ⟨shown, .serve flags⟩ ↔
      ∃ given, parse (fun _ => none) words = .ok ⟨shown, .serve given⟩ ∧
        (∀ o, given.Fits environment o) ∧ flags = given.atop (.ofVariables environment) := by
  unfold parse
  rw [readMain_serve]
  exact exists_congr fun _ => and_congr_right fun _ => ServeFlags.withVariables_eq_ok_iff

/-- An option and its text in one word. -/
def spelled (w : ServeOption × String) : String := "--" ++ w.1.name ++ "=" ++ w.2

theorem Word.ofText_long {text : String} {first : Char} {rest : List Char}
    (letters : text.toList = '-' :: '-' :: first :: rest) :
    ofText text = .long (String.ofList ((first :: rest).takeWhile (· ≠ '=')))
      (if ((first :: rest).takeWhile (· ≠ '=')).length < (first :: rest).length then
        some (String.ofList
          ((first :: rest).drop (((first :: rest).takeWhile (· ≠ '=')).length + 1)))
      else none) := by
  unfold ofText
  rw [letters]
  rfl

theorem Word.ofText_spelled (o : ServeOption) (text : String) :
    ofText (spelled (o, text)) = .long o.name (some text) := by
  have named : ∀ c ∈ o.name.toList, decide (c ≠ '=') = true := by
    cases o <;> simp [ServeOption.name]
  have letters : (spelled (o, text)).toList =
      '-' :: '-' :: (o.name.toList ++ '=' :: text.toList) := by
    simp [spelled]
  have front : (o.name.toList ++ '=' :: text.toList).takeWhile (· ≠ '=') = o.name.toList := by
    rw [List.takeWhile_append_of_pos named]
    simp
  obtain ⟨first, rest, same⟩ := List.exists_cons_of_ne_nil
    (show o.name.toList ++ '=' :: text.toList ≠ [] by simp)
  rw [ofText_long (same ▸ letters), ← same, front]
  simp

theorem flag?_name (o : ServeOption) : serveGrammar.flag? o.name = none := by
  cases o <;> decide +kernel

theorem find_name (o : ServeOption) : serveGrammar.find o.name = some o := by
  cases o <;> decide +kernel

/-- A word that spells an open option gives it. -/
theorem readWord_spelled {p : Progress ServeOption ServeFlags} {o : ServeOption} {text : String}
    (plain : p.plainOnly = false) (settled : p.pending = none)
    (isOpen : p.values.isGiven o = false) (suits : ServeFlags.Suits o text) :
    serveGrammar.readWord p (spelled (o, text)) =
      .ok (some { p with values := p.values.atop (.reading o (some text)) }) := by
  have given := (ServeFlags.give_eq_ok_iff isOpen text).mpr ⟨suits, rfl⟩
  have stored : serveGrammar.store p.values o text =
      .ok (p.values.atop (.reading o (some text))) := by
    unfold Grammar.store
    rw [if_neg (by rw [show serveGrammar.isGiven p.values o = false from isOpen]; decide)]
    exact given
  unfold Grammar.readWord
  rw [if_neg (by rw [plain]; decide), Word.ofText_spelled]
  simp only [Grammar.readLong, flag?_name, find_name, Grammar.start, Grammar.settle, settled]
  change some <$> (serveGrammar.store p.values o text >>= fun values =>
    Except.ok { p with values := values }) = _
  rw [stored, ← settled]
  rfl

/-- What options give that are written one after the other. -/
def ofWritten (written : List (ServeOption × String)) (f : ServeFlags) : ServeFlags :=
  written.foldl (fun f w => f.atop (.reading w.1 (some w.2))) f

theorem readAll_spelled {written : List (ServeOption × String)}
    {p : Progress ServeOption ServeFlags} (plain : p.plainOnly = false)
    (settled : p.pending = none) (nodup : (written.map Prod.fst).Nodup)
    (allOpen : ∀ w ∈ written, p.values.isGiven w.1 = false)
    (suits : ∀ w ∈ written, ServeFlags.Suits w.1 w.2) :
    serveGrammar.readAll p (written.map spelled) =
      .ok { p with values := ofWritten written p.values } := by
  induction written generalizing p with
  | nil =>
      change serveGrammar.settle p = .ok p
      rw [Grammar.settle, settled]
  | cons w rest ih =>
      obtain ⟨fresh, others⟩ := List.nodup_cons.mp nodup
      obtain ⟨isOpen, restOpen⟩ := List.forall_mem_cons.mp allOpen
      obtain ⟨fits, restSuits⟩ := List.forall_mem_cons.mp suits
      have stillOpen : ∀ other ∈ rest,
          (p.values.atop (.reading w.1 (some w.2))).isGiven other.1 = false := by
        intro other member
        have apart : other.1 ≠ w.1 := fun same => fresh (same ▸ List.mem_map_of_mem member)
        rw [ServeFlags.isGiven_atop, restOpen other member,
          ServeFlags.isGiven_reading_of_ne apart]
        rfl
      rw [List.map_cons, Grammar.readAll, readWord_spelled plain settled isOpen fits]
      exact ih plain settled others stillOpen restSuits

/-- Options that are written once each, with texts that suit them, are what the
line gives. -/
theorem parse_spelled {written : List (ServeOption × String)}
    (nodup : (written.map Prod.fst).Nodup) (suits : ∀ w ∈ written, ServeFlags.Suits w.1 w.2) :
    parse (fun _ => none) ("serve" :: written.map spelled) =
      .ok ⟨false, .serve (ofWritten written .empty)⟩ := by
  have nothingGiven : ∀ w ∈ written, ServeFlags.empty.isGiven w.1 = false := by
    intro w _
    cases w.1 <;> rfl
  have parsed : serveGrammar.parse (fun _ => none) .empty (written.map spelled) =
      .ok (false, ofWritten written .empty) := by
    rw [parse_serve, readAll_spelled rfl rfl nodup nothingGiven suits]
    change (serveGrammar.withVariables (fun _ => none) (ofWritten written .empty) >>= fun flags =>
      Except.ok (false, flags)) = _
    rw [ServeFlags.withVariables_none]
    rfl
  have command : mainGrammar.readWord ⟨false, (), none, false⟩ "serve" = .ok none := rfl
  unfold parse readMain
  rw [command]
  exact readCommand_serve_iff.mpr ⟨false, parsed, rfl⟩

end NetconfGate.CommandLine

import NetconfGate.Configuration
import NetconfGate.Proofs.Except
import Mathlib.Data.List.Induction

/-!
# What a configuration keeps of its settings

A draft keeps the last setting for each field and nothing of the others, so the
settings for different fields may come in any order. Completing it fails for the
first required field that was never set. What was not said of the timeouts is
filled in last, from the idle timeout that was said last, so a timeout that was
filled in is zero only if that one is, and then that one is named.
-/

namespace NetconfGate

theorem min_nanos (a b : Duration) : a.min b = ⟨min a.nanos b.nanos⟩ := by
  unfold Duration.min
  split
  · next less => rw [Nat.min_eq_right (Nat.le_of_lt less)]
  · next most => rw [Nat.min_eq_left (Nat.le_of_not_lt most)]

namespace Timeouts

/-- The timeouts and their names, in the order in which they are looked at. -/
def named (t : Timeouts) : List (String × Duration) :=
  [("idle_timeout", t.idle), ("auth_timeout", t.auth), ("connect_timeout", t.connect)]

/-- The name of the first timeout that is zero. -/
def firstZero? (t : Timeouts) : Option String :=
  (t.named.find? fun timeout => timeout.2.isZero).map Prod.fst

theorem validate_eq (t : Timeouts) :
    t.validate =
      match t.firstZero? with
      | none => .ok ()
      | some name => .error (.zeroTimeout name) := by
  unfold validate firstZero? named
  simp only [List.find?_cons, List.find?_nil]
  cases t.idle.isZero with
  | true => rfl
  | false =>
      cases t.auth.isZero with
      | true => rfl
      | false => cases t.connect.isZero <;> rfl

theorem firstZero?_eq_none_iff (t : Timeouts) :
    t.firstZero? = none ↔ ∀ timeout ∈ t.named, timeout.2.isZero = false := by
  simp [firstZero?]

theorem firstZero?_eq_some_iff (t : Timeouts) (name : String) :
    t.firstZero? = some name ↔
      ∃ before timeout after, t.named = before ++ (name, timeout) :: after ∧
        (∀ earlier ∈ before, earlier.2.isZero = false) ∧ timeout.isZero = true := by
  rw [firstZero?, Option.map_eq_some_iff]
  constructor
  · rintro ⟨⟨_, timeout⟩, found, rfl⟩
    obtain ⟨zero, before, after, split, others⟩ := List.find?_eq_some_iff_append.mp found
    exact ⟨before, timeout, after, split, fun earlier among => by simpa using others earlier among,
      zero⟩
  · rintro ⟨before, timeout, after, split, others, zero⟩
    refine ⟨(name, timeout), List.find?_eq_some_iff_append.mpr ⟨zero, before, after, split, ?_⟩, rfl⟩
    intro earlier among
    rw [others earlier among]
    rfl

end Timeouts

namespace Configuration

variable {α κ : Type}

theorem usableTimeouts_eq (c : Configuration α κ) :
    c.usableTimeouts =
      match c.timeouts.firstZero? with
      | none => .ok c.timeouts
      | some name => .error (.zeroTimeout name) := by
  rw [usableTimeouts, Timeouts.validate_eq]
  cases c.timeouts.firstZero? <;> rfl

theorem usableTimeouts_eq_ok_iff (c : Configuration α κ) (t : Timeouts) :
    c.usableTimeouts = .ok t ↔ t = c.timeouts ∧ c.timeouts.firstZero? = none := by
  rw [usableTimeouts_eq]
  cases c.timeouts.firstZero? with
  | none => simp [eq_comm]
  | some name => simp

theorem usableTimeouts_eq_error_iff (c : Configuration α κ) (e : ConfigurationError) :
    c.usableTimeouts = .error e ↔
      ∃ name, e = .zeroTimeout name ∧ c.timeouts.firstZero? = some name := by
  rw [usableTimeouts_eq]
  cases c.timeouts.firstZero? with
  | none => simp
  | some name => simp [eq_comm]

/-- What a setting may be for. -/
inductive Field where
  | bindingAddress
  | backendAddress
  | authenticator
  | keySource
  | idle
  | auth
  | connect
deriving DecidableEq

namespace Field

/-- The fields that have to be set, in the order in which they are missed. -/
def required : List Field := [bindingAddress, backendAddress, authenticator, keySource]

def name : Field → String
  | bindingAddress => "binding_address"
  | backendAddress => "backend_address"
  | authenticator => "authenticator"
  | keySource => "key_pair_provider"
  | idle => "idle_timeout"
  | auth => "auth_timeout"
  | connect => "connect_timeout"

end Field

namespace Setting

def field : Setting α κ → Field
  | bindingAddress _ => .bindingAddress
  | backendAddress _ => .backendAddress
  | authenticator _ => .authenticator
  | keySource _ => .keySource
  | idle _ => .idle
  | auth _ => .auth
  | connect _ => .connect

def timeout? : Setting α κ → Option Duration
  | idle timeout => some timeout
  | auth timeout => some timeout
  | connect timeout => some timeout
  | _ => none

end Setting

/-- The last of the settings for a field. -/
def lastSetting (settings : List (Setting α κ)) (field : Field) : Option (Setting α κ) :=
  (settings.filter fun setting => setting.field = field).getLast?

/-- The timeout that was set last for a field. -/
def lastTimeout (settings : List (Setting α κ)) (field : Field) : Option Duration :=
  (lastSetting settings field).bind Setting.timeout?

theorem lastSetting_concat (settings : List (Setting α κ)) (setting : Setting α κ)
    (field : Field) :
    lastSetting (settings ++ [setting]) field =
      if setting.field = field then some setting else lastSetting settings field := by
  unfold lastSetting
  rw [List.filter_append]
  by_cases same : setting.field = field <;> simp [same]

theorem lastSetting_eq_none_iff (settings : List (Setting α κ)) (field : Field) :
    lastSetting settings field = none ↔ ∀ setting ∈ settings, setting.field ≠ field := by
  simp [lastSetting]

/-- Neighbours for different fields may change places. -/
theorem lastSetting_swap {a b : Setting α κ} (apart : a.field ≠ b.field)
    (before after : List (Setting α κ)) (field : Field) :
    lastSetting (before ++ b :: a :: after) field =
      lastSetting (before ++ a :: b :: after) field := by
  unfold lastSetting
  rw [List.filter_append, List.filter_append]
  by_cases first : a.field = field
  · have second : b.field ≠ field := fun same => apart (first.trans same.symm)
    simp [first, second]
  · simp only [List.filter_cons, first, decide_false]
    rfl

namespace Draft

/-- What the draft holds for a field, as the setting that would put it there. -/
def held (d : Draft α κ) : Field → Option (Setting α κ)
  | .bindingAddress => d.bindingAddress.map .bindingAddress
  | .backendAddress => d.backendAddress.map .backendAddress
  | .authenticator => d.authenticator.map .authenticator
  | .keySource => d.keySource.map .keySource
  | .idle => d.idle.map .idle
  | .auth => d.auth.map .auth
  | .connect => d.connect.map .connect

theorem held_set (d : Draft α κ) (setting : Setting α κ) (field : Field) :
    (d.set setting).held field = if setting.field = field then some setting else d.held field := by
  cases setting <;> cases field <;> rfl

theorem held_ofSettings (settings : List (Setting α κ)) (field : Field) :
    (ofSettings settings).held field = lastSetting settings field := by
  induction settings using List.reverseRecOn with
  | nil => cases field <;> rfl
  | append_singleton settings last ih =>
      have later : ofSettings (settings ++ [last]) = (ofSettings settings).set last := by
        simp [ofSettings]
      rw [later, held_set, lastSetting_concat, ih]

/-- A draft is what it holds. -/
theorem ext_held {d other : Draft α κ} (same : ∀ field, d.held field = other.held field) :
    d = other := by
  have apart {β γ : Type} {put : β → γ} (injective : ∀ x y, put x = put y → x = y)
      {one two : Option β} (equal : one.map put = two.map put) : one = two :=
    Option.map_injective injective equal
  obtain ⟨_, _, _, _, _, _, _⟩ := d
  obtain ⟨_, _, _, _, _, _, _⟩ := other
  congr 1
  · exact apart (by simp) (same .bindingAddress)
  · exact apart (by simp) (same .backendAddress)
  · exact apart (by simp) (same .authenticator)
  · exact apart (by simp) (same .keySource)
  · exact apart (by simp) (same .idle)
  · exact apart (by simp) (same .auth)
  · exact apart (by simp) (same .connect)

theorem ofSettings_congr {settings others : List (Setting α κ)}
    (same : ∀ field, lastSetting others field = lastSetting settings field) :
    (ofSettings others : Draft α κ) = ofSettings settings := by
  apply ext_held
  intro field
  rw [held_ofSettings, held_ofSettings, same]

/-- The first required field of which nothing is held. -/
def missing? (d : Draft α κ) : Option Field :=
  Field.required.find? fun field => (d.held field).isNone

theorem complete_eq (d : Draft α κ) :
    (∃ field, d.missing? = some field ∧ d.complete = .error (.missingField field.name)) ∨
      d.missing? = none ∧
        ∃ c, d.complete = .ok c ∧ c.timeouts = d.timeouts ∧
          d.held .bindingAddress = some (.bindingAddress c.bindingAddress) ∧
          d.held .backendAddress = some (.backendAddress c.backendAddress) ∧
          d.held .authenticator = some (.authenticator c.authenticator) ∧
          d.held .keySource = some (.keySource c.keySource) := by
  obtain ⟨binding, backend, authenticator, keys, _, _, _⟩ := d
  cases binding with
  | none => exact Or.inl ⟨.bindingAddress, rfl, rfl⟩
  | some binding =>
      cases backend with
      | none => exact Or.inl ⟨.backendAddress, rfl, rfl⟩
      | some backend =>
          cases authenticator with
          | none => exact Or.inl ⟨.authenticator, rfl, rfl⟩
          | some authenticator =>
              cases keys with
              | none => exact Or.inl ⟨.keySource, rfl, rfl⟩
              | some keys => exact Or.inr ⟨rfl, _, rfl, rfl, rfl, rfl, rfl, rfl⟩

theorem complete_eq_ok_iff (d : Draft α κ) : (∃ c, d.complete = .ok c) ↔ d.missing? = none := by
  rcases d.complete_eq with ⟨field, missing, failed⟩ | ⟨nothing, c, made, _⟩
  · exact iff_of_false (by simp [failed]) (by simp [missing])
  · exact iff_of_true ⟨c, made⟩ nothing

theorem complete_eq_error_iff (d : Draft α κ) (e : ConfigurationError) :
    d.complete = .error e ↔ ∃ field, e = .missingField field.name ∧ d.missing? = some field := by
  rcases d.complete_eq with ⟨field, missing, failed⟩ | ⟨nothing, c, made, _⟩
  · simp [failed, missing, eq_comm]
  · exact iff_of_false (by simp [made]) (by simp [nothing])

/-- A field is missing if it was never set. -/
theorem isNone_held (settings : List (Setting α κ)) (field : Field) :
    ((ofSettings settings : Draft α κ).held field).isNone = true ↔
      ∀ setting ∈ settings, setting.field ≠ field := by
  rw [held_ofSettings, Option.isNone_iff_eq_none, lastSetting_eq_none_iff]

theorem isNone_held_eq_false (settings : List (Setting α κ)) (field : Field) :
    ((ofSettings settings : Draft α κ).held field).isNone = false ↔
      ∃ setting ∈ settings, setting.field = field := by
  rw [← Bool.not_eq_true, isNone_held]
  simp

theorem missing?_eq_none_iff (settings : List (Setting α κ)) :
    (ofSettings settings : Draft α κ).missing? = none ↔
      ∀ field ∈ Field.required, ∃ setting ∈ settings, setting.field = field := by
  simp only [missing?, List.find?_eq_none, Bool.not_eq_true, isNone_held_eq_false]

theorem missing?_eq_some_iff (settings : List (Setting α κ)) (field : Field) :
    (ofSettings settings : Draft α κ).missing? = some field ↔
      ∃ before after, Field.required = before ++ field :: after ∧
        (∀ earlier ∈ before, ∃ setting ∈ settings, setting.field = earlier) ∧
        ∀ setting ∈ settings, setting.field ≠ field := by
  rw [missing?, List.find?_eq_some_iff_append, isNone_held]
  simp only [Bool.not_eq_true', isNone_held_eq_false]
  constructor
  · rintro ⟨never, before, after, split, earlier⟩
    exact ⟨before, after, split, earlier, never⟩
  · rintro ⟨before, after, split, earlier, never⟩
    exact ⟨never, before, after, split, earlier⟩

/-- A timeout that was not set goes by the idle timeout that was set last. -/
theorem timeouts_ofSettings (settings : List (Setting α κ)) :
    let idle := (lastTimeout settings .idle).getD defaultIdleTimeout
    (ofSettings settings : Draft α κ).timeouts =
      ⟨idle, (lastTimeout settings .auth).getD idle,
        (lastTimeout settings .connect).getD (defaultConnectTimeout.min idle)⟩ := by
  intro idle
  have told (field : Field) : lastTimeout settings field =
      ((ofSettings settings : Draft α κ).held field).bind Setting.timeout? := by
    rw [held_ofSettings, lastTimeout]
  have kept {put : Duration → Setting α κ} (timeout : ∀ t, (put t).timeout? = some t)
      (given : Option Duration) : (given.map put).bind Setting.timeout? = given := by
    cases given with
    | none => rfl
    | some t => exact timeout t
  have idle_eq : (ofSettings settings : Draft α κ).idle = lastTimeout settings .idle :=
    ((told .idle).trans (kept (fun _ => rfl) _)).symm
  have auth_eq : (ofSettings settings : Draft α κ).auth = lastTimeout settings .auth :=
    ((told .auth).trans (kept (fun _ => rfl) _)).symm
  have connect_eq : (ofSettings settings : Draft α κ).connect = lastTimeout settings .connect :=
    ((told .connect).trans (kept (fun _ => rfl) _)).symm
  unfold timeouts
  rw [idle_eq, auth_eq, connect_eq]

end Draft

/-! ## From the settings to the timeouts of a transport -/

/-- Timeouts that were filled in are zero only if the idle timeout is. -/
theorem firstZero?_of_lastTimeout {settings : List (Setting α κ)}
    (nonzero : ∀ field t, lastTimeout settings field = some t → t.isZero = false) :
    (Draft.ofSettings settings : Draft α κ).timeouts.firstZero? = none := by
  have filled (field : Field) (default : Duration) (long : default.isZero = false) :
      ((lastTimeout settings field).getD default).isZero = false := by
    cases said : lastTimeout settings field with
    | none => exact long
    | some t => exact nonzero field t said
  have idle := filled .idle defaultIdleTimeout rfl
  have auth := filled .auth _ idle
  have short : (defaultConnectTimeout.min
      ((lastTimeout settings .idle).getD defaultIdleTimeout)).isZero = false := by
    rw [Duration.isZero_min, idle]
    rfl
  have connect := filled .connect _ short
  rw [Timeouts.firstZero?_eq_none_iff, Draft.timeouts_ofSettings]
  simp only [Timeouts.named, List.forall_mem_cons]
  exact ⟨idle, auth, connect, nofun⟩

theorem firstZero?_of_idle {t : Timeouts} (zero : t.idle.isZero = true) :
    t.firstZero? = some "idle_timeout" := by
  simp [Timeouts.firstZero?, Timeouts.named, zero]

/--
Any settings in any order, one after the other.

Only the last setting for each field matters, and neighbours for different fields
may change places.  There is a configuration if and only if each required field was
set at all, and otherwise the first one is named that never was.  It holds what was
set last; a time for a login that was never set is the idle timeout that was set
last, wherever that was, and a time for a dial that was never set is that one or ten
seconds, whichever is shorter.

The timeouts of any configuration are usable if and only if none is zero, and
otherwise the first zero is named in the order idle, auth, connect.  So they are
usable if no timeout that was set last is zero; and if the idle timeout is, that is
the one that is named, whatever was filled in from it.
-/
theorem configuration_of_settings (settings : List (Setting α κ)) :
    let draft : Draft α κ := .ofSettings settings
    let idle := (lastTimeout settings .idle).getD defaultIdleTimeout
    (∀ others, (∀ field, lastSetting others field = lastSetting settings field) →
      (Draft.ofSettings others).complete = draft.complete) ∧
    (∀ before after a b, settings = before ++ a :: b :: after → a.field ≠ b.field →
      (Draft.ofSettings (before ++ b :: a :: after)).complete = draft.complete) ∧
    ((∃ c, draft.complete = .ok c) ↔
      ∀ field ∈ Field.required, ∃ setting ∈ settings, setting.field = field) ∧
    (∀ e, draft.complete = .error e ↔
      ∃ field, e = .missingField field.name ∧
        ∃ before after, Field.required = before ++ field :: after ∧
          (∀ earlier ∈ before, ∃ setting ∈ settings, setting.field = earlier) ∧
          ∀ setting ∈ settings, setting.field ≠ field) ∧
    (∀ c, draft.complete = .ok c →
      lastSetting settings .bindingAddress = some (.bindingAddress c.bindingAddress) ∧
      lastSetting settings .backendAddress = some (.backendAddress c.backendAddress) ∧
      lastSetting settings .authenticator = some (.authenticator c.authenticator) ∧
      lastSetting settings .keySource = some (.keySource c.keySource) ∧
      c.timeouts.idle = idle ∧
      c.timeouts.auth = (lastTimeout settings .auth).getD idle ∧
      c.timeouts.connect =
        (lastTimeout settings .connect).getD ⟨min (Duration.ofSeconds 10).nanos idle.nanos⟩ ∧
      ((∀ field t, lastTimeout settings field = some t → t.isZero = false) →
        c.usableTimeouts = .ok c.timeouts) ∧
      (idle.isZero = true → c.usableTimeouts = .error (.zeroTimeout "idle_timeout"))) ∧
    ∀ c : Configuration α κ,
      (∀ t, c.usableTimeouts = .ok t ↔
        t = c.timeouts ∧ ∀ timeout ∈ c.timeouts.named, timeout.2.isZero = false) ∧
      ∀ e, c.usableTimeouts = .error e ↔
        ∃ name, e = .zeroTimeout name ∧
          ∃ before timeout after, c.timeouts.named = before ++ (name, timeout) :: after ∧
            (∀ earlier ∈ before, earlier.2.isZero = false) ∧ timeout.isZero = true := by
  intro draft idle
  refine ⟨?same, ?swap, ?ok, ?error, ?built, ?usable⟩
  case same =>
    intro others same
    rw [Draft.ofSettings_congr same]
  case swap =>
    rintro before after a b rfl apart
    exact congrArg Draft.complete (Draft.ofSettings_congr (lastSetting_swap apart before after))
  case ok =>
    rw [draft.complete_eq_ok_iff]
    exact Draft.missing?_eq_none_iff settings
  case error =>
    intro e
    rw [draft.complete_eq_error_iff]
    exact exists_congr fun field => and_congr_right' (Draft.missing?_eq_some_iff settings field)
  case built =>
    intro c made
    rcases draft.complete_eq with ⟨field, _, failed⟩ | ⟨_, other, completed, timeouts, held⟩
    · cases failed.symm.trans made
    · cases completed.symm.trans made
      simp only [draft, Draft.held_ofSettings] at held
      obtain ⟨binding, backend, authenticator, keys⟩ := held
      have filled := timeouts.trans (Draft.timeouts_ofSettings settings)
      refine ⟨binding, backend, authenticator, keys, ?_, ?_, ?_, ?_, ?_⟩
      · rw [filled]
      · rw [filled]
      · rw [filled, ← min_nanos]
        rfl
      · intro nonzero
        refine (c.usableTimeouts_eq_ok_iff _).mpr ⟨rfl, ?_⟩
        rw [timeouts]
        exact firstZero?_of_lastTimeout nonzero
      · intro zero
        refine (c.usableTimeouts_eq_error_iff _).mpr ⟨_, rfl, firstZero?_of_idle ?_⟩
        rw [filled]
        exact zero
  case usable =>
    intro c
    constructor
    · intro t
      rw [c.usableTimeouts_eq_ok_iff, Timeouts.firstZero?_eq_none_iff]
    · intro e
      rw [c.usableTimeouts_eq_error_iff]
      exact exists_congr fun name => and_congr_right' (c.timeouts.firstZero?_eq_some_iff name)

/-- A zero that comes last is not covered up by the time that was there before. -/
example (own backend : Address) :
    let settings : List (Setting Unit Unit) :=
      [.idle (.ofSeconds 5), .keySource (), .authenticator (), .backendAddress backend,
        .bindingAddress own, .idle .zero]
    (Draft.ofSettings settings).complete.bind usableTimeouts =
      .error (.zeroTimeout "idle_timeout") := rfl

end Configuration

end NetconfGate

import NetconfGate.Program.Serve
import NetconfGate.Secure.Timers

/-!
# Which timeouts leave a session

Timeouts are usable when none of them is zero, and the settings that they come
from are whole seconds below 2^64. The clock counts seconds below 2^63. A timer
for an idle session or for a dial can be set for all of them, the deadline of a
login for those that the clock can tell, counted from when the client is accepted.
-/

namespace NetconfGate

open CommandLine (ServeFlags)

namespace Moment

/-- A timer goes off when its time is over, or in the far future. -/
theorem alarm_nanos (m : Moment) (d : Duration) :
    (m.alarm d).nanos =
      m.nanos + if m.nanos + d.nanos < limit then d.nanos else farAway.nanos := by
  unfold alarm
  cases set_ : m.after? d with
  | none =>
      have beyond := (after?_eq_none_iff m d).mp set_
      rw [if_neg (Nat.not_lt.mpr beyond)]
      rfl
  | some later =>
      obtain ⟨within, rfl⟩ := (after?_eq_some_iff m d later).mp set_
      rw [if_pos within]
      rfl

end Moment

theorem Duration.nanos_pos {d : Duration} (some_time : d.isZero = false) : 0 < d.nanos :=
  Nat.pos_of_ne_zero (by simpa [isZero] using some_time)

theorem Timeouts.timers?_eq_some {t : Timeouts} {accepted dialled : Moment} {timers : Timers}
    (set_ : t.timers? accepted dialled = some timers) :
    accepted.nanos + t.auth.nanos < Moment.limit ∧
      timers = ⟨⟨accepted.nanos + t.auth.nanos⟩, accepted.alarm t.idle, dialled.alarm t.connect⟩ := by
  obtain ⟨login, found, rfl⟩ := Option.map_eq_some_iff.mp set_
  obtain ⟨told, rfl⟩ := (Moment.after?_eq_some_iff _ _ _).mp found
  exact ⟨told, rfl⟩

/-- There is a session just when all its timers can be set. -/
theorem Timeouts.isSome_timers? (t : Timeouts) (accepted dialled : Moment) :
    (t.timers? accepted dialled).isSome = (Secure.Watch.start? accepted t.auth).isSome := by
  simp [timers?, Secure.Watch.start?]

theorem Timeouts.isSome_timers?_iff (t : Timeouts) (accepted dialled : Moment) :
    (t.timers? accepted dialled).isSome = true ↔
      accepted.nanos + t.auth.nanos < Moment.limit := by
  rw [isSome_timers?, Option.isSome_iff_ne_none, Ne, Secure.Watch.start?_eq_none_iff, Nat.not_le]

/-- What settings in seconds come to when the timeouts of a server are usable. The
time for a login is that of an idle session if there is none of its own. -/
theorem timeouts_of_settings {flags : ServeFlags} {file : Settings.File} {s : Settings}
    {users : Password.Table} {config : Configuration Password.Table HostKey.Source} {t : Timeouts}
    (layered : Settings.layer flags file = .ok s)
    (configured : Program.configuration s users = .ok config)
    (usable : config.usableTimeouts = .ok t) :
    let idle := (flags.idle.or file.idle).getD 600
    let auth := (flags.auth.or file.auth).getD idle
    t.idle = .ofSeconds idle ∧ t.auth = .ofSeconds auth ∧ t.validate = .ok () := by
  intro idle auth
  have idle_eq : s.idle = .ofSeconds idle ∧ s.auth.getD s.idle = .ofSeconds auth := by
    unfold Settings.layer at layered
    split at layered
    · cases layered
    · cases layered
      have first : ((flags.idle.or file.idle).map Duration.ofSeconds).getD defaultIdleTimeout =
          .ofSeconds idle :=
        Option.getD_map Duration.ofSeconds 600 (flags.idle.or file.idle)
      refine ⟨first, ?_⟩
      change ((flags.auth.or file.auth).map Duration.ofSeconds).getD _ = _
      rw [first]
      exact Option.getD_map Duration.ofSeconds idle (flags.auth.or file.auth)
  have timeouts : config.timeouts =
      ⟨s.idle, s.auth.getD s.idle, s.connect.getD (defaultConnectTimeout.min s.idle)⟩ := by
    cases configured
    rfl
  obtain ⟨_, valid, rfl⟩ : ∃ done, config.timeouts.validate = .ok done ∧ config.timeouts = t := by
    unfold Configuration.usableTimeouts at usable
    cases checked : config.timeouts.validate with
    | error cause =>
        rw [checked] at usable
        cases usable
    | ok done =>
        rw [checked] at usable
        cases usable
        exact ⟨done, rfl, rfl⟩
  exact ⟨by rw [timeouts]; exact idle_eq.1, by rw [timeouts]; exact idle_eq.2, valid⟩

/-- No moment leaves a session just when the time for a login is more than the clock
can tell. -/
theorem start?_eq_none_always_iff (timeout : Duration) :
    (∀ accepted, Secure.Watch.start? accepted timeout = none) ↔ Moment.limit ≤ timeout.nanos := by
  simp only [Secure.Watch.start?_eq_none_iff]
  constructor
  · intro never
    simpa [Moment.start] using never .start
  · intro long accepted
    exact Nat.le_trans long (Nat.le_add_left _ _)

/-- With settings in seconds that is 2^63 seconds for a login, or for an idle session
if there is no time for a login of its own. -/
theorem start?_of_settings {flags : ServeFlags} {file : Settings.File} {s : Settings}
    {users : Password.Table} {config : Configuration Password.Table HostKey.Source} {t : Timeouts}
    (layered : Settings.layer flags file = .ok s)
    (configured : Program.configuration s users = .ok config)
    (usable : config.usableTimeouts = .ok t) :
    (∀ accepted, Secure.Watch.start? accepted t.auth = none) ↔
      Nat.pow 2 63 ≤ (flags.auth.or file.auth).getD ((flags.idle.or file.idle).getD 600) := by
  obtain ⟨_, auth, _⟩ := timeouts_of_settings layered configured usable
  rw [start?_eq_none_always_iff, auth]
  exact Nat.mul_le_mul_right_iff (by decide)

/--
All timeouts that are usable, for a client that is accepted at any moment and a
dial at any other.

The session's deadline can be told, and there is a session, if and only if the time
for a login ends before the clock does; then it is the moment of acceptance and
that time, and later than the moment of acceptance.  The timers of an idle session
and of a dial can be set in any case, and go off when their time is over, or in the
far future if the clock cannot tell that.  Some usable timeouts leave no session at
any moment: those that give the clock's whole time for a login.
-/
theorem timers_of_valid {t : Timeouts} (valid : t.validate = .ok ()) (accepted dialled : Moment) :
    ((t.timers? accepted dialled).isSome = true ↔
      accepted.nanos + t.auth.nanos < Moment.limit) ∧
    (Secure.Watch.start? accepted t.auth).isSome = (t.timers? accepted dialled).isSome ∧
    (∀ timers, t.timers? accepted dialled = some timers →
      timers = ⟨⟨accepted.nanos + t.auth.nanos⟩, accepted.alarm t.idle, dialled.alarm t.connect⟩ ∧
      accepted.nanos < timers.login.nanos) ∧
    (accepted.alarm t.idle).nanos = accepted.nanos +
      (if accepted.nanos + t.idle.nanos < Moment.limit then t.idle.nanos
        else Moment.farAway.nanos) ∧
    (dialled.alarm t.connect).nanos = dialled.nanos +
      (if dialled.nanos + t.connect.nanos < Moment.limit then t.connect.nanos
        else Moment.farAway.nanos) ∧
    ((∀ moment, Secure.Watch.start? moment t.auth = none) ↔ Moment.limit ≤ t.auth.nanos) := by
  refine ⟨t.isSome_timers?_iff accepted dialled, (t.isSome_timers? accepted dialled).symm, ?_,
    Moment.alarm_nanos accepted t.idle, Moment.alarm_nanos dialled t.connect,
    start?_eq_none_always_iff t.auth⟩
  intro timers set_
  obtain ⟨_, rfl⟩ := Timeouts.timers?_eq_some set_
  obtain ⟨_, some_time, _⟩ := t.validate_eq_ok_iff.mp valid
  exact ⟨rfl, Nat.lt_add_of_pos_right (Duration.nanos_pos some_time)⟩

/-- The longest time for a login that a clock allows which has just started. -/
theorem timers_of_valid_longest :
    let t : Timeouts := ⟨.ofSeconds 600, .ofSeconds (Nat.pow 2 63 - 1), .ofSeconds 10⟩
    t.validate = .ok () ∧ (Secure.Watch.start? .start t.auth).isSome = true := by
  intro t
  have valid : t.validate = .ok () := rfl
  obtain ⟨tells, same, _⟩ := timers_of_valid valid .start .start
  exact ⟨valid, same.trans (tells.mpr (by decide))⟩

/-- A second more is taken from the command line and found usable, and there is no
session at any moment. -/
theorem timers_of_valid_overflow :
    let words := ["serve", "--backend", "127.0.0.1:830", "--auth-timeout-secs",
      "9223372036854775808"]
    ∃ flags s config t,
      (CommandLine.parse (fun _ => none) words).toOption = some ⟨false, .serve flags⟩ ∧
      Settings.layer flags .empty = .ok s ∧ Program.configuration s .empty = .ok config ∧
      config.usableTimeouts = .ok t ∧ t.validate = .ok () ∧
      ∀ accepted dialled, t.timers? accepted dialled = none := by
  intro words
  let flags : ServeFlags :=
    { ServeFlags.empty with
      backend := some (.localhost 830), auth := some 9223372036854775808 }
  have parsed : (CommandLine.parse (fun _ => none) words).toOption =
      some ⟨false, .serve flags⟩ := by
    decide +kernel
  refine ⟨flags, _, _, _, parsed, rfl, rfl, rfl, rfl, fun accepted dialled => ?_⟩
  rw [← Option.not_isSome_iff_eq_none, Timeouts.isSome_timers?_iff, Nat.not_lt]
  refine Nat.le_trans ?_ (Nat.le_add_left _ _)
  decide

end NetconfGate

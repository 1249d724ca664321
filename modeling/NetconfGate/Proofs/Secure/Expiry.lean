import NetconfGate.Proofs.Secure.Vigil

/-!
# When a session is ended for its time

The clock of a vigil can always go on: polls come to an end, and where the keeper
waits until, it finds something. So a session that nothing decides about comes to
its deadline, and the invariant says what happens there.
-/

namespace NetconfGate.Secure

namespace Vigil

variable {v next : Vigil} {f : Keeper.Findings}

/-- What is still to come of a keeper. -/
def rank : Keeper.Stage → Nat
  | .settingUp => 4
  | .watching true => 3
  | .watching false => 2
  | .parting => 1
  | .finished => 0

theorem rank_poll {k : Keeper} (ordered : k.Ordered) (f : Keeper.Findings) :
    k.poll f = k ∨ rank (k.poll f).stage < rank k.stage := by
  have falls {held : Bool} (watches : k.Watches f held) : 2 ≤ rank k.stage := by
    rcases watches with ⟨at_, _⟩ | ⟨at_, _⟩
    · simp [at_, rank]
    · cases held <;> simp [at_, rank]
  cases ordered.polled f with
  | waits at_ took free going stays => exact Or.inl stays
  | givesUp at_ took went ends | stops at_ took asked ends =>
      rw [ends, at_]
      exact Or.inr (by decide)
  | @watches held watches free going inTime stays =>
      rw [stays]
      rcases watches with ⟨at_, _⟩ | ⟨at_, _⟩
      · rw [at_]
        right
        cases held && !f.settled <;> decide
      · rw [at_]
        cases held with
        | false => exact Or.inl rfl
        | true =>
            cases f.settled with
            | false => exact Or.inl rfl
            | true => exact Or.inr (by decide)
  | late watches late told stage =>
      right
      rcases stage with stage | stage <;> rw [stage] <;>
        exact Nat.lt_of_lt_of_le (by decide) (falls watches)
  | leaves watches found untold stage =>
      right
      rw [stage]
      exact Nat.lt_of_lt_of_le (by decide) (falls watches)
  | parts at_ took same either =>
      rcases either with ⟨stays, _⟩ | ⟨stage, _⟩
      · exact Or.inl stays
      · rw [stage, at_]
        exact Or.inr (by decide)
  | rests at_ took stays => exact Or.inl stays

/-- A keeper that parts and finds nothing. -/
theorem quiet_of_parting (placed : v.Placed) (parting : v.keeper.stage = .parting)
    (still : v.keeper.poll v.sight = v.keeper) :
    v.cancelled = false ∧ v.ended = false ∧ v.isGraceOver = false := by
  cases placed.ordered.polled v.sight with
  | parts at_ took same either =>
      rcases either with ⟨_, free, quiet⟩ | ⟨stage, _⟩
      · rw [Bool.or_eq_false_iff] at quiet
        exact ⟨free, quiet⟩
      · rw [still] at stage
        cases stage.symm.trans parting
  | waits at_ | givesUp at_ | stops at_ | rests at_ => simp [at_] at parting
  | watches watches | late watches | leaves watches =>
      rcases watches with ⟨at_, _⟩ | ⟨at_, _⟩ <;> simp [at_] at parting

/-- What there is to be found with the session having every turn is all that there
is to be found. -/
theorem still_of_sight (placed : v.Placed) (still : v.keeper.poll v.sight = v.keeper)
    (sees : v.Sees f) : v.keeper.poll f = v.keeper := by
  cases waits : v.awaits with
  | true =>
      obtain ⟨undecided, inTime, first⟩ := quiet_of_still placed waits still
      have blind (found : f.cancelled = true ∨ f.ended = true ∨ f.settled = true) : False := by
        cases undecided.symm.trans (sees.decided found)
      cases placed.ordered.polled f with
      | waits at_ took free going stays => exact stays
      | givesUp at_ took went ends =>
          rcases setUp?_eq_false (sees.setUp.symm.trans went) with failed | ⟨_, late⟩
          · cases (first (by rw [at_])).symm.trans failed
          · cases inTime.symm.trans late
      | stops at_ took asked ends => exact (blind (Or.inl asked)).elim
      | @watches held watches free going early stays =>
          rcases watches with ⟨at_, _, went, _⟩ | ⟨at_, _⟩
          · have up := setUp?_eq_true (sees.setUp.symm.trans went)
            cases (first (by rw [at_])).symm.trans up
          · have unsettled : f.settled = false :=
              Bool.eq_false_iff.mpr fun settled => blind (Or.inr (Or.inr settled))
            rw [stays, at_, unsettled, Bool.not_false, Bool.and_true]
      | late watches late told stage =>
          cases inTime.symm.trans (sees.late.symm.trans (Keeper.Findings.of_isLate late).2)
      | leaves watches found untold stage => exact (blind (found.imp_right Or.inl)).elim
      | parts at_ | rests at_ => simp [awaits, at_] at waits
  | false =>
      cases stage : v.keeper.stage with
      | settingUp => simp [awaits, stage] at waits
      | finished => exact Keeper.poll_of_finished stage f
      | parting =>
          obtain ⟨free, going, more⟩ := quiet_of_parting placed stage still
          cases placed.ordered.polled f with
          | parts at_ took same either =>
              rcases either with ⟨stays, _⟩ | ⟨_, found⟩
              · exact stays
              · have unended : f.ended = false :=
                  Bool.eq_false_iff.mpr fun ended => by cases going.symm.trans (sees.ended ended)
                rw [sees.cancelled, free, unended, sees.graceOver, more] at found
                cases found
          | waits at_ | givesUp at_ | stops at_ | rests at_ => simp [at_] at stage
          | watches watches | late watches | leaves watches =>
              rcases watches with ⟨at_, _⟩ | ⟨at_, _⟩ <;> simp [at_] at stage
      | watching held =>
          have released : held = false := by
            simpa [awaits, stage] using waits
          subst released
          have at_ : v.keeper = ⟨.watching false, none⟩ := by
            rw [← stage, ← placed.ordered.watching false stage]
          rw [at_] at still ⊢
          rcases Keeper.poll_watching false v.sight with ⟨free, going, _⟩ | ⟨late, _⟩ | ⟨_, _, gone⟩
          · rcases Keeper.poll_watching false f with ⟨_, _, _, stays⟩ | ⟨late, _⟩ | ⟨found, _⟩
            · exact stays
            · cases late
            · rcases found with asked | ended
              · cases free.symm.trans (sees.cancelled.symm.trans asked)
              · cases going.symm.trans (sees.ended ended)
          · cases late
          · rw [still] at gone
            cases gone

/-- What a keeper waits for that finds nothing is still to come. -/
theorem ahead_of_still (placed : v.Placed) (still : v.keeper.poll v.sight = v.keeper) {nanos : Nat}
    (due : v.due? = some nanos) : v.now.nanos < nanos := by
  cases waits : v.awaits with
  | true =>
      obtain ⟨_, inTime, _⟩ := quiet_of_still placed waits still
      rw [due?_of_awaits waits] at due
      cases due
      simpa [isLate, Moment.isBefore] using inTime
  | false =>
      cases stage : v.keeper.stage with
      | settingUp => simp [awaits, stage] at waits
      | watching held =>
          cases held with
          | true => simp [awaits, stage] at waits
          | false => simp [due?, stage] at due
      | finished => simp [due?, stage] at due
      | parting =>
          obtain ⟨_, _, more⟩ := quiet_of_parting placed stage still
          simp only [due?, stage] at due
          obtain ⟨since, at_, same⟩ := Option.map_eq_some_iff.mp due
          rw [isGraceOver, at_, Option.any_some, decide_eq_false_iff_not] at more
          rw [← same]
          exact Nat.lt_of_not_le more

theorem Run.trans {first middle : Vigil} (one : Run first middle) (two : Run middle v) :
    Run first v := by
  induction two with
  | refl => exact one
  | tail run step ih => exact ih.tail step

/-- What is still to come of a vigil before it rests. -/
def agitation (v : Vigil) : Nat := 2 * rank v.keeper.stage + v.isServed.toNat

theorem agitation_poll (placed : v.Placed) (f : Keeper.Findings)
    (stirs : ¬ v.keeper.poll f = v.keeper) : (v.poll f).agitation < v.agitation := by
  have less : rank (v.keeper.poll f).stage < rank v.keeper.stage :=
    (rank_poll placed.ordered f).resolve_left stirs
  have before : 2 * rank v.keeper.stage ≤ v.agitation := Nat.le_add_right _ _
  have after : (v.poll f).agitation ≤ 2 * rank (v.keeper.poll f).stage + 1 :=
    Nat.add_le_add_left (Bool.toNat_le _) _
  omega

theorem agitation_heeds (served : v.isServed = true) :
    ({ v with ended := true } : Vigil).agitation < v.agitation := by
  have gone : ({ v with ended := true } : Vigil).isServed = false := by
    simp [isServed]
  rw [agitation, agitation, gone, served]
  exact Nat.lt_succ_self _

/-- The one vigil comes to be the other without anything that happens. -/
structure Waits (v last : Vigil) : Prop where
  run : Run v last
  past : last.past = v.past
  agreed : last.agreed = v.agreed
  ended : v.agreed = false → last.ended = v.ended

theorem Waits.trans {first middle : Vigil} (one : first.Waits middle) (two : middle.Waits v) :
    first.Waits v where
  run := one.run.trans two.run
  past := two.past.trans one.past
  agreed := two.agreed.trans one.agreed
  ended none_agreed := (two.ended (one.agreed.trans none_agreed)).trans (one.ended none_agreed)

theorem Waits.polls (sees : v.Sees f) : v.Waits (v.poll f) :=
  ⟨(Run.refl v).tail (.polls sees), rfl, rfl, fun _ => rfl⟩

theorem Waits.passes {later : Moment} (forward : v.now.nanos ≤ later.nanos) (idle : v.Idle later) :
    v.Waits { v with now := later } :=
  ⟨(Run.refl v).tail (.passes forward idle), rfl, rfl, fun _ => rfl⟩

theorem Waits.heeds (heeding : v.isHeeding = true) : v.Waits { v with ended := true } := by
  refine ⟨(Run.refl v).tail (.heeds heeding), rfl, rfl, fun none_agreed => ?_⟩
  simp [isHeeding, none_agreed] at heeding

/-- Whatever the time is to come, the vigil comes there without anything that
happens. -/
theorem exists_waits (sound : v.Sound) {later : Moment} (forward : v.now.nanos ≤ later.nanos) :
    ∃ last, v.Waits last ∧ last.now = later := by
  generalize size : v.agitation = measure
  induction measure using Nat.strongRecOn generalizing v with
  | ind measure ih =>
      subst size
      by_cases still : v.keeper.poll v.sight = v.keeper
      · cases heeding : v.isHeeding with
        | true =>
            have served : v.isServed = true := by
              rw [isHeeding, Bool.and_eq_true, Bool.and_eq_true] at heeding
              exact heeding.1.1
            obtain ⟨last, rest, now⟩ :=
              ih _ (agitation_heeds served) (sound.heeds heeding) forward rfl
            exact ⟨last, (Waits.heeds heeding).trans rest, now⟩
        | false =>
            have idle {until_ : Moment}
                (due : ∀ nanos, v.due? = some nanos → until_.nanos ≤ nanos) : v.Idle until_ :=
              ⟨fun f sees => still_of_sight sound.placed still sees, heeding, due⟩
            cases due : v.due? with
            | none =>
                refine ⟨_, .passes forward (idle fun nanos at_ => ?_), rfl⟩
                cases due.symm.trans at_
            | some nanos =>
                have only (other : Nat) (at_ : v.due? = some other) : other = nanos :=
                  Option.some.inj (at_.symm.trans due)
                rcases Nat.lt_or_ge nanos later.nanos with beyond | within
                · -- The clock stops where the keeper waits until; there it finds something.
                  have ahead := ahead_of_still sound.placed still due
                  let waited : Vigil := { v with now := ⟨nanos⟩ }
                  have waits : v.Waits waited :=
                    .passes (Nat.le_of_lt ahead)
                      (idle fun other at_ => Nat.le_of_eq (only other at_).symm)
                  have soundly : waited.Sound := sound.run waits.run
                  have stirs : ¬ waited.keeper.poll waited.sight = waited.keeper := fun again =>
                    Nat.lt_irrefl nanos (ahead_of_still soundly.placed again due)
                  obtain ⟨last, rest, now⟩ :=
                    ih _ (agitation_poll soundly.placed waited.sight stirs)
                      (soundly.poll waited.sees_sight) (Nat.le_of_lt beyond) rfl
                  exact ⟨last, (waits.trans (.polls waited.sees_sight)).trans rest, now⟩
                · refine ⟨_, .passes forward (idle fun other at_ => ?_), rfl⟩
                  rw [only other at_]
                  exact within
      · obtain ⟨last, rest, now⟩ :=
          ih _ (agitation_poll sound.placed v.sight still) (sound.poll v.sees_sight) forward rfl
        exact ⟨last, (Waits.polls v.sees_sight).trans rest, now⟩

theorem Run.decidedAt (run : Run v next) {moment : Moment} (decided : v.DecidedAt moment) :
    next.DecidedAt moment := by
  induction run with
  | refl => exact decided
  | tail run step ih =>
      cases step with
      | happens allowed => exact (decidedAt_take _ _ moment).mpr (Or.inl ih)
      | agrees | heeds | polls | passes => exact ih

/-- A client that has agreed on keys hears that its time is over. -/
theorem Sound.isConnected_iff (sound : v.Sound) (expired : v.expired.isSome = true) {later : Moment}
    (idle : v.Idle later) :
    v.isConnected = true ↔ v.started = true ∧ v.agreed = false ∧ v.ended = false := by
  cases sound.outlook with
  | awaits waits never => cases never ▸ expired
  | spared gone never => cases never ▸ expired
  | expired gone at_ past late told =>
      have away : v.keeper.stage ≠ .settingUp := fun stage => by
        rw [awaits_iff.mpr (Or.inl stage)] at gone
        cases gone
      have connected : v.isConnected = v.isServed := by
        simp [isConnected, away]
      rw [connected, isServed, Bool.and_eq_true, Bool.not_eq_true']
      constructor
      · rintro ⟨started, going⟩
        have unheeding := idle.heeded
        simp only [isHeeding, isServed, started, going, told started] at unheeding
        simp only [Bool.not_false, Bool.and_true, Bool.true_and, Option.isSome_some] at unheeding
        exact ⟨started, unheeding, going⟩
      · rintro ⟨started, _, going⟩
        exact ⟨started, going⟩

theorem Sound.expired_eq (sound : v.Sound) {moment : Moment} (expired : v.expired = some moment) :
    moment = v.deadline ∧ ∀ other, v.DecidedAt other → v.deadline.nanos ≤ other.nanos := by
  cases sound.outlook with
  | awaits waits never => cases never.symm.trans expired
  | spared gone never => cases never.symm.trans expired
  | expired gone at_ past late told => exact ⟨Option.some.inj (expired.symm.trans at_), late⟩

theorem Sound.expires (sound : v.Sound) (beyond : v.deadline.nanos < v.now.nanos)
    (late : ∀ moment, v.DecidedAt moment → v.deadline.nanos < moment.nanos) :
    v.expired = some v.deadline := by
  cases sound.outlook with
  | awaits waits never inTime => omega
  | spared gone never decided inTime =>
      have after := late _ decided
      omega
  | expired gone at_ => exact at_

/--
A session of a client that was accepted at a moment and has some time to log in,
through any timeline: both sides name their protocol or fail to, keys are agreed
on, any passwords are tried at any times, the session ends, its group is shut
down; and whatever the turns at the polls of its keeper are.

If the session is ended for its time, that is at its deadline, counted from when
the client was accepted, and nothing decided before: no password was accepted,
the setup had not failed, the session had not ended and its group was not shut
down.  If there is nothing of the kind until the deadline has passed, the session
is ended for its time.  Once something has decided before, it never is.

With that a client is gone, whether it had named its protocol or not, unless it
has named its protocol and agreed on no keys since: it is told nothing and served
on.

The clock can always go on without anything that happens.
-/
theorem vigil_run {accepted : Moment} {timeout : Duration} {w : Watch}
    (begins : Watch.start? accepted timeout = some w) {v : Vigil}
    (run : Run (start accepted w) v) :
    let deadline : Moment := ⟨accepted.nanos + timeout.nanos⟩
    (∀ moment, v.expired = some moment →
      moment = deadline ∧ ∀ other, v.DecidedAt other → deadline.nanos ≤ other.nanos) ∧
    (deadline.nanos < v.now.nanos →
      (∀ moment, v.DecidedAt moment → deadline.nanos < moment.nanos) →
      v.expired = some deadline) ∧
    (∀ moment, v.DecidedAt moment → moment.nanos < deadline.nanos →
      ∀ last, Run v last → last.expired = none) ∧
    (v.expired.isSome = true → ∀ later, v.Idle later →
      (v.isConnected = true ↔ v.started = true ∧ v.agreed = false ∧ v.ended = false)) ∧
    (∀ later : Moment, v.now.nanos ≤ later.nanos → ∃ last, v.Waits last ∧ last.now = later) := by
  intro deadline
  have same : w.deadline = deadline := Watch.start?_eq_some begins
  have first : (start accepted w).Sound := by
    refine sound_start accepted ?_
    rw [same]
    exact Nat.le_add_right _ _
  have sound : v.Sound := first.run run
  have due : v.deadline = deadline := run.deadline.trans same
  rw [← due]
  refine ⟨fun moment => sound.expired_eq, sound.expires, ?_,
    fun expired later => sound.isConnected_iff expired, fun later => exists_waits sound⟩
  intro moment decided early last rest
  cases expired : last.expired with
  | none => rfl
  | some time =>
      have late := ((sound.run rest).expired_eq expired).2 moment (rest.decidedAt decided)
      rw [rest.deadline] at late
      omega

/-- A client that says nothing at all has a second. -/
theorem vigil_run_silent :
    ∃ w, Watch.start? .start (.ofSeconds 1) = some w ∧
      ∃ last, Run (start .start w) last ∧ last.now = ⟨2000000000⟩ ∧ last.past = [] ∧
        last.expired = some ⟨1000000000⟩ := by
  have begins : Watch.start? .start (.ofSeconds 1) = some ⟨⟨1000000000⟩, false, false, none⟩ := by
    decide +kernel
  obtain ⟨_, _, _, _, goesOn⟩ := vigil_run begins (.refl _)
  obtain ⟨last, waits, now⟩ := goesOn ⟨2000000000⟩ (Nat.zero_le _)
  refine ⟨_, begins, last, waits.run, now, waits.past, ?_⟩
  obtain ⟨_, expires, _⟩ := vigil_run begins waits.run
  refine expires ?_ fun moment decided => ?_
  · rw [now]
    decide
  · obtain ⟨_, inside, _⟩ := decided
    rw [waits.past] at inside
    cases inside

theorem Run.started (run : Run v next) (started : v.started = true) : next.started = true := by
  induction run with
  | refl => exact started
  | tail run step ih =>
      cases step with
      | happens allowed => rwa [started_take]
      | polls sees => simp [Vigil.poll, ih]
      | agrees | heeds | passes => exact ih

/-- A client that names its protocol and says nothing more has a second as well:
when it is over the session is ended for its time, and an hour later the
connection stands. -/
theorem vigil_run_agreeing :
    ∃ w, Watch.start? .start (.ofSeconds 1) = some w ∧
      ∃ last, Run (start .start w) last ∧ last.now = ⟨3600000000000⟩ ∧
        last.past = [(.start, .identified)] ∧ last.expired = some ⟨1000000000⟩ ∧
        last.isConnected = true := by
  let w : Watch := ⟨⟨1000000000⟩, false, false, none⟩
  have begins : Watch.start? .start (.ofSeconds 1) = some w := by
    decide +kernel
  let named := (start .start w).take .identified
  let up := named.poll named.sight
  have run : Run (start .start w) up :=
    ((Run.refl _).tail (.happens rfl)).tail (.polls named.sees_sight)
  have sound : up.Sound := by
    refine Sound.run (sound_start .start ?_) run
    decide
  have ahead : up.now.nanos ≤ (⟨3600000000000⟩ : Moment).nanos := Nat.zero_le _
  obtain ⟨last, waits, now⟩ := exists_waits sound ahead
  have past : last.past = [(.start, .identified)] := waits.past
  refine ⟨w, begins, last, run.trans waits.run, now, past, ?_, ?_⟩
  · have deadline : last.deadline = ⟨1000000000⟩ := (run.trans waits.run).deadline
    rw [← deadline]
    refine (sound.run waits.run).expires ?_ fun moment decided => ?_
    · rw [deadline, now]
      decide
    · obtain ⟨occurrence, inside, decisive⟩ := decided
      rw [past, List.mem_singleton] at inside
      cases inside
      cases decisive
  · have started : last.started = true := waits.run.started (by decide +kernel)
    have going : last.ended = false := waits.ended rfl
    simp [isConnected, isServed, started, going]

end Vigil

end NetconfGate.Secure

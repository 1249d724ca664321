import NetconfGate.Proofs.Secure.Poll

/-!
# What always holds of a vigil

A keeper goes by its deadline until something decisive is found. The clock does
not go on while there is something to be found, so whatever decides is found at
the moment at which it happens, and a keeper that still goes by its deadline is
not past it. This is the invariant that tells when a session is ended for its
time: at its deadline, and just when nothing decided before.
-/

namespace NetconfGate.Secure

theorem Watch.start?_eq_some {accepted : Moment} {timeout : Duration} {w : Watch}
    (begins : Watch.start? accepted timeout = some w) :
    w.deadline = ⟨accepted.nanos + timeout.nanos⟩ := by
  obtain ⟨deadline, found, rfl⟩ := Option.map_eq_some_iff.mp begins
  exact ((Moment.after?_eq_some_iff _ _ _).mp found).2

theorem Watch.deadline_on (w : Watch) (now : Moment) (occurrence : Occurrence) :
    (w.on now occurrence).deadline = w.deadline := by
  have passed : (w.pass now).deadline = w.deadline := by
    unfold pass
    split <;> rfl
  rw [← passed]
  unfold on take
  split
  · rfl
  · cases occurrence with
    | identified | shutdown => rfl
    | setupFails | attempt | ends =>
        dsimp only
        split <;> rfl

namespace Vigil

variable {v next : Vigil}

/-- Something decisive happened at the moment. -/
def DecidedAt (v : Vigil) (moment : Moment) : Prop :=
  ∃ occurrence, (moment, occurrence) ∈ v.past ∧ occurrence.isDecisive = true

/-- Something decisive is there to be found. -/
def isDecided (v : Vigil) : Bool :=
  v.accepted || v.exchanged = some false || v.ended || v.cancelled

section Take

variable (v : Vigil) (occurrence : Occurrence)

@[simp]
theorem now_take : (v.take occurrence).now = v.now := by
  cases occurrence <;> rfl

@[simp]
theorem keeper_take : (v.take occurrence).keeper = v.keeper := by
  cases occurrence <;> rfl

@[simp]
theorem started_take : (v.take occurrence).started = v.started := by
  cases occurrence <;> rfl

@[simp]
theorem agreed_take : (v.take occurrence).agreed = v.agreed := by
  cases occurrence <;> rfl

@[simp]
theorem since_take : (v.take occurrence).since = v.since := by
  cases occurrence <;> rfl

@[simp]
theorem expired_take : (v.take occurrence).expired = v.expired := by
  cases occurrence <;> rfl

@[simp]
theorem past_take : (v.take occurrence).past = v.past ++ [(v.now, occurrence)] := by
  cases occurrence <;> rfl

@[simp]
theorem deadline_take : (v.take occurrence).deadline = v.deadline := by
  have same : (v.take occurrence).watch = v.watch.on v.now occurrence := by
    cases occurrence <;> rfl
  rw [deadline, same, Watch.deadline_on]
  rfl

@[simp]
theorem awaits_take : (v.take occurrence).awaits = v.awaits := by
  simp [awaits]

theorem decidedAt_take (moment : Moment) : (v.take occurrence).DecidedAt moment ↔
    v.DecidedAt moment ∨ moment = v.now ∧ occurrence.isDecisive = true := by
  unfold DecidedAt
  constructor
  · rintro ⟨other, inside, decisive⟩
    rw [past_take, List.mem_append, List.mem_singleton] at inside
    rcases inside with before | same
    · exact Or.inl ⟨other, before, decisive⟩
    · cases same
      exact Or.inr ⟨rfl, decisive⟩
  · rintro (⟨other, before, decisive⟩ | ⟨rfl, decisive⟩)
    · exact ⟨other, by simp [before], decisive⟩
    · exact ⟨occurrence, by simp, decisive⟩

end Take

theorem isDecided_take {occurrence : Occurrence} (allowed : v.allows occurrence = true) :
    (v.take occurrence).isDecided = (v.isDecided || occurrence.isDecisive) := by
  cases occurrence with
  | identified =>
      have first : v.exchanged = none := by
        simp only [allows, Bool.and_eq_true, Option.isNone_iff_eq_none] at allowed
        exact allowed.2
      simp [isDecided, take, Occurrence.isDecisive, first]
  | setupFails | ends | shutdown => simp [isDecided, take, Occurrence.isDecisive]
  | attempt accepted =>
      cases accepted <;> simp [isDecided, take, Occurrence.isDecisive]

/-- What there is to be found has happened. -/
structure Known (v : Vigil) : Prop where
  written : ∀ moment, v.DecidedAt moment → moment.nanos ≤ v.now.nanos
  decided : ∀ moment, v.DecidedAt moment → v.isDecided = true
  recorded : v.isDecided = true → v.keeper.told.isSome = true ∨ ∃ moment, v.DecidedAt moment

/-- The session is started by its keeper, once both sides have named their
protocol, and the rest comes after that. -/
structure Placed (v : Vigil) : Prop where
  ordered : v.keeper.Ordered
  settingUp : v.keeper.stage = .settingUp → v.started = false
  watching : ∀ held, v.keeper.stage = .watching held → v.started = true
  parting : v.keeper.stage = .parting → v.since.isSome = true
  begun : v.started = true → v.exchanged = some true
  unstarted : v.started = false → v.agreed = false ∧ v.accepted = false ∧ v.ended = false

/-- Why the session is not ended for its time yet, or was spared, or when it was
ended. -/
inductive Outlook (v : Vigil) : Prop where
  | awaits (waits : v.awaits = true) (never : v.expired = none)
      (inTime : v.now.nanos ≤ v.deadline.nanos)
      (fresh : ∀ moment, v.DecidedAt moment → v.now.nanos ≤ moment.nanos)
  | spared (gone : v.awaits = false) (never : v.expired = none) {moment : Moment}
      (decided : v.DecidedAt moment) (inTime : moment.nanos ≤ v.deadline.nanos)
  | expired (gone : v.awaits = false) (at_ : v.expired = some v.deadline)
      (past : v.deadline.nanos ≤ v.now.nanos)
      (late : ∀ moment, v.DecidedAt moment → v.deadline.nanos ≤ moment.nanos)
      (told : v.started = true → v.keeper.told = some tooLate)

structure Sound (v : Vigil) : Prop where
  known : v.Known
  placed : v.Placed
  outlook : v.Outlook

theorem sound_start (accepted : Moment) {w : Watch}
    (inTime : accepted.nanos ≤ w.deadline.nanos) : (start accepted w).Sound where
  known :=
    ⟨fun _ ⟨_, inside, _⟩ => (nomatch inside), fun _ ⟨_, inside, _⟩ => (nomatch inside), nofun⟩
  placed :=
    ⟨⟨fun _ => rfl, nofun, nofun⟩, fun _ => rfl, nofun, nofun, nofun, fun _ => ⟨rfl, rfl, rfl⟩⟩
  outlook := .awaits rfl rfl inTime fun _ ⟨_, inside, _⟩ => (nomatch inside)

theorem Known.take (known : v.Known) {occurrence : Occurrence}
    (allowed : v.allows occurrence = true) : (v.take occurrence).Known := by
  refine ⟨fun moment decided => ?_, fun moment decided => ?_, fun decided => ?_⟩
  · rw [now_take]
    rcases (decidedAt_take v occurrence moment).mp decided with before | ⟨rfl, _⟩
    · exact known.written moment before
    · exact Nat.le_refl _
  · rw [isDecided_take allowed]
    rcases (decidedAt_take v occurrence moment).mp decided with before | ⟨_, decisive⟩
    · rw [known.decided moment before, Bool.true_or]
    · rw [decisive, Bool.or_true]
  · rw [isDecided_take allowed, Bool.or_eq_true] at decided
    rw [keeper_take]
    rcases decided with before | decisive
    · refine (known.recorded before).imp_right ?_
      rintro ⟨moment, at_⟩
      exact ⟨moment, (decidedAt_take v occurrence moment).mpr (Or.inl at_)⟩
    · exact Or.inr ⟨v.now, (decidedAt_take v occurrence v.now).mpr (Or.inr ⟨rfl, decisive⟩)⟩

theorem Placed.take (placed : v.Placed) {occurrence : Occurrence}
    (allowed : v.allows occurrence = true) : (v.take occurrence).Placed := by
  refine ⟨?_, ?_, ?_, ?_, ?_, ?_⟩
  · rw [keeper_take]
    exact placed.ordered
  · simpa using placed.settingUp
  · simpa using placed.watching
  · simpa using placed.parting
  · rw [started_take]
    intro started
    cases occurrence with
    | identified | setupFails =>
        simp only [allows, Bool.and_eq_true, decide_eq_true_eq] at allowed
        rw [placed.settingUp allowed.1] at started
        cases started
    | attempt | ends | shutdown => exact placed.begun started
  · rw [started_take, agreed_take]
    intro unstarted
    obtain ⟨agreed, accepted, ended⟩ := placed.unstarted unstarted
    have unserved : v.isServed = false := by
      simp [isServed, unstarted]
    cases occurrence with
    | identified | setupFails | shutdown => exact ⟨agreed, accepted, ended⟩
    | attempt | ends =>
        simp [allows, unserved] at allowed

theorem Outlook.take (outlook : v.Outlook) (occurrence : Occurrence) :
    (v.take occurrence).Outlook := by
  cases outlook with
  | awaits waits never inTime fresh =>
      refine .awaits (by simpa using waits) (by simpa using never) (by simpa using inTime) ?_
      intro moment decided
      rw [now_take]
      rcases (decidedAt_take v occurrence moment).mp decided with before | ⟨rfl, _⟩
      · exact fresh moment before
      · exact Nat.le_refl _
  | spared gone never decided inTime =>
      exact .spared (by simpa using gone) (by simpa using never)
        ((decidedAt_take v occurrence _).mpr (Or.inl decided)) (by simpa using inTime)
  | expired gone at_ past late told =>
      refine .expired (by simpa using gone) (by simpa using at_) (by simpa using past) ?_
        (by simpa using told)
      intro moment decided
      rw [deadline_take]
      rcases (decidedAt_take v occurrence moment).mp decided with before | ⟨rfl, _⟩
      · exact late moment before
      · exact past

/-! ## What the keeper finds -/

variable {f : Keeper.Findings}

theorem Sees.decided (sees : v.Sees f)
    (found : f.cancelled = true ∨ f.ended = true ∨ f.settled = true) : v.isDecided = true := by
  rcases found with cancelled | ended | settled
  · simp [isDecided, ← sees.cancelled, cancelled]
  · simp [isDecided, sees.ended ended]
  · rcases sees.settled settled with accepted | ended
    · simp [isDecided, accepted]
    · simp [isDecided, ended]

theorem setUp?_eq_true (up : v.setUp? = some true) : v.exchanged = some true := by
  unfold setUp? at up
  split at up
  · rename_i went same
    rw [same, up]
  · split at up <;> cases up

/-- A setup that is given up has failed or was too late. -/
theorem setUp?_eq_false (down : v.setUp? = some false) :
    v.exchanged = some false ∨ v.exchanged = none ∧ v.isLate = true := by
  unfold setUp? at down
  split at down
  · rename_i went same
    rw [same, down]
    exact Or.inl rfl
  · rename_i same
    split at down
    · rename_i late
      exact Or.inr ⟨same, late⟩
    · cases down

/-- A poll that watches finds a session that is started. -/
theorem started_of_watches (placed : v.Placed) {held : Bool} (watches : v.keeper.Watches f held) :
    (v.poll f).started = true := by
  rcases watches with ⟨_, _, _, took⟩ | ⟨at_, _⟩
  · simp [poll, took]
  · simp [poll, placed.watching held (by rw [at_])]

theorem Placed.poll (placed : v.Placed) (sees : v.Sees f) : (v.poll f).Placed := by
  have polled := placed.ordered.polled f
  refine ⟨placed.ordered.poll f, fun stage => ?_, fun held stage => ?_, fun stage => ?_,
    fun started => ?_, fun unstarted => ?_⟩
  · obtain ⟨same, took⟩ := polled.settingUp stage
    change (v.keeper.poll f).stage = .settingUp at stage
    rw [same] at stage
    simp [Vigil.poll, took, placed.settingUp stage]
  · obtain ⟨_, watches⟩ := polled.watching stage
    exact started_of_watches placed watches
  · rcases polled.parting stage with same | ⟨untold, told⟩
    · change (v.keeper.poll f).stage = .parting at stage
      rw [same] at stage
      have told := placed.ordered.parting stage
      rw [Option.isSome_iff_ne_none] at told
      simp [Vigil.poll, told, placed.parting stage]
    · simp [Vigil.poll, untold, told]
  · change v.exchanged = some true
    change (v.started || v.keeper.takes? f = some true) = true at started
    rw [Bool.or_eq_true, decide_eq_true_eq] at started
    rcases started with started | took
    · exact placed.begun started
    · rw [Keeper.takes?] at took
      split at took
      · exact setUp?_eq_true (sees.setUp.symm.trans took)
      · cases took
  · change (v.started || v.keeper.takes? f = some true) = false at unstarted
    rw [Bool.or_eq_false_iff] at unstarted
    exact placed.unstarted unstarted.1

theorem awaits_poll (v : Vigil) (f : Keeper.Findings) : (v.poll f).awaits = true ↔
    (v.keeper.poll f).stage = .settingUp ∨ (v.keeper.poll f).stage = .watching true := by
  simp [awaits, Vigil.poll]

theorem awaits_iff : v.awaits = true ↔
    v.keeper.stage = .settingUp ∨ v.keeper.stage = .watching true := by
  simp [awaits]

theorem expires_of_told (told : v.keeper.told = none)
    (late : (v.keeper.poll f).told = some tooLate) : v.expires f = true := by
  simp [expires, told, late]

theorem expires_eq_false (untold : v.keeper.told = none → (v.keeper.poll f).told ≠ some tooLate)
    (kept : v.exchanged = none → v.keeper.takes? f ≠ some false) : v.expires f = false := by
  rw [expires, Bool.or_eq_false_iff, Bool.and_eq_false_iff, Bool.and_eq_false_iff,
    decide_eq_false_iff_not, decide_eq_false_iff_not]
  constructor
  · cases told : v.keeper.told with
    | some reason => exact Or.inl rfl
    | none => exact Or.inr (untold told)
  · cases went : v.exchanged with
    | some how => exact Or.inl rfl
    | none => exact Or.inr (kept went)

theorem takes?_of_watches {k : Keeper} {held : Bool} (watches : k.Watches f held) :
    k.takes? f ≠ some false := by
  rcases watches with ⟨_, _, _, took⟩ | ⟨_, took⟩ <;> rw [took] <;> nofun

/-- A poll of a keeper that goes by its deadline: it still does so, or the time is
over, or something decisive was found. -/
theorem poll_of_awaits (placed : v.Placed) (sees : v.Sees f) (waits : v.awaits = true) :
    ((v.poll f).awaits = true ∧ v.expires f = false) ∨
      ((v.poll f).awaits = false ∧ v.expires f = true ∧ v.isLate = true ∧
        ((v.poll f).started = true → (v.keeper.poll f).told = some tooLate)) ∨
      ((v.poll f).awaits = false ∧ v.expires f = false ∧ v.isDecided = true) := by
  have quits (stage : (v.keeper.poll f).stage = .parting ∨ (v.keeper.poll f).stage = .finished) :
      (v.poll f).awaits = false := by
    rw [← Bool.not_eq_true, awaits_poll]
    rcases stage with at_ | at_ <;> rw [at_] <;> nofun
  cases placed.ordered.polled f with
  | waits at_ took free going stays =>
      refine Or.inl ⟨?_, expires_eq_false ?_ ?_⟩
      · rw [awaits_poll, stays]
        exact awaits_iff.mp waits
      · rw [stays, at_]
        nofun
      · rw [took]
        nofun
  | givesUp at_ took went ends =>
      have gone := quits (Or.inr (by rw [ends]))
      rcases setUp?_eq_false (sees.setUp.symm.trans went) with failed | ⟨first, late⟩
      · refine Or.inr (Or.inr ⟨gone, expires_eq_false ?_ ?_, by simp [isDecided, failed]⟩)
        · rw [ends]
          nofun
        · rw [failed]
          nofun
      · refine Or.inr (Or.inl ⟨gone, by simp [expires, first, took], late, fun started => ?_⟩)
        have unstarted := placed.settingUp (by rw [at_])
        simp [Vigil.poll, unstarted, took] at started
  | stops at_ took asked ends =>
      refine Or.inr (Or.inr ⟨quits (Or.inr (by rw [ends])), expires_eq_false ?_ ?_,
        sees.decided (Or.inl asked)⟩)
      · rw [ends]
        nofun
      · rw [took]
        nofun
  | @watches held watches free going inTime stays =>
      have lasts : v.expires f = false := by
        refine expires_eq_false ?_ fun _ => takes?_of_watches watches
        rw [stays]
        nofun
      have only : held = true := by
        rcases watches with ⟨_, only, _⟩ | ⟨at_, _⟩
        · exact only
        · simpa [at_] using awaits_iff.mp waits
      cases settled : f.settled with
      | false =>
          refine Or.inl ⟨?_, lasts⟩
          rw [awaits_poll, stays, only, settled]
          exact Or.inr rfl
      | true =>
          refine Or.inr (Or.inr ⟨?_, lasts, sees.decided (Or.inr (Or.inr settled))⟩)
          rw [← Bool.not_eq_true, awaits_poll, stays, settled]
          simp
  | late watches late told stage =>
      have isLate : v.isLate = true :=
        sees.late.symm.trans (Keeper.Findings.of_isLate late).2
      exact Or.inr (Or.inl ⟨quits stage, expires_of_told (Keeper.told_of_watches watches) told,
        isLate, fun _ => told⟩)
  | leaves watches found untold stage =>
      exact Or.inr (Or.inr ⟨quits (Or.inr stage),
        expires_eq_false (fun _ => untold) fun _ => takes?_of_watches watches,
        sees.decided (found.imp_right Or.inl)⟩)
  | parts at_ | rests at_ => simp [awaits, at_] at waits

/-- A keeper that does not go by its deadline any more ends no session for its
time. -/
theorem poll_of_not_awaits (placed : v.Placed) (f : Keeper.Findings) (gone : v.awaits = false) :
    (v.poll f).awaits = false ∧ v.expires f = false ∧ (v.poll f).started = v.started := by
  have away : ¬ (v.keeper.stage = .settingUp ∨ v.keeper.stage = .watching true) := by
    rw [← awaits_iff, gone]
    nofun
  have took : v.keeper.takes? f = none :=
    Keeper.takes?_of_stage (fun at_ => away (Or.inl at_)) f
  have started : (v.poll f).started = v.started := by
    simp [Vigil.poll, took]
  have lasts (untold : v.keeper.told = none → (v.keeper.poll f).told ≠ some tooLate) :
      v.expires f = false :=
    expires_eq_false untold fun _ => by rw [took]; nofun
  have released {held : Bool} (watches : v.keeper.Watches f held) : held = false := by
    rcases watches with ⟨at_, _⟩ | ⟨at_, _⟩
    · exact absurd (Or.inl (by rw [at_])) away
    · cases held with
      | false => rfl
      | true => exact absurd (Or.inr (by rw [at_])) away
  rw [← Bool.not_eq_true, awaits_poll]
  cases placed.ordered.polled f with
  | waits at_ | givesUp at_ | stops at_ => exact absurd (Or.inl (by rw [at_])) away
  | watches watches free going inTime stays =>
      refine ⟨?_, lasts ?_, started⟩
      · rw [stays, released watches]
        simp
      · rw [stays]
        nofun
  | late watches late told stage =>
      rw [released watches] at late
      cases late
  | leaves watches found untold stage =>
      refine ⟨?_, lasts fun _ => untold, started⟩
      rw [stage]
      nofun
  | parts at_ took same stage =>
      refine ⟨?_, lasts ?_, started⟩
      · rcases stage with ⟨stays, _⟩ | ⟨stage, _⟩
        · rw [stays]
          exact away
        · rw [stage]
          nofun
      · intro untold
        rw [same, untold]
        nofun
  | rests at_ took stays =>
      refine ⟨?_, lasts ?_, started⟩
      · rw [stays]
        exact away
      · intro untold
        rw [stays, untold]
        nofun

theorem Known.poll (known : v.Known) (placed : v.Placed) (f : Keeper.Findings) :
    (v.poll f).Known := by
  refine ⟨known.written, known.decided, fun decided => ?_⟩
  rcases known.recorded decided with told | before
  · obtain ⟨reason, told⟩ := Option.isSome_iff_exists.mp told
    exact Or.inl (Option.isSome_iff_exists.mpr ⟨reason, (placed.ordered.polled f).told told⟩)
  · exact Or.inr before

theorem Sound.poll (sound : v.Sound) (sees : v.Sees f) : (v.poll f).Sound := by
  refine ⟨sound.known.poll sound.placed f, sound.placed.poll sees, ?_⟩
  have expired : (v.poll f).expired = if v.expires f then some v.now else v.expired := rfl
  cases sound.outlook with
  | awaits waits never inTime fresh =>
      rcases poll_of_awaits sound.placed sees waits with ⟨still, lasts⟩ | ⟨gone, expires, late, told⟩ |
        ⟨gone, lasts, decided⟩
      · rw [lasts, if_neg Bool.false_ne_true] at expired
        exact .awaits still (expired.trans never) inTime fresh
      · have due : v.deadline.nanos ≤ v.now.nanos := by
          simpa [isLate, Moment.isBefore] using late
        have now : v.now = v.deadline := congrArg Moment.mk (Nat.le_antisymm inTime due)
        rw [expires, if_pos rfl, now] at expired
        refine .expired gone expired due (fun moment at_ => ?_) told
        exact Nat.le_trans due (fresh moment at_)
      · rw [lasts, if_neg Bool.false_ne_true] at expired
        have untold : v.keeper.told = none := by
          rcases awaits_iff.mp waits with stage | stage
          · exact sound.placed.ordered.settingUp stage
          · exact sound.placed.ordered.watching true stage
        rcases sound.known.recorded decided with told | ⟨moment, at_⟩
        · rw [untold] at told
          cases told
        · exact .spared gone (expired.trans never) at_
            (Nat.le_trans (sound.known.written moment at_) inTime)
  | spared gone never decided inTime =>
      obtain ⟨still, lasts, _⟩ := poll_of_not_awaits sound.placed f gone
      rw [lasts, if_neg Bool.false_ne_true] at expired
      exact .spared still (expired.trans never) decided inTime
  | expired gone at_ past late told =>
      obtain ⟨still, lasts, started⟩ := poll_of_not_awaits sound.placed f gone
      rw [lasts, if_neg Bool.false_ne_true] at expired
      refine .expired still (expired.trans at_) past late fun up => ?_
      rw [started] at up
      exact (sound.placed.ordered.polled f).told (told up)

/-! ## The clock -/

/-- All that there is to be found, with the session having every turn. -/
def sight (v : Vigil) : Keeper.Findings :=
  ⟨.session, v.cancelled, v.setUp?, .session, v.ended, v.isLate, v.accepted, true, v.isGraceOver⟩

theorem sees_sight (v : Vigil) : v.Sees v.sight := ⟨rfl, rfl, id, rfl, id, Or.inl, rfl⟩

/-- While a keeper goes by its deadline and finds nothing, nothing has decided. -/
theorem quiet_of_still (placed : v.Placed) (waits : v.awaits = true)
    (still : v.keeper.poll v.sight = v.keeper) :
    v.isDecided = false ∧ v.isLate = false ∧
      (v.keeper.stage = .settingUp → v.exchanged = none) := by
  cases placed.ordered.polled v.sight with
  | waits at_ took free going stays =>
      obtain ⟨_, accepted, ended⟩ := placed.unstarted (placed.settingUp (by rw [at_]))
      have cancelled : v.cancelled = false := free
      have none_yet : v.setUp? = none := going
      unfold setUp? at none_yet
      split at none_yet
      · cases none_yet
      · rename_i first
        split at none_yet
        · cases none_yet
        · rename_i inTime
          exact ⟨by simp [isDecided, accepted, ended, cancelled, first], by simpa using inTime,
            fun _ => first⟩
  | givesUp at_ took went ends | stops at_ took asked ends =>
      rw [still, at_] at ends
      cases ends
  | @watches held watches free going inTime stays =>
      rcases watches with ⟨at_, _⟩ | ⟨at_, _⟩
      · rw [still, at_] at stays
        cases stays
      · have only : held = true := by
          simpa [at_] using awaits_iff.mp waits
        subst only
        have cancelled : v.cancelled = false := free
        have ended : v.ended = false := going
        have accepted : v.accepted = false := by
          rw [still, at_] at stays
          injection stays with stage
          injection stage with settled
          have same : true = !v.accepted := settled
          simpa using same.symm
        have late : v.isLate = false := by
          simpa [Keeper.Findings.isLate, sight] using inTime
        have begun := placed.begun (placed.watching true (by rw [at_]))
        exact ⟨by simp [isDecided, accepted, ended, cancelled, begun], late, by simp [at_]⟩
  | late watches late told stage =>
      rw [still, Keeper.told_of_watches watches] at told
      cases told
  | leaves watches found untold stage =>
      rw [still] at stage
      rcases watches with ⟨at_, _⟩ | ⟨at_, _⟩ <;> rw [at_] at stage <;> cases stage
  | parts at_ | rests at_ => simp [awaits, at_] at waits

theorem due?_of_awaits (waits : v.awaits = true) : v.due? = some v.deadline.nanos := by
  rcases awaits_iff.mp waits with stage | stage <;> simp [due?, stage]

theorem Sound.passes (sound : v.Sound) {later : Moment} (forward : v.now.nanos ≤ later.nanos)
    (idle : v.Idle later) : ({ v with now := later } : Vigil).Sound := by
  obtain ⟨known, placed, outlook⟩ := sound
  refine ⟨⟨fun moment at_ => Nat.le_trans (known.written moment at_) forward, known.decided,
    known.recorded⟩, ⟨placed.ordered, placed.settingUp, placed.watching, placed.parting,
    placed.begun, placed.unstarted⟩, ?_⟩
  cases outlook with
  | awaits waits never inTime fresh =>
      obtain ⟨undecided, _⟩ := quiet_of_still placed waits (idle.still v.sight v.sees_sight)
      refine .awaits waits never (idle.due _ (due?_of_awaits waits)) fun moment at_ => ?_
      have decided : v.isDecided = true := known.decided moment at_
      rw [undecided] at decided
      cases decided
  | spared gone never decided inTime => exact .spared gone never decided inTime
  | expired gone at_ past late told =>
      exact .expired gone at_ (Nat.le_trans past forward) late told

theorem started_of_served (served : v.isServed = true) : v.started = true := by
  rw [isServed, Bool.and_eq_true] at served
  exact served.1

/-- What becomes of the client of a session is not what its keeper goes by. -/
theorem Outlook.served (outlook : v.Outlook) (agreed ended : Bool) :
    ({ v with agreed := agreed, ended := ended } : Vigil).Outlook := by
  cases outlook with
  | awaits waits never inTime fresh => exact .awaits waits never inTime fresh
  | spared gone never decided inTime => exact .spared gone never decided inTime
  | expired gone at_ past late told => exact .expired gone at_ past late told

theorem Sound.agrees (sound : v.Sound) (served : v.isServed = true) :
    ({ v with agreed := true } : Vigil).Sound := by
  obtain ⟨known, placed, outlook⟩ := sound
  refine ⟨⟨known.written, known.decided, known.recorded⟩, ⟨placed.ordered, placed.settingUp,
    placed.watching, placed.parting, placed.begun, fun unstarted => ?_⟩, ?_⟩
  · cases unstarted.symm.trans (started_of_served served)
  · exact outlook.served true v.ended

theorem Sound.heeds (sound : v.Sound) (heeding : v.isHeeding = true) :
    ({ v with ended := true } : Vigil).Sound := by
  obtain ⟨known, placed, outlook⟩ := sound
  rw [isHeeding, Bool.and_eq_true, Bool.and_eq_true] at heeding
  obtain ⟨⟨served, _⟩, told⟩ := heeding
  have started : v.started = true := started_of_served served
  refine ⟨⟨known.written, fun _ _ => ?_, fun _ => Or.inl told⟩, ⟨placed.ordered,
    placed.settingUp, placed.watching, placed.parting, placed.begun, fun unstarted => ?_⟩, ?_⟩
  · simp [isDecided]
  · cases unstarted.symm.trans started
  · exact outlook.served v.agreed true

theorem Sound.step (sound : v.Sound) (step : v.Step next) : next.Sound := by
  cases step with
  | happens allowed =>
      exact ⟨sound.known.take allowed, sound.placed.take allowed, sound.outlook.take _⟩
  | agrees served => exact sound.agrees served
  | heeds told => exact sound.heeds told
  | polls sees => exact sound.poll sees
  | passes forward idle => exact sound.passes forward idle

theorem Sound.run {first : Vigil} (sound : first.Sound) (run : Run first v) : v.Sound := by
  induction run with
  | refl => exact sound
  | tail run step ih => exact ih.step step

theorem Step.deadline (step : v.Step next) : next.deadline = v.deadline := by
  cases step with
  | happens allowed => exact deadline_take v _
  | agrees | heeds | polls | passes => rfl

theorem Run.deadline {first : Vigil} (run : Run first v) : v.deadline = first.deadline := by
  induction run with
  | refl => rfl
  | tail run step ih => exact step.deadline.trans ih

end Vigil

end NetconfGate.Secure

import NetconfGate.Proofs.Secure.Vigil

/-!
# The account of a watch

A watch takes what happens one after the other and looks at the clock once each
time, with no polls in between. It comes to the same as a vigil: what decides
before the deadline lifts it or ends the session, and what comes later is of no
effect.
-/

namespace NetconfGate.Secure

namespace Watch

variable {w : Watch} {now : Moment}

/-- A watch that goes on comes to its deadline before it takes anything. -/
theorem on_of_late (going : w.ending = none) (unauthenticated : w.authenticated = false)
    (late : w.deadline.nanos ≤ now.nanos) (occurrence : Occurrence) :
    w.on now occurrence = { w with ending := some (w.deadline, .authenticationTimeout) } := by
  simp [on, pass, take, going, unauthenticated, Moment.isBefore, late]

theorem on_of_inTime
    (inTime : w.authenticated = true ∨ now.nanos < w.deadline.nanos) (occurrence : Occurrence) :
    w.on now occurrence = w.take now occurrence := by
  rcases inTime with authenticated | early
  · rw [on, pass_of_authenticated authenticated]
  · simp [on, pass, Moment.isBefore, early]

/-- Nothing but its own deadline is a reason to end a session for its time. -/
theorem take_ne_timeout (going : w.ending = none) (occurrence : Occurrence) (time : Moment) :
    (w.take now occurrence).ending ≠ some (time, .authenticationTimeout) := by
  cases occurrence <;> cases named : w.identified <;> simp [take, going, named]

theorem authenticated_take (authenticated : w.authenticated = true) (occurrence : Occurrence) :
    (w.take now occurrence).authenticated = true := by
  unfold take
  split
  · exact authenticated
  · cases occurrence with
    | identified | shutdown => exact authenticated
    | setupFails | ends =>
        dsimp only
        split <;> exact authenticated
    | attempt accepted =>
        dsimp only
        split
        · exact Bool.or_eq_true_iff.mpr (Or.inl authenticated)
        · exact authenticated

/-- Only a naming of the protocol changes who has named it, and only before the end. -/
theorem identified_on (w : Watch) (now : Moment) (occurrence : Occurrence) :
    (w.on now occurrence).identified =
      (w.identified || (occurrence = .identified && (w.pass now).ending.isNone)) := by
  have passed : (w.pass now).identified = w.identified := by
    unfold pass
    split <;> rfl
  rw [on, ← passed]
  generalize w.pass now = w
  cases ending : w.ending <;> cases occurrence <;> simp [take, ending] <;> split <;> simp_all

/-- What is over stays over. -/
theorem ending_of_on {occurrence : Occurrence} (going : (w.on now occurrence).ending = none) :
    (w.pass now).ending = none ∧ w.ending = none := by
  cases ended : w.ending with
  | some isOver =>
      rw [on_of_ended (by rw [ended]; rfl), ended] at going
      cases going
  | none =>
      refine ⟨?_, rfl⟩
      cases passed : (w.pass now).ending with
      | none => rfl
      | some isOver =>
          have same : (w.pass now).take now occurrence = w.pass now := by
            simp [take, passed]
          rw [on, same, passed] at going
          cases going

theorem take_of_idle (now : Moment) (going : w.ending = none)
    (unauthenticated : w.authenticated = false) {occurrence : Occurrence}
    (idle : occurrence.isDecisive = false) :
    (w.take now occurrence).ending = none ∧ (w.take now occurrence).authenticated = false := by
  cases occurrence with
  | identified => simp [take, going, unauthenticated]
  | attempt accepted =>
      cases accepted with
      | true => cases idle
      | false => cases named : w.identified <;> simp [take, going, unauthenticated, named]
  | setupFails | ends | shutdown => cases idle

end Watch

namespace Vigil

variable {v next : Vigil}

/-- What the watch makes of the same timeline: nothing has decided before the
deadline, or something has, and the deadline is lifted or the session over. -/
inductive Accounted (v : Vigil) : Prop where
  | goes (late : ∀ moment, v.DecidedAt moment → v.deadline.nanos ≤ moment.nanos)
      (unauthenticated : v.watch.authenticated = false)
      (ending : v.watch.ending = none ∨ v.watch.ending = some (v.deadline, .authenticationTimeout) ∧
        v.deadline.nanos ≤ v.now.nanos)
  | spared {moment : Moment} (decided : v.DecidedAt moment)
      (early : moment.nanos < v.deadline.nanos)
      (lifted : v.watch.authenticated = true ∨ v.watch.ending.isSome = true)
      (never : ∀ time, v.watch.ending ≠ some (time, .authenticationTimeout))

/-- The watch knows who has named its protocol, as long as it goes on. -/
structure Named (v : Vigil) : Prop where
  exchanged : v.watch.identified = true → v.exchanged = some true
  identified : v.exchanged = some true → v.watch.ending = none → v.watch.identified = true

theorem watch_take (v : Vigil) (occurrence : Occurrence) :
    (v.take occurrence).watch = v.watch.on v.now occurrence := by
  cases occurrence <;> rfl

/-- What is decisive and may happen is taken by a watch that goes on. -/
theorem Named.takes (named : v.Named) (placed : v.Placed) (going : v.watch.ending = none)
    {occurrence : Occurrence} (allowed : v.allows occurrence = true)
    (decisive : occurrence.isDecisive = true) :
    (v.watch.take v.now occurrence).authenticated = true ∨
      (v.watch.take v.now occurrence).ending.isSome = true := by
  have served (up : v.isServed = true) : v.watch.identified = true :=
    named.identified (placed.begun (started_of_served up)) going
  cases occurrence with
  | identified => cases decisive
  | shutdown => simp [Watch.take, going]
  | setupFails =>
      have unnamed : v.watch.identified = false := by
        simp only [allows, Bool.and_eq_true, Option.isNone_iff_eq_none] at allowed
        cases identified : v.watch.identified with
        | false => rfl
        | true => cases allowed.2.symm.trans (named.exchanged identified)
      simp [Watch.take, going, unnamed]
  | attempt accepted =>
      simp only [allows, Bool.and_eq_true] at allowed
      have accepts : accepted = true := decisive
      simp [Watch.take, going, served allowed.1, accepts]
  | ends => simp [Watch.take, going, served allowed]

theorem Accounted.take (accounted : v.Accounted) (named : v.Named) (placed : v.Placed)
    {occurrence : Occurrence} (allowed : v.allows occurrence = true) :
    (v.take occurrence).Accounted := by
  have decided := decidedAt_take v occurrence
  have watch := watch_take v occurrence
  cases accounted with
  | goes late unauthenticated ending =>
      have comes (due : v.deadline.nanos ≤ v.now.nanos) (moment : Moment)
          (at_ : (v.take occurrence).DecidedAt moment) :
          (v.take occurrence).deadline.nanos ≤ moment.nanos := by
        rw [deadline_take]
        rcases (decided moment).mp at_ with before | ⟨rfl, _⟩
        · exact late moment before
        · exact due
      rcases ending with going | ⟨gone, due⟩
      · rcases Nat.lt_or_ge v.now.nanos v.deadline.nanos with early | due
        · rw [Watch.on_of_inTime (Or.inr early)] at watch
          cases decisive : occurrence.isDecisive with
          | true =>
              refine .spared ((decided v.now).mpr (Or.inr ⟨rfl, decisive⟩)) ?_ ?_ ?_
              · rw [deadline_take]
                exact early
              · rw [watch]
                exact named.takes placed going allowed decisive
              · rw [watch]
                exact Watch.take_ne_timeout going occurrence
          | false =>
              obtain ⟨goes, still⟩ := Watch.take_of_idle v.now going unauthenticated decisive
              refine .goes (fun moment at_ => ?_) (by rw [watch]; exact still)
                (Or.inl (by rw [watch]; exact goes))
              rw [deadline_take]
              rcases (decided moment).mp at_ with before | ⟨_, impossible⟩
              · exact late moment before
              · cases decisive.symm.trans impossible
        · rw [Watch.on_of_late going unauthenticated due] at watch
          refine .goes (comes due) (by rw [watch]; exact unauthenticated) (Or.inr ⟨?_, ?_⟩)
          · rw [watch, deadline_take]
            rfl
          · rw [deadline_take, now_take]
            exact due
      · have ended : v.watch.ending.isSome = true := by
          rw [gone]
          rfl
        rw [Watch.on_of_ended ended] at watch
        refine .goes (comes due) (by rw [watch]; exact unauthenticated) (Or.inr ⟨?_, ?_⟩)
        · rw [watch, deadline_take]
          exact gone
        · rw [deadline_take, now_take]
          exact due
  | @spared moment before early lifted never =>
      have earlier : moment.nanos < (v.take occurrence).deadline.nanos := by
        rw [deadline_take]
        exact early
      refine .spared ((decided _).mpr (Or.inl before)) earlier ?_ ?_ <;> rw [watch]
      · cases ending : v.watch.ending with
        | some isOver =>
            rw [Watch.on_of_ended (by rw [ending]; rfl)]
            exact lifted
        | none =>
            rw [ending] at lifted
            have authenticated := lifted.resolve_right nofun
            rw [Watch.on_of_inTime (Or.inl authenticated)]
            exact Or.inl (Watch.authenticated_take authenticated occurrence)
      · cases ending : v.watch.ending with
        | some isOver =>
            rw [Watch.on_of_ended (by rw [ending]; rfl)]
            exact never
        | none =>
            rw [ending] at lifted
            have authenticated := lifted.resolve_right nofun
            rw [Watch.on_of_inTime (Or.inl authenticated)]
            exact Watch.take_ne_timeout ending occurrence

theorem Named.take (named : v.Named) {occurrence : Occurrence}
    (allowed : v.allows occurrence = true) : (v.take occurrence).Named := by
  have watch := watch_take v occurrence
  have identified := Watch.identified_on v.watch v.now occurrence
  rw [← watch] at identified
  cases occurrence with
  | identified =>
      refine ⟨fun _ => rfl, fun _ going => ?_⟩
      rw [watch] at going
      simp [identified, (Watch.ending_of_on going).1]
  | setupFails =>
      simp only [allows, Bool.and_eq_true, Option.isNone_iff_eq_none] at allowed
      refine ⟨fun known => ?_, fun went => by cases went⟩
      have before : v.watch.identified = true := by
        simpa [identified] using known
      cases allowed.2.symm.trans (named.exchanged before)
  | attempt | ends | shutdown =>
      refine ⟨fun known => named.exchanged (by simpa [identified] using known), fun up going => ?_⟩
      rw [watch] at going
      simp [identified, named.identified up (Watch.ending_of_on going).2]

theorem Accounted.congr (accounted : v.Accounted) (watch : next.watch = v.watch)
    (past : next.past = v.past) (forward : v.now.nanos ≤ next.now.nanos) : next.Accounted := by
  have deadline : next.deadline = v.deadline := congrArg Watch.deadline watch
  have decided (moment : Moment) : next.DecidedAt moment ↔ v.DecidedAt moment := by
    simp only [DecidedAt, past]
  cases accounted with
  | goes late unauthenticated ending =>
      rw [← watch] at unauthenticated ending
      rw [← deadline] at late ending
      exact .goes (fun moment at_ => late moment ((decided moment).mp at_)) unauthenticated
        (ending.imp_right fun gone => ⟨gone.1, Nat.le_trans gone.2 forward⟩)
  | spared before early lifted never =>
      rw [← watch] at lifted never
      rw [← deadline] at early
      exact .spared ((decided _).mpr before) early lifted never

/-- What holds of a vigil with the account that its watch gives. -/
structure Told (v : Vigil) : Prop where
  sound : v.Sound
  named : v.Named
  accounted : v.Accounted

theorem Told.step (told : v.Told) (step : v.Step next) : next.Told := by
  obtain ⟨sound, named, accounted⟩ := told
  refine ⟨sound.step step, ?_, ?_⟩
  · cases step with
    | happens allowed => exact named.take allowed
    | agrees | heeds | polls | passes => exact ⟨named.exchanged, named.identified⟩
  · cases step with
    | happens allowed => exact accounted.take named sound.placed allowed
    | agrees | heeds | polls => exact accounted.congr rfl rfl (Nat.le_refl _)
    | passes forward idle => exact accounted.congr rfl rfl forward

theorem told_start {accepted : Moment} {timeout : Duration} {w : Watch}
    (begins : Watch.start? accepted timeout = some w) : (start accepted w).Told := by
  obtain ⟨deadline, found, rfl⟩ := Option.map_eq_some_iff.mp begins
  refine ⟨sound_start accepted ?_, ⟨nofun, nofun⟩, .goes ?_ rfl (Or.inl rfl)⟩
  · rw [Watch.start?_eq_some begins]
    exact Nat.le_add_right _ _
  · rintro moment ⟨_, inside, _⟩
    cases inside

/-- The account that a watch gives of a timeline, each time with a single look at
the clock: the session was ended for its time if and only if the deadline has come
and nothing had decided before. -/
theorem account_run {accepted : Moment} {timeout : Duration} {w : Watch}
    (begins : Watch.start? accepted timeout = some w) {v : Vigil}
    (run : Run (start accepted w) v) :
    (v.watch.pass v.now).ending = some (v.deadline, .authenticationTimeout) ↔
      v.deadline.nanos ≤ v.now.nanos ∧
        ∀ moment, v.DecidedAt moment → v.deadline.nanos ≤ moment.nanos := by
  have told : v.Told := by
    induction run with
    | refl => exact told_start begins
    | tail run step ih => exact ih.step step
  cases told.accounted with
  | goes late unauthenticated ending =>
      rcases ending with going | ⟨gone, due⟩
      · rcases Nat.lt_or_ge v.now.nanos v.deadline.nanos with early | due
        · have early' : v.now.nanos < v.watch.deadline.nanos := early
          refine iff_of_false ?_ fun ⟨due, _⟩ => Nat.not_le_of_lt early due
          simp [Watch.pass, going, Moment.isBefore, early']
        · have due' : v.watch.deadline.nanos ≤ v.now.nanos := due
          refine iff_of_true ?_ ⟨due, late⟩
          simp [Watch.pass, going, unauthenticated, Moment.isBefore, due', deadline]
      · refine iff_of_true ?_ ⟨due, late⟩
        simp [Watch.pass, gone]
  | spared decided early lifted never =>
      refine iff_of_false ?_ fun ⟨_, late⟩ => Nat.not_le_of_lt early (late _ decided)
      have same : v.watch.pass v.now = v.watch := by
        rcases lifted with authenticated | ended
        · exact Watch.pass_of_authenticated authenticated v.now
        · simp [Watch.pass, Option.isNone_iff_eq_none, Option.isSome_iff_ne_none.mp ended]
      rw [same]
      exact never _

end Vigil

end NetconfGate.Secure

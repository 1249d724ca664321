import NetconfGate.Proofs.Secure.Keeper
import NetconfGate.Secure.Vigil

/-!
# What a poll can come to

All that a poll of a keeper can come to is said once, as a relation with a
constructor for each outcome and what was found for it. What a keeper keeps from
poll to poll is read off from it.
-/

namespace NetconfGate.Secure

namespace Keeper

/-- A poll of a keeper that watches finds its time over, or the end or the
shutdown, or none of them. -/
theorem poll_watching (held : Bool) (f : Findings) :
    let later := (⟨.watching held, none⟩ : Keeper).poll f
    (f.cancelled = false ∧ f.ended = false ∧ f.isLate held = false ∧
        later = ⟨.watching (held && !f.settled), none⟩) ∨
      (f.isLate held = true ∧ later.told = some tooLate ∧
        (later.stage = .parting ∨ later.stage = .finished)) ∨
      ((f.cancelled = true ∨ f.ended = true) ∧ later.told ≠ some tooLate ∧
        later.stage = .finished) := by
  intro later
  have found := goOn_watching held f
  rcases poll_eq ⟨.watching held, none⟩ f with
    ⟨free, polled⟩ | ⟨asked, _, polled⟩ | ⟨asked, _, polled⟩
  · rcases found with ⟨ended, at_⟩ | ⟨_, late, at_⟩ | ⟨_, _, asked, _⟩ | ⟨going, inTime, _, at_⟩
    · have same : later = ⟨.finished, none⟩ := polled.trans at_
      rw [same]
      exact Or.inr (Or.inr ⟨Or.inr ended, nofun, rfl⟩)
    · have same : later = ⟨.parting, some tooLate⟩ := polled.trans at_
      rw [same]
      exact Or.inr (Or.inl ⟨late, rfl, Or.inl rfl⟩)
    · cases free.symm.trans asked
    · exact Or.inl ⟨free, going, inTime, polled.trans at_⟩
  · have same : later = ⟨.finished, none⟩ := polled
    rw [same]
    exact Or.inr (Or.inr ⟨Or.inl asked, nofun, rfl⟩)
  · have same : later = ⟨.finished, ((⟨.watching held, none⟩ : Keeper).goOn f).told⟩ := polled
    rw [same]
    rcases found with ⟨_, at_⟩ | ⟨_, late, at_⟩ | ⟨_, _, _, at_⟩ | ⟨_, _, free, _⟩
    · rw [at_]
      exact Or.inr (Or.inr ⟨Or.inl asked, nofun, rfl⟩)
    · rw [at_]
      exact Or.inr (Or.inl ⟨late, rfl, Or.inr rfl⟩)
    · rw [at_]
      exact Or.inr (Or.inr ⟨Or.inl asked, by decide, rfl⟩)
    · cases free.symm.trans asked

/-- A poll of a setup starts the session, or gives it up, or finds the shutdown, or
nothing. -/
theorem poll_settingUp (f : Findings) :
    let k : Keeper := ⟨.settingUp, none⟩
    (k.takes? f = some true ∧ k.poll f = (⟨.watching true, none⟩ : Keeper).poll f) ∨
      (k.takes? f = some false ∧ f.setUp = some false ∧ k.poll f = ⟨.finished, none⟩) ∨
      (k.takes? f = none ∧ f.cancelled = true ∧ k.poll f = ⟨.finished, none⟩) ∨
      (k.takes? f = none ∧ f.cancelled = false ∧ f.setUp = none ∧ k.poll f = k) := by
  intro k
  cases first : f.cancelled && (f.turn = .group || f.setUpTurn = .group) with
  | true =>
      rw [Bool.and_eq_true, Bool.or_eq_true, decide_eq_true_eq, decide_eq_true_eq] at first
      obtain ⟨asked, first⟩ := first
      refine Or.inr (Or.inr (Or.inl ⟨?_, asked, ?_⟩))
      · have blind : (f.turn = .group || f.setUpTurn = .group : Bool) = true := by
          simpa using first
        simp [takes?, asked, blind]
      · rcases first with group | group
        · simp [k, poll, asked, group]
        · cases turn : f.turn <;> simp [k, poll, goOn, asked, group, turn]
  | false =>
      have takes : k.takes? f = f.setUp := by
        simp [takes?, k, first]
      rw [takes]
      have session : f.cancelled = true → f.turn = .session ∧ f.setUpTurn = .session := by
        intro asked
        cases turn : f.turn <;> cases setUpTurn : f.setUpTurn <;> simp_all
      cases went : f.setUp with
      | none =>
          cases asked : f.cancelled with
          | true =>
              obtain ⟨turn, setUpTurn⟩ := session asked
              exact Or.inr (Or.inr (Or.inl (by simp [k, poll, goOn, asked, went, turn])))
          | false => exact Or.inr (Or.inr (Or.inr (by simp [k, poll, goOn, asked, went])))
      | some up =>
          have goes : f.cancelled = true ∧ f.turn = .session ∧ f.setUpTurn = .session ∨
              f.cancelled = false := by
            cases asked : f.cancelled with
            | true => exact Or.inl ⟨rfl, session asked⟩
            | false => exact Or.inr rfl
          cases up with
          | true =>
              refine Or.inl ⟨rfl, ?_⟩
              rcases goes with ⟨asked, turn, setUpTurn⟩ | free
              · simp [k, poll, goOn, watch, asked, turn, setUpTurn, went]
              · simp [k, poll, goOn, watch, free, went]
          | false =>
              refine Or.inr (Or.inl ⟨rfl, rfl, ?_⟩)
              rcases goes with ⟨asked, turn, setUpTurn⟩ | free
              · simp [k, poll, goOn, asked, turn, setUpTurn, went]
              · simp [k, poll, goOn, free, went]

/-- Only a keeper that parts, or is over, has told the client anything. -/
structure Ordered (k : Keeper) : Prop where
  settingUp : k.stage = .settingUp → k.told = none
  watching : ∀ held, k.stage = .watching held → k.told = none
  parting : k.stage = .parting → k.told.isSome = true

/-- This poll watches the session, which it may have started. -/
def Watches (k : Keeper) (f : Findings) (held : Bool) : Prop :=
  k = ⟨.settingUp, none⟩ ∧ held = true ∧ f.setUp = some true ∧ k.takes? f = some true ∨
    k = ⟨.watching held, none⟩ ∧ k.takes? f = none

/-- All that a poll can come to. -/
inductive Polled (k : Keeper) (f : Findings) : Prop where
  | waits (at_ : k = ⟨.settingUp, none⟩) (took : k.takes? f = none) (free : f.cancelled = false)
      (going : f.setUp = none) (stays : k.poll f = k)
  | givesUp (at_ : k = ⟨.settingUp, none⟩) (took : k.takes? f = some false)
      (went : f.setUp = some false) (ends : k.poll f = ⟨.finished, none⟩)
  | stops (at_ : k = ⟨.settingUp, none⟩) (took : k.takes? f = none) (asked : f.cancelled = true)
      (ends : k.poll f = ⟨.finished, none⟩)
  | watches {held : Bool} (watches : k.Watches f held) (free : f.cancelled = false)
      (going : f.ended = false) (inTime : f.isLate held = false)
      (stays : k.poll f = ⟨.watching (held && !f.settled), none⟩)
  | late {held : Bool} (watches : k.Watches f held) (late : f.isLate held = true)
      (told : (k.poll f).told = some tooLate)
      (stage : (k.poll f).stage = .parting ∨ (k.poll f).stage = .finished)
  | leaves {held : Bool} (watches : k.Watches f held) (found : f.cancelled = true ∨ f.ended = true)
      (untold : (k.poll f).told ≠ some tooLate) (stage : (k.poll f).stage = .finished)
  | parts (at_ : k.stage = .parting) (took : k.takes? f = none) (same : (k.poll f).told = k.told)
      (stage : k.poll f = k ∧ f.cancelled = false ∧ (f.ended || f.graceOver) = false ∨
        (k.poll f).stage = .finished ∧ (f.cancelled || (f.ended || f.graceOver)) = true)
  | rests (at_ : k.stage = .finished) (took : k.takes? f = none) (stays : k.poll f = k)

theorem takes?_of_stage {k : Keeper} (stage : k.stage ≠ .settingUp) (f : Findings) :
    k.takes? f = none := by
  simp [takes?, stage]

theorem polled_of_watches {k : Keeper} {f : Findings} {held : Bool} (watches : k.Watches f held)
    (same : k.poll f = (⟨.watching held, none⟩ : Keeper).poll f) : k.Polled f := by
  rcases poll_watching held f with ⟨free, going, inTime, at_⟩ | ⟨late, told, stage⟩ |
    ⟨found, untold, stage⟩
  · exact .watches watches free going inTime (same.trans at_)
  · rw [← same] at told stage
    exact .late watches late told stage
  · rw [← same] at untold stage
    exact .leaves watches found untold stage

theorem Ordered.polled {k : Keeper} (ordered : k.Ordered) (f : Findings) : k.Polled f := by
  cases stage : k.stage with
  | settingUp =>
      have at_ : k = ⟨.settingUp, none⟩ := by
        rw [← stage, ← ordered.settingUp stage]
      have found := poll_settingUp f
      rw [← at_] at found
      rcases found with ⟨took, same⟩ | ⟨took, went, ends⟩ | ⟨took, asked, ends⟩ |
        ⟨took, free, going, stays⟩
      · have went : f.setUp = some true := by
          unfold takes? at took
          split at took
          · exact took
          · cases took
        exact polled_of_watches (Or.inl ⟨at_, rfl, went, took⟩) same
      · exact .givesUp at_ took went ends
      · exact .stops at_ took asked ends
      · exact .waits at_ took free going stays
  | watching held =>
      have at_ : k = ⟨.watching held, none⟩ := by
        rw [← stage, ← ordered.watching held stage]
      exact polled_of_watches (Or.inr ⟨at_, takes?_of_stage (by simp [stage]) f⟩) (by rw [at_])
  | parting =>
      have took : k.takes? f = none := takes?_of_stage (by simp [stage]) f
      have goes : k.goOn f =
          if f.ended || f.graceOver then { k with stage := .finished } else k := by
        simp only [goOn, stage]
      cases asked : f.cancelled with
      | true =>
          have kept := (goOn_of_late (f := f) (Or.inl stage)).2
          refine .parts stage took ?_ (Or.inr ⟨stage_poll_of_cancelled asked k, by simp [asked]⟩)
          rcases k.poll_eq f with ⟨free, _⟩ | ⟨_, _, polled⟩ | ⟨_, _, polled⟩
          · cases free.symm.trans asked
          · rw [polled]
          · rw [polled]
            exact kept
      | false =>
          have polled : k.poll f = k.goOn f := by
            simp [poll, asked]
          cases gone : f.ended || f.graceOver with
          | true =>
              rw [gone, if_pos rfl] at goes
              rw [goes] at polled
              exact .parts stage took (by rw [polled])
                (Or.inr ⟨by rw [polled], by rw [gone, Bool.or_true]⟩)
          | false =>
              rw [gone, if_neg Bool.false_ne_true] at goes
              rw [goes] at polled
              exact .parts stage took (by rw [polled]) (Or.inl ⟨polled, asked, gone⟩)
  | finished =>
      exact .rests stage (takes?_of_stage (by simp [stage]) f) (poll_of_finished stage f)

section Polled

variable {k : Keeper} {f : Findings}

theorem told_of_watches {held : Bool} (watches : k.Watches f held) : k.told = none := by
  rcases watches with ⟨at_, _⟩ | ⟨at_, _⟩ <;> rw [at_]

/-- A setup that goes on is one in which nothing was found. -/
theorem Polled.settingUp (polled : k.Polled f) (stage : (k.poll f).stage = .settingUp) :
    k.poll f = k ∧ k.takes? f = none := by
  cases polled with
  | waits _ took _ _ stays => exact ⟨stays, took⟩
  | parts at_ took same either =>
      rcases either with ⟨stays, _⟩ | ⟨gone, _⟩
      · exact ⟨stays, took⟩
      · cases gone.symm.trans stage
  | rests at_ took stays => exact ⟨stays, took⟩
  | givesUp | stops | watches | late | leaves => simp_all

theorem Polled.watching (polled : k.Polled f) {held : Bool}
    (stage : (k.poll f).stage = .watching held) : ∃ was, k.Watches f was := by
  cases polled with
  | watches watches => exact ⟨_, watches⟩
  | late watches => exact ⟨_, watches⟩
  | leaves watches => exact ⟨_, watches⟩
  | waits | givesUp | stops | parts | rests => simp_all

/-- A keeper that parts has told the client so at this poll, or before. -/
theorem Polled.parting (polled : k.Polled f) (stage : (k.poll f).stage = .parting) :
    k.poll f = k ∨ k.told = none ∧ (k.poll f).told.isSome = true := by
  cases polled with
  | late watches _ told => exact Or.inr ⟨told_of_watches watches, by rw [told]; rfl⟩
  | parts _ _ _ either =>
      rcases either with ⟨stays, _⟩ | ⟨gone, _⟩
      · exact Or.inl stays
      · cases gone.symm.trans stage
  | waits _ _ _ _ stays => exact Or.inl stays
  | rests _ _ stays => exact Or.inl stays
  | givesUp | stops | watches | leaves => simp_all

/-- What a keeper has told it does not take back. -/
theorem Polled.told (polled : k.Polled f) {reason : String} (told : k.told = some reason) :
    (k.poll f).told = some reason := by
  cases polled with
  | parts _ _ same _ => exact same.trans told
  | rests _ _ stays =>
      rw [stays]
      exact told
  | waits at_ | givesUp at_ | stops at_ =>
      rw [at_] at told
      cases told
  | watches watches | late watches | leaves watches => cases (told_of_watches watches).symm.trans told

theorem Ordered.poll (ordered : k.Ordered) (f : Findings) : (k.poll f).Ordered := by
  have polled := ordered.polled f
  refine ⟨fun stage => ?_, fun held stage => ?_, fun stage => ?_⟩
  · have same := (polled.settingUp stage).1
    rw [same] at stage ⊢
    exact ordered.settingUp stage
  · cases polled with
    | watches _ _ _ _ stays => rw [stays]
    | waits | givesUp | stops | late | leaves | parts | rests => simp_all
  · rcases polled.parting stage with same | ⟨_, told⟩
    · rw [same] at stage ⊢
      exact ordered.parting stage
    · exact told

end Polled

end Keeper

end NetconfGate.Secure

import NetconfGate.Secure.Keeper

/-!
# What becomes of a watched session

A keeper that watches a session goes on to do so, or it comes to one of four
ends, and from then on stays with it. Which one it is when the group has asked
it to stop and there is nothing else to be found depends on the first turn
alone.
-/

namespace NetconfGate.Secure.Keeper

/-- How far a keeper has come that watched a session. `turn` is the first when
it is asked to stop, `deadline` is whether one held in the beginning, and `ended`
is whether the session has ended. -/
inductive Fares (turn : Turn) (deadline ended : Bool) (k : Keeper) : Prop where
  | watches {held : Bool} (at_ : k = ⟨.watching held, none⟩)
      (only : held = true → deadline = true)
  | late (stage : k.stage = .parting ∨ k.stage = .finished) (told : k.told = some tooLate)
      (had : deadline = true)
  | ended (at_ : k = ⟨.finished, none⟩) (finished : ended = true)
  | parted (at_ : k = ⟨.finished, some goodbye⟩) (first : turn = .session)
  | dropped (at_ : k = ⟨.finished, none⟩) (first : turn = .group)

variable {turn : Turn} {deadline ended : Bool} {k : Keeper}

theorem Fares.hangsUp (fares : k.Fares turn deadline ended) : k.Fares turn deadline true := by
  cases fares with
  | watches at_ only => exact .watches at_ only
  | late stage told had => exact .late stage told had
  | ended at_ => exact .ended at_ rfl
  | parted at_ first => exact .parted at_ first
  | dropped at_ first => exact .dropped at_ first

/-- The time is over only while the deadline holds. -/
theorem Findings.of_isLate {f : Findings} {held : Bool} (late : f.isLate held = true) :
    held = true ∧ f.late = true := by
  rw [isLate, Bool.and_eq_true, Bool.and_eq_true] at late
  exact late.1

/-- All that a keeper that watches can find: the end of the session, or of its
time, or the shutdown, or none of them. -/
theorem goOn_watching (held : Bool) (f : Findings) :
    let later := (⟨.watching held, none⟩ : Keeper).goOn f
    (f.ended = true ∧ later = ⟨.finished, none⟩) ∨
      (f.ended = false ∧ f.isLate held = true ∧ later = ⟨.parting, some tooLate⟩) ∨
      (f.ended = false ∧ f.isLate held = false ∧ f.cancelled = true ∧
        later = ⟨.parting, some goodbye⟩) ∨
      (f.ended = false ∧ f.isLate held = false ∧ f.cancelled = false ∧
        later = ⟨.watching (held && !f.settled), none⟩) := by
  intro later
  have goes : later = (⟨.watching held, none⟩ : Keeper).watch held f := rfl
  rw [goes, watch]
  cases f.ended with
  | true => exact Or.inl ⟨rfl, rfl⟩
  | false =>
      cases f.isLate held with
      | true => exact Or.inr (Or.inl ⟨rfl, rfl, rfl⟩)
      | false =>
          cases f.cancelled with
          | true => exact Or.inr (Or.inr (Or.inl ⟨rfl, rfl, rfl, rfl⟩))
          | false => exact Or.inr (Or.inr (Or.inr ⟨rfl, rfl, rfl, rfl⟩))

/-- A keeper that has come to an end finds nothing that changes it. -/
theorem goOn_of_late {f : Findings} (stage : k.stage = .parting ∨ k.stage = .finished) :
    ((k.goOn f).stage = .parting ∨ (k.goOn f).stage = .finished) ∧ (k.goOn f).told = k.told := by
  unfold goOn
  rcases stage with parting | finished
  · rw [parting]
    dsimp only
    split
    · exact ⟨Or.inr rfl, rfl⟩
    · exact ⟨Or.inl parting, rfl⟩
  · rw [finished]
    exact ⟨Or.inr finished, rfl⟩

theorem poll_of_finished (finished : k.stage = .finished) (f : Findings) : k.poll f = k := by
  have stays : k.goOn f = k := by
    simp only [goOn, finished]
  have same : ({ k with stage := .finished } : Keeper) = k := by
    rw [← finished]
  unfold poll
  rw [stays, same]
  cases f.turn <;> simp

/-- A poll goes on, unless the group has asked the task to stop and has the first
turn; a task that was asked is over in any case. -/
theorem poll_eq (k : Keeper) (f : Findings) :
    (f.cancelled = false ∧ k.poll f = k.goOn f) ∨
      (f.cancelled = true ∧ f.turn = .group ∧ k.poll f = { k with stage := .finished }) ∨
      (f.cancelled = true ∧ f.turn = .session ∧
        k.poll f = { k.goOn f with stage := .finished }) := by
  unfold Keeper.poll
  cases f.cancelled with
  | false => exact Or.inl ⟨rfl, rfl⟩
  | true =>
      cases f.turn with
      | group => exact Or.inr (Or.inl ⟨rfl, rfl, rfl⟩)
      | session => exact Or.inr (Or.inr ⟨rfl, rfl, rfl⟩)

theorem Fares.poll_watching {held : Bool} (only : held = true → deadline = true) {f : Findings}
    (same : f.turn = turn) (sees : f.ended = ended) :
    ((⟨.watching held, none⟩ : Keeper).poll f).Fares turn deadline ended := by
  have found := goOn_watching held f
  rcases poll_eq ⟨.watching held, none⟩ f with
    ⟨free, polled⟩ | ⟨_, first, polled⟩ | ⟨asked, first, polled⟩
  · rw [polled]
    rcases found with ⟨hungUp, at_⟩ | ⟨_, late, at_⟩ | ⟨_, _, asked, _⟩ | ⟨_, _, _, at_⟩
    · exact .ended at_ (sees.symm.trans hungUp)
    · exact .late (Or.inl (by rw [at_])) (by rw [at_]) (only (Findings.of_isLate late).1)
    · cases free.symm.trans asked
    · refine .watches at_ fun still => only ?_
      rw [Bool.and_eq_true] at still
      exact still.1
  · exact .dropped polled (same.symm.trans first)
  · rw [polled]
    rcases found with ⟨hungUp, at_⟩ | ⟨_, late, at_⟩ | ⟨_, _, _, at_⟩ | ⟨_, _, free, _⟩
    · exact .ended (by rw [at_]) (sees.symm.trans hungUp)
    · exact .late (Or.inr rfl) (by rw [at_]) (only (Findings.of_isLate late).1)
    · exact .parted (by rw [at_]) (same.symm.trans first)
    · cases free.symm.trans asked

theorem Fares.poll (fares : k.Fares turn deadline ended) {f : Findings} (same : f.turn = turn)
    (sees : f.ended = ended) : (k.poll f).Fares turn deadline ended := by
  cases fares with
  | watches at_ only =>
      rw [at_]
      exact .poll_watching only same sees
  | late stage told had =>
      obtain ⟨after, kept⟩ := goOn_of_late (f := f) stage
      rcases k.poll_eq f with ⟨_, polled⟩ | ⟨_, _, polled⟩ | ⟨_, _, polled⟩
      · rw [polled]
        exact .late after (kept.trans told) had
      · rw [polled]
        exact .late (Or.inr rfl) told had
      · rw [polled]
        exact .late (Or.inr rfl) (kept.trans told) had
  | ended at_ hungUp =>
      rw [poll_of_finished (by rw [at_])]
      exact .ended at_ hungUp
  | parted at_ first =>
      rw [poll_of_finished (by rw [at_])]
      exact .parted at_ first
  | dropped at_ first =>
      rw [poll_of_finished (by rw [at_])]
      exact .dropped at_ first

/-- Once a keeper is over, the session has ended, or it was told to end, or it is
left with what the first turn leaves it with. -/
theorem Fares.of_finished (fares : k.Fares turn deadline ended) (finished : k.stage = .finished) :
    ended = true ∨ (k.told = some tooLate ∧ deadline = true) ∨
      farewell turn = ⟨k.told = some goodbye, k.told.isNone⟩ := by
  cases fares with
  | watches at_ =>
      rw [at_] at finished
      cases finished
  | late _ told had => exact Or.inr (Or.inl ⟨told, had⟩)
  | ended _ finished => exact Or.inl finished
  | parted at_ first =>
      subst at_ first
      exact Or.inr (Or.inr (by decide))
  | dropped at_ first =>
      subst at_ first
      exact Or.inr (Or.inr (by decide))

/-- Only a session that had its turn is told of the shutdown. -/
theorem Fares.turn_of_told (fares : k.Fares turn deadline ended) (told : k.told = some goodbye) :
    turn = .session := by
  cases fares with
  | watches at_ | ended at_ | dropped at_ =>
      rw [at_] at told
      cases told
  | late _ late =>
      rw [late] at told
      exact absurd told (by decide)
  | parted _ first => exact first

/-- Unless it is late, a keeper says goodbye or nothing. -/
theorem told_poll_of_inTime {f : Findings} (inTime : f.late = false) (k : Keeper) :
    (k.poll f).told = k.told ∨ (k.poll f).told = some goodbye := by
  have watched (deadline : Bool) : (k.watch deadline f).told = k.told ∨
      (k.watch deadline f).told = some goodbye := by
    have never : f.isLate deadline = false := by
      simp [Findings.isLate, inTime]
    rw [Keeper.watch, never, if_neg Bool.false_ne_true]
    split
    · exact Or.inl rfl
    · split
      · exact Or.inr rfl
      · exact Or.inl rfl
  have goes : (k.goOn f).told = k.told ∨ (k.goOn f).told = some goodbye := by
    unfold goOn
    split
    · split
      · exact Or.inl rfl
      · split
        · exact watched true
        · exact Or.inl rfl
        · exact Or.inl rfl
    · exact watched _
    · split <;> exact Or.inl rfl
    · exact Or.inl rfl
  rcases k.poll_eq f with ⟨_, polled⟩ | ⟨_, _, polled⟩ | ⟨_, _, polled⟩
  · rw [polled]
    exact goes
  · rw [polled]
    exact Or.inl rfl
  · rw [polled]
    exact goes

end NetconfGate.Secure.Keeper

import NetconfGate.Proofs.Channel.Entrance.Sockets

/-!
# What holds at every entrance

A loop ends as it should, when it was told to stop, and its socket closes then.
No two sockets listen on the same address: a socket passes from a call to a loop
and is never there twice. All that is known of a reception stays true when a loop
is started in vain.
-/

namespace NetconfGate.Channel

namespace Reception

variable {r later : Reception} {event : Event}

/-- One more loop, which is told to stop at once. -/
def withStray (r : Reception) (acceptor : Nat) (address : Address) : Reception :=
  { r.withService
      { r.service with
        group := { r.service.group with tasks := r.service.group.tasks ++ [none] }
        loops := r.service.loops ++ [⟨acceptor, r.service.group.tasks.length, address, true⟩] } with
    released := r.released ++ [r.service.loops.length] }

section WithStray

variable (r) (acceptor : Nat) (address : Address)

theorem loop_withStray {loop : Nat} {l : Loop} (found : r.service.loops[loop]? = some l) :
    (r.withStray acceptor address).service.loops[loop]? = some l :=
  (List.getElem?_append_left (List.getElem?_eq_some_iff.mp found).1).trans found

theorem loop_of_withStray {loop : Nat} {l : Loop}
    (found : (r.withStray acceptor address).service.loops[loop]? = some l) :
    r.service.loops[loop]? = some l ∨
      loop = r.service.loops.length ∧ l = ⟨acceptor, r.service.group.tasks.length, address, true⟩ := by
  change (r.service.loops ++ [_])[loop]? = some l at found
  rcases Nat.lt_trichotomy loop r.service.loops.length with inside | rfl | beyond
  · rw [List.getElem?_append_left inside] at found
    exact Or.inl found
  · rw [List.getElem?_concat_length] at found
    exact Or.inr ⟨rfl, (Option.some.inj found).symm⟩
  · rw [List.getElem?_eq_none (by rw [List.length_append]; exact beyond)] at found
    cases found

theorem isRunning_withStray (tracked : r.Tracked) {task : Nat} (among : task ∈ r.tasks) :
    (r.withStray acceptor address).service.group.isRunning task =
      r.service.group.isRunning task :=
  (Group.spares_append tracked.inside).running task among

theorem loopRuns_withStray (tracked : r.Tracked) {loop : Nat} {l : Loop}
    (found : r.service.loops[loop]? = some l) :
    (r.withStray acceptor address).service.loopRuns loop = r.service.loopRuns loop := by
  rw [Service.loopRuns, Service.loopRuns, r.loop_withStray acceptor address found, found]
  exact r.isRunning_withStray acceptor address tracked (loop_task_mem found)

theorem Tracked.withStray (tracked : r.Tracked) : (r.withStray acceptor address).Tracked := by
  have more : (r.withStray acceptor address).tasks.Perm
      (r.service.group.tasks.length :: r.tasks) := by
    change ((r.service.loops ++ [_]).map Loop.task ++ r.connections.filterMap _).Perm _
    rw [List.map_append, List.append_assoc]
    exact List.perm_middle
  have longer : (r.withStray acceptor address).service.group.tasks.length =
      r.service.group.tasks.length + 1 := List.length_append
  refine ⟨?_, more.nodup_iff.mpr (List.nodup_cons.mpr ⟨?_, tracked.distinct⟩)⟩
  · intro task among
    rcases List.mem_cons.mp (more.mem_iff.mp among) with rfl | before
    · omega
    · have := tracked.inside task before
      omega
  · intro among
    exact absurd (tracked.inside _ among) (Nat.lt_irrefl _)

theorem Bound.withStray (bound : r.Bound) : (r.withStray acceptor address).Bound := by
  refine ⟨?_, ?_, ?_⟩
  · intro other loop found
    obtain ⟨l, at_, own, unstopped⟩ := bound.bound other loop found
    exact ⟨l, r.loop_withStray acceptor address at_, own, unstopped⟩
  · intro loop l found unstopped
    rcases r.loop_of_withStray acceptor address found with before | ⟨_, rfl⟩
    · exact bound.active loop l before unstopped
    · cases unstopped
  · intro loop
    change loop ∈ r.released ++ [r.service.loops.length] ↔ _
    rw [List.mem_append, List.mem_singleton, bound.released]
    constructor
    · rintro (⟨l, at_, stopped⟩ | rfl)
      · exact ⟨l, r.loop_withStray acceptor address at_, stopped⟩
      · exact ⟨_, List.getElem?_concat_length, rfl⟩
    · rintro ⟨l, found, stopped⟩
      rcases r.loop_of_withStray acceptor address found with before | ⟨same, _⟩
      · exact Or.inl ⟨l, before, stopped⟩
      · exact Or.inr same

theorem Watched.withStray (watched : r.Watched) (tracked : r.Tracked) (bound : r.Bound) :
    (r.withStray acceptor address).Watched := by
  refine ⟨?_, ?_⟩
  · intro loop l found
    rcases r.loop_of_withStray acceptor address found with before | ⟨_, rfl⟩
    · rw [r.isRunning_withStray acceptor address tracked (loop_task_mem before)]
      exact watched.steady loop l before
    · exact Or.inr rfl
  · intro loop among
    obtain ⟨released, ended⟩ := watched.returned loop among
    obtain ⟨l, found, _⟩ := (bound.released loop).mp released
    rw [r.loopRuns_withStray acceptor address tracked found]
    exact ⟨List.mem_append_left _ released, ended⟩

theorem Served.withStray (served : r.Served) (tracked : r.Tracked) :
    (r.withStray acceptor address).Served where
  origin connection c found := by
    obtain ⟨l, at_, own⟩ := served.origin connection c found
    exact ⟨l, r.loop_withStray acceptor address at_, own⟩
  held connection c found held := by
    obtain ⟨l, at_, _⟩ := served.origin connection c found
    rw [r.loopRuns_withStray acceptor address tracked at_]
    exact served.held connection c found held
  once := served.once
  own := served.own
  answered := served.answered
  live connection task c found handed := by
    rw [r.isRunning_withStray acceptor address tracked (connection_task_mem found handed)]
    exact served.live connection task c found handed

theorem Sound.withStray (sound : r.Sound) : (r.withStray acceptor address).Sound :=
  ⟨⟨sound.numbered.next, sound.numbered.first⟩,
    Tracked.withStray r acceptor address sound.tracked,
    Bound.withStray r acceptor address sound.bound,
    Watched.withStray r acceptor address sound.watched sound.tracked sound.bound,
    Served.withStray r acceptor address sound.served sound.tracked⟩

end WithStray

end Reception

namespace Entrance

variable {e later : Entrance} {event : Event}

theorem socket?_of_trying {c : BindCall} {number : Nat} (stage : c.stage = .trying number) :
    c.socket? = none := by
  rw [BindCall.socket?, stage]

theorem socket?_of_pausing {c : BindCall} {number : Nat} (stage : c.stage = .pausing number) :
    c.socket? = none := by
  rw [BindCall.socket?, stage]

theorem socket?_of_holding {c : BindCall} {address : Address} (stage : c.stage = .holding address) :
    c.socket? = some address := by
  rw [BindCall.socket?, stage]

theorem socket?_wake (c : BindCall) (number : Nat) : (c.wake number).socket? = none := by
  unfold BindCall.wake
  split <;> rfl

/-- An attempt that succeeds leaves the call with the socket, any other with none. -/
theorem socket?_attempt (c : BindCall) (number : Nat) (answer : SocketAnswer) :
    (∃ address, answer = .opened address ∧ (c.attempt number answer).socket? = some address) ∨
      (∀ address, answer ≠ .opened address) ∧ (c.attempt number answer).socket? = none := by
  cases answer with
  | opened address => exact Or.inl ⟨address, rfl, rfl⟩
  | nameless cause => exact Or.inr ⟨nofun, rfl⟩
  | failed cause =>
      refine Or.inr ⟨nofun, ?_⟩
      rcases c.attempt_failed number cause with ⟨_, _, paused⟩ | ⟨_, failed⟩
      · rw [paused]
        rfl
      · rw [failed]
        rfl

/-- A call begins, takes a turn, or all calls stay as they are. -/
theorem calls_step (e : Entrance) (event : Event) :
    (e.step event).calls = e.calls ∨
      (∃ acceptor address, event = .begins acceptor address ∧
        acceptor < e.service.acceptors.length ∧
        (e.step event).calls = e.calls ++ [.start e.service acceptor address]) ∨
      ∃ call turn c, event = .goesOn call turn ∧ e.calls[call]? = some c ∧
        e.admits turn = true ∧ (e.step event).calls = e.calls.set call (c.turn e.service turn).1 := by
  cases event with
  | aside event =>
      refine Or.inl ?_
      change (e.aside event).calls = _
      unfold Entrance.aside
      split <;> rfl
  | begins acceptor address =>
      change (e.begin acceptor address).calls = _ ∨ _ ∨ _
      unfold begin
      split
      · rename_i known
        exact Or.inr (Or.inl ⟨acceptor, address, rfl, known, by simp [step, begin, known]⟩)
      · exact Or.inl rfl
  | goesOn call turn =>
      cases found : e.calls[call]? with
      | none => exact Or.inl (by simp [step, goOn, found])
      | some c =>
          by_cases admitted : (c.result?.isNone && e.admits turn) = true
          · refine Or.inr (Or.inr ⟨call, turn, c, rfl, found, ?_, ?_⟩)
            · rw [Bool.and_eq_true] at admitted
              exact admitted.2
            · simp only [step, goOn, found, admitted, if_true]
          · exact Or.inl (by simp [step, goOn, found, admitted])

/-- A call takes the turns that are its own. -/
theorem call_step (e : Entrance) (event : Event) {call : Nat} {c : BindCall}
    (found : e.calls[call]? = some c) :
    (e.step event).calls[call]? = some c ∨
      ∃ turn, event = .goesOn call turn ∧
        (e.step event).calls[call]? = some (c.turn e.service turn).1 := by
  have within := (List.getElem?_eq_some_iff.mp found).1
  rcases e.calls_step event with
    same | ⟨acceptor, address, _, _, more⟩ | ⟨other, turn, d, rfl, there, _, taken⟩
  · rw [same]
    exact Or.inl found
  · rw [more, List.getElem?_append_left within]
    exact Or.inl found
  · by_cases own : other = call
    · subst own
      cases found.symm.trans there
      rw [taken, List.getElem?_set_self within]
      exact Or.inr ⟨turn, rfl, rfl⟩
    · rw [taken, List.getElem?_set_ne own]
      exact Or.inl found

/-! ## What holds at every entrance -/

/-- All of it. -/
structure Sound (e : Entrance) : Prop where
  reception : e.reception.Sound
  calls : ∀ c ∈ e.calls, c.Sound
  known : ∀ c ∈ e.calls, c.acceptor < e.service.acceptors.length
  sockets : e.sockets.Nodup
  clean : ∀ place ∈ e.service.places, ∀ outcome,
    e.service.group.outcome? place.1 = some outcome → outcome = .completed

theorem sound_new : new.Sound := by
  have silent : new.sockets = [] := rfl
  refine ⟨Reception.sound_new [], ?_, ?_, ?_, ?_⟩
  · exact List.forall_mem_nil _
  · exact List.forall_mem_nil _
  · rw [silent]
    exact List.nodup_nil
  · exact List.forall_mem_nil _

namespace Sound

theorem step_reception (sound : e.Sound) (event : Event) : (e.step event).reception.Sound := by
  have move := e.move_step event
  generalize e.step event = later at move ⊢
  cases move with
  | idle => exact sound.reception
  | aside spared => exact sound.reception.step _
  | begins known => exact sound.reception
  | tries found stage free => exact sound.reception
  | wakes found stage => exact sound.reception
  | refused found stage drains => exact sound.reception
  | @binds call address c found stage isOpen unbound =>
      have known := sound.known c (List.mem_of_getElem? found)
      have listened := sound.reception.step (.aside (.listens c.acceptor address))
      rw [Reception.step_listens known isOpen unbound address] at listened
      exact listened
  | @loses call address existing c found stage isOpen bound =>
      exact Reception.Sound.withStray e.reception c.acceptor address sound.reception

theorem step_calls (sound : e.Sound) (event : Event) : ∀ c ∈ (e.step event).calls, c.Sound := by
  intro c among
  rcases e.calls_step event with
    same | ⟨acceptor, address, _, _, more⟩ | ⟨call, turn, d, rfl, found, _, taken⟩
  · rw [same] at among
    exact sound.calls c among
  · rw [more] at among
    rcases List.mem_append.mp among with before | last
    · exact sound.calls c before
    · cases List.mem_singleton.mp last
      exact BindCall.sound_start _ _ _
  · rw [taken] at among
    rcases List.mem_or_eq_of_mem_set among with before | rfl
    · exact sound.calls c before
    · exact (sound.calls d (List.mem_of_getElem? found)).turn e.service turn

/-- No acceptor is lost. -/
theorem acceptors_step (sound : e.Sound) (event : Event) :
    e.service.acceptors.length ≤ (e.step event).service.acceptors.length := by
  have move := e.move_step event
  generalize e.step event = later at move ⊢
  cases move with
  | @aside event spared =>
      have turn := e.reception.turn_step event
      rcases Reception.bindings_turn turn spared sound.reception.tracked.inside with
        ⟨_, same | more⟩ | ⟨acceptor, loop, _, _, acceptors, _⟩
      · exact Nat.le_of_eq (congrArg List.length same.symm)
      · change _ ≤ (e.reception.step event).service.acceptors.length
        rw [more, List.length_append]
        exact Nat.le_succ _
      · change _ ≤ (e.reception.step event).service.acceptors.length
        rw [acceptors]
        exact Nat.le_of_eq List.length_set.symm
  | binds =>
      exact Nat.le_of_eq List.length_set.symm
  | _ => exact Nat.le_refl _

theorem step_known (sound : e.Sound) (event : Event) :
    ∀ c ∈ (e.step event).calls, c.acceptor < (e.step event).service.acceptors.length := by
  intro c among
  refine Nat.lt_of_lt_of_le ?_ (sound.acceptors_step event)
  rcases e.calls_step event with
    same | ⟨acceptor, address, _, known, more⟩ | ⟨call, turn, d, rfl, found, _, taken⟩
  · rw [same] at among
    exact sound.known c among
  · rw [more] at among
    rcases List.mem_append.mp among with before | last
    · exact sound.known c before
    · cases List.mem_singleton.mp last
      exact known
  · rw [taken] at among
    rcases List.mem_or_eq_of_mem_set among with before | rfl
    · exact sound.known c before
    · rw [(d.asks_turn e.service turn).1]
      exact sound.known d (List.mem_of_getElem? found)

/-- A new loop for the socket of a call. -/
theorem sockets_handed (sound : e.Sound) {call : Nat} {c next : BindCall} {address : Address}
    (found : e.calls[call]? = some c) (stage : c.stage = .holding address)
    (free : next.socket? = none) {r : Reception} {stopped : Bool}
    (tasks : r.service.group.tasks = e.service.group.tasks ++ [none])
    (loops : r.service.loops =
      e.service.loops ++ [⟨c.acceptor, e.service.group.tasks.length, address, stopped⟩]) :
    (⟨r, e.calls.set call next⟩ : Entrance).sockets.Perm e.sockets :=
  Entrance.sockets_handed found (socket?_of_holding stage) free
    (Service.sockets_append (Reception.place_inside sound.reception.tracked) rfl tasks loops)

/-- A socket more is one that the system has just opened, where nobody listened. -/
theorem sockets_step (sound : e.Sound) (event : Event) :
    (e.step event).sockets.Subperm e.sockets ∨
      ∃ call address, event = .goesOn call (.tries (.opened address)) ∧ address ∉ e.sockets ∧
        (e.step event).sockets.Perm (address :: e.sockets) := by
  have move := e.move_step event
  generalize e.step event = later at move ⊢
  cases move with
  | idle => exact Or.inl (.refl _)
  | @aside event spared =>
      have fewer := Reception.sockets_turn (e.reception.turn_step event) spared
        sound.reception.tracked
      exact Or.inl (fewer.append_left _).subperm
  | begins =>
      refine Or.inl ?_
      rw [sockets_begins]
  | @tries call number answer c found stage free =>
      have more := sockets_set_of_none found (socket?_of_trying stage) (c.attempt number answer)
      rcases socket?_attempt c number answer with ⟨address, rfl, holds⟩ | ⟨_, holds⟩
      · rw [holds] at more
        exact Or.inr ⟨call, address, rfl, free address rfl, more⟩
      · rw [holds] at more
        exact Or.inl more.subperm
  | @wakes call number c found stage =>
      have same := sockets_set_of_none found (socket?_of_pausing stage) (c.wake number)
      rw [socket?_wake] at same
      exact Or.inl same.subperm
  | @refused call address c found stage drains =>
      have closed : e.sockets.Perm (address :: (⟨e.reception, e.calls.set call
          { c with stage := .failed .groupShutdown }⟩ : Entrance).sockets) :=
        sockets_set_of_some found (socket?_of_holding stage) rfl
      exact Or.inl ((List.sublist_cons_self _ _).subperm.trans closed.symm.subperm)
  | binds found stage =>
      exact Or.inl (sound.sockets_handed found stage rfl rfl rfl).subperm
  | loses found stage =>
      exact Or.inl (sound.sockets_handed found stage rfl rfl rfl).subperm

theorem step_sockets (sound : e.Sound) (event : Event) : (e.step event).sockets.Nodup := by
  rcases sound.sockets_step event with fewer | ⟨call, address, _, fresh, more⟩
  · obtain ⟨list, same, sublist⟩ := fewer
    exact same.nodup_iff.mp (sublist.nodup sound.sockets)
  · exact more.nodup_iff.mpr (List.nodup_cons.mpr ⟨fresh, sound.sockets⟩)

/-- A new loop has not ended. -/
theorem clean_append (sound : e.Sound) {s : Service} {loop : Loop}
    (task : loop.task = e.service.group.tasks.length)
    (tasks : s.group.tasks = e.service.group.tasks ++ [none])
    (loops : s.loops = e.service.loops ++ [loop]) :
    ∀ place ∈ s.places, ∀ outcome,
      s.group.outcome? place.1 = some outcome → outcome = .completed := by
  intro place among outcome ended
  rw [Service.places, loops, List.map_append] at among
  rw [Group.outcome?, tasks] at ended
  rcases List.mem_append.mp among with before | last
  · have inside : place.1 < e.service.group.tasks.length :=
      Reception.place_inside sound.reception.tracked place before
    rw [List.getElem?_append_left inside] at ended
    exact sound.clean place before outcome ended
  · cases List.mem_singleton.mp last
    dsimp only at ended
    rw [task, List.getElem?_concat_length] at ended
    cases ended

theorem step_clean (sound : e.Sound) (event : Event) :
    ∀ place ∈ (e.step event).service.places, ∀ outcome,
      (e.step event).service.group.outcome? place.1 = some outcome → outcome = .completed := by
  have move := e.move_step event
  generalize e.step event = later at move ⊢
  cases move with
  | @aside event spared =>
      have turn := e.reception.turn_step event
      rintro ⟨task, address⟩ among outcome ended
      change (task, address) ∈ (e.reception.step event).service.places at among
      rw [Reception.places_turn turn spared sound.reception.tracked.inside] at among
      obtain ⟨loop, l, found, rfl, _⟩ := Service.mem_places.mp among
      change (e.reception.step event).service.group.outcome? l.task = some outcome at ended
      rw [Group.outcome?] at ended
      rcases Reception.loop_task_turn turn spared sound.reception.tracked found with
        same | ⟨_, stopped⟩
      · rw [same] at ended
        exact sound.clean _ among outcome ended
      · rw [stopped] at ended
        exact (Option.some.inj ended).symm
  | binds => exact sound.clean_append rfl rfl rfl
  | loses => exact sound.clean_append rfl rfl rfl
  | _ => exact sound.clean

theorem step (sound : e.Sound) (event : Event) : (e.step event).Sound :=
  ⟨sound.step_reception event, sound.step_calls event, sound.step_known event,
    sound.step_sockets event, sound.step_clean event⟩

theorem after (sound : e.Sound) (events : List Event) : (e.after events).Sound := by
  induction events generalizing e with
  | nil => exact sound
  | cons event rest ih => exact ih (sound.step event)

theorem acceptors_after (sound : e.Sound) (events : List Event) :
    e.service.acceptors.length ≤ (e.after events).service.acceptors.length := by
  induction events generalizing e with
  | nil => exact Nat.le_refl _
  | cons event rest ih => exact Nat.le_trans (sound.acceptors_step event) (ih (sound.step event))

end Sound

theorem sound_after (events : List Event) : (new.after events).Sound := sound_new.after events

end Entrance

end NetconfGate.Channel

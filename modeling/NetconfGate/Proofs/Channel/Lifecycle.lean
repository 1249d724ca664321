import NetconfGate.Channel.Operation
import NetconfGate.Proofs.Channel.Service

/-!
# The lifecycle of a service's group

Four signals tell how far a service is on its way down: its group drains, is
sealed, is cancelled, and the service is closed. Draining can be called for from
outside, so the signals do not say the same; each later one implies an earlier
one, and all of them stay up. From this order it follows that a group that is
terminated stays so.
-/

namespace NetconfGate.Channel

/-- What is cancelled is sealed, and what is sealed drains. -/
structure Group.Ordered (g : Group) : Prop where
  sealed_of_cancelled : g.cancelled = true → g.sealed = true
  draining_of_sealed : g.sealed = true → g.draining = true

/-- A closed service drains besides. -/
structure Service.Ordered (s : Service) : Prop where
  group : s.group.Ordered
  draining_of_closed : s.closed = true → s.group.draining = true

/-- No signal that is up in the first service is down in the second. -/
structure Service.Rises (s later : Service) : Prop where
  draining : s.group.draining = true → later.group.draining = true
  isSealed : s.group.sealed = true → later.group.sealed = true
  cancelled : s.group.cancelled = true → later.group.cancelled = true
  closed : s.closed = true → later.closed = true

namespace Service

theorem Rises.refl (s : Service) : s.Rises s := ⟨id, id, id, id⟩

theorem Rises.trans {first middle last : Service} (one : first.Rises middle)
    (two : middle.Rises last) : first.Rises last :=
  ⟨two.draining ∘ one.draining, two.isSealed ∘ one.isSealed, two.cancelled ∘ one.cancelled,
    two.closed ∘ one.closed⟩

theorem ordered_new : new.Ordered := by
  refine ⟨⟨?_, ?_⟩, ?_⟩ <;> intro up <;> cases up

/-- A task is admitted exactly as long as the group does not drain. -/
theorem perform_spawn (s : Service) :
    (s.group.draining = true ∧ s.perform .spawn = (s, [.refused])) ∨
      (s.group.draining = false ∧
        s.perform .spawn =
          ({ s with group := { s.group with tasks := s.group.tasks ++ [none] } },
            [.admitted s.group.tasks.length])) := by
  rcases s.spawn_eq with ⟨drains, refused⟩ | ⟨isOpen, taken⟩
  · exact Or.inl ⟨drains, by simp [perform, refused]⟩
  · exact Or.inr ⟨isOpen, by simp [perform, taken]⟩

theorem perform_ends (s : Service) (task : Nat) (outcome : Outcome) :
    (s.perform (.ends task outcome)).1 = s.finish task outcome := by
  by_cases runs : s.group.isRunning task = true
  · simp [perform, runs]
  · have still : s.group.finish task outcome = s.group :=
      Group.outcome?_finish_of_ended outcome (Bool.eq_false_iff.mpr runs)
    simp [perform, runs, finish, still]

theorem perform_rises (s : Service) (operation : Operation) :
    s.Rises (s.perform operation).1 := by
  cases operation with
  | spawn =>
      rcases s.perform_spawn with ⟨_, refused⟩ | ⟨_, admitted⟩
      · rw [refused]
        exact Rises.refl s
      · rw [admitted]
        exact ⟨id, id, id, id⟩
  | ends task outcome =>
      rw [perform_ends]
      constructor <;> simp [finish]
  | drain => exact ⟨fun _ => rfl, fun _ => rfl, id, id⟩
  | cancel => exact ⟨fun _ => rfl, fun _ => rfl, fun _ => rfl, id⟩
  | beginClose mode =>
      change s.Rises (s.beginClose mode)
      unfold beginClose
      split
      · exact Rises.refl s
      · cases mode with
        | graceful => exact ⟨fun _ => rfl, fun _ => rfl, id, fun _ => rfl⟩
        | immediate => exact ⟨fun _ => rfl, fun _ => rfl, fun _ => rfl, fun _ => rfl⟩
  | takeToken => exact ⟨id, id, id, id⟩
  | cancelToken token => exact ⟨id, id, id, id⟩
  | cancelDrain => exact ⟨fun _ => rfl, id, id, id⟩

theorem perform_ordered {s : Service} (ordered : s.Ordered) (operation : Operation) :
    (s.perform operation).1.Ordered := by
  obtain ⟨⟨sealed_, drains⟩, closed⟩ := ordered
  cases operation with
  | spawn =>
      rcases s.perform_spawn with ⟨_, refused⟩ | ⟨_, admitted⟩
      · rw [refused]
        exact ⟨⟨sealed_, drains⟩, closed⟩
      · rw [admitted]
        exact ⟨⟨sealed_, drains⟩, closed⟩
  | ends task outcome =>
      rw [perform_ends]
      refine ⟨⟨?_, ?_⟩, ?_⟩
      · simpa [finish] using sealed_
      · simpa [finish] using drains
      · simpa [finish] using closed
  | drain => exact ⟨⟨fun _ => rfl, fun _ => rfl⟩, fun _ => rfl⟩
  | cancel => exact ⟨⟨fun _ => rfl, fun _ => rfl⟩, fun _ => rfl⟩
  | beginClose mode =>
      change (s.beginClose mode).Ordered
      unfold beginClose
      split
      · exact ⟨⟨sealed_, drains⟩, closed⟩
      · cases mode with
        | graceful => exact ⟨⟨fun _ => rfl, fun _ => rfl⟩, fun _ => rfl⟩
        | immediate => exact ⟨⟨fun _ => rfl, fun _ => rfl⟩, fun _ => rfl⟩
  | takeToken => exact ⟨⟨sealed_, drains⟩, closed⟩
  | cancelToken token => exact ⟨⟨sealed_, drains⟩, closed⟩
  | cancelDrain => exact ⟨⟨sealed_, fun _ => rfl⟩, fun _ => rfl⟩

/-- Only an admission can set a task running. -/
theorem isRunning_of_perform {s : Service} {operation : Operation} {task : Nat}
    (closed : s.group.draining = true)
    (runs : (s.perform operation).1.group.isRunning task = true) :
    s.group.isRunning task = true := by
  cases operation with
  | spawn =>
      rcases s.perform_spawn with ⟨_, refused⟩ | ⟨isOpen, _⟩
      · rw [refused] at runs
        exact runs
      · rw [closed] at isOpen
        cases isOpen
  | ends other outcome =>
      rw [perform_ends] at runs
      change (s.group.finish other outcome).isRunning task = true at runs
      rw [Group.isRunning_finish, Bool.and_eq_true] at runs
      exact runs.1
  | beginClose mode =>
      change (s.beginClose mode).group.isRunning task = true at runs
      unfold beginClose at runs
      split at runs
      · exact runs
      · cases mode <;> exact runs
  | drain => exact runs
  | cancel => exact runs
  | takeToken => exact runs
  | cancelToken token => exact runs
  | cancelDrain => exact runs

/-- A terminated group is sealed, so it drains and admits nothing any more. -/
theorem perform_isTerminated {s : Service} (ordered : s.Ordered)
    (terminated : s.group.isTerminated = true) (operation : Operation) :
    (s.perform operation).1.group.isTerminated = true := by
  obtain ⟨up, none_runs⟩ := (Group.isTerminated_iff _).mp terminated
  refine (Group.isTerminated_iff _).mpr ⟨(s.perform_rises operation).isSealed up, ?_⟩
  intro task
  by_contra runs
  have before := isRunning_of_perform (ordered.group.draining_of_sealed up)
    (Bool.not_eq_false _ ▸ runs)
  rw [none_runs task] at before
  cases before

theorem performAll_rises (s : Service) (operations : List Operation) :
    s.Rises (s.performAll operations).1 := by
  induction operations generalizing s with
  | nil => exact Rises.refl s
  | cons operation rest ih => exact (s.perform_rises operation).trans (ih _)

theorem performAll_ordered {s : Service} (ordered : s.Ordered) (operations : List Operation) :
    (s.performAll operations).1.Ordered := by
  induction operations generalizing s with
  | nil => exact ordered
  | cons operation rest ih => exact ih (perform_ordered ordered operation)

theorem performAll_isTerminated {s : Service} (ordered : s.Ordered)
    (terminated : s.group.isTerminated = true) (operations : List Operation) :
    (s.performAll operations).1.group.isTerminated = true := by
  induction operations generalizing s with
  | nil => exact terminated
  | cons operation rest ih =>
      exact ih (perform_ordered ordered operation)
        (perform_isTerminated ordered terminated operation)

/-- A group that was seen terminated at any time of a wait is so at its end. -/
theorem isTerminated_of_awaits {s : Service} (ordered : s.Ordered) {operations : List Operation}
    (seen : s.awaits operations = true) :
    (s.performAll operations).1.group.isTerminated = true := by
  induction operations generalizing s with
  | nil => exact seen
  | cons operation rest ih =>
      rcases (Bool.or_eq_true _ _).mp seen with now | later
      · exact performAll_isTerminated ordered now (operation :: rest)
      · exact ih (perform_ordered ordered operation) later

/-! ## The account of the tasks -/

/-- The told changes account for the tasks: those that were admitted are all
tasks in their order, and those that ended are the ones that do not run. -/
structure Accounts (s : Service) (changes : List Change) : Prop where
  admitted : changes.filterMap Change.admission? = List.range s.group.tasks.length
  ended : ∀ task, task ∈ changes.filterMap Change.end? ↔
    task < s.group.tasks.length ∧ s.group.isRunning task = false

theorem accounts_new : new.Accounts [] := by
  refine ⟨rfl, ?_⟩
  intro task
  constructor
  · intro impossible
    cases impossible
  · rintro ⟨impossible, _⟩
    exact absurd impossible (Nat.not_lt_zero task)

/-- Only the tasks matter to their account. -/
theorem Accounts.of_tasks {s next : Service} {changes : List Change} (account : s.Accounts changes)
    (same : next.group.tasks = s.group.tasks) : next.Accounts changes := by
  have running (task : Nat) : next.group.isRunning task = s.group.isRunning task := by
    unfold Group.isRunning
    rw [same]
  refine ⟨same ▸ account.admitted, ?_⟩
  intro task
  rw [same, running]
  exact account.ended task

theorem Accounts.spawn {s : Service} {changes : List Change} (account : s.Accounts changes) :
    (s.perform .spawn).1.Accounts (changes ++ (s.perform .spawn).2) := by
  rcases s.perform_spawn with ⟨_, refused⟩ | ⟨isOpen, admitted⟩
  · rw [refused]
    refine ⟨?_, ?_⟩
    · rw [List.filterMap_append, account.admitted]
      exact List.append_nil _
    · intro task
      rw [List.filterMap_append]
      exact (List.append_nil _).symm ▸ account.ended task
  · rw [admitted]
    have next := Group.isRunning_enrol
      (by simp [Group.enrol, isOpen] : s.group.enrol =
        .ok (s.group.tasks.length, { s.group with tasks := s.group.tasks ++ [none] }))
    refine ⟨?_, ?_⟩
    · rw [List.filterMap_append, account.admitted]
      simp [Change.admission?, List.range_succ]
    · intro task
      rw [List.filterMap_append]
      change task ∈ changes.filterMap Change.end? ++ [] ↔ _
      rw [List.append_nil, account.ended, List.length_append, List.length_singleton,
        ← Bool.not_eq_true, ← Bool.not_eq_true, next]
      constructor
      · rintro ⟨inside, still⟩
        refine ⟨by omega, ?_⟩
        rintro (same | runs)
        · omega
        · exact still runs
      · rintro ⟨inside, still⟩
        refine ⟨?_, fun runs => still (Or.inr runs)⟩
        have other : task ≠ s.group.tasks.length := fun same => still (Or.inl same)
        omega

theorem Accounts.ends {s : Service} {changes : List Change} (account : s.Accounts changes)
    (task : Nat) (outcome : Outcome) :
    (s.perform (.ends task outcome)).1.Accounts
      (changes ++ (s.perform (.ends task outcome)).2) := by
  by_cases runs : s.group.isRunning task = true
  · have told : s.perform (.ends task outcome) =
        (s.finish task outcome, [.ended task outcome]) := by
      simp [perform, runs]
    rw [told]
    refine ⟨?_, ?_⟩
    · rw [List.filterMap_append, account.admitted]
      change List.range s.group.tasks.length ++ [] =
        List.range (s.group.finish task outcome).tasks.length
      rw [Group.length_tasks_finish, List.append_nil]
    · intro other
      rw [List.filterMap_append, List.mem_append, account.ended]
      change _ ∨ other ∈ [task] ↔ other < (s.group.finish task outcome).tasks.length ∧
        (s.group.finish task outcome).isRunning other = false
      rw [Group.length_tasks_finish, Group.isRunning_finish, List.mem_singleton]
      have inside := Group.lt_length_of_isRunning runs
      by_cases same : other = task
      · subst same
        simp [inside]
      · simp [same]
  · have told : s.perform (.ends task outcome) = (s, []) := by
      simp [perform, runs]
    rw [told, List.append_nil]
    exact account

theorem perform_accounts {s : Service} {changes : List Change} (account : s.Accounts changes)
    (operation : Operation) :
    (s.perform operation).1.Accounts (changes ++ (s.perform operation).2) := by
  cases operation with
  | spawn => exact account.spawn
  | ends task outcome => exact account.ends task outcome
  | beginClose mode =>
      change (s.beginClose mode).Accounts (changes ++ [])
      rw [List.append_nil]
      apply account.of_tasks
      unfold beginClose
      split
      · rfl
      · cases mode <;> rfl
  | drain => exact (List.append_nil changes).symm ▸ account.of_tasks rfl
  | cancel => exact (List.append_nil changes).symm ▸ account.of_tasks rfl
  | takeToken => exact (List.append_nil changes).symm ▸ account.of_tasks rfl
  | cancelToken token => exact (List.append_nil changes).symm ▸ account.of_tasks rfl
  | cancelDrain => exact (List.append_nil changes).symm ▸ account.of_tasks rfl

theorem performAll_accounts {s : Service} {changes : List Change} (account : s.Accounts changes)
    (operations : List Operation) :
    (s.performAll operations).1.Accounts (changes ++ (s.performAll operations).2) := by
  induction operations generalizing s changes with
  | nil => exact (List.append_nil changes).symm ▸ account
  | cons operation rest ih =>
      have rested := ih (perform_accounts account operation)
      rw [List.append_assoc] at rested
      exact rested

/-- The tasks that were admitted and have not ended are the running ones. -/
theorem Accounts.unended_eq {s : Service} {changes : List Change} (account : s.Accounts changes) :
    Change.unended changes = s.group.running := by
  unfold Change.unended Group.running
  rw [account.admitted]
  apply List.filter_congr
  intro task member
  have inside := List.mem_range.mp member
  cases runs : s.group.isRunning task with
  | true =>
      have absent : task ∉ changes.filterMap Change.end? := by
        intro told
        have ended := ((account.ended task).mp told).2
        rw [runs] at ended
        cases ended
      simpa using absent
  | false =>
      have present := (account.ended task).mpr ⟨inside, runs⟩
      simpa using present

theorem performAll_ends (s : Service) (tasks : List Nat) (outcome : Outcome) :
    (s.performAll (tasks.map fun task => .ends task outcome)).1 =
      { s with group := s.group.finishAll tasks outcome } := by
  induction tasks generalizing s with
  | nil => rfl
  | cons task rest ih =>
      change ((s.perform (.ends task outcome)).1.performAll _).1 = _
      rw [perform_ends, ih]
      rfl

/-- A close that waits is made of operations: it begins, tasks end while it
waits, and if it has to force the rest it cancels the group. -/
theorem close_eq_performAll (s : Service) (mode : CloseMode) (ends : Nat → Option Duration) :
    ∃ operations, (s.performAll (.beginClose mode :: operations)).1 =
      (s.close mode ends).service := by
  by_cases closed : s.closed = true
  · refine ⟨[], ?_⟩
    rw [close_of_closed closed]
    simp [performAll, perform, beginClose, closed]
  · cases mode with
    | immediate =>
        refine ⟨s.group.cancelAll.running.map fun task => .ends task .cancelled, ?_⟩
        change ((s.beginClose .immediate).performAll _).1 = _
        have stopped := Group.stopAll_eq_finishAll (rfl : s.group.cancelAll.cancelled = true)
        rw [performAll_ends]
        simp [beginClose, close, closed, force, stopped]
    | graceful =>
        let prompt := s.group.running.filter (endsInTime ends)
        let drained := s.group.drain.finishAll prompt .completed
        by_cases all : s.group.running.all (endsInTime ends) = true
        · refine ⟨prompt.map fun task => .ends task .completed, ?_⟩
          change ((s.beginClose .graceful).performAll _).1 = _
          rw [performAll_ends]
          simp only [close, closed, all, if_true]
          simp [beginClose, closed, prompt]
        · refine ⟨prompt.map (fun task => .ends task .completed) ++
            .cancel :: drained.cancelAll.running.map fun task => .ends task .cancelled, ?_⟩
          change ((s.beginClose .graceful).performAll _).1 = _
          have stopped := Group.stopAll_eq_finishAll (rfl : drained.cancelAll.cancelled = true)
          rw [performAll_append, performAll_ends]
          change (Service.performAll _ (drained.cancelAll.running.map _)).1 = _
          rw [performAll_ends]
          simp only [close, closed, all]
          simp [beginClose, closed, force, stopped, drained, prompt]

theorem tokenCancelled_cancelToken (g : Group) {token other : Nat} (different : other ≠ token) :
    (g.cancelToken token).tokenCancelled other = g.tokenCancelled other := by
  simp [Group.cancelToken, Group.tokenCancelled, List.getElem?_set_ne (Ne.symm different)]

theorem tokenCancelled_cancelToken_self (g : Group) {token : Nat} (held : token < g.tokens.length) :
    (g.cancelToken token).tokenCancelled token = true := by
  simp [Group.cancelToken, Group.tokenCancelled, List.getElem?_set_self held]

/--
A new service through any operations.  Its signals are in order and stay up,
its active tasks are those that were admitted and have not ended, and work is
taken exactly as long as the group does not drain.  A group that is terminated,
or was seen so by a wait, is terminated from then on.  A whole close is a run of
such operations, and the cancelling of one token of the group is nothing to
anybody else.
-/
theorem lifecycle_performAll (operations : List Operation) :
    let s := (new.performAll operations).1
    let told := (new.performAll operations).2
    ((s.group.cancelled = true → s.group.sealed = true) ∧
      (s.group.sealed = true → s.group.draining = true) ∧
      (s.closed = true → s.group.draining = true)) ∧
    (s.group.active = (Change.unended told).length ∧ (Change.unended told).Nodup) ∧
    ((∃ admitted, s.spawn = .ok admitted) ↔ s.group.draining = false) ∧
    (s.group.draining = true → s.perform .spawn = (s, [.refused])) ∧
    (∀ more,
      s.Rises (s.performAll more).1 ∧
      (s.group.isTerminated = true → (s.performAll more).1.group.isTerminated = true) ∧
      (s.awaits more = true →
        ∀ further, (s.performAll (more ++ further)).1.group.isTerminated = true)) ∧
    (∀ mode ends, ∃ close, (s.performAll (.beginClose mode :: close)).1 =
      (s.close mode ends).service) ∧
    (∀ token,
      let next := (s.perform (.cancelToken token)).1
      next.closed = s.closed ∧ next.group.draining = s.group.draining ∧
        next.group.sealed = s.group.sealed ∧ next.group.cancelled = s.group.cancelled ∧
        next.group.tasks = s.group.tasks ∧
        (token < s.group.tokens.length → next.group.tokenCancelled token = true) ∧
        ∀ other, other ≠ token →
          next.group.tokenCancelled other = s.group.tokenCancelled other) := by
  intro s told
  have ordered : s.Ordered := performAll_ordered ordered_new operations
  have account : s.Accounts told := performAll_accounts accounts_new operations
  refine ⟨?signals, ?active, ?spawn, ?refused, ?later, ?close, ?token⟩
  case signals =>
    exact ⟨ordered.group.sealed_of_cancelled, ordered.group.draining_of_sealed,
      ordered.draining_of_closed⟩
  case active =>
    rw [account.unended_eq]
    exact ⟨s.group.active_eq_length_running, List.nodup_range.filter _⟩
  case spawn =>
    constructor
    · rintro ⟨admitted, taken⟩
      rcases s.spawn_eq with ⟨_, refused⟩ | ⟨isOpen, _⟩
      · rw [refused] at taken
        cases taken
      · exact isOpen
    · intro isOpen
      rcases s.spawn_eq with ⟨drains, _⟩ | ⟨_, taken⟩
      · rw [isOpen] at drains
        cases drains
      · exact ⟨_, taken⟩
  case refused =>
    intro drains
    rcases s.perform_spawn with ⟨_, refused⟩ | ⟨isOpen, _⟩
    · exact refused
    · rw [drains] at isOpen
      cases isOpen
  case later =>
    intro more
    refine ⟨s.performAll_rises more, fun now => performAll_isTerminated ordered now more, ?_⟩
    intro seen further
    rw [performAll_append]
    exact performAll_isTerminated (performAll_ordered ordered more)
      (isTerminated_of_awaits ordered seen) further
  case close => exact fun mode ends => s.close_eq_performAll mode ends
  case token =>
    intro token
    exact ⟨rfl, rfl, rfl, rfl, rfl, tokenCancelled_cancelToken_self s.group,
      fun other different => tokenCancelled_cancelToken s.group different⟩

end Service

end NetconfGate.Channel

import NetconfGate.Channel.Course
import NetconfGate.Proofs.Channel.Shutdown

/-!
# Sessions and dials of a closed service

Sessions and dials in flight are no tasks: a close reaches them through the
tokens they hold, and only if it cancels the group. An immediate close does, and
so does a graceful one that has waited in vain. A graceful close that drains
returns without it, and then no session is told and a dial in flight still ends
as its peer answers.
-/

namespace NetconfGate.Channel

theorem dialEnd_ne_shutDown (timeout : Duration) (answer : Option Duration) :
    dialEnd timeout answer none ≠ .shutDown := by
  unfold dialEnd
  cases answer with
  | none => simp
  | some time =>
      dsimp only [Option.any_none]
      split
      · contradiction
      · split <;> simp

/-- A dial of which nothing is heard but the peer's answer ends as the dial that
is told as a whole. -/
theorem Service.dial_eq_pursue {s : Service} (isOpen : s.group.draining = false)
    (calm : s.group.cancelled = false) (address : Address) (timeout : Duration)
    (answer : PeerAnswer) (newsFirst : Bool) :
    let begun := s.attempt address timeout
    (begun.2.pursue begun.1 (some (answer.news timeout)) newsFirst).1.result? =
      some (s.dial address timeout answer none).result := by
  intro begun
  have waits : begun =
      (⟨address, timeout, .waiting s.group.tokens.length⟩, { s with group := s.group.token.2 }) := by
    simp [begun, attempt, isOpen, Group.token]
  have quiet : s.group.token.2.tokenCancelled s.group.tokens.length = false := by
    simp [Group.token, Group.tokenCancelled, calm]
  rw [waits]
  simp only [pursue, quiet, Bool.false_and, PeerAnswer.news]
  cases ended : dialEnd timeout answer.time? none with
  | shutDown => exact absurd ended (dialEnd_ne_shutDown timeout answer.time?)
  | answered =>
      cases answer <;>
        simp [dial, isOpen, ended, heed, connected, depart, drawId, Group.token]
  | timedOut => cases answer <;> simp [dial, isOpen, ended, heed]

namespace Service

/-- No signal is raised but the one to drain, and tokens are lent at most. -/
structure Lends (s later : Service) : Prop where
  draining : s.group.draining = true → later.group.draining = true
  cancelled : later.group.cancelled = s.group.cancelled
  tokens : ∃ lent, later.group.tokens = s.group.tokens ++ List.replicate lent false

/-- A token that was lent since is not cancelled. -/
theorem Lends.found {s later : Service} (lends : s.Lends later) {token : Nat}
    (cancelled : later.group.tokens[token]? = some true) :
    s.group.tokens[token]? = some true := by
  obtain ⟨lent, tokens⟩ := lends.tokens
  rw [tokens, List.getElem?_append] at cancelled
  split at cancelled
  · exact cancelled
  · rw [List.getElem?_replicate] at cancelled
    split at cancelled <;> cases cancelled

theorem Lends.of_tokens {s later : Service}
    (draining : s.group.draining = true → later.group.draining = true)
    (cancelled : later.group.cancelled = s.group.cancelled)
    (tokens : later.group.tokens = s.group.tokens) : s.Lends later :=
  ⟨draining, cancelled, 0, tokens.trans (List.append_nil _).symm⟩

theorem Lends.of_group {s later : Service} (group : later.group = s.group) : s.Lends later :=
  .of_tokens (fun up => group ▸ up) (group ▸ rfl) (group ▸ rfl)

theorem lends_finish (s : Service) (task : Nat) (outcome : Outcome) :
    s.Lends (s.finish task outcome) :=
  .of_tokens (Group.finish_draining s.group task outcome).trans
    (Group.finish_cancelled _ _ _) (Group.finish_tokens _ _ _)

theorem lends_listen (s : Service) (acceptor : Nat) (address : Address) :
    s.Lends (s.listen acceptor address).2 := by
  unfold listen
  split
  · exact .of_group rfl
  · rcases s.spawn_eq with ⟨_, refused⟩ | ⟨_, admitted⟩
    · rw [refused]
      exact .of_group rfl
    · rw [admitted]
      exact .of_tokens id rfl rfl

theorem lends_unbind (s : Service) (acceptor : Nat) : s.Lends (s.unbind acceptor).service := by
  unfold unbind
  split
  · exact .of_group rfl
  · dsimp only
    split
    · exact .of_group rfl
    · rename_i loop _
      have ended := s.lends_finish loop.task .completed
      split
      · exact ⟨ended.draining, ended.cancelled, ended.tokens⟩
      · exact ⟨ended.draining, ended.cancelled, ended.tokens⟩

theorem lends_accept (s : Service) (loop : Loop) : s.Lends (s.accept loop).2 := by
  obtain ⟨tasks, task, _, service, _⟩ := s.accept_eq loop
  rw [service]
  exact ⟨id, rfl, 1, rfl⟩

theorem lends_attempt (s : Service) (address : Address) (timeout : Duration) :
    s.Lends (s.attempt address timeout).2 := by
  unfold attempt
  split
  · exact .of_group rfl
  · exact ⟨id, rfl, 1, rfl⟩

theorem lends_pursue (s : Service) (a : Attempt) (news : Option News) (newsFirst : Bool) :
    s.Lends (s.pursue a news newsFirst).2 := by
  cases stage : a.stage with
  | ended result =>
      simp only [pursue, stage]
      exact .of_group rfl
  | waiting token =>
      cases news with
      | none =>
          simp only [pursue, stage]
          split <;> exact .of_group rfl
      | some news =>
          simp only [pursue, stage]
          split
          · exact .of_group rfl
          · cases news <;> exact .of_group rfl

end Service

namespace Course

/-- Whether the group is cancelled by an event: by somebody's call, by an
immediate close, or by a graceful one that has waited in vain. -/
def cancels (c : Course) : Event → Bool
  | .operation .cancel => true
  | .operation (.beginClose .immediate) => !c.service.closed
  | .resumes late => late && c.closing == some .draining && !c.service.group.isTerminated
  | _ => false

/-- What an event may do to the signals. -/
structure Effect (c : Course) (event : Event) (later : Course) : Prop where
  cancelled : later.service.group.cancelled = (c.service.group.cancelled || c.cancels event)
  tokens : ∀ token, later.service.group.tokens[token]? = some true →
    c.service.group.tokens[token]? = some true ∨ event = .operation (.cancelToken token)
  draining : c.service.group.draining = true → later.service.group.draining = true
  closing : later.closing ≠ none → c.closing ≠ none ∨ later.service.group.draining = true

theorem Effect.of_lends {c later : Course} {event : Event} (lends : c.service.Lends later.service)
    (calm : c.cancels event = false) (closing : later.closing = c.closing) :
    c.Effect event later := by
  refine ⟨?_, fun token cancelled => Or.inl (lends.found cancelled), lends.draining, ?_⟩
  · rw [calm, Bool.or_false]
    exact lends.cancelled
  · intro under
    exact Or.inl (closing ▸ under)

theorem effect_close (c : Course) (mode : CloseMode) :
    c.Effect (.operation (.beginClose mode)) (c.close mode) := by
  cases closed : c.service.closed with
  | true =>
      have same : c.close mode = c := by simp [close, closed]
      rw [same]
      refine Effect.of_lends (.of_group rfl) ?_ rfl
      cases mode with
      | graceful => rfl
      | immediate => simp [cancels, closed]
  | false =>
      have drains : (c.close mode).service.group.draining = true := by
        cases mode <;>
          simp [close, closed, CloseCall.start, Service.beginClose, Group.drain, Group.cancelAll]
      refine ⟨?_, fun token found => Or.inl ?_, fun _ => drains,
        fun _ => Or.inr drains⟩
      · cases mode <;>
          simp [close, closed, CloseCall.start, Service.beginClose, Group.drain,
            Group.cancelAll, cancels]
      · cases mode <;>
          simpa [close, closed, CloseCall.start, Service.beginClose, Group.drain,
            Group.cancelAll] using found

theorem effect_resume (c : Course) (late : Bool) : c.Effect (.resumes late) (c.resume late) := by
  cases closing : c.closing with
  | none =>
      have same : c.resume late = c := by simp [resume, closing]
      rw [same]
      exact Effect.of_lends (.of_group rfl) (by simp [cancels, closing]) rfl
  | some stage =>
      let call : CloseCall := ⟨c.service, stage⟩
      have resumed : c.resume late =
          { c with
            service := (call.resume late).service
            closing := some (call.resume late).stage } := by
        simp [resume, closing, call]
      have cancels_ : c.cancels (.resumes late) = call.forces late := by
        simp [cancels, CloseCall.forces, closing, call]
      have waits : c.closing ≠ none := by simp [closing]
      have service := call.service_resume late
      rw [resumed]
      cases forced : call.forces late with
      | true =>
          rw [forced, if_pos rfl] at service
          rw [service]
          refine ⟨?_, fun _ found => Or.inl found, fun _ => rfl, fun _ => Or.inl waits⟩
          rw [cancels_, forced, Bool.or_true]
          rfl
      | false =>
          rw [forced, if_neg Bool.false_ne_true] at service
          rw [service]
          refine ⟨?_, fun _ found => Or.inl found, id, fun _ => Or.inl waits⟩
          rw [cancels_, forced, Bool.or_false]

theorem effect_operation (c : Course) (operation : Operation)
    (other : ∀ mode, operation ≠ .beginClose mode) :
    c.Effect (.operation operation) { c with service := (c.service.perform operation).1 } := by
  cases operation with
  | spawn =>
      rcases c.service.perform_spawn with ⟨_, refused⟩ | ⟨_, admitted⟩
      · rw [refused]
        exact Effect.of_lends (.of_group rfl) rfl rfl
      · rw [admitted]
        exact Effect.of_lends (.of_tokens id rfl rfl) rfl rfl
  | ends task outcome =>
      rw [Service.perform_ends]
      exact Effect.of_lends (c.service.lends_finish task outcome) rfl rfl
  | drain => exact Effect.of_lends (.of_tokens (fun _ => rfl) rfl rfl) rfl rfl
  | cancel =>
      exact ⟨(Bool.or_true _).symm, fun _ found => Or.inl found, fun _ => rfl, Or.inl⟩
  | beginClose mode => exact absurd rfl (other mode)
  | takeToken => exact Effect.of_lends ⟨id, rfl, 1, rfl⟩ rfl rfl
  | cancelToken token =>
      refine ⟨(Bool.or_false _).symm, fun one found => ?_, id, Or.inl⟩
      by_cases same : one = token
      · exact Or.inr (same ▸ rfl)
      · refine Or.inl ?_
        change (c.service.group.tokens.set token true)[one]? = some true at found
        rw [List.getElem?_set_ne (Ne.symm same)] at found
        exact found
  | cancelDrain => exact Effect.of_lends (.of_tokens (fun _ => rfl) rfl rfl) rfl rfl

theorem effect_step (c : Course) (event : Event) : c.Effect event (c.step event) := by
  cases event with
  | operation operation =>
      cases operation with
      | beginClose mode => exact c.effect_close mode
      | spawn => exact c.effect_operation .spawn (by simp)
      | ends task outcome => exact c.effect_operation (.ends task outcome) (by simp)
      | drain => exact c.effect_operation .drain (by simp)
      | cancel => exact c.effect_operation .cancel (by simp)
      | takeToken => exact c.effect_operation .takeToken (by simp)
      | cancelToken token => exact c.effect_operation (.cancelToken token) (by simp)
      | cancelDrain => exact c.effect_operation .cancelDrain (by simp)
  | resumes late => exact c.effect_resume late
  | acceptor => exact Effect.of_lends (.of_group rfl) rfl rfl
  | listens acceptor address =>
      exact Effect.of_lends (c.service.lends_listen acceptor address) rfl rfl
  | unbinds acceptor => exact Effect.of_lends (c.service.lends_unbind acceptor) rfl rfl
  | accepts loop =>
      change c.Effect _ (c.accept loop)
      unfold accept
      split
      · exact Effect.of_lends (.of_group rfl) rfl rfl
      · exact Effect.of_lends (c.service.lends_accept _) rfl rfl
  | dials address timeout =>
      exact Effect.of_lends (c.service.lends_attempt address timeout) rfl rfl
  | pursues attempt news newsFirst =>
      change c.Effect _ (c.pursue attempt news newsFirst)
      unfold pursue
      split
      · exact Effect.of_lends (.of_group rfl) rfl rfl
      · exact Effect.of_lends (c.service.lends_pursue _ news newsFirst) rfl rfl

/-! ## Whole runs -/

variable {c : Course}

theorem cancelled_after (c : Course) (events : List Event) :
    (c.after events).service.group.cancelled = true ↔
      c.service.group.cancelled = true ∨
        ∃ before event later, events = before ++ event :: later ∧
          (c.after before).cancels event = true := by
  induction events generalizing c with
  | nil => simp [after]
  | cons first rest ih =>
      change ((c.step first).after rest).service.group.cancelled = true ↔ _
      rw [ih, (c.effect_step first).cancelled, Bool.or_eq_true, or_assoc]
      refine or_congr_right ⟨?_, ?_⟩
      · rintro (now | ⟨before, event, later, split, then_⟩)
        · exact ⟨[], first, rest, rfl, now⟩
        · exact ⟨first :: before, event, later, by rw [split]; rfl, then_⟩
      · rintro ⟨before, event, later, split, then_⟩
        cases before with
        | nil =>
            cases split
            exact Or.inl then_
        | cons other before =>
            cases split
            exact Or.inr ⟨before, event, later, rfl, then_⟩

/-- A token that is cancelled by itself was asked for by its number. -/
theorem mem_of_token_cancelled {events : List Event} {token : Nat}
    (found : (c.after events).service.group.tokens[token]? = some true) :
    c.service.group.tokens[token]? = some true ∨ .operation (.cancelToken token) ∈ events := by
  induction events generalizing c with
  | nil => exact Or.inl found
  | cons first rest ih =>
      rcases ih (c := c.step first) found with before | later
      · rcases (c.effect_step first).tokens token before with was | asked
        · exact Or.inl was
        · exact Or.inr (asked ▸ List.mem_cons_self)
      · exact Or.inr (List.mem_cons_of_mem _ later)

/-- Once there was a close, the group drains. -/
theorem draining_after (events : List Event)
    (drains : c.closing ≠ none → c.service.group.draining = true) :
    (c.after events).closing ≠ none → (c.after events).service.group.draining = true := by
  induction events generalizing c with
  | nil => exact drains
  | cons first rest ih =>
      refine ih (c := c.step first) fun under => ?_
      have effect := c.effect_step first
      rcases effect.closing under with before | now
      · exact effect.draining (drains before)
      · exact now

/-- The dial with that number waits and holds that token. -/
def Waits (c : Course) (attempt token : Nat) : Prop :=
  ∃ a, c.attempts[attempt]? = some a ∧ a.stage = .waiting token

/-- Only its own turn does something to a dial. -/
theorem attempts_step {attempt : Nat} (inside : attempt < c.attempts.length) (event : Event)
    (other : ∀ news newsFirst, event ≠ .pursues attempt news newsFirst) :
    (c.step event).attempts[attempt]? = c.attempts[attempt]? := by
  cases event with
  | operation operation =>
      cases operation with
      | beginClose mode =>
          change (c.close mode).attempts[attempt]? = _
          unfold close
          split <;> rfl
      | _ => rfl
  | resumes late =>
      change (c.resume late).attempts[attempt]? = _
      unfold resume
      split <;> rfl
  | acceptor => rfl
  | listens => rfl
  | unbinds => rfl
  | accepts loop =>
      change (c.accept loop).attempts[attempt]? = _
      unfold accept
      split <;> rfl
  | dials address timeout => exact List.getElem?_append_left inside
  | pursues number news newsFirst =>
      have different : number ≠ attempt := by
        rintro rfl
        exact other news newsFirst rfl
      change (c.pursue number news newsFirst).attempts[attempt]? = _
      unfold pursue
      split
      · rfl
      · exact List.getElem?_set_ne different

theorem result?_pursue {attempt : Nat} {a : Attempt} (found : c.attempts[attempt]? = some a)
    (news : Option News) (newsFirst : Bool) :
    (c.pursue attempt news newsFirst).result? attempt =
      (c.service.pursue a news newsFirst).1.result? := by
  have inside := (List.getElem?_eq_some_iff.mp found).1
  simp [result?, pursue, found, List.getElem?_set_self inside]

theorem result?_step {attempt : Nat} {result : Except Error Departure}
    (told : c.result? attempt = some result) (event : Event) :
    (c.step event).result? attempt = some result := by
  obtain ⟨a, found, ended⟩ := Option.bind_eq_some_iff.mp told
  have inside := (List.getElem?_eq_some_iff.mp found).1
  by_cases own : ∃ news newsFirst, event = .pursues attempt news newsFirst
  · obtain ⟨news, newsFirst, rfl⟩ := own
    change (c.pursue attempt news newsFirst).result? attempt = _
    rw [result?_pursue found, ← ended]
    cases stage : a.stage with
    | waiting token => simp [Attempt.result?, stage] at ended
    | ended result => simp [Service.pursue, stage]
  · have same := attempts_step inside event fun news newsFirst is => own ⟨news, newsFirst, is⟩
    rw [result?, same, found]
    exact ended

theorem result?_after {attempt : Nat} {result : Except Error Departure}
    (told : c.result? attempt = some result) (events : List Event) :
    (c.after events).result? attempt = some result := by
  induction events generalizing c with
  | nil => exact told
  | cons first rest ih => exact ih (result?_step told first)

theorem Waits.result? {attempt token : Nat} (waits : c.Waits attempt token) :
    c.result? attempt = none := by
  obtain ⟨a, found, stage⟩ := waits
  simp [Course.result?, found, Attempt.result?, stage]

/-- A dial whose token is cancelled ends with its next turn, and it fails unless
it looks at news of its peer first. -/
theorem Waits.ends {attempt token : Nat} (waits : c.Waits attempt token)
    (cancelled : c.service.group.tokenCancelled token = true) (news : Option News)
    (newsFirst : Bool) :
    ∃ result, (c.pursue attempt news newsFirst).result? attempt = some result ∧
      (result = .error .groupShutdown ∨ newsFirst = true ∧ ∃ heard, news = some heard) := by
  obtain ⟨a, found, stage⟩ := waits
  rw [result?_pursue found]
  cases news with
  | none => exact ⟨_, by simp [Service.pursue, stage, cancelled], Or.inl rfl⟩
  | some heard =>
      cases newsFirst with
      | false => exact ⟨_, by simp [Service.pursue, stage, cancelled], Or.inl rfl⟩
      | true =>
          cases heard <;>
            exact ⟨_, by simp [Service.pursue, stage, Service.heed]; rfl, Or.inr ⟨rfl, _, rfl⟩⟩

/-- A dial whose token is not cancelled connects as its peer accepts. -/
theorem Waits.connects {attempt token : Nat} (waits : c.Waits attempt token)
    (quiet : c.service.group.tokenCancelled token = false) (newsFirst : Bool) :
    (c.pursue attempt (some .accepted) newsFirst).result? attempt =
      some (.ok (c.service.connected token).1) := by
  obtain ⟨a, found, stage⟩ := waits
  rw [result?_pursue found]
  simp [Service.pursue, stage, quiet, Service.heed]

/-- Dials in flight when the group is cancelled fail, but for news that they look
at before they notice. -/
theorem Waits.after {attempt token : Nat} (waits : c.Waits attempt token)
    (cancelled : c.service.group.cancelled = true) {more : List Event}
    {result : Except Error Departure} (told : (c.after more).result? attempt = some result) :
    result = .error .groupShutdown ∨ ∃ heard, .pursues attempt (some heard) true ∈ more := by
  induction more generalizing c with
  | nil =>
      change c.result? attempt = some result at told
      rw [waits.result?] at told
      cases told
  | cons first rest ih =>
      change ((c.step first).after rest).result? attempt = some result at told
      by_cases own : ∃ news newsFirst, first = .pursues attempt news newsFirst
      · obtain ⟨news, newsFirst, rfl⟩ := own
        have token_ : c.service.group.tokenCancelled token = true := by
          simp [Group.tokenCancelled, cancelled]
        obtain ⟨ended, now, why⟩ := waits.ends token_ news newsFirst
        have same := result?_after (c := c.step (.pursues attempt news newsFirst)) now rest
        rw [told] at same
        cases same
        rcases why with shutdown | ⟨rfl, heard, rfl⟩
        · exact Or.inl shutdown
        · exact Or.inr ⟨heard, List.mem_cons_self⟩
      · have still : (c.step first).Waits attempt token := by
          obtain ⟨a, found, stage⟩ := waits
          have inside := (List.getElem?_eq_some_iff.mp found).1
          have same := attempts_step inside first fun news newsFirst is => own ⟨news, newsFirst, is⟩
          exact ⟨a, same.trans found, stage⟩
        have up : (c.step first).service.group.cancelled = true := by
          rw [(c.effect_step first).cancelled, cancelled, Bool.true_or]
        rcases ih still up told with shutdown | ⟨heard, among⟩
        · exact Or.inl shutdown
        · exact Or.inr ⟨heard, List.mem_cons_of_mem _ among⟩

/-! ## What a close tells sessions and dials -/

/--
A new service through any events, closed or not.  Its group is cancelled exactly
if one of them cancelled it: a call for it, an immediate close, or a graceful
close that had waited for its tasks in vain.

If it is, every session that was taken in or dialled knows, and every dial in
flight ends with its next turn; it fails with the group, but for news of its
peer that it looks at first.  If it is not, as after a graceful close that
drained, no session knows unless its own token was cancelled, and a dial in
flight connects as soon as its peer accepts.  Only dials that begin after the
close are refused.
-/
theorem sessions_after (events : List Event) :
    let c := new.after events
    (c.service.group.cancelled = true ↔
      ∃ before event later, events = before ++ event :: later ∧
        (new.after before).cancels event = true) ∧
    (c.service.group.cancelled = true →
      (∀ token ∈ c.service.sessionTokens, c.service.group.tokenCancelled token = true) ∧
      ∀ attempt token, c.Waits attempt token →
        (∀ news newsFirst, ∃ result,
          (c.step (.pursues attempt news newsFirst)).result? attempt = some result) ∧
        ∀ more result, (c.after more).result? attempt = some result →
          result = .error .groupShutdown ∨ ∃ heard, .pursues attempt (some heard) true ∈ more) ∧
    (c.service.group.cancelled = false → ∀ token, .operation (.cancelToken token) ∉ events →
      (token ∈ c.service.sessionTokens → c.service.group.tokenCancelled token = false) ∧
      ∀ attempt, c.Waits attempt token → ∀ newsFirst, ∃ departure,
        departure.token = token ∧
        (c.step (.pursues attempt (some .accepted) newsFirst)).result? attempt =
          some (.ok departure)) ∧
    (c.hasReturned = true → ∀ address timeout,
      (c.step (.dials address timeout)).result? c.attempts.length =
        some (.error .groupShutdown)) := by
  intro c
  refine ⟨?cause, ?told, ?untold, ?refused⟩
  case cause =>
    have fresh : new.service.group.cancelled ≠ true := Bool.false_ne_true
    exact (cancelled_after new events).trans (or_iff_right fresh)
  case told =>
    intro cancelled
    have every (token : Nat) : c.service.group.tokenCancelled token = true := by
      simp [Group.tokenCancelled, cancelled]
    refine ⟨fun token _ => every token, fun attempt token waits => ⟨?_, ?_⟩⟩
    · intro news newsFirst
      obtain ⟨result, ended, _⟩ := waits.ends (every token) news newsFirst
      exact ⟨result, ended⟩
    · intro more result told
      exact waits.after cancelled told
  case untold =>
    intro spared token alone
    have quiet : c.service.group.tokenCancelled token = false := by
      have uncancelled : c.service.group.tokens[token]? ≠ some true := by
        intro found
        rcases mem_of_token_cancelled (c := new) found with before | asked
        · cases before
        · exact alone asked
      cases found : c.service.group.tokens[token]? with
      | none => simp [Group.tokenCancelled, spared, found]
      | some up =>
          cases up with
          | false => simp [Group.tokenCancelled, spared, found]
          | true => exact absurd found uncancelled
    refine ⟨fun _ => quiet, fun attempt waits newsFirst => ?_⟩
    exact ⟨(c.service.connected token).1, rfl, waits.connects quiet newsFirst⟩
  case refused =>
    intro returned address timeout
    have under : c.closing ≠ none := by
      intro open_
      simp [hasReturned, open_] at returned
    have drains := draining_after events (c := new) (fun closing => absurd rfl closing) under
    have begun : c.step (.dials address timeout) =
        { c with attempts := c.attempts ++ [⟨address, timeout, .ended (.error .groupShutdown)⟩] } := by
      change c.dial address timeout = _
      rw [dial, Service.attempt_of_draining drains]
    rw [begun]
    simp [result?, Attempt.result?]

/-- A session and a dial in flight that a graceful close leaves alone: when it
has returned, the session is not told and the dial still connects. -/
theorem sessions_after_drained :
    let dial : Event := .dials (.v4 127 0 0 1 830) (.ofSeconds 10)
    let c := new.after
      [dial, .pursues 0 (some .accepted) false, dial, .operation (.beginClose .graceful),
        .resumes false]
    c.hasReturned = true ∧ c.service.closed = true ∧ c.service.group.isTerminated = true ∧
      (∃ token ∈ c.service.sessionTokens, c.service.group.tokenCancelled token = false) ∧
      c.result? 1 = none ∧
      ∃ departure, (c.step (.pursues 1 (some .accepted) false)).result? 1 = some (.ok departure) := by
  intro dial c
  refine ⟨rfl, rfl, rfl, ⟨0, by decide, rfl⟩, rfl, _, rfl⟩

end Course

end NetconfGate.Channel

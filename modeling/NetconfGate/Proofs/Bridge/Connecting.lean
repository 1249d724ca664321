import NetconfGate.Bridge.Basic
import NetconfGate.Proofs.Channel.Course

/-!
# What a dial ends with

The peer's answer, the limit and the cancelling of the group are on one line of
time, and the first of them ends a dial.  A group that drains is asked once, at
the start; what happens to the group during the wait matters only if it is
cancelled.  A bridge passes on what its dial came to.
-/

namespace NetconfGate

open Channel

namespace Channel

/-- What can end a dial: news of its peer, or the cancelling of the group. -/
inductive Finish where
  | heard (news : News)
  | cancelled
deriving DecidableEq

/-- `departure` is what becomes of a connection that stands. -/
def Finish.result (address : Address) (timeout : Duration) (departure : Departure) :
    Finish → Except Error Departure
  | .heard .accepted => .ok departure
  | .heard (.refused cause) => .error (.connect address cause)
  | .heard .late =>
      .error (.connect address (.custom .timedOut ("no answer within " ++ timeout.text)))
  | .cancelled => .error .groupShutdown

def PeerAnswer.finish? : PeerAnswer → Option (Duration × Finish)
  | accepts time => some (time, .heard .accepted)
  | refuses time cause => some (time, .heard (.refused cause))
  | silent => none

/-- All that would end a dial, and when. -/
def timeline (timeout : Duration) (answer : PeerAnswer) (shutdown : Option Duration) :
    List (Duration × Finish) :=
  answer.finish?.toList ++
    (timeout, .heard .late) :: (shutdown.map fun time => (time, .cancelled)).toList

/-- Nothing on the line comes before. -/
structure Leads (line : List (Duration × Finish)) (time : Duration) (finish : Finish) : Prop where
  among : (time, finish) ∈ line
  least : ∀ other ∈ line, time.nanos ≤ other.1.nanos

/-- All else on the line comes later. -/
structure First (line : List (Duration × Finish)) (time : Duration) (finish : Finish) : Prop where
  among : (time, finish) ∈ line
  before : ∀ other ∈ line, other ≠ (time, finish) → time.nanos < other.1.nanos

theorem First.eq_of_leads {line : List (Duration × Finish)} {time other : Duration}
    {finish end_ : Finish} (first : First line time finish) (leads : Leads line other end_) :
    (other, end_) = (time, finish) := by
  refine Classical.byContradiction fun different => ?_
  have later := first.before _ leads.among different
  have sooner := leads.least _ first.among
  exact absurd later (Nat.not_lt.mpr sooner)

/-- How the ends compare in time. -/
theorem dialEnd_spec (timeout : Duration) (answer shutdown : Option Duration) :
    match dialEnd timeout answer shutdown with
    | .answered => ∃ time, answer = some time ∧ time.nanos ≤ timeout.nanos ∧
        ∀ stop, shutdown = some stop → time.nanos ≤ stop.nanos
    | .timedOut => (∀ time, answer = some time → timeout.nanos ≤ time.nanos) ∧
        ∀ stop, shutdown = some stop → timeout.nanos ≤ stop.nanos
    | .shutDown => ∃ stop, shutdown = some stop ∧ stop.nanos ≤ timeout.nanos ∧
        ∀ time, answer = some time → stop.nanos ≤ time.nanos := by
  unfold dialEnd
  cases answer with
  | none =>
      cases shutdown with
      | none => simp
      | some stop =>
          by_cases sooner : stop.nanos < timeout.nanos
          · simp [sooner, Nat.le_of_lt sooner]
          · simp [sooner, Nat.le_of_not_lt sooner]
  | some time =>
      cases shutdown with
      | none =>
          by_cases inTime : time.nanos ≤ timeout.nanos
          · simp [inTime]
          · simp [inTime, Nat.le_of_not_le inTime]
      | some stop =>
          by_cases inTime : time.nanos ≤ timeout.nanos
          · by_cases sooner : stop.nanos < time.nanos
            · simp [inTime, sooner, Nat.le_of_lt sooner, Nat.le_trans (Nat.le_of_lt sooner) inTime]
            · simp [inTime, sooner, Nat.le_of_not_lt sooner]
          · have late := Nat.le_of_not_le inTime
            by_cases sooner : stop.nanos < timeout.nanos
            · simp [Nat.min_eq_right late, sooner, Nat.le_of_lt sooner,
                Nat.le_trans (Nat.le_of_lt sooner) late]
            · simp [inTime, sooner, late, Nat.le_of_not_lt sooner]

/-- A dial ends with what leads on the line, at its time. -/
theorem Service.dial_leads {s : Service} (isOpen : s.group.draining = false) (address : Address)
    (timeout : Duration) (answer : PeerAnswer) (shutdown : Option Duration) :
    let d := s.dial address timeout answer shutdown
    ∃ finish, Leads (timeline timeout answer shutdown) d.elapsed finish ∧
      d.result = finish.result address timeout s.depart.1 := by
  intro d
  have spec := dialEnd_spec timeout answer.time? shutdown
  cases ended : dialEnd timeout answer.time? shutdown with
  | answered =>
      rw [ended] at spec
      obtain ⟨time, told, inTime, unstopped⟩ := spec
      cases answer with
      | accepts at_ =>
          cases told
          refine ⟨.heard .accepted, ?_, by simp [d, dial, isOpen, ended, Finish.result]⟩
          refine ⟨?_, ?_⟩ <;>
            cases shutdown <;> simp_all [d, dial, timeline, PeerAnswer.finish?]
      | refuses at_ cause =>
          cases told
          refine ⟨.heard (.refused cause), ?_, by simp [d, dial, isOpen, ended, Finish.result]⟩
          refine ⟨?_, ?_⟩ <;>
            cases shutdown <;> simp_all [d, dial, timeline, PeerAnswer.finish?]
      | silent => cases told
  | timedOut =>
      rw [ended] at spec
      obtain ⟨unanswered, unstopped⟩ := spec
      refine ⟨.heard .late, ?_, ?_⟩
      · refine ⟨?_, ?_⟩ <;> cases answer <;> cases shutdown <;>
          simp_all [d, dial, timeline, PeerAnswer.finish?, PeerAnswer.time?]
      · cases answer <;> simp [d, dial, isOpen, ended, Finish.result, noAnswer]
  | shutDown =>
      rw [ended] at spec
      obtain ⟨stop, rfl, before, unanswered⟩ := spec
      refine ⟨.cancelled, ?_, by simp [d, dial, isOpen, ended, Finish.result]⟩
      refine ⟨?_, ?_⟩ <;> cases answer <;>
        simp_all [d, dial, timeline, PeerAnswer.finish?, PeerAnswer.time?]

/-- Only a connection that stands is numbered; its token is that of the group. -/
theorem Service.dial_departs (s : Service) (address : Address) (timeout : Duration)
    (answer : PeerAnswer) (shutdown : Option Duration) :
    let d := s.dial address timeout answer shutdown
    (∀ cause, d.result = .error cause → d.service = s) ∧
      ∀ departure, d.result = .ok departure → departure = s.depart.1 ∧ d.service = s.depart.2 := by
  intro d
  rcases s.dial_eq address timeout answer shutdown with ⟨⟨cause, failed⟩, same⟩ | ⟨_, made, departed⟩
  · refine ⟨fun _ _ => same, fun departure connected => ?_⟩
    cases failed.symm.trans connected
  · refine ⟨fun cause failed => ?_, fun departure connected => ?_⟩
    · cases made.symm.trans failed
    · exact ⟨Except.ok.inj (connected.symm.trans made), departed⟩

/-! ## A dial in flight -/

namespace Course

variable {c : Course} {attempt token : Nat} {address : Address} {timeout : Duration}

/-- A dial that gets no turn is left as it is. -/
theorem attempts_after {a : Attempt} (found : c.attempts[attempt]? = some a) {events : List Event}
    (alone : ∀ news newsFirst, .pursues attempt news newsFirst ∉ events) :
    (c.after events).attempts[attempt]? = some a := by
  induction events generalizing c with
  | nil => exact found
  | cons first rest ih =>
      have inside := (List.getElem?_eq_some_iff.mp found).1
      have same := attempts_step inside first fun news newsFirst is =>
        alone news newsFirst (is ▸ List.mem_cons_self)
      exact ih (same.trans found) fun news newsFirst among =>
        alone news newsFirst (List.mem_cons_of_mem _ among)

theorem step_dials (isOpen : c.service.group.draining = false) (address : Address)
    (timeout : Duration) :
    c.step (.dials address timeout) =
      { c with
        service := { c.service with group := c.service.group.token.2 }
        attempts := c.attempts ++
          [⟨address, timeout, .waiting c.service.group.tokens.length⟩] } := by
  change c.dial address timeout = _
  simp [dial, Service.attempt, isOpen, Group.token]

theorem step_dials_of_draining (drains : c.service.group.draining = true) (address : Address)
    (timeout : Duration) :
    c.step (.dials address timeout) =
      { c with
        attempts := c.attempts ++ [⟨address, timeout, .ended (.error .groupShutdown)⟩] } := by
  change c.dial address timeout = _
  rw [dial, Service.attempt_of_draining drains]

/-- News ends a dial that nothing has cancelled; a number is drawn only for a
connection that stands. -/
theorem step_news (found : c.attempts[attempt]? = some ⟨address, timeout, .waiting token⟩)
    (quiet : c.service.group.tokenCancelled token = false) (news : News) (newsFirst : Bool) :
    let next := c.step (.pursues attempt (some news) newsFirst)
    next.result? attempt = some
        ((Finish.heard news).result address timeout (c.service.connected token).1) ∧
      next.service.counter =
        if news = .accepted then c.service.drawId.2.counter else c.service.counter := by
  intro next
  have result := result?_pursue found (some news) newsFirst
  have service : next.service = (c.service.pursue ⟨address, timeout, .waiting token⟩ (some news)
      newsFirst).2 := by
    change (c.pursue attempt (some news) newsFirst).service = _
    simp [pursue, found]
  have result_ : next.result? attempt = _ := result
  rw [service, result_]
  have drawn : (c.service.connected token).2.counter = c.service.drawId.2.counter := rfl
  cases news <;> simp [Service.pursue, quiet, Service.heed, Finish.result, noAnswer, drawn]

/-- What cancels the group is no turn of a dial, and draws no number. -/
theorem step_cancels {event : Event} (cancels : c.cancels event = true) :
    (∀ news newsFirst, event ≠ .pursues attempt news newsFirst) ∧
      (c.step event).service.counter = c.service.counter := by
  refine ⟨?_, ?_⟩
  · rintro news newsFirst rfl
    cases cancels
  · cases event with
    | operation operation =>
        cases operation with
        | cancel => rfl
        | beginClose mode =>
            change (c.close mode).service.counter = _
            unfold close
            split
            · rfl
            · cases mode <;> simp [CloseCall.start, Service.beginClose, *]
        | _ => cases cancels
    | resumes late =>
        change (c.resume late).service.counter = _
        unfold resume
        split
        · rfl
        · dsimp only
          rw [CloseCall.service_resume]
          split <;> rfl
    | _ => cases cancels

/-- The cancelling of the group ends a dial with its next turn. -/
theorem step_cancelled (found : c.attempts[attempt]? = some ⟨address, timeout, .waiting token⟩)
    {event : Event} (cancels : c.cancels event = true) (newsFirst : Bool) :
    let next := (c.step event).step (.pursues attempt none newsFirst)
    next.result? attempt = some (.error .groupShutdown) ∧
      next.service.counter = c.service.counter := by
  intro next
  obtain ⟨other, counter⟩ : (∀ news newsFirst, event ≠ .pursues attempt news newsFirst) ∧
      (c.step event).service.counter = c.service.counter := c.step_cancels cancels
  have inside := (List.getElem?_eq_some_iff.mp found).1
  have still := (attempts_step inside event other).trans found
  have up : (c.step event).service.group.tokenCancelled token = true := by
    simp [Group.tokenCancelled, (c.effect_step event).cancelled, cancels]
  have told : (c.step event).service.pursue ⟨address, timeout, .waiting token⟩ none newsFirst =
      (⟨address, timeout, .ended (.error .groupShutdown)⟩, (c.step event).service) := by
    simp [Service.pursue, up, Attempt.ends]
  have result : next.result? attempt = _ := result?_pursue still none newsFirst
  have service : next.service = (c.step event).service := by
    change ((c.step event).pursue attempt none newsFirst).service = _
    simp [pursue, still, told]
  rw [result, told, service]
  exact ⟨rfl, counter⟩

/-- A token fires with its group, or when it is asked for by itself. -/
theorem tokenCancelled_after {during : List Event}
    (fresh : c.service.group.tokens[token]? ≠ some true)
    (spared : .operation (.cancelToken token) ∉ during)
    (calm : (c.after during).service.group.cancelled = false) :
    (c.after during).service.group.tokenCancelled token = false := by
  have unasked : (c.after during).service.group.tokens[token]? ≠ some true := by
    intro fired
    rcases mem_of_token_cancelled fired with before | asked
    · exact fresh before
    · exact spared asked
  cases up : (c.after during).service.group.tokens[token]? with
  | none => simp [Group.tokenCancelled, calm, up]
  | some raised =>
      cases raised with
      | false => simp [Group.tokenCancelled, calm, up]
      | true => exact absurd up unasked

end Course

end Channel

namespace Bridge

/--
A dial by itself, as one of many events, and as the connect of a bridge.

A group that drains is not dialled from: the dial fails with it at once, and no
token is taken.  Otherwise it ends at the time and with the outcome of what is first on
its line of time: the peer's acceptance, its refusal, the limit, or the
cancelling of the group; and in any case with something that nothing precedes.
A dial that fails leaves the service as it was.  One that stands has drawn the
next number, and its token fires as soon as the group is cancelled, but not when
it drains.

In a course of events the dial waits through whatever does not concern it, the
draining of its group included.  The first news ends it, or the event that
cancels the group, and nothing that comes later changes its result.

A bridge that connects fails just when the dial does, with the address and the
error of it, and is closed; it has no connection then that it had not before,
and where a bridge was to be created there is none.
-/
theorem connect_outcome (c : Course) (address : Address) (timeout : Duration)
    (answer : PeerAnswer) (shutdown : Option Duration) :
    let s := c.service
    let d := s.dial address timeout answer shutdown
    let line := timeline timeout answer shutdown
    let attempt := c.attempts.length
    let begun := c.step (.dials address timeout)
    (s.group.draining = true →
      d.result = .error .groupShutdown ∧ d.service = s ∧ d.elapsed = .zero ∧
        begun.service = s ∧ begun.result? attempt = some (.error .groupShutdown)) ∧
    (s.group.draining = false →
      (∀ time finish, First line time finish →
        d.result = finish.result address timeout s.depart.1 ∧ d.elapsed = time) ∧
      ∃ finish, Leads line d.elapsed finish ∧
        d.result = finish.result address timeout s.depart.1) ∧
    (∀ cause, d.result = .error cause → d.service = s) ∧
    (∀ departure, d.result = .ok departure →
      departure.id = s.drawId.1 ∧ d.service.counter = s.drawId.2.counter ∧
        d.service.group.tokenCancelled departure.token = s.group.cancelled ∧
        d.service.group.drain.tokenCancelled departure.token = s.group.cancelled ∧
        d.service.group.cancelAll.tokenCancelled departure.token = true) ∧
    (s.group.draining = false → ∀ during,
      (∀ news newsFirst, .pursues attempt news newsFirst ∉ during) →
      .operation (.cancelToken s.group.tokens.length) ∉ during →
      let now := begun.after during
      now.service.group.cancelled = false →
        now.result? attempt = none ∧
        (∀ news newsFirst later,
          let next := now.step (.pursues attempt (some news) newsFirst)
          (next.after later).result? attempt = some ((Finish.heard news).result address timeout
            ⟨now.service.drawId.1, s.group.tokens.length⟩) ∧
          next.service.counter =
            if news = .accepted then now.service.drawId.2.counter else now.service.counter) ∧
        ∀ event newsFirst later, now.cancels event = true →
          let next := (now.step event).step (.pursues attempt none newsFirst)
          (next.after later).result? attempt =
              some (Finish.cancelled.result address timeout
                ⟨now.service.drawId.1, s.group.tokens.length⟩) ∧
            next.service.counter = now.service.counter) ∧
    ∀ (b : Bridge Departure) (session : SessionId), b.address = address →
      (∀ departure, d.result = .ok departure →
        b.connect d.result = (.ok (), { b with state := .bridging, backend := some departure }) ∧
        create session address d.result =
          .ok ⟨session, address, .bridging, some departure⟩) ∧
      ∀ cause, d.result = .error cause →
        b.connect d.result =
          (.error (.backendUnavailable address cause), { b with state := .closed }) ∧
        create session address d.result = .error (.backendUnavailable address cause) := by
  intro s d line attempt begun
  obtain ⟨failed, stands⟩ := s.dial_departs address timeout answer shutdown
  refine ⟨?drained, ?raced, failed, ?numbered, ?waited, ?bridged⟩
  case drained =>
    intro drains
    have refused : d = ⟨.error .groupShutdown, s, .zero⟩ :=
      Service.dial_of_draining drains address timeout answer shutdown
    have told : begun = _ := Course.step_dials_of_draining drains address timeout
    rw [refused, told]
    exact ⟨rfl, rfl, rfl, rfl, by simp [Course.result?, attempt, Attempt.result?]⟩
  case raced =>
    intro isOpen
    obtain ⟨finish, leads, result⟩ := s.dial_leads isOpen address timeout answer shutdown
    refine ⟨fun time other first => ?_, finish, leads, result⟩
    cases first.eq_of_leads leads
    exact ⟨result, rfl⟩
  case numbered =>
    intro departure connected
    obtain ⟨rfl, departed⟩ := stands departure connected
    have service : d.service = s.depart.2 := departed
    rw [service]
    refine ⟨rfl, rfl, ?_, ?_, ?_⟩ <;>
      simp [Service.depart, Group.tokenCancelled, Group.token, Group.drain, Group.cancelAll,
        Service.drawId]
  case waited =>
    intro isOpen during alone spared now calm
    have told : begun = _ := Course.step_dials isOpen address timeout
    have found : begun.attempts[attempt]? =
        some ⟨address, timeout, .waiting s.group.tokens.length⟩ := by
      rw [told]
      exact List.getElem?_concat_length
    have waits := Course.attempts_after found alone
    have fresh : begun.service.group.tokens[s.group.tokens.length]? ≠ some true := by
      rw [told]
      simp [Group.token, s]
    have quiet := Course.tokenCancelled_after fresh spared calm
    refine ⟨?_, ?_, ?_⟩
    · exact Course.Waits.result? ⟨_, waits, rfl⟩
    · intro news newsFirst later next
      obtain ⟨result, counter⟩ := Course.step_news waits quiet news newsFirst
      exact ⟨Course.result?_after result later, counter⟩
    · intro event newsFirst later cancels next
      obtain ⟨result, counter⟩ := Course.step_cancelled waits cancels newsFirst
      exact ⟨Course.result?_after result later, counter⟩
  case bridged =>
    rintro b session rfl
    refine ⟨?_, ?_⟩
    · intro departure connected
      rw [connected]
      exact ⟨rfl, rfl⟩
    · intro cause refused
      rw [refused]
      exact ⟨rfl, rfl⟩

/-- A backend that would accept in two seconds, a limit of one second, and a
group that is cancelled after three: the limit is first. -/
example :
    First (timeline (.ofSeconds 1) (.accepts (.ofSeconds 2)) (some (.ofSeconds 3))) (.ofSeconds 1)
        (.heard .late) ∧
      (Service.new.dial (.v4 127 0 0 1 830) (.ofSeconds 1) (.accepts (.ofSeconds 2))
          (some (.ofSeconds 3))).result =
        .error (.connect (.v4 127 0 0 1 830) (.custom .timedOut "no answer within 1s")) := by
  refine ⟨⟨by decide, by decide⟩, by decide⟩

end Bridge

end NetconfGate

import NetconfGate.Proofs.Server.Alone
import NetconfGate.Proofs.Server.Delivery
import NetconfGate.Proofs.Server.Dialling

/-!
# Clients do not get in each other's way

All clients share the service and its group, the numbers that it gives, its loop
and its setup. What is done for one of them leaves alone whatever another one can
tell of these, and the server as a whole leaves alone all but the tasks. So each
client sees what it would see if it were the only one.
-/

namespace NetconfGate

open Channel

namespace Server

/-- All that concerns a client. -/
def about {κ : Type} [DecidableEq κ] (who : κ) (occurrences : List (Occurrence κ)) :
    List (Occurrence κ) :=
  occurrences.filter fun occurrence => occurrence.concerns who

theorem Closedown.goOn_joining (t : Traffic) (loop : Loop) :
    goOn ⟨t, .joining loop⟩ =
      if t.service.group.isRunning loop.task then ⟨t, .joining loop⟩
      else release t (t.service.joined loop) := rfl

/-- It waits for the tasks, and does nothing to them. -/
theorem Closedown.goOn_releasing (t : Traffic) (joined : Except Channel.Error Unit)
    (close : CloseCall.Stage) :
    goOn ⟨t, .releasing joined close⟩ =
      ⟨t, .releasing joined ((⟨t.service, close⟩ : CloseCall).resume false).stage⟩ := by
  have kept : ((⟨t.service, close⟩ : CloseCall).resume false).service = t.service :=
    CloseCall.service_resume _ _
  simp only [goOn, kept]

section Shown

variable {κ : Type} {b : Bound} {c next : Concourse κ} {o : Outlook} {who other : κ}
  {number : Nat}

/-- How far the close of `b` is. -/
def Concourse.IsAt (b : Bound) (c : Concourse κ) : Age → Prop
  | .listening => c.stage = none ∧ c.bound.Owns
  | .stopping =>
      c.stage = some (.joining (Closedown.loopOf b)) ∧ c.traffic.service.closed = false ∧
        c.traffic.service.loops = [{ Closedown.loopOf b with stopped := true }]
  | .released =>
      (∃ joined close, c.stage = some (.releasing joined close)) ∧
        c.traffic.service.loops = [{ Closedown.loopOf b with stopped := true }]

/-- The server is as the client knows it. -/
structure Concourse.Fits (b : Bound) (c : Concourse κ) (o : Outlook) : Prop where
  acceptor : c.bound.acceptor = b.acceptor
  address : c.bound.address = b.address
  setup : c.traffic.setup = b.traffic.setup
  draining : c.group.draining = o.draining
  cancelled : c.group.cancelled = o.cancelled
  loop : c.group.tasks[0]? = some o.loop
  age : c.IsAt b o.age

/-- Each client that was taken in has a visit of its own. -/
structure Concourse.Numbered (c : Concourse κ) : Prop where
  inside : ∀ one number, c.number? one = some number → number < c.traffic.visits.length
  own : ∀ one other number, c.number? one = some number → c.number? other = some number →
    one = other

/-- The server and one of its clients are as that client knows them. -/
structure Concourse.Shows (b : Bound) (c : Concourse κ) (who : κ) (o : Outlook) : Prop where
  fits : c.Fits b o
  owned : c.traffic.Owned
  numbered : c.Numbered
  party : c.party? who = o.party

namespace Concourse

theorem IsAt.loop {age : Age} (isAt : c.IsAt b age) (acceptor : c.bound.acceptor = b.acceptor)
    (address : c.bound.address = b.address) :
    ∃ stopped, c.traffic.service.loops = [{ Closedown.loopOf b with stopped := stopped }] := by
  cases age with
  | listening =>
      obtain ⟨_, owns⟩ := isAt
      exact ⟨false, by rw [Closedown.loopOf, ← acceptor, ← address]; exact owns.loops⟩
  | stopping => exact ⟨true, isAt.2.2⟩
  | released => exact ⟨true, isAt.2⟩

/-- Work of the service does not bring the close on. -/
theorem IsAt.works {age : Age} (isAt : c.IsAt b age)
    (works : c.traffic.service.Works next.traffic.service) (stage : next.stage = c.stage)
    (acceptor : next.bound.acceptor = c.bound.acceptor)
    (address : next.bound.address = c.bound.address) : next.IsAt b age := by
  cases age with
  | listening =>
      obtain ⟨before, owns⟩ := isAt
      exact ⟨stage.trans before, owns.works works acceptor address⟩
  | stopping =>
      obtain ⟨before, isOpen, loops⟩ := isAt
      exact ⟨stage.trans before, works.closed.trans isOpen, works.loops.trans loops⟩
  | released =>
      obtain ⟨⟨joined, close, before⟩, loops⟩ := isAt
      exact ⟨⟨joined, close, stage.trans before⟩, works.loops.trans loops⟩

/-- All that the work of the service can change is how the loop ended. -/
theorem Fits.works (fits : c.Fits b o) {change : Service → Service}
    (works : c.traffic.service.Works (change c.traffic.service)) {loop : Option Outcome}
    (looped : (change c.traffic.service).group.tasks[0]? = some loop) (party : Option Party) :
    (c.setTraffic (c.traffic.onService change)).Fits b { o with loop, party } where
  acceptor := fits.acceptor
  address := fits.address
  setup := fits.setup
  draining := works.draining.trans fits.draining
  cancelled := works.cancelled.trans fits.cancelled
  loop := looped
  age := fits.age.works works rfl rfl rfl

theorem Fits.beside (fits : c.Fits b o) (owned : c.traffic.Owned)
    (beside : c.Beside next who number) (party : Option Party) :
    next.Fits b { o with party } where
  acceptor := beside.acceptor.trans fits.acceptor
  address := beside.address.trans fits.address
  setup := beside.touches.setup.trans fits.setup
  draining := beside.touches.works.draining.trans fits.draining
  cancelled := beside.touches.works.cancelled.trans fits.cancelled
  loop := by
    have unowned : 0 ∉ c.traffic.keysAt Visit.tasks number := fun member =>
      Nat.lt_irrefl 0 (owned.tasks.inside number 0 member).1
    exact (beside.touches.others 0 owned.looped unowned).trans fits.loop
  age := fits.age.works beside.touches.works beside.stage beside.acceptor beside.address

theorem Fits.isRunning_loop (fits : c.Fits b o) :
    c.traffic.service.group.isRunning 0 = o.loop.isNone := by
  rw [Group.isRunning, show c.traffic.service.group.tasks[0]? = _ from fits.loop]
  cases o.loop <;> rfl

/-- The loop takes connections as long as it goes on. -/
theorem Fits.runningLoop (fits : c.Fits b o) :
    ∃ loop : Loop, loop.address = b.address ∧
      c.traffic.service.runningLoops = if o.loop.isSome then [] else [loop] := by
  obtain ⟨stopped, loops⟩ := fits.age.loop fits.acceptor fits.address
  refine ⟨{ Closedown.loopOf b with stopped := stopped }, rfl, ?_⟩
  rw [Service.runningLoops, loops, List.filter_cons]
  change (if c.traffic.service.group.isRunning 0 = true then _ else _) = _
  rw [fits.isRunning_loop]
  cases o.loop <;> rfl

/-- There is no close as long as the server listens. -/
theorem Fits.stage_eq_none_iff (fits : c.Fits b o) : c.stage = none ↔ o.age = .listening := by
  cases age : o.age with
  | listening =>
      obtain ⟨stage, _⟩ : c.IsAt b .listening := age ▸ fits.age
      simp [stage]
  | stopping =>
      obtain ⟨stage, _⟩ : c.IsAt b .stopping := age ▸ fits.age
      simp [stage]
  | released =>
      obtain ⟨⟨_, _, stage⟩, _⟩ : c.IsAt b .released := age ▸ fits.age
      simp [stage]

theorem Fits.localAddress?_eq (fits : c.Fits b o) (s : Server) :
    (c.server s).localAddress? = if o.age = .listening then some b.address else none := by
  rw [← fits.address]
  cases stage : c.stage with
  | none =>
      rw [if_pos (fits.stage_eq_none_iff.mp stage), server, stage]
      rfl
  | some close =>
      have closing : o.age ≠ .listening := fun age => by
        rw [fits.stage_eq_none_iff.mpr age] at stage
        cases stage
      rw [if_neg closing, server, stage]
      rfl

theorem Fits.sockets_eq (fits : c.Fits b o) :
    c.traffic.service.sockets = if o.loop.isSome then [] else [b.address] := by
  obtain ⟨loop, address, running⟩ := fits.runningLoop
  rw [Service.sockets, running]
  cases o.loop with
  | none => exact congrArg (fun address => [address]) address
  | some outcome => rfl

theorem Numbered.beside (numbered : c.Numbered) (beside : c.Beside next who number)
    (free : ∀ one, one ≠ who → c.number? one ≠ some number) : next.Numbered := by
  have known {one : κ} (different : one ≠ who) : next.number? one = c.number? one :=
    (beside.others one different).1
  constructor
  · intro one found given
    by_cases same : one = who
    · rw [same, beside.own] at given
      cases given
      exact beside.inside
    · rw [known same] at given
      exact Nat.lt_of_lt_of_le (numbered.inside one found given) beside.touches.visits
  · intro one other found first second
    by_cases same : one = who <;> by_cases alike : other = who
    · exact same.trans alike.symm
    · rw [same, beside.own] at first
      cases first
      exact absurd ((known alike).symm.trans second) (free other alike)
    · rw [alike, beside.own] at second
      cases second
      exact absurd ((known same).symm.trans first) (free one same)
    · exact numbered.own one other found ((known same).symm.trans first)
        ((known alike).symm.trans second)

/-- What is done for another client is not to be seen. -/
theorem party?_beside (owned : c.traffic.Owned) (beside : c.Beside next other number)
    (different : who ≠ other) (free : c.number? who ≠ some number) :
    next.party? who = c.party? who := by
  obtain ⟨given, guests⟩ := beside.others who different
  unfold party?
  rw [given, guests]
  cases found : c.number? who with
  | none => rfl
  | some own =>
      have apart : own ≠ number := by
        rintro rfl
        exact free found
      rw [Option.bind_eq_bind, Option.bind_some, Option.bind_eq_bind, Option.bind_some,
        beside.touches.elsewhere apart]
      cases held : c.traffic.visits[own]? with
      | none => rfl
      | some visit =>
          refine congrArg some (Visit.party_congr fun task member => ?_)
          have listed : task ∈ c.traffic.keysAt Visit.tasks own :=
            Traffic.keysAt_of_held held ▸ member
          have unowned : task ∉ c.traffic.keysAt Visit.tasks number := fun shared =>
            apart (owned.tasks.own own number task listed shared)
          exact congrArg Option.join
            (beside.touches.others task (owned.tasks.inside own task listed).2 unowned)

theorem Shows.beside (shown : c.Shows b who o) (beside : c.Beside next other number)
    (different : who ≠ other) (free : ∀ one, one ≠ other → c.number? one ≠ some number) :
    next.Shows b who o where
  fits := shown.fits.beside shown.owned beside o.party
  owned := shown.owned.touched beside.touches
  numbered := shown.numbered.beside beside free
  party := (party?_beside shown.owned beside different (free who different)).trans shown.party

/-- A link of a client. -/
def linkOf? (c : Concourse κ) (who : κ) (index : Nat) : Option Link := do
  let number ← c.number? who
  let visit ← c.traffic.visits[number]?
  visit.links[index]?

theorem tie_linkOf? (c : Concourse κ) (who : κ) (index : Nat) :
    (c.linkOf? who index).map (Link.tie c.group) = (c.party? who).bind fun p => p.ties[index]? := by
  unfold linkOf? party?
  cases c.number? who with
  | none => rfl
  | some number =>
      cases held : c.traffic.visits[number]? with
      | none => simp [held]
      | some visit => simp [held, Visit.party]

/-- A connection to the backend is that of one link. -/
theorem Shows.linkOf?_inj (shown : c.Shows b who o) {one other : κ} {index place : Nat}
    {link beside : Link} (first : c.linkOf? one index = some link)
    (second : c.linkOf? other place = some beside) (same : link.backend = beside.backend) :
    one = other ∧ index = place := by
  obtain ⟨number, given, rest⟩ := Option.bind_eq_some_iff.mp first
  obtain ⟨visit, held, found⟩ := Option.bind_eq_some_iff.mp rest
  obtain ⟨number', given', rest'⟩ := Option.bind_eq_some_iff.mp second
  obtain ⟨visit', held', found'⟩ := Option.bind_eq_some_iff.mp rest'
  have tokens := shown.owned.tokens
  have token {index : Nat} {visit : Visit} {link : Link} (found : visit.links[index]? = some link) :
      visit.tokens[index]? = some link.backend.token := by
    rw [Visit.tokens, List.getElem?_map, found]
    rfl
  have mine : link.backend.token ∈ c.traffic.keysAt Visit.tokens number := by
    rw [Traffic.keysAt_of_held held]
    exact List.mem_of_getElem? (token found)
  have also : link.backend.token ∈ c.traffic.keysAt Visit.tokens number' := by
    rw [Traffic.keysAt_of_held held', same]
    exact List.mem_of_getElem? (token found')
  obtain rfl := tokens.own number number' _ mine also
  rw [held] at held'
  cases held'
  have nodup := tokens.nodup number
  rw [Traffic.keysAt_of_held held] at nodup
  refine ⟨shown.numbered.own one other number given given', ?_⟩
  refine (List.getElem?_inj (List.getElem?_eq_some_iff.mp (token found)).1 nodup).mp ?_
  rw [token found, token found', same]

theorem Shows.visited (shown : c.Shows b who o) (numbered : c.number? other = some number) :
    ∃ visit, c.Visited other number visit :=
  have inside := shown.numbered.inside other number numbered
  ⟨c.traffic.visits[number], shown.owned, numbered, List.getElem?_eq_getElem inside⟩

/-- A client of a visit is served, and the server is as it knows it. -/
theorem Shows.serves (shown : c.Shows b who o) (numbered : c.number? who = some number)
    {result : Concourse κ × List Sight} {expected : Party × List Sight}
    (served : c.Serves who number result expected) :
    result.1.Shows b who { o with party := some expected.1 } where
  fits := shown.fits.beside shown.owned served.beside _
  owned := shown.owned.touched served.beside.touches
  numbered := shown.numbered.beside served.beside fun one different given =>
    different (shown.numbered.own one who number given numbered)
  party := served.party

/-- The clients are left alone, apart from the ends of their tasks and from that
they may have to leave. -/
structure Turned (c next : Concourse κ) (onVisit : Visit → Visit) : Prop where
  visits : next.traffic.visits = c.traffic.visits.map onVisit
  keeps : ∀ visit, (onVisit visit).tasks = visit.tasks ∧ (onVisit visit).tokens = visit.tokens
  number? : next.number? = c.number?
  guests : next.guests = c.guests
  tasks : next.group.tasks.length = c.group.tasks.length
  tokens : c.group.tokens.length ≤ next.group.tokens.length

theorem Turned.of_same (visits : next.traffic.visits = c.traffic.visits)
    (number? : next.number? = c.number?) (guests : next.guests = c.guests)
    (tasks : next.group.tasks.length = c.group.tasks.length)
    (tokens : c.group.tokens.length ≤ next.group.tokens.length) : c.Turned next id :=
  ⟨by rw [visits, List.map_id], fun _ => ⟨rfl, rfl⟩, number?, guests, tasks, tokens⟩

theorem Turned.owned {onVisit : Visit → Visit} (turned : c.Turned next onVisit)
    (owned : c.traffic.Owned) : next.traffic.Owned := by
  have same {keys : Visit → List Nat} (keeps : ∀ visit, keys (onVisit visit) = keys visit)
      (number : Nat) : next.traffic.keysAt keys number = c.traffic.keysAt keys number := by
    unfold Traffic.keysAt
    rw [turned.visits, List.getElem?_map]
    cases c.traffic.visits[number]? with
    | none => rfl
    | some visit => exact keeps visit
  have tasks := Nat.le_of_eq turned.tasks.symm
  exact ⟨Nat.lt_of_lt_of_le owned.looped tasks,
    owned.tasks.of_same (same fun visit => (turned.keeps visit).1) tasks,
    owned.tokens.of_same (same fun visit => (turned.keeps visit).2) turned.tokens⟩

theorem Turned.numbered {onVisit : Visit → Visit} (turned : c.Turned next onVisit)
    (numbered : c.Numbered) : next.Numbered := by
  obtain ⟨inside, own⟩ := numbered
  refine ⟨?_, by rw [turned.number?]; exact own⟩
  rw [turned.number?, turned.visits, List.length_map]
  exact inside

/-- What is seen of a client is told by its visit and by the outcomes of its tasks. -/
theorem Shows.turned {later : Outlook} {onVisit : Visit → Visit} (shown : c.Shows b who o)
    (turned : c.Turned next onVisit) (fits : next.Fits b later) {change : Party → Party}
    (changes : ∀ (visit : Visit) (guest : Guest),
      (∀ task ∈ visit.tasks, 0 < task ∧ task < c.group.tasks.length) →
        (onVisit visit).party next.group guest = change (visit.party c.group guest))
    (party : later.party = o.party.map change) : next.Shows b who later where
  fits := fits
  owned := turned.owned shown.owned
  numbered := turned.numbered shown.numbered
  party := by
    rw [party, ← shown.party]
    unfold Concourse.party?
    rw [turned.number?, turned.visits, turned.guests]
    cases c.number? who with
    | none => rfl
    | some number =>
        cases held : c.traffic.visits[number]? with
        | none => simp [held]
        | some visit =>
            have inside : ∀ task ∈ visit.tasks, 0 < task ∧ task < c.group.tasks.length :=
              fun task member =>
                shown.owned.tasks.inside number task (Traffic.keysAt_of_held held ▸ member)
            simp [held, changes visit _ inside]

/-- The tasks of the clients are left alone, too. -/
theorem Shows.turned_same {later : Outlook} (shown : c.Shows b who o) (turned : c.Turned next id)
    (fits : next.Fits b later) (same : later.party = o.party)
    (outcomes : ∀ task, 0 < task → next.group.outcome? task = c.group.outcome? task) :
    next.Shows b who later := by
  have unchanged : later.party = o.party.map id := by rw [same, Option.map_id_fun, id]
  refine shown.turned turned fits (fun visit guest inside => ?_) unchanged
  exact Visit.party_congr fun task member => outcomes task (inside task member).1

theorem Shows.slip (shown : c.Shows b who o) : c.slip.Shows b who o := by
  unfold Concourse.slip
  split
  · exact shown
  · have turned : c.Turned (c.setTraffic (c.traffic.onService fun service =>
        { service.drawId.2 with group := service.group.token.2 })) id := by
      refine .of_same rfl rfl rfl rfl ?_
      change _ ≤ (c.group.tokens ++ [false]).length
      simp
    refine shown.turned_same turned (shown.fits.works ?_ shown.fits.loop o.party) rfl
      fun _ _ => rfl
    exact .of_tasks rfl rfl rfl [] (c.traffic.service.group.tokens ++ [false])
      (by simp [Group.token]) fun _ => rfl

theorem Shows.poolLost (shown : c.Shows b who o) :
    (c.turn .poolLost).Shows b who (o.turn .poolLost) := by
  have looped : c.traffic.service.loseAll.group.tasks[0]? = some (o.loop.or (some .lost)) := by
    change (c.group.tasks.map _)[0]? = _
    rw [List.getElem?_map, shown.fits.loop]
    cases o.loop <;> rfl
  have turned : c.Turned (c.turn .poolLost) Visit.leave :=
    ⟨rfl, fun _ => ⟨rfl, rfl⟩, rfl, rfl, List.length_map _, Nat.le_refl _⟩
  have works := Service.works_loseAll c.traffic.service
  have fits : (c.turn .poolLost).Fits b (o.turn .poolLost) := by
    obtain ⟨acceptor, address, setup, draining, cancelled, _, age⟩ := shown.fits
    exact ⟨acceptor, address, setup, draining, cancelled, looped, age.works works rfl rfl rfl⟩
  refine shown.turned turned fits ?_ rfl
  intro visit guest inside
  exact Visit.party_loseAll fun task member => (inside task member).2

theorem Shows.loopEnds (shown : c.Shows b who o) (outcome : Outcome) :
    (c.turn (.loopEnds outcome)).Shows b who (o.turn (.loopEnds outcome)) := by
  obtain ⟨stopped, loops⟩ := shown.fits.age.loop shown.fits.acceptor shown.fits.address
  have ended : c.turn (.loopEnds outcome) = c.ends 0 outcome := by
    simp only [turn, loops, List.head?_cons]
    rfl
  rw [ended, Concourse.ends, shown.fits.cancelled, Outlook.turn]
  cases mayEnd o.cancelled outcome with
  | false => exact shown
  | true =>
      have looped : (c.traffic.service.finish 0 outcome).group.tasks[0]? =
          some (o.loop.or (some outcome)) :=
        Group.getElem?_finish_self shown.fits.loop outcome
      have tokens := congrArg List.length (Group.finish_tokens c.group 0 outcome)
      have turned : c.Turned
          (c.setTraffic (c.traffic.onService fun service => service.finish 0 outcome)) id :=
        .of_same rfl rfl rfl (Group.length_tasks_finish _ _ _) (Nat.le_of_eq tokens.symm)
      have works := Service.works_finish c.traffic.service 0 outcome
      exact shown.turned_same turned (shown.fits.works works looped o.party) rfl
        fun task later => Group.outcome?_finish_of_ne (Nat.ne_of_gt later) outcome

/-- The close begins with its loop, unless there is one. -/
theorem Shows.closes (shown : c.Shows b who o) :
    (c.turn .closes).Shows b who (o.turn .closes) := by
  have fits := shown.fits
  cases stage : c.stage with
  | none =>
      have age := fits.stage_eq_none_iff.mp stage
      obtain ⟨_, owns⟩ : c.IsAt b .listening := age ▸ fits.age
      have loop : Closedown.loopOf c.bound = Closedown.loopOf b := by
        rw [Closedown.loopOf, fits.acceptor, fits.address]
        rfl
      have begun : c.turn .closes = c.come (Closedown.start c.bound) := by
        simp only [turn, stage]
      rw [begun, Closedown.start_eq owns, loop, Outlook.turn, if_pos age]
      refine shown.turned_same (.of_same rfl rfl rfl rfl (Nat.le_refl _)) ?_ rfl fun _ _ => rfl
      exact ⟨fits.acceptor, fits.address, fits.setup, fits.draining, fits.cancelled, fits.loop,
        ⟨rfl, owns.isOpen, rfl⟩⟩
  | some close =>
      have closing : o.age ≠ .listening := fun age => by
        rw [fits.stage_eq_none_iff.mpr age] at stage
        cases stage
      rw [Outlook.turn, if_neg closing]
      simpa only [turn, stage] using shown

/-- The close goes on when its loop has ended, and raises the signals then. -/
theorem Shows.goesOn (shown : c.Shows b who o) :
    (c.turn .goesOn).Shows b who (o.turn .goesOn) := by
  have fits := shown.fits
  cases age : o.age with
  | listening =>
      obtain ⟨stage, _⟩ : c.IsAt b .listening := age ▸ fits.age
      simpa only [turn, stage, Outlook.turn, age, reduceCtorEq, false_and, if_false] using shown
  | stopping =>
      obtain ⟨stage, isOpen, loops⟩ : c.IsAt b .stopping := age ▸ fits.age
      have runs : c.traffic.service.group.isRunning (Closedown.loopOf b).task = o.loop.isNone :=
        fits.isRunning_loop
      simp only [turn, stage, Closedown.goOn_joining, runs, Outlook.turn, age, true_and]
      cases loop : o.loop with
      | none =>
          have same : c.come ⟨c.traffic, .joining (Closedown.loopOf b)⟩ = c := by
            rw [come, ← stage]
            rfl
          rw [Option.isNone_none, if_pos rfl, same]
          exact shown
      | some outcome =>
          have begun : c.traffic.service.beginClose .immediate =
              { c.traffic.service with closed := true, group := c.group.cancelAll } := by
            rw [Service.beginClose, isOpen]
            rfl
          rw [Option.isNone_some, if_neg (by decide), Option.isSome_some, if_pos rfl,
            Closedown.release_eq isOpen, begun]
          refine shown.turned_same (.of_same rfl rfl rfl rfl (Nat.le_refl _)) ?_ rfl fun _ _ => rfl
          exact ⟨fits.acceptor, fits.address, fits.setup, rfl, rfl, loop ▸ fits.loop,
            ⟨⟨_, _, rfl⟩, loops⟩⟩
  | released =>
      obtain ⟨⟨joined, close, stage⟩, loops⟩ : c.IsAt b .released := age ▸ fits.age
      simp only [turn, stage, Closedown.goOn_releasing, Outlook.turn, age, reduceCtorEq, false_and,
        if_false]
      refine shown.turned_same (.of_same rfl rfl rfl rfl (Nat.le_refl _)) ?_ rfl fun _ _ => rfl
      exact ⟨fits.acceptor, fits.address, fits.setup, fits.draining, fits.cancelled, fits.loop,
        age ▸ ⟨⟨_, _, rfl⟩, loops⟩⟩

theorem Shows.turn (shown : c.Shows b who o) (turn : Turn) :
    (c.turn turn).Shows b who (o.turn turn) := by
  cases turn with
  | closes => exact shown.closes
  | goesOn => exact shown.goesOn
  | loopEnds outcome => exact shown.loopEnds outcome
  | poolLost => exact shown.poolLost

end Concourse

/-- A server that begins to listen is known to nobody. -/
theorem Bound.Begins.shows {α : Type} {config : Configuration α HostKey.Source} {address : Address}
    (begins : b.Begins config address) (who : κ) :
    (Concourse.start b).Shows b who
      ⟨.listening, b.traffic.service.group.draining, b.traffic.service.group.cancelled, none,
        none⟩ where
  fits := by
    have owns : b.Owns := (invariant_owns α).begins config b (begins.found ▸ begins)
    exact ⟨rfl, rfl, rfl, rfl, rfl, (Group.isRunning_iff _ _).mp begins.listens.runs, rfl, owns⟩
  owned := by
    have nobody (keys : Visit → List Nat) (number : Nat) : b.traffic.keysAt keys number = [] := by
      rw [Traffic.keysAt, begins.visits]
      rfl
    have distinct (keys : Visit → List Nat) (low high : Nat) :
        b.traffic.Distinct keys low high := by
      refine ⟨fun number key member => ?_, fun one other key member => ?_, fun number => ?_⟩
      · simp [nobody] at member
      · simp [nobody] at member
      · rw [nobody]
        exact List.nodup_nil
    exact ⟨Group.lt_length_of_isRunning begins.listens.runs, distinct _ _ _, distinct _ _ _⟩
  numbered := ⟨nofun, nofun⟩
  party := rfl

namespace Concourse

variable [DecidableEq κ]

/-- A connection that is taken in gets a task, unless the group drains. -/
theorem task_accept (s : Service) (loop : Loop) :
    (s.accept loop).1.task = if s.group.draining then none else some s.group.tasks.length := by
  cases drains : s.group.draining <;>
    simp [Service.accept, Service.drawId, Group.token, Group.enrol, drains]

theorem outcome?_accept {s : Service} {loop : Loop} {task : Nat}
    (given : (s.accept loop).1.task = some task) :
    (s.accept loop).2.group.outcome? task = none := by
  obtain ⟨tasks, task, arrival, service, how⟩ := s.accept_eq loop
  rw [arrival] at given
  rw [service]
  rcases how with ⟨rfl, _⟩ | ⟨rfl, rfl⟩
  · cases given
  · cases given
    simp [Group.outcome?]

/-- Who comes is taken in as the next visit, as long as the loop goes on. -/
theorem Fits.arrive (fits : c.Fits b o) (owned : c.traffic.Owned) (who : κ) :
    (o.loop.isSome = true ∧ c.arrive who = (c, [])) ∨
      (o.loop.isSome = false ∧ ∃ next,
        c.arrive who = (next, if o.draining then [.shown .dropped] else []) ∧
        c.Beside next who c.traffic.visits.length ∧
        next.party? who =
          some ⟨if o.draining then none else some none, .new, false, false, [], .new⟩) := by
  obtain ⟨loop, first, running⟩ := fits.runningLoop
  cases ended : o.loop.isSome with
  | true =>
      rw [ended, if_pos rfl] at running
      exact Or.inl ⟨rfl, by rw [Concourse.arrive, running]; rfl⟩
  | false =>
      rw [ended, if_neg (by decide)] at running
      have runs : c.traffic.service.group.isRunning loop.task = true := by
        have member : loop ∈ c.traffic.service.runningLoops := by simp [running]
        exact (List.mem_filter.mp member).2
      let arrival := (c.traffic.service.accept loop).1
      let t : Traffic :=
        { c.traffic with
          service := (c.traffic.service.accept loop).2
          visits := c.traffic.visits ++ [.new arrival] }
      let next : Concourse κ :=
        ({ c.setTraffic t with
            number? := fun other =>
              if other = who then some c.traffic.visits.length else c.number? other } :
          Concourse κ).setGuest who .new
      have task : arrival.task = if o.draining then none else some c.group.tasks.length := by
        rw [← fits.draining]
        exact task_accept _ loop
      have arrived : c.arrive who = (next, if o.draining then [.shown .dropped] else []) := by
        have stepped : c.traffic.step (.arrives loop) =
            (t, if arrival.task.isNone then [.dropped] else []) := by
          simp only [Traffic.step, runs, if_true]
          rfl
        simp only [Concourse.arrive, running, List.head?_cons, Concourse.event, stepped, task]
        cases o.draining <;> rfl
      have touches : c.traffic.Touches t c.traffic.visits.length :=
        Traffic.touches_arrive c.traffic loop
      have held : t.visits[c.traffic.visits.length]? = some (.new arrival) := by
        simp [t]
      have visited : next.Visited who c.traffic.visits.length (.new arrival) :=
        ⟨owned.touched touches, if_pos rfl, held⟩
      refine Or.inr ⟨rfl, next, arrived, ?_, ?_⟩
      · have inside := (List.getElem?_eq_some_iff.mp held).1
        exact ⟨touches, rfl, rfl, rfl, if_pos rfl, inside,
          fun other different => ⟨if_neg different, if_neg different⟩⟩
      · have guest : next.guests who = .new := if_pos rfl
        have outcome : arrival.task.map next.group.outcome? =
            if o.draining then none else some none := by
          rw [task]
          cases drains : o.draining with
          | true => rfl
          | false =>
              rw [drains] at task
              exact congrArg some (outcome?_accept task)
        rw [visited.party?_eq, guest, ← outcome]
        rfl

theorem Shows.arrive (shown : c.Shows b who o) :
    (c.arrive who).1.Shows b who o.arrive.1 ∧ (c.arrive who).2 = o.arrive.2 := by
  rcases shown.fits.arrive shown.owned who with
    ⟨ended, stays⟩ | ⟨going, next, arrived, beside, party⟩
  · rw [stays, Outlook.arrive, if_pos ended]
    exact ⟨shown, rfl⟩
  · have expected : o.arrive =
        ({ o with party := next.party? who },
          if o.draining then [.shown .dropped] else []) := by
      rw [Outlook.arrive, if_neg (by simp [going]), party]
    have free : ∀ one, one ≠ who → c.number? one ≠ some c.traffic.visits.length :=
      fun one _ given => Nat.lt_irrefl _ (shown.numbered.inside one _ given)
    rw [arrived, expected]
    exact ⟨⟨shown.fits.beside shown.owned beside _, shown.owned.touched beside.touches,
      shown.numbered.beside beside free, rfl⟩, rfl⟩

/-- What concerns the client comes to what it would by itself. -/
theorem Shows.step_concerning (shown : c.Shows b who o) {occurrence : Occurrence κ}
    (about : occurrence.concerns who = true) :
    (c.step occurrence).1.Shows b who (o.step b.traffic.setup.subsystems occurrence).1 ∧
      (c.step occurrence).2 = (o.step b.traffic.setup.subsystems occurrence).2 := by
  cases occurrence with
  | server turn => exact ⟨shown.turn turn, rfl⟩
  | of one happening =>
      obtain rfl : one = who := of_decide_eq_true about
      cases numbered : c.number? one with
      | none =>
          have unseen : o.party = none := by
            rw [← shown.party, party?, numbered]
            rfl
          simp only [step, numbered, Outlook.step, unseen]
          cases happening with
          | arrives => exact shown.arrive
          | slips => exact ⟨shown.slip, rfl⟩
          | _ => exact ⟨shown, rfl⟩
      | some number =>
          obtain ⟨visit, visited⟩ := shown.visited numbered
          have seen : o.party = some _ := shown.party.symm.trans visited.party?_eq
          have served : c.Serves one number (c.serve one number visit happening)
              ((visit.party c.group (c.guests one)).act b.traffic.setup.subsystems o.draining
                o.cancelled happening) := by
            rw [← shown.fits.setup, ← shown.fits.draining, ← shown.fits.cancelled]
            exact visited.alone happening
          simp only [step, numbered, visited.held, Outlook.step, seen]
          exact ⟨shown.serves numbered served, served.told⟩

/-- What concerns another client alone comes to nothing. -/
theorem Shows.step_other (shown : c.Shows b who o) {occurrence : Occurrence κ}
    (apart : occurrence.concerns who = false) : (c.step occurrence).1.Shows b who o := by
  cases occurrence with
  | server turn => cases apart
  | of other happening =>
      have different : who ≠ other := fun same => of_decide_eq_false apart same.symm
      cases numbered : c.number? other with
      | none =>
          simp only [step, numbered]
          cases happening with
          | arrives =>
              rcases shown.fits.arrive shown.owned other with
                ⟨_, stays⟩ | ⟨_, next, arrived, beside, _⟩
              · change (c.arrive other).1.Shows b who o
                rw [stays]
                exact shown
              · change (c.arrive other).1.Shows b who o
                rw [arrived]
                exact shown.beside beside different fun one _ given =>
                  Nat.lt_irrefl _ (shown.numbered.inside one _ given)
          | slips => exact shown.slip
          | _ => exact shown
      | some number =>
          obtain ⟨visit, visited⟩ := shown.visited numbered
          simp only [step, numbered, visited.held]
          exact shown.beside (visited.alone happening).beside different fun one apart given =>
            apart (shown.numbered.own one other number given numbered)

/-- All that a client sees is what it would see if it were the only one. -/
theorem Shows.run (shown : c.Shows b who o) (occurrences : List (Occurrence κ)) :
    (c.run occurrences).Shows b who (o.run b.traffic.setup.subsystems (about who occurrences)) ∧
      c.seen who occurrences = o.seen b.traffic.setup.subsystems (about who occurrences) := by
  induction occurrences generalizing c o with
  | nil => exact ⟨shown, rfl⟩
  | cons first rest ih =>
      cases concerns : first.concerns who with
      | true =>
          obtain ⟨after, told⟩ := shown.step_concerning concerns
          obtain ⟨last, later⟩ := ih after
          rw [about, List.filter_cons_of_pos concerns]
          refine ⟨last, ?_⟩
          rw [Concourse.seen, if_pos concerns, told, later]
          rfl
      | false =>
          obtain ⟨last, later⟩ := ih (shown.step_other concerns)
          rw [about, List.filter_cons_of_neg (by simp [concerns])]
          refine ⟨last, ?_⟩
          rw [Concourse.seen, if_neg (by simp [concerns]), List.nil_append]
          exact later

end Concourse

end Shown

/--
Two runs of a server that has begun to listen, of any length and with any number
of clients.  One client and its backends do the same in both, its tasks end in
the same way, and the same befalls the server; of the others nothing is said:
how many there are, when they come, whether they log in, what they ask for and
what becomes of it, and how all this falls in with what the client does.

Then the client and its backends see the same in both runs, one thing after the
other: each answer, each channel that is closed, all bytes, the end of each link
and the reason that it is told.  What there is of the client and of its links in
the end is the same, but for the numbers that they were given, and the server
listens at the same address or not at all.

A connection to the backend is that of one link of one client, and all that it
ever gets was given on the channel of that link, by that client and after the
channel was opened.  It gets these bytes in their order.
-/
theorem seen_of_others {α κ : Type} [DecidableEq κ] {s : Server}
    {config : Configuration α HostKey.Source} {around : Surroundings} {b : Bound}
    (listening : (s.bind config around).result = .ok ())
    (bound : (s.bind config around).server.lifecycle = .bound b) (who : κ)
    {first second : List (Occurrence κ)} (agree : about who first = about who second) :
    let start : Concourse κ := .start b
    let server := (s.bind config around).server
    let one := start.run first
    let other := start.run second
    start.seen who first = start.seen who second ∧ one.party? who = other.party? who ∧
      ((one.server server).localAddress? = (other.server server).localAddress? ∧
        one.traffic.service.sockets = other.traffic.service.sockets) ∧
      ∀ index,
        (one.linkOf? who index = none → delivered index (start.seen who first) = []) ∧
        ∀ link, one.linkOf? who index = some link →
          (∃ bytes, Given (doings (about who first)) link.channel bytes ∧
            delivered index (start.seen who first) <+: bytes) ∧
          ∀ client place beside, one.linkOf? client place = some beside →
            beside.backend = link.backend → client = who ∧ place = index := by
  intro start server one other
  obtain ⟨_, begun, address, state, begins⟩ := bind_begins listening
  rw [bound] at state
  cases state
  have shown := begins.shows who
  obtain ⟨last, seen⟩ := shown.run first
  obtain ⟨ended, told⟩ := shown.run second
  rw [← agree] at ended told
  refine ⟨seen.trans told.symm, last.party.trans ended.party.symm, ⟨?_, ?_⟩, fun index => ?_⟩
  · rw [last.fits.localAddress?_eq, ended.fits.localAddress?_eq]
  · rw [last.fits.sockets_eq, ended.fits.sockets_eq]
  · have nothing : Outlook.Account _ b.traffic.setup.subsystems [] [] :=
      ⟨fun _ _ => rfl, fun p known => nomatch shown.party.trans known⟩
    have account := nothing.run (about who first)
    rw [List.nil_append, List.nil_append, ← seen] at account
    have tie := one.tie_linkOf? who index
    rw [last.party] at tie
    refine ⟨fun unlinked => ?_, fun link linked => ⟨?_, fun client place beside found same => ?_⟩⟩
    · rw [unlinked] at tie
      exact account.delivered_of_untied tie.symm
    · rw [linked] at tie
      exact account.delivered_of_tie tie.symm
    · exact last.linkOf?_inj found linked same

/-- A client whose neighbour fails to log in and leaves in the midst of its doings. -/
theorem seen_of_neighbour :
    let config : Configuration Unit HostKey.Source :=
      ⟨.localhost 2022, .localhost 830, (), .memory [⟨.ed25519 [], [], ""⟩],
        ⟨.ofSeconds 600, .ofSeconds 600, .ofSeconds 10⟩⟩
    let around : Surroundings :=
      ⟨.empty, 0, [], .multiThreaded, [], fun _ => .ok (), fun address _ => .opened address⟩
    let identified : Secure.Keeper.Findings :=
      ⟨.session, false, some true, .session, false, false, false, false, false⟩
    let asks : List (Occurrence Bool) :=
      [.of true .arrives, .of true (.polls identified), .of true (.attempts true),
        .of true (.opens 0), .of true (.requests 0 "netconf")]
    let gives : List (Occurrence Bool) :=
      [.of true (.lands (.ok ())), .of true (.gives 0 (.more [1, 2])),
        .of true (.moves 0 .clientToBackend (.reads 9)),
        .of true (.moves 0 .clientToBackend (.writes 2))]
    let comes : List (Occurrence Bool) :=
      [.of false .arrives, .of false (.polls identified), .of false (.attempts false)]
    let leaves : List (Occurrence Bool) := [.of false .hangsUp, .of false (.fails .panicked)]
    ∃ b, ((new .default).bind config around).server.lifecycle = .bound b ∧
      (Concourse.start b).seen true (asks ++ gives) =
        (Concourse.start b).seen true (comes ++ asks ++ leaves ++ gives) ∧
      delivered 0 ((Concourse.start b).seen true (asks ++ gives)) = [1, 2] := by
  intro config around identified asks gives comes leaves
  obtain ⟨b, bound⟩ : ∃ b, ((new .default).bind config around).server.lifecycle = .bound b :=
    ⟨_, rfl⟩
  have listening : ((new .default).bind config around).result = .ok () := rfl
  have agree : about true (asks ++ gives) = about true (comes ++ asks ++ leaves ++ gives) := rfl
  obtain ⟨seen, _⟩ := seen_of_others listening bound true agree
  refine ⟨b, bound, seen, ?_⟩
  cases bound
  decide +kernel

end Server

end NetconfGate

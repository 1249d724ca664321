import NetconfGate.Proofs.Server.Ownership
import NetconfGate.Server.Concourse

/-!
# The server as one client knows it

A client knows of itself and of its links, of the signals of the group, of the
loop that took it in, and of how far the close is.  All that it gets to see is
told by these, and what it does changes nothing else of them than its own.
-/

namespace NetconfGate

open Channel

namespace Server

namespace Party

def isHeard (p : Party) : Bool := p.guest.asked.isNone && (p.up && !p.gone)

def hears (p : Party) : Bool := p.isHeard && p.session.authenticated

/-- What ends has an outcome, and keeps it. -/
def ends (p : Party) (outcome : Outcome) : Party :=
  { p with task := p.task.map fun told => told.or (some outcome) }

def setTie (p : Party) (index : Nat) (tie : Tie) : Party :=
  { p with ties := p.ties.set index tie }

/-- Whatever goes on is lost, and what serves the client too. -/
def lose (p : Party) : Party :=
  { p.ends .lost with
    gone := true
    ties := p.ties.map fun tie => { tie with outcome := tie.outcome.or (some .lost) } }

def land (p : Party) (subsystems : List String) (draining : Bool) (asked : Asked)
    (outcome : Except Channel.Error Unit) : Party × List Sight :=
  let connected := if asked.dialled then outcome else .error .groupShutdown
  let starts := connected.isOk && !draining
  let response := p.session.request subsystems asked.channel asked.name connected starts
  ({ p with
      session := response.session
      ties := if starts then p.ties ++ [⟨asked.channel, .new, .bridging, none⟩] else p.ties
      guest := p.guest.land asked.channel starts },
    .shown (.reply asked.channel response.success) ::
      (if response.closed then [.shown (.channelClosed asked.channel)] else []))

def poll (p : Party) (cancelled : Bool) (f : Secure.Keeper.Findings) : Party × List Sight :=
  let f := { f with cancelled, ended := p.gone }
  let keeper := p.guest.keeper.poll f
  let up := p.up || p.guest.keeper.takes? f = some true
  let next := { p with up, guest := { p.guest with keeper } }
  let told := if keeper.told = p.guest.keeper.told then [] else (keeper.told.map .told).toList
  if keeper.stage = .finished then
    (next.ends (if cancelled then .cancelled else .completed), told)
  else (next, told)

def relay (p : Party) (index : Nat) (direction : Relay.Direction) (event : Pump.Event) (tie : Tie) :
    Party × List Sight :=
  let (relay, bytes) := tie.relay.step direction event
  let told : List Sight := if bytes.isEmpty then [] else [.shown (.delivered index direction bytes)]
  if relay.ended.isSome then
    (p.setTie index { tie with relay, state := .closed, outcome := some .completed },
      told ++ [.shown (.linkOver index), .shown (.channelClosed tie.channel)])
  else (p.setTie index { tie with relay }, told)

/-- A link of the client, while its task goes on. -/
def tie? (p : Party) (index : Nat) : Option Tie :=
  p.ties[index]?.filter fun tie => tie.outcome.isNone

def act (p : Party) (subsystems : List String) (draining cancelled : Bool) :
    Happening → Party × List Sight
  | .arrives | .slips => (p, [])
  | .attempts accepted =>
      if p.isHeard then
        ({ p with session := p.session.attempt accepted }, [.shown (.login accepted)])
      else (p, [])
  | .opens channel =>
      if p.hears then
        ({ p with
            session := p.session.openChannel channel
            guest := p.guest.openChannel channel },
          [.shown (.opened channel)])
      else (p, [])
  | .gives channel input =>
      if p.hears then
        ({ p with guest := p.guest.feed (p.guest.current channel) .clientToBackend input }, [])
      else (p, [])
  | .requests channel name =>
      if p.hears then
        if p.session.claims subsystems channel name then
          ({ p with guest := { p.guest with asked := some ⟨channel, name, !draining⟩ } }, [])
        else (p, [.shown (.reply channel false)])
      else (p, [])
  | .lands outcome =>
      match p.guest.asked with
      | none => (p, [])
      | some asked => p.land subsystems draining asked outcome
  | .closes channel =>
      if p.hears then
        ({ p with
            session := p.session.closeChannel channel
            guest := p.guest.feed (p.guest.current channel) .clientToBackend .finish },
          [])
      else (p, [])
  | .hangsUp =>
      if p.guest.asked.isNone then ({ p with gone := true, guest := p.guest.hangUp }, [])
      else (p, [])
  | .polls f => if p.task = some none then p.poll cancelled f else (p, [])
  | .backs index input =>
      ({ p with guest := p.guest.feed p.guest.crossed[index]? .backendToClient input }, [])
  | .moves index direction move =>
      match p.tie? index with
      | none => (p, [])
      | some tie =>
          match p.guest.move? index direction move tie.relay with
          | none => (p, [])
          | some (event, guest) => { p with guest := guest }.relay index direction event tie
  | .fails outcome =>
      if mayEnd cancelled outcome then (p.ends outcome, []) else (p, [])
  | .drops index outcome =>
      match p.tie? index with
      | none => (p, [])
      | some tie =>
          if mayEnd cancelled outcome then
            (p.setTie index { tie with outcome := some outcome }, [.shown (.linkOver index)])
          else (p, [])

end Party

/-- How far the close is. -/
inductive Age where
  | listening
  | stopping
  | released
deriving DecidableEq

/-- `loop` is how the loop ended, if it has. -/
structure Outlook where
  age : Age
  draining : Bool
  cancelled : Bool
  loop : Option Outcome
  party : Option Party

namespace Outlook

def turn (o : Outlook) : Turn → Outlook
  | .closes => if o.age = .listening then { o with age := .stopping } else o
  | .goesOn =>
      if o.age = .stopping ∧ o.loop.isSome then
        { o with age := .released, draining := true, cancelled := true }
      else o
  | .loopEnds outcome =>
      if mayEnd o.cancelled outcome then { o with loop := o.loop.or (some outcome) } else o
  | .poolLost => { o with loop := o.loop.or (some .lost), party := o.party.map Party.lose }

/-- The client comes, and is dropped by a group that drains. -/
def arrive (o : Outlook) : Outlook × List Sight :=
  if o.loop.isSome then (o, [])
  else
    let task := if o.draining then none else some none
    ({ o with party := some ⟨task, .new, false, false, [], .new⟩ },
      if o.draining then [.shown .dropped] else [])

def step {κ : Type} (o : Outlook) (subsystems : List String) : Occurrence κ → Outlook × List Sight
  | .server turn => (o.turn turn, [])
  | .of _ happening =>
      match o.party with
      | none =>
          match happening with
          | .arrives => o.arrive
          | _ => (o, [])
      | some party =>
          let (party, told) := party.act subsystems o.draining o.cancelled happening
          ({ o with party := some party }, told)

def run {κ : Type} (o : Outlook) (subsystems : List String) (occurrences : List (Occurrence κ)) :
    Outlook :=
  occurrences.foldl (fun o occurrence => (o.step subsystems occurrence).1) o

def seen {κ : Type} (o : Outlook) (subsystems : List String) : List (Occurrence κ) → List Sight
  | [] => []
  | occurrence :: rest =>
      (o.step subsystems occurrence).2 ++ (o.step subsystems occurrence).1.seen subsystems rest

end Outlook

end Server

namespace Channel.Group

variable {g : Group} {task other : Nat}

theorem isRunning_eq (inside : task < g.tasks.length) :
    g.isRunning task = (g.outcome? task).isNone := by
  rw [isRunning, outcome?, List.getElem?_eq_getElem inside]
  cases g.tasks[task] <;> rfl

theorem outcome?_finish_of_ne (different : other ≠ task) (outcome : Outcome) :
    (g.finish task outcome).outcome? other = g.outcome? other := by
  rw [outcome?, g.getElem?_finish_of_ne different, outcome?]

theorem getElem?_finish_self {told : Option Outcome} (found : g.tasks[task]? = some told)
    (outcome : Outcome) : (g.finish task outcome).tasks[task]? = some (told.or (some outcome)) := by
  cases told with
  | none => rw [getElem?_finish ((isRunning_iff g task).mpr found), if_pos rfl, Option.none_or]
  | some before =>
      have ended : g.isRunning task = false := by
        rw [isRunning, found]
        rfl
      rw [outcome?_finish_of_ended outcome ended, found, Option.some_or]

theorem outcome?_finish_self (inside : task < g.tasks.length) (outcome : Outcome) :
    (g.finish task outcome).outcome? task = (g.outcome? task).or (some outcome) := by
  rw [outcome?, outcome?, getElem?_finish_self (List.getElem?_eq_getElem inside),
    List.getElem?_eq_getElem inside]
  rfl

theorem outcome?_loseAll (inside : task < g.tasks.length) :
    g.loseAll.outcome? task = (g.outcome? task).or (some .lost) := by
  rw [outcome?, outcome?, loseAll, List.getElem?_map, List.getElem?_eq_getElem inside]
  cases g.tasks[task] <;> rfl

end Channel.Group

namespace Server

/-! ## What is seen of a visit -/

section Parties

variable {g next : Group} {visit : Visit} {guest : Guest}

/-- A visit looks the same as long as its tasks are as they were. -/
theorem Visit.party_congr (same : ∀ task ∈ visit.tasks, next.outcome? task = g.outcome? task) :
    visit.party next guest = visit.party g guest := by
  unfold Visit.party
  congr 1
  · cases arrived : visit.arrival.task with
    | none => rfl
    | some task =>
        simp [same task (visit.mem_tasks arrived)]
  · refine List.map_congr_left fun link member => ?_
    have held : link.task ∈ visit.tasks :=
      List.mem_append_right _ (List.mem_map_of_mem member)
    simp [Link.tie, same link.task held]

theorem Visit.tie?_party (visit : Visit) (index : Nat) :
    (visit.party g guest).tie? index =
      (visit.links[index]?.filter fun link => (g.outcome? link.task).isNone).map (Link.tie g) := by
  unfold Party.tie? Visit.party
  rw [List.getElem?_map]
  cases visit.links[index]? with
  | none => rfl
  | some link =>
      rw [Option.map_some, Option.filter_some, Option.filter_some]
      change (if (g.outcome? link.task).isNone = true then _ else _) = _
      cases (g.outcome? link.task).isNone <;> rfl

/-- A link changes, and its task goes on. -/
theorem Visit.party_set (index : Nat) (changed : Link) :
    ({ visit with links := visit.links.set index changed } : Visit).party g guest =
      (visit.party g guest).setTie index (changed.tie g) := by
  simp [Visit.party, Party.setTie, List.map_set]

/-- The end of the visit's own task. -/
theorem Visit.party_finish_own {task : Nat} (arrived : visit.arrival.task = some task)
    (nodup : visit.tasks.Nodup) (inside : task < g.tasks.length) (outcome : Outcome) :
    visit.party (g.finish task outcome) guest = (visit.party g guest).ends outcome := by
  have apart : ∀ link ∈ visit.links, link.task ≠ task := by
    intro link member same
    rw [Visit.tasks, arrived] at nodup
    exact (List.nodup_cons.mp nodup).1 (same ▸ List.mem_map_of_mem member)
  unfold Visit.party Party.ends
  congr 1
  · simp [arrived, Group.outcome?_finish_self inside]
  · refine List.map_congr_left fun link member => ?_
    simp [Link.tie, Group.outcome?_finish_of_ne (apart link member)]

/-- The end of the task of a link, which may have changed otherwise. -/
theorem Visit.party_finish_link {index : Nat} {link changed : Link}
    (held : visit.links[index]? = some link) (kept : changed.task = link.task)
    (nodup : visit.tasks.Nodup) (inside : link.task < g.tasks.length) (outcome : Outcome) :
    ({ visit with links := visit.links.set index changed } : Visit).party
        (g.finish link.task outcome) guest =
      (visit.party g guest).setTie index
        { changed.tie g with outcome := (g.outcome? link.task).or (some outcome) } := by
  obtain ⟨_, distinct, apart⟩ := List.nodup_append.mp nodup
  unfold Visit.party Party.setTie
  congr 1
  · cases arrived : visit.arrival.task with
    | none => rfl
    | some task =>
        have differ : task ≠ link.task :=
          apart task (by simp [arrived]) link.task
            (List.mem_map_of_mem (List.mem_of_getElem? held))
        simp [Group.outcome?_finish_of_ne differ]
  · have inRange : index < visit.links.length := (List.getElem?_eq_some_iff.mp held).1
    refine List.ext_getElem? fun other => ?_
    rw [List.getElem?_map, List.getElem?_set, List.getElem?_set, List.getElem?_map,
      List.length_map]
    by_cases same : index = other
    · rw [if_pos same, if_pos same, if_pos inRange, if_pos inRange]
      simp [Link.tie, kept, Group.outcome?_finish_self inside]
    · rw [if_neg same, if_neg same]
      cases found : visit.links[other]? with
      | none => rfl
      | some beside =>
          -- Two links of one task would be one link.
          have differ : beside.task ≠ link.task := by
            intro shared
            refine same ((List.getElem?_inj (by simpa using inRange) distinct).mp ?_)
            simp [held, found, shared]
          simp [Link.tie, Group.outcome?_finish_of_ne differ]

/-- The end of the task of a link that goes on. -/
theorem Visit.party_drop {index : Nat} {link : Link} (held : visit.links[index]? = some link)
    (going : g.outcome? link.task = none) (nodup : visit.tasks.Nodup)
    (inside : link.task < g.tasks.length) (outcome : Outcome) :
    visit.party (g.finish link.task outcome) guest =
      (visit.party g guest).setTie index { link.tie g with outcome := some outcome } := by
  obtain ⟨inRange, same⟩ := List.getElem?_eq_some_iff.mp held
  have unchanged : ({ visit with links := visit.links.set index link } : Visit) = visit := by
    rw [← same, List.set_getElem_self]
  have ended : Visit.party _ guest _ = _ :=
    Visit.party_finish_link held (rfl : link.task = link.task) nodup inside outcome
  rwa [unchanged, going, Option.none_or] at ended

/-- Whatever the visit has to do with is lost. -/
theorem Visit.party_loseAll (inside : ∀ task ∈ visit.tasks, task < g.tasks.length) :
    visit.leave.party g.loseAll guest = (visit.party g guest).lose := by
  unfold Visit.party Party.lose Party.ends Visit.leave
  rw [List.map_map]
  congr 1
  · cases arrived : visit.arrival.task with
    | none => rfl
    | some task =>
        simp [Group.outcome?_loseAll (inside task (visit.mem_tasks arrived))]
  · refine List.map_congr_left fun link member => ?_
    have held : link.task ∈ visit.tasks :=
      List.mem_append_right _ (List.mem_map_of_mem member)
    simp [Link.tie, Group.outcome?_loseAll (inside link.task held)]

/-- A link that was started runs in the next task. -/
theorem Visit.party_start {link : Link} (latest : link.task = g.tasks.length)
    (inside : ∀ task ∈ visit.tasks, task < g.tasks.length) (session : Secure.Session) :
    ({ visit with session := session, links := visit.links ++ [link] } : Visit).party
        { g with tasks := g.tasks ++ [none] } guest =
      { visit.party g guest with
        session := session
        ties := (visit.party g guest).ties ++
          [⟨link.channel, link.relay, link.bridge.state, none⟩] } := by
  have before : visit.party { g with tasks := g.tasks ++ [none] } guest = visit.party g guest :=
    Visit.party_congr fun task member => by
      rw [Group.outcome?, List.getElem?_append_left (inside task member)]
      rfl
  have begun : link.tie { g with tasks := g.tasks ++ [none] } =
      ⟨link.channel, link.relay, link.bridge.state, none⟩ := by
    simp [Link.tie, Group.outcome?, latest]
  rw [← before, ← begun]
  simp [Visit.party]

end Parties

end Server

end NetconfGate

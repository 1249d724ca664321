import NetconfGate.Proofs.Server.Traffic
import NetconfGate.Server.Dialogue
import Mathlib.Data.List.Induction

/-!
# What a dialogue comes to

The channels that a client may ask for a subsystem on are told by what it did: a
channel is held from when it is opened until it is closed or claimed.  Each
opening is claimed once at the most, and a claim starts one bridge at the most.
Whatever goes on beside the dialogue changes neither the channels nor the number
of the links.
-/

namespace NetconfGate.Server

open Channel

namespace Act

def isOpening (channel : Nat) : Act → Bool
  | .opens opened => opened == channel
  | _ => false

def isClosing (channel : Nat) : Act → Bool
  | .closes closed => closed == channel
  | _ => false

/-- It asks for a subsystem that is known. -/
def isClaiming (subsystems : List String) (channel : Nat) : Act → Bool
  | .requests asked name _ _ => asked == channel && subsystems.contains name
  | _ => false

end Act

/-- The channel was opened, and neither closed nor claimed since. -/
def isHeld (subsystems : List String) (past : List Act) (channel : Nat) : Bool :=
  past.foldl
    (fun held act => act.isOpening channel ||
      (held && !act.isClosing channel && !act.isClaiming subsystems channel))
    false

/-- A request for the subsystem claims the channel. -/
def grants (subsystems : List String) (past : List Act) (channel : Nat) (name : String) : Bool :=
  subsystems.contains name && isHeld subsystems past channel

/-- How often the channel was opened. -/
def openings (past : List Act) (channel : Nat) : Nat := past.countP (Act.isOpening channel)

/-- What an act claims: a channel, and which of its openings. -/
def Act.claim? (subsystems : List String) (past : List Act) : Act → Option (Nat × Nat)
  | .requests channel name _ _ =>
      if grants subsystems past channel name then some (channel, openings past channel) else none
  | _ => none

def claimsFrom (subsystems : List String) (past : List Act) : List Act → List (Nat × Nat)
  | [] => []
  | act :: rest =>
      (act.claim? subsystems past).toList ++ claimsFrom subsystems (past ++ [act]) rest

/-- All that was claimed, in order. -/
def claims (subsystems : List String) (past : List Act) : List (Nat × Nat) :=
  claimsFrom subsystems [] past

section Past

variable (subsystems : List String) (past : List Act) (last : Act) (channel : Nat)

theorem isHeld_concat :
    isHeld subsystems (past ++ [last]) channel =
      (last.isOpening channel || (isHeld subsystems past channel &&
        !last.isClosing channel && !last.isClaiming subsystems channel)) := by
  simp [isHeld, List.foldl_append]

theorem openings_concat :
    openings (past ++ [last]) channel =
      openings past channel + if last.isOpening channel then 1 else 0 := by
  simp [openings, List.countP_append, List.countP_singleton]

theorem claimsFrom_concat (acts : List Act) :
    claimsFrom subsystems past (acts ++ [last]) =
      claimsFrom subsystems past acts ++ (last.claim? subsystems (past ++ acts)).toList := by
  induction acts generalizing past with
  | nil => simp [claimsFrom]
  | cons act rest ih =>
      simp only [List.cons_append, claimsFrom, ih, List.append_assoc, List.nil_append]

theorem claims_concat :
    claims subsystems (past ++ [last]) =
      claims subsystems past ++ (last.claim? subsystems past).toList :=
  claimsFrom_concat subsystems [] last past

end Past

variable {subsystems : List String} {past : List Act} {channel : Nat}

/-- What is held was opened. -/
theorem openings_pos (held : isHeld subsystems past channel = true) :
    0 < openings past channel := by
  induction past using List.reverseRecOn with
  | nil => cases held
  | append_singleton past last ih =>
      rw [isHeld_concat] at held
      rw [openings_concat]
      cases opens : last.isOpening channel with
      | true => simp
      | false =>
          simp only [opens, Bool.false_or, Bool.and_eq_true] at held
          exact Nat.lt_add_right _ (ih held.1.1)

/-- A claim is for a channel that is held, and for its last opening. -/
theorem claim?_eq_some {act : Act} {number : Nat}
    (claimed : act.claim? subsystems past = some (channel, number)) :
    act.isClaiming subsystems channel = true ∧ act.isOpening channel = false ∧
      isHeld subsystems past channel = true ∧ number = openings past channel := by
  cases act with
  | opens | closes | aside => cases claimed
  | requests asked name meanwhile outcome =>
      simp only [Act.claim?] at claimed
      split at claimed
      · rename_i granted
        cases claimed
        rw [grants, Bool.and_eq_true] at granted
        exact ⟨by simp [Act.isClaiming, List.contains_iff_mem.mp granted.1], rfl, granted.2, rfl⟩
      · cases claimed

/-- An opening that is claimed is over, for good. -/
theorem claimed_over {number : Nat} (claimed : (channel, number) ∈ claims subsystems past) :
    0 < number ∧ (number < openings past channel ∨
      number = openings past channel ∧ isHeld subsystems past channel = false) := by
  induction past using List.reverseRecOn with
  | nil => cases claimed
  | append_singleton past last ih =>
      rw [openings_concat, isHeld_concat]
      rw [claims_concat, List.mem_append, Option.mem_toList] at claimed
      rcases claimed with before | now
      · obtain ⟨positive, isOver⟩ := ih before
        refine ⟨positive, ?_⟩
        cases opens : last.isOpening channel with
        | true =>
            left
            rw [if_pos rfl]
            omega
        | false =>
            rcases isOver with less | ⟨same, gone⟩
            · exact Or.inl (Nat.lt_add_right _ less)
            · exact Or.inr ⟨same, by simp [gone]⟩
      · obtain ⟨claims, shut, held, rfl⟩ := claim?_eq_some now
        refine ⟨openings_pos held, Or.inr ⟨?_, ?_⟩⟩
        · simp [shut]
        · simp [claims, shut]

/-- Each opening is claimed once at the most. -/
theorem claims_nodup (subsystems : List String) (past : List Act) :
    (claims subsystems past).Nodup := by
  induction past using List.reverseRecOn with
  | nil => exact List.nodup_nil
  | append_singleton past last ih =>
      rw [claims_concat]
      cases claimed : last.claim? subsystems past with
      | none => simpa using ih
      | some claim =>
          obtain ⟨_, _, held, latest⟩ := claim?_eq_some claimed
          refine List.nodup_append.mpr ⟨ih, List.pairwise_singleton _ claim, ?_⟩
          rintro one before other now rfl
          rw [Option.toList_some, List.mem_singleton] at now
          rw [now] at before
          rcases (claimed_over before).2 with less | ⟨_, gone⟩
          · exact Nat.ne_of_lt less latest
          · exact Bool.false_ne_true (gone.symm.trans held)

/-! ## What goes on beside a dialogue -/

/-- Of a visit only its links have gone on. -/
structure Visit.Kept (before after : Visit) : Prop where
  arrival : after.arrival = before.arrival
  session : after.session = before.session
  up : after.up = before.up
  gone : after.gone = before.gone
  channels : after.links.map Link.channel = before.links.map Link.channel

/-- A bridge has begun to relay, in a task of its own. -/
structure Link.Begins (link : Link) (channel : Nat) (backend : Departure) (service : Service) :
    Prop where
  channel : link.channel = channel
  backend : link.backend = backend
  relay : link.relay = .new
  runs : service.group.isRunning link.task = true

theorem Visit.Kept.refl (visit : Visit) : visit.Kept visit := ⟨rfl, rfl, rfl, rfl, rfl⟩

theorem Visit.Kept.trans {first second third : Visit} (one : first.Kept second)
    (two : second.Kept third) : first.Kept third where
  arrival := two.arrival.trans one.arrival
  session := two.session.trans one.session
  up := two.up.trans one.up
  gone := two.gone.trans one.gone
  channels := two.channels.trans one.channels

namespace Traffic

variable {t next : Traffic} {number : Nat} {visit : Visit}

theorem loggedIn_iff : t.loggedIn? number = some visit ↔
    t.visits[number]? = some visit ∧ visit.up = true ∧ visit.gone = false ∧
      visit.session.authenticated = true := by
  simp [loggedIn?, heard?, Option.filter_eq_some_iff, and_assoc]

/-- What a relay does to a link leaves it at its channel. -/
theorem relay_visits (t : Traffic) (index other : Nat) (direction : Relay.Direction)
    (event : Pump.Event) (visit : Visit) (link : Link) :
    ∃ changed, changed.channel = link.channel ∧
      (t.relay other index direction event visit link).1.visits =
        t.visits.set other { visit with links := visit.links.set index changed } := by
  unfold relay
  dsimp only
  split
  · refine ⟨_, ?_, rfl⟩
    rfl
  · refine ⟨_, ?_, rfl⟩
    rfl

theorem channels_set {links : List Link} {index : Nat} {link changed : Link}
    (held : links[index]? = some link) (same : changed.channel = link.channel) :
    (links.set index changed).map Link.channel = links.map Link.channel := by
  have place : (links.map Link.channel)[index]? = some link.channel := by
    rw [List.getElem?_map, held]
    rfl
  obtain ⟨inside, at_⟩ := List.getElem?_eq_some_iff.mp place
  rw [List.map_set, same, ← at_, List.set_getElem_self]

theorem relays_beside (held : t.visits[number]? = some visit) (other index : Nat)
    (direction : Relay.Direction) (event : Pump.Event) :
    ∃ after, (t.step (.relays other index direction event)).1.visits[number]? = some after ∧
      visit.Kept after := by
  cases linked : t.link? other index with
  | none =>
      simp only [step, linked]
      exact ⟨visit, held, .refl visit⟩
  | some found =>
      obtain ⟨owner, link⟩ := found
      obtain ⟨there, place⟩ := held_of_linked linked
      obtain ⟨changed, same, visits⟩ := t.relay_visits index other direction event owner link
      simp only [step, linked, visits]
      by_cases own : other = number
      · subst own
        rw [held] at there
        cases there
        rw [List.getElem?_set_self (List.getElem?_eq_some_iff.mp held).1]
        exact ⟨_, rfl, rfl, rfl, rfl, rfl, channels_set place same⟩
      · rw [List.getElem?_set_ne own]
        exact ⟨visit, held, .refl visit⟩

/-- What the clients of others do. -/
theorem Step.visits_apart {event : Event} {told : List Observation} (step : t.Step event next told)
    (apart : event.client? ≠ some number) (inside : number < t.visits.length)
    (other : ∀ owner index direction answer, event ≠ .relays owner index direction answer) :
    next.visits[number]? = t.visits[number]? := by
  have elsewhere {owner : Nat} (changed : Visit) (different : some owner ≠ some number) :
      (t.visits.set owner changed)[number]? = t.visits[number]? :=
    List.getElem?_set_ne fun same => different (congrArg some same)
  cases step with
  | unheard | refuses => rfl
  | arrives => exact List.getElem?_append_left inside
  | identifies | attempts | opens | dials | starts | closes | leaves => exact elsewhere _ apart
  | relays linked same direction event => exact (other _ _ direction event rfl).elim
  | ends linked same direction event => exact (other _ _ direction event rfl).elim

/-- Whatever goes on beside a dialogue leaves its client what it is. -/
theorem beside_kept (held : t.visits[number]? = some visit) (aside : Aside) :
    (∃ after, (t.beside number aside).visits[number]? = some after ∧ visit.Kept after) ∧
      (t.beside number aside).setup = t.setup := by
  cases aside with
  | operation => exact ⟨⟨visit, held, .refl visit⟩, rfl⟩
  | event event =>
      simp only [beside]
      split
      · exact ⟨⟨visit, held, .refl visit⟩, rfl⟩
      · rename_i apart
        have step := t.step_step event
        refine ⟨?_, step.fixed.1⟩
        by_cases relays : ∃ owner index direction answer,
            event = .relays owner index direction answer
        · obtain ⟨owner, index, direction, answer, rfl⟩ := relays
          exact relays_beside held owner index direction answer
        · have stays := step.visits_apart apart (List.getElem?_eq_some_iff.mp held).1
            fun owner index direction answer same => relays ⟨owner, index, direction, answer, same⟩
          exact ⟨visit, stays.trans held, .refl visit⟩

theorem besideAll_kept (held : t.visits[number]? = some visit) (asides : List Aside) :
    (∃ after, (t.besideAll number asides).visits[number]? = some after ∧ visit.Kept after) ∧
      (t.besideAll number asides).setup = t.setup := by
  induction asides generalizing t visit with
  | nil => exact ⟨⟨visit, held, .refl visit⟩, rfl⟩
  | cons aside rest ih =>
      obtain ⟨⟨between, there, first⟩, setup⟩ := beside_kept held aside
      obtain ⟨⟨after, found, second⟩, later⟩ := ih there
      exact ⟨⟨after, found, first.trans second⟩, later.trans setup⟩

theorem waits_kept (held : t.visits[number]? = some visit) (channel : Nat)
    (meanwhile : List Aside) :
    (∃ after, (t.waits number channel meanwhile).visits[number]? = some after ∧
        visit.Kept after) ∧
      (t.waits number channel meanwhile).setup = t.setup :=
  besideAll_kept (t := { t with dials := t.dials ++ [⟨number, channel, t.backend⟩] }) held meanwhile

theorem loggedIn_of_kept {after : Visit} (heard : t.loggedIn? number = some visit)
    (found : next.visits[number]? = some after) (kept : visit.Kept after) :
    next.loggedIn? number = some after := by
  obtain ⟨_, isUp, stays, logged⟩ := loggedIn_iff.mp heard
  refine loggedIn_iff.mpr ⟨found, kept.up.trans isUp, kept.gone.trans stays, ?_⟩
  rw [kept.session]
  exact logged

theorem act_requests (heard : t.loggedIn? number = some visit) (channel : Nat) (name : String)
    (meanwhile : List Aside) (outcome : Except Channel.Error Unit) :
    t.act number (.requests channel name meanwhile outcome) =
      t.consult number channel name meanwhile outcome visit := by
  simp only [act, heard]

/-- A request is one that nothing comes in between of. -/
theorem request_eq_consult (held : t.visits[number]? = some visit) (channel : Nat) (name : String)
    (answer : PeerAnswer) (shutdown : Option Duration) :
    let dialling := t.service.dial t.backend t.setup.timeouts.connect answer shutdown
    t.request number channel name answer shutdown visit =
      t.consult number channel name [] (dialling.result.map fun _ => ()) visit := by
  intro dialling
  unfold request consult
  split
  · have landed : t.dial number channel visit answer shutdown =
        (t.waits number channel []).land visit.arrival.id
          (t.reaches (dialling.result.map fun _ => ())) := by
      unfold dial reaches
      cases drains : t.service.group.draining with
      | true =>
          rw [Service.dial_of_draining drains]
          rfl
      | false =>
          rcases t.service.dial_eq t.backend t.setup.timeouts.connect answer shutdown with
            ⟨⟨cause, failed⟩, same⟩ | ⟨_, stands, departed⟩
          · simp only [dialling, failed, same]
            rfl
          · simp only [dialling, stands, departed]
            rfl
    have place : ((t.waits number channel []).land visit.arrival.id
        (t.reaches (dialling.result.map fun _ => ()))).2.visits[number]?.getD visit = visit := by
      rw [← landed]
      exact congrArg (fun found : Option Visit => found.getD visit) held
    simp only [← landed] at place ⊢
    rw [place]
    rfl
  · rfl

theorem step_requests (t : Traffic) (number channel : Nat) (name : String) (answer : PeerAnswer)
    (shutdown : Option Duration) :
    let dialling := t.service.dial t.backend t.setup.timeouts.connect answer shutdown
    t.step (.requests number channel name answer shutdown) =
      t.act number (.requests channel name [] (dialling.result.map fun _ => ())) := by
  intro dialling
  cases heard : t.loggedIn? number with
  | none => simp only [step, act, heard]
  | some visit =>
      rw [act_requests heard, step, heard]
      exact request_eq_consult (loggedIn_iff.mp heard).1 channel name answer shutdown

/-- A bridge whose backend is there is started, unless the group takes no more
tasks. -/
theorem start?_connected (t : Traffic) (channel : Nat) (id : SessionId) (backend : Departure) :
    let bridge : Bridge Departure := ⟨id, t.backend, .bridging, some backend⟩
    (t.service.group.draining = true ∧ t.start? channel (.ok bridge) = none) ∨
      (t.service.group.draining = false ∧ ∃ link service,
        t.start? channel (.ok bridge) = some (link, service) ∧
          link.Begins channel backend service) := by
  intro bridge
  rcases t.service.spawn_eq with ⟨drains, refused⟩ | ⟨isOpen, taken⟩
  · refine Or.inl ⟨drains, ?_⟩
    simp only [start?, refused]
    rfl
  · let task := t.service.group.tasks.length
    let link : Link := ⟨channel, backend, { bridge with backend := none }, .new, task⟩
    let tasks := t.service.group.tasks ++ [none]
    let service : Service := { t.service with group := { t.service.group with tasks := tasks } }
    have started : t.start? channel (.ok bridge) = some (link, service) := by
      simp only [start?, taken]
      rfl
    have runs : service.group.isRunning task = true := by
      simp [service, tasks, task, Group.isRunning]
    exact Or.inr ⟨isOpen, link, service, started, rfl, rfl, rfl, runs⟩

theorem answer_stays {channel : Nat} {name : String}
    (claimed : visit.session.claims t.setup.subsystems channel name = true)
    {bridge : Except Bridge.Error (Bridge Departure)} (idle : t.start? channel bridge = none) :
    t.answer number channel name bridge visit =
      (t.setSession number visit (visit.session.closeChannel channel),
        [.reply channel bridge.isOk, .channelClosed channel]) := by
  unfold answer
  simp only [idle]
  unfold Secure.Session.request
  rw [if_pos claimed]
  cases bridge <;> rfl

theorem answer_starts {channel : Nat} {name : String}
    (claimed : visit.session.claims t.setup.subsystems channel name = true)
    {bridge : Bridge Departure} {link : Link} {service : Service}
    (started : t.start? channel (.ok bridge) = some (link, service)) :
    t.answer number channel name (.ok bridge) visit =
      (Traffic.setVisit { t with service := service } number
          { visit with
            session := visit.session.closeChannel channel
            links := visit.links ++ [link] },
        [.reply channel true]) := by
  unfold answer
  simp only [started]
  unfold Secure.Session.request
  rw [if_pos claimed]
  rfl

/-- How a request that claims its channel is answered, and what is left of it. -/
theorem consult_claimed {channel : Nat} {name : String}
    (claimed : visit.session.claims t.setup.subsystems channel name = true)
    (held : t.visits[number]? = some visit) (meanwhile : List Aside)
    (outcome : Except Channel.Error Unit) :
    let later := t.waits number channel meanwhile
    let success := (t.reaches outcome).isOk
    let starts := success && !later.service.group.draining
    let next := (t.consult number channel name meanwhile outcome visit).1
    (t.consult number channel name meanwhile outcome visit).2 =
        .reply channel success :: (if starts then [] else [.channelClosed channel]) ∧
      next.setup = t.setup ∧
      ∃ before after, later.visits[number]? = some before ∧ next.visits[number]? = some after ∧
        visit.Kept before ∧ after.up = visit.up ∧ after.gone = visit.gone ∧
        after.session = visit.session.closeChannel channel ∧
        (starts = false → after.links = before.links) ∧
        (starts = true → ∃ link, after.links = before.links ++ [link] ∧
          link.Begins channel later.service.depart.1 next.service) := by
  intro later success starts next
  obtain ⟨⟨before, place, kept⟩, setup⟩ := waits_kept held channel meanwhile
  have claims : before.session.claims later.setup.subsystems channel name = true := by
    rw [kept.session, setup]
    exact claimed
  have session : before.session.closeChannel channel = visit.session.closeChannel channel := by
    rw [kept.session]
  have inside := (List.getElem?_eq_some_iff.mp place).1
  have found (changed : Visit) : (later.visits.set number changed)[number]? = some changed :=
    List.getElem?_set_self inside
  cases reached : t.reaches outcome with
  | error cause =>
      have answered : t.consult number channel name meanwhile outcome visit =
          (later.setSession number before (before.session.closeChannel channel),
            [.reply channel false, .channelClosed channel]) := by
        rw [consult, if_pos claimed, reached]
        change later.answer number channel name _ (later.visits[number]?.getD visit) = _
        rw [place]
        exact answer_stays claims rfl
      simp only [next, answered, success, starts, reached]
      refine ⟨rfl, setup, before, _, place, found _, kept, kept.up, kept.gone, session,
        fun _ => rfl, nofun⟩
  | ok =>
      let departed : Traffic := { later with service := later.service.depart.2 }
      have answered : t.consult number channel name meanwhile outcome visit =
          departed.answer number channel name
            (.ok ⟨visit.arrival.id, departed.backend, .bridging, some later.service.depart.1⟩)
            before := by
        rw [consult, if_pos claimed, reached]
        change departed.answer number channel name _ (later.visits[number]?.getD visit) = _
        rw [place]
        rfl
      rcases departed.start?_connected channel visit.arrival.id later.service.depart.1 with
        ⟨drains, refused⟩ | ⟨isOpen, link, service, started, begins⟩
      · have refuses : later.service.group.draining = true := drains
        rw [answer_stays (t := departed) claims refused] at answered
        simp only [next, answered, success, starts, reached, refuses]
        refine ⟨rfl, setup, before, _, place, found _, kept, kept.up, kept.gone, session,
          fun _ => rfl, nofun⟩
      · have takes : later.service.group.draining = false := isOpen
        rw [answer_starts (t := departed) claims started] at answered
        simp only [next, answered, success, starts, reached, takes]
        refine ⟨rfl, setup, before, _, place, found _, kept, kept.up, kept.gone, session,
          nofun, fun _ => ⟨link, rfl, begins⟩⟩

end Traffic

/-! ## A dialogue and its past -/

/-- A client that is logged in, after all that it did. Its links are those of
claims, in order, and no claim has two. -/
structure Converses (subsystems : List String) (past : List Act) (t : Traffic) (number : Nat)
    (visit : Visit) : Prop where
  heard : t.loggedIn? number = some visit
  setup : t.setup.subsystems = subsystems
  channels : ∀ channel, channel ∈ visit.session.channels ↔ isHeld subsystems past channel = true
  links : ∃ started : List (Nat × Nat), started.Sublist (claims subsystems past) ∧
    visit.links.map Link.channel = started.map Prod.fst

namespace Converses

variable {t : Traffic} {number : Nat} {visit : Visit}

theorem held (converses : Converses subsystems past t number visit) :
    t.visits[number]? = some visit :=
  (Traffic.loggedIn_iff.mp converses.heard).1

theorem claims_eq (converses : Converses subsystems past t number visit) (channel : Nat)
    (name : String) :
    visit.session.claims t.setup.subsystems channel name =
      grants subsystems past channel name := by
  rw [Secure.Session.claims, converses.setup, grants]
  congr 1
  rw [Bool.eq_iff_iff, List.contains_iff_mem]
  exact converses.channels channel

/-- An act that claims nothing, and that the client's links go on beside. -/
theorem unclaimed (converses : Converses subsystems past t number visit) {act : Act}
    (nothing : act.claim? subsystems past = none) {next : Traffic} {after : Visit}
    (heard : next.loggedIn? number = some after) (setup : next.setup = t.setup)
    (channels : ∀ channel, channel ∈ after.session.channels ↔
      isHeld subsystems (past ++ [act]) channel = true)
    (links : after.links.map Link.channel = visit.links.map Link.channel) :
    Converses subsystems (past ++ [act]) next number after := by
  obtain ⟨started, among, same⟩ := converses.links
  refine ⟨heard, ?_, channels, started, ?_, links.trans same⟩
  · rw [setup]
    exact converses.setup
  · rw [claims_concat, nothing, Option.toList_none, List.append_nil]
    exact among

/-- A client whose own session is all that changes. -/
theorem loggedIn_setSession (converses : Converses subsystems past t number visit)
    {session : Secure.Session} (same : session.authenticated = visit.session.authenticated) :
    (t.setSession number visit session).loggedIn? number =
      some { visit with session := session } := by
  obtain ⟨held, isUp, stays, logged⟩ := Traffic.loggedIn_iff.mp converses.heard
  have inside := (List.getElem?_eq_some_iff.mp held).1
  exact Traffic.loggedIn_iff.mpr
    ⟨List.getElem?_set_self inside, isUp, stays, Eq.trans same logged⟩

theorem opens (converses : Converses subsystems past t number visit) (channel : Nat) :
    Converses subsystems (past ++ [.opens channel])
      (t.setSession number visit (visit.session.openChannel channel)) number
      { visit with session := visit.session.openChannel channel } := by
  have same : (visit.session.openChannel channel).authenticated =
      visit.session.authenticated := by
    unfold Secure.Session.openChannel
    split <;> rfl
  refine converses.unclaimed rfl (converses.loggedIn_setSession same) rfl ?_ rfl
  intro other
  rw [Secure.Session.mem_channels_openChannel, converses.channels other, isHeld_concat]
  simp [Act.isOpening, Act.isClosing, Act.isClaiming, @eq_comm Nat other]

theorem closes (converses : Converses subsystems past t number visit) (channel : Nat) :
    Converses subsystems (past ++ [.closes channel])
      (t.setSession number visit (visit.session.closeChannel channel)) number
      { visit with session := visit.session.closeChannel channel } := by
  refine converses.unclaimed rfl (converses.loggedIn_setSession rfl) rfl ?_ rfl
  intro other
  rw [Secure.Session.mem_channels_closeChannel, converses.channels other, isHeld_concat]
  simp [Act.isOpening, Act.isClosing, Act.isClaiming, @eq_comm Nat other]

theorem aside (converses : Converses subsystems past t number visit) (aside : Aside) :
    ∃ after, visit.Kept after ∧
      Converses subsystems (past ++ [.aside aside]) (t.beside number aside) number after := by
  obtain ⟨⟨after, found, kept⟩, setup⟩ := Traffic.beside_kept converses.held aside
  refine ⟨after, kept, converses.unclaimed rfl
    (Traffic.loggedIn_of_kept converses.heard found kept) setup ?_ kept.channels⟩
  intro channel
  rw [kept.session, converses.channels channel, isHeld_concat]
  simp [Act.isOpening, Act.isClosing, Act.isClaiming]

/-- A request that claims nothing is refused, and that is all. -/
theorem refused (converses : Converses subsystems past t number visit) {channel : Nat}
    {name : String} (meanwhile : List Aside) (outcome : Except Channel.Error Unit)
    (unclaimed : grants subsystems past channel name = false) :
    t.consult number channel name meanwhile outcome visit = (t, [.reply channel false]) ∧
      Converses subsystems (past ++ [.requests channel name meanwhile outcome]) t number visit := by
  constructor
  · rw [Traffic.consult, converses.claims_eq, unclaimed]
    rfl
  · refine converses.unclaimed ?_ converses.heard rfl ?_ rfl
    · rw [Act.claim?, unclaimed]
      rfl
    · intro other
      rw [converses.channels other, isHeld_concat]
      by_cases same : channel = other
      · subst same
        rw [grants, Bool.and_eq_false_iff] at unclaimed
        rcases unclaimed with unknown | shut
        · have isClaiming :
              (Act.requests channel name meanwhile outcome).isClaiming subsystems channel =
                false := by
            rw [Act.isClaiming, unknown, Bool.and_false]
          simp [isClaiming, Act.isOpening, Act.isClosing]
        · simp [shut, Act.isOpening]
      · simp [Act.isOpening, Act.isClosing, Act.isClaiming, same]

/-- A request that claims its channel: the channel is gone from the table, and
the client has at most one link more. -/
theorem claimed (converses : Converses subsystems past t number visit) {channel : Nat}
    {name : String} (meanwhile : List Aside) (outcome : Except Channel.Error Unit)
    (granted : grants subsystems past channel name = true) :
    let later := t.waits number channel meanwhile
    let success := (t.reaches outcome).isOk
    let starts := success && !later.service.group.draining
    let next := (t.consult number channel name meanwhile outcome visit).1
    (t.consult number channel name meanwhile outcome visit).2 =
        .reply channel success :: (if starts then [] else [.channelClosed channel]) ∧
      ∃ before after, later.visits[number]? = some before ∧ visit.Kept before ∧
        Converses subsystems (past ++ [.requests channel name meanwhile outcome]) next number
          after ∧
        after.session = visit.session.closeChannel channel ∧
        (starts = false → after.links = before.links) ∧
        (starts = true → ∃ link, after.links = before.links ++ [link] ∧
          link.Begins channel later.service.depart.1 next.service) := by
  intro later success starts next
  obtain ⟨told, setup, before, after, place, found, kept, up, gone, session, stays, begins⟩ :=
    Traffic.consult_claimed ((converses.claims_eq channel name).trans granted) converses.held
      meanwhile outcome
  refine ⟨told, before, after, place, kept, ?_, session, stays, begins⟩
  obtain ⟨_, isUp, remains, logged⟩ := Traffic.loggedIn_iff.mp converses.heard
  have known : subsystems.contains name = true := (Bool.and_eq_true_iff.mp granted).1
  obtain ⟨started, among, same⟩ := converses.links
  have claims : claims subsystems (past ++ [.requests channel name meanwhile outcome]) =
      claims subsystems past ++ [(channel, openings past channel)] := by
    rw [claims_concat, Act.claim?, if_pos granted]
    rfl
  refine ⟨Traffic.loggedIn_iff.mpr ⟨found, up.trans isUp, gone.trans remains, ?_⟩, ?_, ?_, ?_⟩
  · rw [session]
    exact logged
  · rw [setup]
    exact converses.setup
  · intro other
    rw [session, Secure.Session.mem_channels_closeChannel, converses.channels other, isHeld_concat]
    simp [Act.isOpening, Act.isClosing, Act.isClaiming, List.contains_iff_mem.mp known,
      @eq_comm Nat other]
  · rw [claims]
    cases decided : starts with
    | false =>
        refine ⟨started, among.trans (List.sublist_append_left _ _), ?_⟩
        rw [stays decided, kept.channels]
        exact same
    | true =>
        obtain ⟨link, links, begun⟩ := begins decided
        refine ⟨started ++ [(channel, openings past channel)], among.append_right _, ?_⟩
        rw [links, List.map_append, kept.channels, same, List.map_append]
        simp [begun.channel]

/-- Whatever a client does next, it is still one that is logged in, after all
that it did. -/
theorem act (converses : Converses subsystems past t number visit) (act : Act) :
    ∃ after, Converses subsystems (past ++ [act]) (t.act number act).1 number after := by
  cases act with
  | opens channel =>
      rw [Traffic.act, Traffic.step, converses.heard]
      exact ⟨_, converses.opens channel⟩
  | closes channel =>
      rw [Traffic.act, Traffic.step, converses.heard]
      exact ⟨_, converses.closes channel⟩
  | aside aside =>
      obtain ⟨after, _, next⟩ := converses.aside aside
      exact ⟨after, next⟩
  | requests channel name meanwhile outcome =>
      rw [Traffic.act_requests converses.heard]
      cases granted : grants subsystems past channel name with
      | false =>
          obtain ⟨refused, next⟩ := converses.refused meanwhile outcome granted
          rw [refused]
          exact ⟨visit, next⟩
      | true =>
          obtain ⟨_, _, after, _, _, next, _⟩ := converses.claimed meanwhile outcome granted
          exact ⟨after, next⟩

theorem afterActs (enters : t.loggedIn? number = some visit)
    (fresh : visit.session.channels = []) (unlinked : visit.links = []) (past : List Act) :
    ∃ held, Converses t.setup.subsystems past (t.afterActs number past) number held := by
  induction past using List.reverseRecOn with
  | nil =>
      refine ⟨visit, enters, rfl, ?_, [], List.nil_sublist _, ?_⟩
      · simp [fresh, isHeld]
      · simp [unlinked]
  | append_singleton past last ih =>
      obtain ⟨held, converses⟩ := ih
      rw [Traffic.afterActs_concat]
      exact converses.act last

end Converses

/--
The dialogue with a client that has logged in, whatever the two come to say,
whatever goes on beside, and however its dials go.

A channel is in its table if it was opened, and neither closed nor claimed since.
No opening is claimed twice, and its links are those of different claims.

A request is answered once, with success if it is granted and its dial does not
fail.  One that is not granted is refused and leaves everything as it is, the
links included.  One that is granted takes its own channel from the table and no
other; the channel is closed unless a bridge is started, and a bridge is started
after each success but for a group that drains by then.
-/
theorem dialogue_run {t : Traffic} {number : Nat} {visit : Visit}
    (enters : t.loggedIn? number = some visit) (fresh : visit.session.channels = [])
    (unlinked : visit.links = []) (past : List Act) :
    let known := t.setup.subsystems
    let now := t.afterActs number past
    (claims known past).Nodup ∧
    ∃ held, Converses known past now number held ∧
      (∀ channel, (now.act number (.opens channel)).2 = [.opened channel]) ∧
      (∀ channel, (now.act number (.closes channel)).2 = []) ∧
      ∀ channel name meanwhile outcome,
        let request := Act.requests channel name meanwhile outcome
        let next := (now.act number request).1
        let later := now.waits number channel meanwhile
        let granted := known.contains name && isHeld known past channel
        let success := granted && (now.reaches outcome).isOk
        let starts := success && !later.service.group.draining
        (now.act number request).2 =
            .reply channel success ::
              (if granted && !starts then [.channelClosed channel] else []) ∧
          (granted = false → next = now) ∧
          (granted = true → ∃ before after,
            later.visits[number]? = some before ∧ held.Kept before ∧
            Converses known (past ++ [request]) next number after ∧
            after.session = held.session.closeChannel channel ∧
            (starts = false → after.links = before.links) ∧
            (starts = true → ∃ link, after.links = before.links ++ [link] ∧
              link.Begins channel later.service.depart.1 next.service)) := by
  intro known now
  obtain ⟨held, converses⟩ := Converses.afterActs enters fresh unlinked past
  refine ⟨claims_nodup known past, held, converses, fun channel => ?_, fun channel => ?_, ?_⟩
  · simp only [now, Traffic.act, Traffic.step, converses.heard]
  · simp only [now, Traffic.act, Traffic.step, converses.heard]
  · intro channel name meanwhile outcome request next later granted success starts
    have answer : now.act number request =
        now.consult number channel name meanwhile outcome held :=
      Traffic.act_requests converses.heard channel name meanwhile outcome
    cases decided : granted with
    | false =>
        obtain ⟨refused, _⟩ := converses.refused meanwhile outcome decided
        have unchanged : now.act number request = (now, [.reply channel false]) :=
          answer.trans refused
        simp only [next, success, decided, unchanged]
        exact ⟨rfl, fun _ => trivial, fun grants => Bool.noConfusion grants⟩
    | true =>
        obtain ⟨told, isLeft⟩ := converses.claimed meanwhile outcome decided
        simp only [next, starts, success, decided, answer, Bool.true_and]
        refine ⟨told.trans ?_, fun refuses => Bool.noConfusion refuses, fun _ => isLeft⟩
        cases (now.reaches outcome).isOk && !later.service.group.draining <;> rfl

/-- A request for another subsystem leaves the channel to one for `netconf`. -/
theorem dialogue_run_of_client :
    let arrived := Service.new.accept ⟨0, 0, .localhost 2022, false⟩
    let client : Visit := ⟨arrived.1, ⟨true, []⟩, [], true, false⟩
    let timeouts : Timeouts := ⟨.ofSeconds 600, .ofSeconds 600, .ofSeconds 10⟩
    let t : Traffic := ⟨arrived.2, ⟨[], [], timeouts, ["netconf"]⟩, .localhost 830, [client], []⟩
    let past : List Act := [.opens 3, .requests 3 "shell" [] (.ok ())]
    t.loggedIn? 0 = some client ∧ client.session.channels = [] ∧ client.links = [] ∧
      ((t.afterActs 0 past).act 0 (.requests 3 "netconf" [] (.ok ()))).2 = [.reply 3 true] := by
  intro arrived client timeouts t past
  have enters : t.loggedIn? 0 = some client := rfl
  obtain ⟨_, held, _, _, _, answers⟩ := dialogue_run enters rfl rfl past
  obtain ⟨told, _⟩ := answers 3 "netconf" [] (.ok ())
  refine ⟨enters, rfl, rfl, told.trans ?_⟩
  decide +kernel

end NetconfGate.Server

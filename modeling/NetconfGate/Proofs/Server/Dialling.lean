import NetconfGate.Proofs.Server.Lifecycle

/-!
# Dialling the backend

What a client has shown in the past decides whether the backend is dialled for
it: it has logged in, it has opened the channel, and the channel was neither
closed nor claimed since.  Then a request for `netconf` is the one thing that
the backend is dialled for, once and at its own address.
-/

namespace NetconfGate.Server

open Channel

variable {α : Type}

def Observation.answers (channel : Nat) : Observation → Bool
  | .reply answered _ => answered == channel
  | _ => false

namespace Record

/-- A password was accepted. -/
def accepts (r : Record α) (visit : Nat) : Bool :=
  match r.call with
  | .traffic (.attempts number accepted) =>
      number == visit && accepted && r.seen.contains (.login true)
  | _ => false

def opens (r : Record α) (visit channel : Nat) : Bool :=
  match r.call with
  | .traffic (.opens number opened) =>
      number == visit && opened == channel && r.seen.contains (.opened channel)
  | _ => false

/-- A request for `netconf` was handled. -/
def asks (r : Record α) (visit channel : Nat) : Bool :=
  match r.call with
  | .traffic (.requests number asked name _ _) =>
      number == visit && asked == channel && name == "netconf" &&
        r.seen.any (Observation.answers channel)
  | _ => false

def closes (r : Record α) (visit channel : Nat) : Bool :=
  match r.call with
  | .traffic (.closes number closed) => number == visit && closed == channel
  | _ => false

end Record

/-- A password of the visit was accepted at some time. -/
def loggedIn (past : List (Record α)) (visit : Nat) : Bool :=
  past.any fun r => r.accepts visit

/-- The channel was opened, and neither closed nor claimed since. -/
def unclaimed (past : List (Record α)) (visit channel : Nat) : Bool :=
  past.foldl
    (fun isOpen r => r.opens visit channel ||
      (isOpen && !r.closes visit channel && !r.asks visit channel))
    false

/-- The dials that a record calls for, given what came before it. -/
def Record.demands (r : Record α) (past : List (Record α)) (backend : Address) : List DialMade :=
  match r.call with
  | .traffic (.requests visit channel _ _ _) =>
      if r.asks visit channel && loggedIn past visit && unclaimed past visit channel then
        [⟨visit, channel, backend⟩]
      else []
  | _ => []

theorem loggedIn_concat (past : List (Record α)) (last : Record α) (visit : Nat) :
    loggedIn (past ++ [last]) visit = (loggedIn past visit || last.accepts visit) := by
  simp [loggedIn]

theorem unclaimed_concat (past : List (Record α)) (last : Record α) (visit channel : Nat) :
    unclaimed (past ++ [last]) visit channel =
      (last.opens visit channel || (unclaimed past visit channel &&
        !last.closes visit channel && !last.asks visit channel)) := by
  simp [unclaimed, List.foldl_append]

/-- A session is what the past of its visit made of it. -/
structure Agrees (past : List (Record α)) (number : Nat) (session : Secure.Session) : Prop where
  authenticated : session.authenticated = loggedIn past number
  channels : ∀ channel, session.channels.contains channel = unclaimed past number channel
  opened : ∀ channel, session.channels.contains channel = true → session.authenticated = true

theorem agrees_nil (number : Nat) : Agrees ([] : List (Record α)) number .new :=
  ⟨rfl, fun _ => rfl, fun channel impossible => by cases impossible⟩

/-- No password of the visit is accepted by it, and no channel opened. -/
structure Record.GrantsNothing (r : Record α) (number : Nat) : Prop where
  accepts : r.accepts number = false
  opens : ∀ channel, r.opens number channel = false

namespace Agrees

variable {past : List (Record α)} {number : Nat} {session : Secure.Session}

/-- A session that stays as it is, since all that is taken from it is not there. -/
theorem kept (agrees : Agrees past number session) {last : Record α}
    (nothing : last.GrantsNothing number)
    (void : ∀ channel, (last.closes number channel || last.asks number channel) = true →
      session.channels.contains channel = false) :
    Agrees (past ++ [last]) number session := by
  refine ⟨?_, ?_, agrees.opened⟩
  · rw [loggedIn_concat, nothing.accepts, Bool.or_false]
    exact agrees.authenticated
  · intro channel
    rw [unclaimed_concat, nothing.opens, ← agrees.channels channel]
    cases taken : last.closes number channel || last.asks number channel with
    | true =>
        rw [void channel taken]
        rfl
    | false =>
        rw [Bool.or_eq_false_iff] at taken
        simp [taken.1, taken.2]

/-- A channel that is taken from a session. -/
theorem released (agrees : Agrees past number session) {last : Record α}
    (nothing : last.GrantsNothing number) {channel : Nat}
    (takes : ∀ other, (last.closes number other || last.asks number other) = (other == channel)) :
    Agrees (past ++ [last]) number (session.closeChannel channel) := by
  refine ⟨?_, ?_, ?_⟩
  · rw [loggedIn_concat, nothing.accepts, Bool.or_false]
    exact agrees.authenticated
  · intro other
    have taken := takes other
    rw [unclaimed_concat, nothing.opens, ← agrees.channels other, Bool.false_or,
      Bool.and_assoc, ← Bool.not_or, taken, Bool.eq_iff_iff]
    simp [Secure.Session.mem_channels_closeChannel]
  · intro other held
    have before : other ∈ session.channels := by
      have inside := List.contains_iff_mem.mp held
      exact ((session.mem_channels_closeChannel channel other).mp inside).1
    exact agrees.opened other (List.contains_iff_mem.mpr before)

theorem attempt (agrees : Agrees past number session) (accepted : Bool) :
    Agrees (past ++ [⟨.traffic (.attempts number accepted), [.login accepted]⟩]) number
      (session.attempt accepted) := by
  refine ⟨?_, ?_, ?_⟩
  · rw [loggedIn_concat, ← agrees.authenticated]
    cases accepted <;> simp [Secure.Session.attempt, Record.accepts]
  · intro channel
    rw [unclaimed_concat]
    simpa [Record.opens, Record.closes, Record.asks, Secure.Session.attempt]
      using agrees.channels channel
  · intro channel held
    simp [Secure.Session.attempt, agrees.opened channel held]

theorem openChannel (agrees : Agrees past number session) (channel : Nat)
    (logged : session.authenticated = true) :
    Agrees (past ++ [⟨.traffic (.opens number channel), [.opened channel]⟩]) number
      (session.openChannel channel) := by
  have same : (session.openChannel channel).authenticated = session.authenticated := by
    unfold Secure.Session.openChannel
    split <;> rfl
  refine ⟨?_, ?_, fun _ _ => same.trans logged⟩
  · rw [loggedIn_concat, ← agrees.authenticated, same]
    simp [Record.accepts]
  · intro other
    rw [unclaimed_concat, ← agrees.channels other, Bool.eq_iff_iff]
    simp only [List.contains_iff_mem, Secure.Session.mem_channels_openChannel]
    by_cases different : channel = other
    · simp [Record.opens, different]
    · simp [Record.opens, Record.closes, Record.asks, Ne.symm different]

/-- A channel that is claimed. -/
theorem request (agrees : Agrees past number session) {channel : Nat} {name : String}
    (known : name = "netconf") (answer : PeerAnswer) (shutdown : Option Duration)
    {told : List Observation} (answered : told.any (Observation.answers channel) = true) :
    Agrees (past ++ [⟨.traffic (.requests number channel name answer shutdown), told⟩]) number
      (session.closeChannel channel) := by
  apply agrees.released ⟨rfl, fun _ => rfl⟩
  intro other
  by_cases same : channel = other
  · subst same
    simp [Record.closes, Record.asks, known, answered]
  · simp [Record.closes, Record.asks, beq_false_of_ne same, beq_false_of_ne (Ne.symm same)]

end Agrees

/-- The visit whose session an event is about. -/
def Event.session? : Event → Option Nat
  | .attempts number _ => some number
  | .opens number _ => some number
  | .requests number _ _ _ _ => some number
  | .closes number _ => some number
  | _ => none

theorem Agrees.elsewhere {past : List (Record α)} {number : Nat} {session : Secure.Session}
    (agrees : Agrees past number session) {event : Event} (apart : event.session? ≠ some number)
    (seen : List Observation) :
    Agrees (past ++ [⟨.traffic event, seen⟩]) number session := by
  have nothing : (⟨.traffic event, seen⟩ : Record α).GrantsNothing number := by
    cases event <;> constructor <;> simp_all [Event.session?, Record.accepts, Record.opens]
  apply agrees.kept nothing
  intro channel taken
  cases event <;> simp_all [Event.session?, Record.closes, Record.asks]

/-- An event that was not taken. -/
theorem Agrees.unseen {past : List (Record α)} {number : Nat} {session : Secure.Session}
    (agrees : Agrees past number session) {event : Event}
    (void : ∀ channel, event = .closes number channel → session.channels.contains channel = false) :
    Agrees (past ++ [⟨.traffic event, []⟩]) number session := by
  have nothing : (⟨.traffic event, []⟩ : Record α).GrantsNothing number := by
    cases event <;> constructor <;> simp [Record.accepts, Record.opens]
  apply agrees.kept nothing
  intro channel taken
  cases event with
  | closes other closed =>
      obtain ⟨rfl, rfl⟩ : other = number ∧ closed = channel := by
        simpa [Record.closes, Record.asks] using taken
      exact void closed rfl
  | requests => simp [Record.closes, Record.asks] at taken
  | arrives | identifies | attempts | opens | relays | leaves => cases taken

/-! ## The traffic and its past -/

/-- Every visit that has not left is what its past made of it, one whose session is
not up has done nothing, and nothing is known of visits that did not come yet. -/
structure Recorded (past : List (Record α)) (t : Traffic) : Prop where
  stays : ∀ (number : Nat) (visit : Visit), t.visits[number]? = some visit → visit.gone = false →
    Agrees past number visit.session
  fresh : ∀ (number : Nat) (visit : Visit), t.visits[number]? = some visit → visit.up = false →
    visit.session = .new
  unknown : ∀ number, t.visits.length ≤ number → Agrees past number .new

namespace Recorded

variable {past : List (Record α)} {t next : Traffic}

theorem heard (recorded : Recorded past t) {number : Nat} {visit : Visit}
    (heard : t.heard? number = some visit) : Agrees past number visit.session := by
  obtain ⟨place, hears⟩ := Option.filter_eq_some_iff.mp heard
  rw [Bool.and_eq_true, Bool.not_eq_true'] at hears
  exact recorded.stays number visit place hears.2

/-- An event about one visit. -/
theorem set (recorded : Recorded past t) {number : Nat} {visit : Visit} (changed : Visit)
    (held : t.visits[number]? = some visit) (visits : next.visits = t.visits.set number changed)
    (gone : changed.gone = false → visit.gone = false)
    (up : changed.up = false → visit.up = false ∧ changed.session = visit.session)
    {last : Record α}
    (self : Agrees past number visit.session → Agrees (past ++ [last]) number changed.session)
    (others : ∀ other session, other ≠ number → Agrees past other session →
      Agrees (past ++ [last]) other session) :
    Recorded (past ++ [last]) next := by
  have inside : number < t.visits.length := (List.getElem?_eq_some_iff.mp held).1
  refine ⟨fun other found place stays => ?_, fun other found place fresh => ?_,
    fun other outside => ?_⟩
  · rw [visits] at place
    by_cases same : other = number
    · subst same
      rw [List.getElem?_set_self inside] at place
      cases place
      exact self (recorded.stays other visit held (gone stays))
    · rw [List.getElem?_set_ne (Ne.symm same)] at place
      exact others other _ same (recorded.stays other found place stays)
  · rw [visits] at place
    by_cases same : other = number
    · subst same
      rw [List.getElem?_set_self inside] at place
      cases place
      obtain ⟨before, kept⟩ := up fresh
      exact kept.trans (recorded.fresh other visit held before)
    · rw [List.getElem?_set_ne (Ne.symm same)] at place
      exact recorded.fresh other found place fresh
  · rw [visits, List.length_set] at outside
    exact others other _ (by omega) (recorded.unknown other outside)

/-- An event about the session of a visit that is heard. -/
theorem about (recorded : Recorded past t) {number : Nat} {visit : Visit} (changed : Visit)
    (heard : t.heard? number = some visit) (visits : next.visits = t.visits.set number changed)
    (up : changed.up = visit.up) (gone : changed.gone = visit.gone)
    {event : Event} (session : event.session? = some number) {told : List Observation}
    (self : Agrees past number visit.session →
      Agrees (past ++ [⟨.traffic event, told⟩]) number changed.session) :
    Recorded (past ++ [⟨.traffic event, told⟩]) next := by
  obtain ⟨held, hears⟩ := Option.filter_eq_some_iff.mp heard
  rw [Bool.and_eq_true] at hears
  refine recorded.set changed held visits (gone ▸ id) (fun down => ?_) self ?_
  · rw [up, hears.1] at down
    cases down
  · intro other before different agrees
    apply agrees.elsewhere
    rw [session]
    simpa using Ne.symm different

/-- An event that is not about sessions. -/
theorem aside (recorded : Recorded past t) {number : Nat} {visit : Visit} (changed : Visit)
    (held : t.visits[number]? = some visit) (visits : next.visits = t.visits.set number changed)
    (gone : changed.gone = false → visit.gone = false) (up : changed.up = false → visit.up = false)
    (same : changed.session = visit.session) {event : Event} (session : event.session? = none)
    (told : List Observation) :
    Recorded (past ++ [⟨.traffic event, told⟩]) next := by
  have apart (other : Nat) : event.session? ≠ some other := by
    rw [session]
    exact (Option.some_ne_none other).symm
  apply recorded.set changed held visits gone fun down => ⟨up down, same⟩
  · intro agrees
    rw [same]
    exact agrees.elsewhere (apart number) told
  · exact fun other before _ agrees => agrees.elsewhere (apart other) told

theorem arrives (recorded : Recorded past t) {loop : Loop} {arrival : Arrival}
    (visits : next.visits = t.visits ++ [.new arrival]) (told : List Observation) :
    Recorded (past ++ [⟨.traffic (.arrives loop), told⟩]) next := by
  have apart (number : Nat) : (Event.arrives loop).session? ≠ some number :=
    (Option.some_ne_none number).symm
  have place {number : Nat} {visit : Visit} (found : next.visits[number]? = some visit) :
      t.visits[number]? = some visit ∨ (t.visits.length ≤ number ∧ visit = .new arrival) := by
    rw [visits] at found
    by_cases before : number < t.visits.length
    · rw [List.getElem?_append_left before] at found
      exact Or.inl found
    · have outside : t.visits.length ≤ number := Nat.le_of_not_lt before
      rw [List.getElem?_append_right outside] at found
      exact Or.inr ⟨outside, List.mem_singleton.mp (List.mem_of_getElem? found)⟩
  refine ⟨fun number visit found stays => ?_, fun number visit found fresh => ?_,
    fun number outside => ?_⟩
  · rcases place found with before | ⟨outside, rfl⟩
    · exact (recorded.stays number visit before stays).elsewhere (apart number) told
    · exact (recorded.unknown number outside).elsewhere (apart number) told
  · rcases place found with before | ⟨_, rfl⟩
    · exact recorded.fresh number visit before fresh
    · rfl
  · rw [visits, List.length_append] at outside
    exact (recorded.unknown number (by omega)).elsewhere (apart number) told

theorem claims_iff {s : Secure.Session} {subsystems : List String}
    (only : subsystems = [Bridge.subsystem]) (channel : Nat) (name : String) :
    s.claims subsystems channel name = true ↔
      name = "netconf" ∧ s.channels.contains channel = true := by
  simp [Secure.Session.claims, only, Bridge.subsystem]

/-- A session is what its past made of it, after every event. -/
theorem step (recorded : Recorded past t) (subsystems : t.setup.subsystems = [Bridge.subsystem])
    {event : Event} {told : List Observation} (step : t.Step event next told) :
    Recorded (past ++ [⟨.traffic event, told⟩]) next := by
  cases step with
  | unheard event silent =>
      refine ⟨fun number visit found stays => ?_, recorded.fresh,
        fun number outside => (recorded.unknown number outside).unseen fun _ _ => rfl⟩
      have agrees := recorded.stays number visit found stays
      apply agrees.unseen
      intro channel closes
      by_contra held
      have known := agrees.opened channel (Bool.not_eq_false _ ▸ held)
      have nobody := silent number channel closes
      cases up : visit.up with
      | true => simp [Traffic.loggedIn?, Traffic.heard?, found, known, up, stays] at nobody
      | false =>
          rw [recorded.fresh number visit found up] at known
          cases known
  | arrives runs told => exact recorded.arrives rfl told
  | @identifies number visit served =>
      exact recorded.aside { visit with up := true } (Traffic.held_of_served served) rfl id nofun
        rfl rfl _
  | @attempts number visit heard accepted =>
      exact recorded.about { visit with session := visit.session.attempt accepted } heard
        rfl rfl rfl rfl fun agrees => agrees.attempt accepted
  | @opens number visit heard channel =>
      have logged := Traffic.authenticated_of_loggedIn heard
      exact recorded.about { visit with session := visit.session.openChannel channel }
        (Traffic.heard_of_loggedIn heard) rfl rfl rfl rfl
        fun agrees => agrees.openChannel channel logged
  | @refuses number visit heard channel name answer shutdown unclaimed =>
      have hears := Traffic.heard_of_loggedIn heard
      obtain ⟨held, _⟩ := Option.filter_eq_some_iff.mp hears
      have visits : t.visits = t.visits.set number visit := by
        obtain ⟨inside, rfl⟩ := List.getElem?_eq_some_iff.mp held
        exact (List.set_getElem_self inside).symm
      apply recorded.about visit hears visits rfl rfl rfl
      intro agrees
      apply agrees.kept ⟨rfl, fun _ => rfl⟩
      intro other asked
      obtain ⟨rfl, known⟩ : channel = other ∧ name = "netconf" := by
        simp [Record.closes, Record.asks] at asked
        exact asked.1
      by_contra held
      have claimed := (claims_iff subsystems channel name).mpr ⟨known, Bool.not_eq_false _ ▸ held⟩
      rw [unclaimed] at claimed
      cases claimed
  | @dials number visit heard channel name answer shutdown claimed success =>
      apply recorded.about { visit with session := visit.session.closeChannel channel }
        (Traffic.heard_of_loggedIn heard) rfl rfl rfl rfl
      intro agrees
      have known := ((claims_iff subsystems channel name).mp claimed).1
      exact agrees.request known answer shutdown (by simp [Observation.answers])
  | @starts number visit heard channel name answer shutdown claimed link service spawned =>
      apply recorded.about
        { visit with session := visit.session.closeChannel channel, links := visit.links ++ [link] }
        (Traffic.heard_of_loggedIn heard) rfl rfl rfl rfl
      intro agrees
      have known := ((claims_iff subsystems channel name).mp claimed).1
      exact agrees.request known answer shutdown (by simp [Observation.answers])
  | @closes number visit heard channel =>
      apply recorded.about { visit with session := visit.session.closeChannel channel }
        (Traffic.heard_of_loggedIn heard) rfl rfl rfl rfl
      intro agrees
      apply agrees.released ⟨rfl, fun _ => rfl⟩
      intro other
      simp [Record.closes, Record.asks, Bool.beq_comm]
  | @relays number index visit link changed linked same =>
      exact recorded.aside { visit with links := visit.links.set index changed }
        (Traffic.held_of_linked linked).1 rfl id id rfl rfl _
  | @ends number index visit link changed linked same =>
      exact recorded.aside { visit with links := visit.links.set index changed }
        (Traffic.held_of_linked linked).1 rfl id id rfl rfl _
  | @leaves number visit stays =>
      exact recorded.aside visit.leave (Traffic.held_of_present stays) rfl nofun id rfl rfl _

/-- A request that is handled calls for a dial exactly when it claims its channel. -/
theorem demands_request (recorded : Recorded past t)
    (subsystems : t.setup.subsystems = [Bridge.subsystem]) {number : Nat} {visit : Visit}
    (heard : t.loggedIn? number = some visit) (channel : Nat) (name : String) (answer : PeerAnswer)
    (shutdown : Option Duration) {told : List Observation}
    (answered : told.any (Observation.answers channel) = true) :
    (⟨.traffic (.requests number channel name answer shutdown), told⟩ : Record α).demands past
        t.backend =
      if visit.session.claims t.setup.subsystems channel name then [⟨number, channel, t.backend⟩]
      else [] := by
  have agrees := recorded.heard (Traffic.heard_of_loggedIn heard)
  have logged : loggedIn past number = true := by
    rw [← agrees.authenticated]
    exact Traffic.authenticated_of_loggedIn heard
  have claims : visit.session.claims t.setup.subsystems channel name =
      (name == "netconf" && unclaimed past number channel) := by
    rw [← agrees.channels channel, Bool.eq_iff_iff, claims_iff subsystems]
    simp
  simp [Record.demands, Record.asks, answered, logged, claims]

/-- The backend is dialled for what a record calls for, and for nothing else. -/
theorem dials (recorded : Recorded past t) (subsystems : t.setup.subsystems = [Bridge.subsystem])
    {event : Event} {told : List Observation} (step : t.Step event next told) :
    next.dials =
      t.dials ++ (⟨.traffic event, told⟩ : Record α).demands past t.backend := by
  cases step with
  | unheard event silent =>
      have nothing : (⟨.traffic event, []⟩ : Record α).demands past t.backend = [] := by
        cases event with
        | requests => simp [Record.demands, Record.asks]
        | arrives | identifies | attempts | opens | closes | relays | leaves => rfl
      rw [nothing, List.append_nil]
  | arrives | identifies | attempts | opens | closes | relays | ends | leaves =>
      exact (List.append_nil t.dials).symm
  | @refuses number visit heard channel name answer shutdown unclaimed =>
      rw [recorded.demands_request subsystems heard channel name answer shutdown
        (by simp [Observation.answers]), unclaimed]
      exact (List.append_nil t.dials).symm
  | @dials number visit heard channel name answer shutdown claimed success =>
      rw [recorded.demands_request subsystems heard channel name answer shutdown
        (by simp [Observation.answers]), claimed]
      rfl
  | @starts number visit heard channel name answer shutdown claimed link service spawned =>
      rw [recorded.demands_request subsystems heard channel name answer shutdown
        (by simp [Observation.answers]), claimed]
      rfl

end Recorded

/-- No connection to the backend stands that was not dialled. -/
theorem Traffic.Step.departures {t next : Traffic} {event : Event} {told : List Observation}
    (step : t.Step event next told)
    (dialled : t.service.departures.length ≤ t.dials.length) :
    next.service.departures.length ≤ next.dials.length := by
  cases step with
  | unheard | refuses | identifies | attempts | opens | closes | relays | ends => exact dialled
  | @arrives loop =>
      change (t.service.accept loop).2.departures.length ≤ t.dials.length
      rw [Service.departures_accept]
      exact dialled
  | @dials number visit heard channel name answer shutdown =>
      have more := t.service.departures_dial t.backend t.setup.timeouts.connect answer shutdown
      change _ ≤ (t.dials ++ [DialMade.mk number channel t.backend]).length
      rw [List.length_append]
      exact Nat.le_trans more (Nat.succ_le_succ dialled)
  | @starts number visit heard channel name answer shutdown claimed link service spawned =>
      have more := t.service.departures_dial t.backend t.setup.timeouts.connect answer shutdown
      change service.departures.length ≤ (t.dials ++ [DialMade.mk number channel t.backend]).length
      rw [List.length_append, Service.departures_spawn spawned]
      exact Nat.le_trans more (Nat.succ_le_succ dialled)
  | @leaves number visit =>
      rcases t.service_leave number visit with same | ⟨task, _, finished⟩
      · rw [same]
        exact dialled
      · rw [finished]
        exact dialled

/-! ## The server and its past -/

/-- A server that listens at a backend, or did, after all that is in its past. -/
structure Watched (s : Server) (past : List (Record α)) (backend : Address) (t : Traffic) :
    Prop where
  traffic : s.traffic? = some t
  recorded : Recorded past t
  subsystems : t.setup.subsystems = [Bridge.subsystem]
  backend : t.backend = backend
  departures : t.service.departures.length ≤ t.dials.length

/-- What is asked of the server itself is nothing to its visits. -/
theorem Recorded.asked {past : List (Record α)} {t : Traffic} (recorded : Recorded past t)
    (next : Traffic) (visits : next.visits = t.visits) {call : Call α} (own : call.event? = none)
    (seen : List Observation) : Recorded (past ++ [⟨call, seen⟩]) next := by
  have keeps {number : Nat} {session : Secure.Session} (agrees : Agrees past number session) :
      Agrees (past ++ [⟨call, seen⟩]) number session := by
    cases call with
    | bind | close => exact agrees.kept ⟨rfl, fun _ => rfl⟩ nofun
    | traffic event => cases own
  refine ⟨fun number visit found stays => ?_, fun number visit found => ?_,
    fun number outside => ?_⟩
  · rw [visits] at found
    exact keeps (recorded.stays number visit found stays)
  · rw [visits] at found
    exact recorded.fresh number visit found
  · rw [visits] at outside
    exact keeps (recorded.unknown number outside)

/-- What is asked of the server itself leaves its traffic to its visits. -/
theorem Watched.asked {s next : Server} {past : List (Record α)} {backend : Address} {t : Traffic}
    (watched : Watched s past backend t) {call : Call α} (own : call.event? = none)
    {service : Service} (left : next.traffic? = some { t with service := service })
    (departures : service.departures = t.service.departures) (seen : List Observation) :
    Watched next (past ++ [⟨call, seen⟩]) backend { t with service := service } := by
  refine ⟨left, ?_, watched.subsystems, watched.backend, ?_⟩
  · exact watched.recorded.asked { t with service := service } rfl own seen
  · rw [departures]
    exact watched.departures

/-- An event of the traffic. -/
theorem Watched.event {s next : Server} {past : List (Record α)} {backend : Address} {t : Traffic}
    (watched : Watched s past backend t) (event : Event)
    (held : next.traffic? = some (t.step event).1) :
    let record : Record α := ⟨.traffic event, (t.step event).2⟩
    Watched next (past ++ [record]) backend (t.step event).1 ∧
      (t.step event).1.dials = t.dials ++ record.demands past backend := by
  intro record
  have step := t.step_step event
  refine ⟨⟨held, ?_, ?_, ?_, step.departures watched.departures⟩, ?_⟩
  · exact watched.recorded.step watched.subsystems step
  · rw [step.fixed.1]
    exact watched.subsystems
  · rw [step.fixed.2]
    exact watched.backend
  · have dialled := watched.recorded.dials watched.subsystems step
    rw [watched.backend] at dialled
    exact dialled

theorem Watched.step {s next : Server} {past : List (Record α)} {backend : Address} {t : Traffic}
    (watched : Watched s past backend t) {call : Call α} {seen : List Observation}
    (step : s.Step call next seen) :
    let record : Record α := ⟨call, seen⟩
    ∃ later, Watched next (past ++ [record]) backend later ∧
      later.dials = t.dials ++ record.demands past backend := by
  intro record
  have held := watched.traffic
  cases step with
  | fails created | binds created | retires created => simp [traffic?, created] at held
  | waits quiet =>
      rw [quiet] at held
      cases held
  | refuses | stays => exact ⟨t, watched.asked rfl held rfl _, (List.append_nil t.dials).symm⟩
  | closes bound isOver departures =>
      simp only [traffic?, bound, Option.some.injEq] at held
      subst held
      exact ⟨_, watched.asked rfl rfl departures _, (List.append_nil _).symm⟩
  | serves bound event =>
      simp only [traffic?, bound, Option.some.injEq] at held
      subst held
      exact ⟨_, watched.event event rfl⟩
  | lingers closed event =>
      simp only [traffic?, closed, Option.some.injEq] at held
      subst held
      exact ⟨_, watched.event event rfl⟩

theorem Watched.run {s : Server} {past : List (Record α)} {backend : Address} {t : Traffic}
    (watched : Watched s past backend t) (calls : List (Call α)) :
    ∃ later, Watched (s.run calls) (past ++ s.history calls) backend later := by
  induction calls generalizing s past t with
  | nil => exact ⟨t, (List.append_nil past).symm ▸ watched⟩
  | cons call rest ih =>
      obtain ⟨next, after, _⟩ := watched.step (s.call_step call)
      obtain ⟨last, done⟩ := ih after
      rw [List.append_assoc] at done
      exact ⟨last, done⟩

theorem seen_onEvent {s : Server} {t : Traffic} (held : s.traffic? = some t) (event : Event) :
    (s.onEvent event).2 = (t.step event).2 := by
  cases state : s.lifecycle with
  | created => simp [traffic?, state] at held
  | closed left =>
      simp only [traffic?, state] at held
      subst held
      simp [Server.onEvent, state]
  | bound b =>
      simp only [traffic?, state, Option.some.injEq] at held
      subst held
      simp [Server.onEvent, state]

/-- A request is answered as long as its visit is logged in and has not left. -/
theorem Traffic.answers_step (t : Traffic) (visit channel : Nat) (name : String)
    (answer : PeerAnswer) (shutdown : Option Duration) :
    (t.step (.requests visit channel name answer shutdown)).2.any (Observation.answers channel) =
      (t.loggedIn? visit).isSome := by
  cases heard : t.loggedIn? visit with
  | none => simp [Traffic.step, heard]
  | some found =>
      simp only [Traffic.step, heard, Option.isSome_some, Traffic.request]
      split
      · split <;> simp [Observation.answers]
      · simp [Observation.answers]

/-- Only a bind on a server that was just created succeeds, and then it begins
to listen. -/
theorem bind_begins {s : Server} {config : Configuration α HostKey.Source} {around : Surroundings}
    (listening : (s.bind config around).result = .ok ()) :
    s.lifecycle = .created ∧ ∃ b address,
      (s.bind config around).server.lifecycle = .bound b ∧ b.Begins config address := by
  cases state : s.lifecycle with
  | bound | closed =>
      simp only [Server.bind, state] at listening
      cases listening
  | created =>
      have stages := bind_created state config around
      split at stages
      · rw [stages.result] at listening
        cases listening
      · obtain ⟨⟨_, b, server, begins⟩, _⟩ := stages
        exact ⟨rfl, b, _, by rw [server], begins⟩

theorem Bound.Begins.watched {s : Server} {b : Bound} {config : Configuration α HostKey.Source}
    {address : Address} (begins : b.Begins config address) (bound : s.lifecycle = .bound b) :
    Watched s ([] : List (Record α)) config.backendAddress b.traffic := by
  refine ⟨by simp [traffic?, bound], ⟨?_, ?_, ?_⟩, begins.subsystems, begins.backend, ?_⟩
  · intro number visit found
    simp [begins.visits] at found
  · intro number visit found
    simp [begins.visits] at found
  · exact fun number _ => agrees_nil number
  · rw [begins.departures]
    exact Nat.zero_le _

/-- The connections to the backend that ever stood. -/
def connections (s : Server) : List Departure :=
  (s.traffic?.map fun t => t.service.departures).getD []

/--
A server that was bound, through any calls and one more.  It dials for that call
exactly when the call is a request for `netconf` that gets an answer, on a
channel that was opened and neither closed nor claimed since, in a visit of
which a password was accepted: once, and at the configured backend.  A request
gets its answer as long as the visit is there and logged in.  The bind itself and
all that came before it dial nothing, and no connection to the backend stands
that was not dialled.
-/
theorem dials_run {s : Server} {config : Configuration α HostKey.Source} {around : Surroundings}
    (listening : (s.bind config around).result = .ok ()) (calls : List (Call α)) (next : Call α) :
    let b := (s.bind config around).server
    let past := b.history calls
    let record : Record α := ⟨next, ((b.run calls).call next).2⟩
    s.dials = [] ∧ b.dials = [] ∧
      (b.run (calls ++ [next])).dials =
        (b.run calls).dials ++ record.demands past config.backendAddress ∧
      (∀ visit channel name answer shutdown,
        next = .traffic (.requests visit channel name answer shutdown) →
          record.seen.any (Observation.answers channel) =
            ((b.run calls).traffic?.bind fun t => t.loggedIn? visit).isSome) ∧
      (b.run calls).connections.length ≤ (b.run calls).dials.length := by
  intro b past record
  obtain ⟨created, bound, address, state, begins⟩ := bind_begins listening
  have watched : Watched b ([] : List (Record α)) config.backendAddress bound.traffic :=
    begins.watched state
  obtain ⟨now, after⟩ := watched.run calls
  obtain ⟨later, further, dialled⟩ := after.step ((b.run calls).call_step next)
  rw [List.nil_append] at dialled
  refine ⟨?_, ?_, ?_, ?_, ?_⟩
  · simp [dials, traffic?, created]
  · simp [dials, watched.traffic, begins.dials]
  · rw [run_concat]
    simpa [dials, after.traffic, further.traffic] using dialled
  · rintro visit channel name answer shutdown rfl
    have told := seen_onEvent after.traffic (.requests visit channel name answer shutdown)
    change ((b.run calls).onEvent _).2.any _ = _
    rw [told, Traffic.answers_step, after.traffic]
    rfl
  · simpa [connections, dials, after.traffic] using after.departures

/-- A client that logs in, opens a channel and asks for `netconf`. -/
theorem dials_run_of_client :
    let config : Configuration Unit HostKey.Source :=
      ⟨.localhost 2022, .localhost 830, (), .memory [⟨.ed25519 [], [], ""⟩],
        ⟨.ofSeconds 600, .ofSeconds 600, .ofSeconds 10⟩⟩
    let around : Surroundings :=
      ⟨.empty, 0, [], .multiThreaded, [], fun _ => .ok (), fun address _ => .opened address⟩
    let s := new .default
    let b := (s.bind config around).server
    let calls : List (Call Unit) :=
      [.traffic (.arrives ⟨0, 0, .localhost 2022, false⟩), .traffic (.identifies 0),
        .traffic (.attempts 0 true), .traffic (.opens 0 0)]
    let next : Call Unit := .traffic (.requests 0 0 "netconf" (.accepts .zero) none)
    (s.bind config around).result = .ok () ∧
      (b.run (calls ++ [next])).dials = [⟨0, 0, .localhost 830⟩] := by
  intro config around s b calls next
  have listening : (s.bind config around).result = .ok () := rfl
  refine ⟨listening, ?_⟩
  obtain ⟨_, _, dialled, _⟩ := dials_run listening calls next
  rw [dialled]
  rfl

end NetconfGate.Server

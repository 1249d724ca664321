import NetconfGate.Proofs.Bridge.Crossing
import NetconfGate.Proofs.Server.Outlook

/-!
# Which bytes a backend gets

Each opening of a channel has a passage of its own, and a link takes that of the
channel that it was asked for on. No two links take the same. So whatever is
delivered to the backend of a link was given on that channel, and after it was
opened.
-/

namespace NetconfGate

open Channel

theorem Secure.Session.closeChannel_subset (s : Secure.Session) (channel : Nat) :
    (s.closeChannel channel).channels ⊆ s.channels :=
  fun other later => ((s.mem_channels_closeChannel channel other).mp later).1

namespace Server

open Crossing

/-- What a client gives on a channel. -/
def offered (channel : Nat) : List Happening → List Bytes :=
  List.filterMap fun
    | .gives other (.more bytes) => if other = channel then some bytes else none
    | _ => none

/-- These bytes were given on a channel after it was opened, and not all that
was given needs to have been heard. -/
def Given (past : List Happening) (channel : Nat) (bytes : Bytes) : Prop :=
  ∃ before after heard, past = before ++ .opens channel :: after ∧
    List.Sublist heard (offered channel after) ∧ bytes = heard.flatten

/-- What one sight has for the backend of a link. -/
def Sight.carried (index : Nat) : Sight → Bytes
  | .shown (.delivered other .clientToBackend bytes) => if other = index then bytes else []
  | _ => []

def delivered (index : Nat) (sights : List Sight) : Bytes := sights.flatMap (Sight.carried index)

theorem delivered_append (index : Nat) (first second : List Sight) :
    delivered index (first ++ second) = delivered index first ++ delivered index second :=
  List.flatMap_append

section Histories

variable {past : List Happening} {channel : Nat} {bytes : Bytes}

theorem Given.later (given : Given past channel bytes) (happening : Happening) :
    Given (past ++ [happening]) channel bytes := by
  obtain ⟨before, after, heard, rfl, part, rfl⟩ := given
  refine ⟨before, after ++ [happening], heard, by simp, ?_, rfl⟩
  rw [offered, List.filterMap_append]
  exact part.trans (List.sublist_append_left _ _)

theorem Given.more (given : Given past channel bytes) (more : Bytes) :
    Given (past ++ [.gives channel (.more more)]) channel (bytes ++ more) := by
  obtain ⟨before, after, heard, rfl, part, rfl⟩ := given
  refine ⟨before, after ++ [.gives channel (.more more)], heard ++ [more], by simp, ?_, by simp⟩
  have last : offered channel [.gives channel (.more more)] = [more] := by simp [offered]
  rw [offered, List.filterMap_append, ← offered, last]
  exact part.append (List.Sublist.refl _)

theorem given_opens (past : List Happening) (channel : Nat) :
    Given (past ++ [.opens channel]) channel [] :=
  ⟨past, [], [], rfl, List.Sublist.refl _, rfl⟩

end Histories

/-- Something came for a passage, and nothing was read. -/
structure Passage.Feeds (p fed : Passage) : Prop where
  channel : fed.channel = p.channel
  sink : fed.outbound.sink = p.outbound.sink
  carries : ∀ pump, p.outbound.Carries pump → fed.outbound.Carries pump

theorem Passage.feeds_feed (p : Passage) (direction : Relay.Direction) (input : Input) :
    p.Feeds (p.feed direction input) := by
  cases direction with
  | backendToClient => exact ⟨rfl, rfl, fun _ carries => carries⟩
  | clientToBackend =>
      refine ⟨rfl, rfl, fun pump carries => ?_⟩
      cases input with
      | more bytes => exact carries.produce bytes
      | finish => exact carries.finish

/-- It has got no more than what came for its backend. -/
theorem Passage.produced_feed (p : Passage) (direction : Relay.Direction) (input : Input) :
    (p.feed direction input).outbound.source.produced = p.outbound.source.produced ∨
      ∃ bytes, direction = .clientToBackend ∧ input = .more bytes ∧
        (p.feed direction input).outbound.source.produced =
          p.outbound.source.produced ++ bytes := by
  cases direction with
  | backendToClient => exact Or.inl rfl
  | clientToBackend =>
      cases input with
      | finish => exact Or.inl rfl
      | more bytes =>
          change (p.outbound.source.produce bytes).produced = _ ∨
            ∃ more, _ ∧ _ ∧ (p.outbound.source.produce bytes).produced = _
          unfold Source.produce
          cases p.outbound.source.ended with
          | true => exact Or.inl rfl
          | false => exact Or.inr ⟨bytes, rfl, rfl, rfl⟩

theorem produced_read? {source left : Source} {count : Nat} {chunk : Bytes}
    (found : source.read? count = some (chunk, left)) : left.produced = source.produced := by
  unfold Source.read? at found
  split at found
  · split at found <;> cases found
    rfl
  · split at found <;> cases found
    rfl

/-- A pump that is answered takes nothing back, neither from its source nor from
its sink. -/
theorem Move.answer?_kept {move : Move} {lane left : Lane} {phase : Pump.Phase} {event : Pump.Event}
    (answered : move.answer? lane phase = some (event, left)) :
    left.source.produced = lane.source.produced ∧ left.sink.accepted = lane.sink.accepted := by
  cases move with
  | writes | readFails | writeFails | flushFails =>
      cases answered
      exact ⟨rfl, rfl⟩
  | flushes =>
      cases phase with
      | flushing =>
          cases answered
          exact ⟨rfl, rfl⟩
      | reading | writing | ended => cases answered
  | reads count =>
      cases phase with
      | reading =>
          obtain ⟨⟨chunk, source⟩, found, same⟩ := Option.map_eq_some_iff.mp answered
          cases same
          exact ⟨produced_read? found, rfl⟩
      | writing | flushing | ended => cases answered

/-- Whatever a pump comes to, its lane carries. -/
theorem Move.answer?_carries {move : Move} {lane left : Lane} {pump : Pump} {event : Pump.Event}
    (carries : lane.Carries pump) (answered : move.answer? lane pump.phase = some (event, left)) :
    ({ left with sink := left.sink.take (pump.step event).2 } : Lane).Carries
      (pump.step event).1 := by
  cases move with
  | writes count =>
      cases answered
      exact carries.wrote count
  | readFails cause =>
      cases answered
      exact carries.failed (Or.inl rfl)
  | writeFails cause =>
      cases answered
      exact carries.failed (Or.inr (Or.inl rfl))
  | flushFails cause =>
      cases answered
      exact carries.failed (Or.inr (Or.inr rfl))
  | flushes =>
      cases phase : pump.phase with
      | flushing =>
          rw [phase] at answered
          cases answered
          obtain ⟨after, nothing⟩ := carries.flush phase
          rw [nothing, Sink.take_nil]
          exact after
      | reading | writing | ended =>
          rw [phase] at answered
          cases answered
  | reads count =>
      cases phase : pump.phase with
      | reading =>
          rw [phase] at answered
          obtain ⟨⟨chunk, source⟩, found, same⟩ := Option.map_eq_some_iff.mp answered
          cases same
          obtain ⟨after, nothing⟩ := carries.read phase found
          rw [nothing, Sink.take_nil]
          exact after
      | writing | flushing | ended =>
          rw [phase] at answered
          cases answered

/-! ## The account of a guest -/

section Lists

variable {α : Type} {l : List α} {a last : α} {index : Nat}

theorem held_append (held : l[index]? = some a) (more : List α) : (l ++ more)[index]? = some a :=
  (List.getElem?_append_left (List.getElem?_eq_some_iff.mp held).1).trans held

theorem held_concat (held : (l ++ [last])[index]? = some a) :
    l[index]? = some a ∨ index = l.length ∧ last = a := by
  obtain ⟨inside, found⟩ := List.getElem?_eq_some_iff.mp held
  rw [List.length_append, List.length_singleton] at inside
  by_cases before : index < l.length
  · exact Or.inl ((List.getElem?_append_left before).symm.trans held)
  · obtain rfl : index = l.length := by omega
    rw [List.getElem?_concat_length] at held
    exact Or.inr ⟨rfl, Option.some.inj held⟩

end Lists

/-- All that is known of the bytes of a guest, with the channels that it can ask
for something on, and with the channel and the pump of each of its links. -/
structure Guest.Account (g : Guest) (past : List Happening) (told : List Sight)
    (channels : List Nat) (lines : List (Nat × Pump)) : Prop where
  paired : g.crossed.length = lines.length
  once : g.crossed.Nodup
  current : ∀ channel place, g.current channel = some place →
    ∃ p, g.passages[place]? = some p ∧ p.channel = channel
  waiting : ∀ channel ∈ channels, ∃ place, g.current channel = some place ∧ place ∉ g.crossed
  linked : ∀ index line place, lines[index]? = some line → g.crossed[index]? = some place →
    ∃ p, g.passages[place]? = some p ∧ p.channel = line.1 ∧ p.outbound.Carries line.2 ∧
      p.outbound.sink.accepted = delivered index told
  fresh : ∀ place p, g.passages[place]? = some p → place ∉ g.crossed →
    p.outbound.Carries .new ∧ p.outbound.sink.accepted = []
  quiet : ∀ index, lines.length ≤ index → delivered index told = []
  given : ∀ p ∈ g.passages, Given past p.channel p.outbound.source.produced

namespace Guest.Account

variable {g : Guest} {past : List Happening} {told : List Sight} {channels : List Nat}
  {lines : List (Nat × Pump)}

theorem new (past : List Happening) (quiet : ∀ index, delivered index told = []) :
    Guest.new.Account past told [] [] where
  paired := rfl
  once := List.nodup_nil
  current := nofun
  waiting := nofun
  linked := nofun
  fresh := nofun
  quiet := fun index _ => quiet index
  given := nofun

variable (account : g.Account past told channels lines)
include account

theorem later (happening : Happening) : g.Account (past ++ [happening]) told channels lines :=
  { account with given := fun p member => (account.given p member).later happening }

/-- Nothing was delivered meanwhile. -/
theorem tells {more : List Sight} (nothing : ∀ index, delivered index more = []) :
    g.Account past (told ++ more) channels lines := by
  have same (index : Nat) : delivered index (told ++ more) = delivered index told := by
    rw [delivered_append, nothing, List.append_nil]
  exact
    { account with
      linked := fun index line place found crossed =>
        same index ▸ account.linked index line place found crossed
      quiet := fun index beyond => (same index).trans (account.quiet index beyond) }

theorem narrows {fewer : List Nat} (part : fewer ⊆ channels) : g.Account past told fewer lines :=
  { account with waiting := fun channel member => account.waiting channel (part member) }

/-- Its keeper and what it has asked for have nothing to do with its bytes. -/
theorem setAsked (keeper : Secure.Keeper) (asked : Option Asked) :
    ({ g with keeper, asked } : Guest).Account past told channels lines :=
  { account with }

theorem exists_line {index place : Nat} (crossed : g.crossed[index]? = some place) :
    ∃ line, lines[index]? = some line := by
  have inside := (List.getElem?_eq_some_iff.mp crossed).1
  rw [account.paired] at inside
  exact ⟨lines[index], List.getElem?_eq_getElem inside⟩

theorem lt_of_crossed {place : Nat} (crossed : place ∈ g.crossed) : place < g.passages.length := by
  obtain ⟨index, found⟩ := List.mem_iff_getElem?.mp crossed
  obtain ⟨line, linked⟩ := account.exists_line found
  obtain ⟨p, held, _⟩ := account.linked index line place linked found
  exact (List.getElem?_eq_some_iff.mp held).1

/-- A channel is opened, and its passage is a new one. -/
theorem opens (channel : Nat) {more : List Nat}
    (known : ∀ other ∈ more, other = channel ∨ other ∈ channels) :
    (g.openChannel channel).Account (past ++ [.opens channel]) told more lines where
  paired := account.paired
  once := account.once
  current := by
    intro other place found
    by_cases same : other = channel
    · subst same
      cases (if_pos rfl).symm.trans found
      exact ⟨.new other, List.getElem?_concat_length, rfl⟩
    · obtain ⟨p, held, channels⟩ := account.current other place ((if_neg same).symm.trans found)
      exact ⟨p, held_append held _, channels⟩
  waiting := by
    intro other member
    by_cases same : other = channel
    · exact ⟨g.passages.length, if_pos same, fun crossed =>
        Nat.lt_irrefl _ (account.lt_of_crossed crossed)⟩
    · obtain ⟨place, found, apart⟩ := account.waiting other ((known other member).resolve_left same)
      exact ⟨place, (if_neg same).trans found, apart⟩
  linked := by
    intro index line place found crossed
    obtain ⟨p, held, rest⟩ := account.linked index line place found crossed
    exact ⟨p, held_append held _, rest⟩
  fresh := by
    intro place p held apart
    rcases held_concat held with before | ⟨_, rfl⟩
    · exact account.fresh place p before apart
    · exact ⟨Lane.carries_new, rfl⟩
  quiet := account.quiet
  given := by
    intro p member
    rcases List.mem_append.mp member with before | added
    · exact (account.given p before).later _
    · rw [List.mem_singleton.mp added]
      exact given_opens past channel

/-- Something comes for some of its passages. -/
theorem fed {later : List Happening} {passages : List Passage} (change : Nat → Passage → Passage)
    (changed : ∀ place, passages[place]? = g.passages[place]?.map (change place))
    (feeds : ∀ place (p : Passage), p.Feeds (change place p))
    (given : ∀ place p, g.passages[place]? = some p →
      Given later p.channel (change place p).outbound.source.produced) :
    ({ g with passages := passages } : Guest).Account later told channels lines where
  paired := account.paired
  once := account.once
  current := by
    intro channel place found
    obtain ⟨p, held, same⟩ := account.current channel place found
    exact ⟨change place p, by rw [changed, held]; rfl, (feeds place p).channel.trans same⟩
  waiting := account.waiting
  linked := by
    intro index line place found crossed
    obtain ⟨p, held, same, carries, accepted⟩ := account.linked index line place found crossed
    obtain ⟨channel, sink, carried⟩ := feeds place p
    exact ⟨change place p, by rw [changed, held]; rfl, channel.trans same, carried _ carries,
      by rw [sink]; exact accepted⟩
  fresh := by
    intro place _ held apart
    rw [changed] at held
    obtain ⟨p, before, rfl⟩ := Option.map_eq_some_iff.mp held
    obtain ⟨_, sink, carried⟩ := feeds place p
    obtain ⟨carries, untaken⟩ := account.fresh place p before apart
    exact ⟨carried _ carries, by rw [sink]; exact untaken⟩
  quiet := account.quiet
  given := by
    intro _ member
    obtain ⟨place, held⟩ := List.mem_iff_getElem?.mp member
    rw [changed] at held
    obtain ⟨p, before, rfl⟩ := Option.map_eq_some_iff.mp held
    rw [(feeds place p).channel]
    exact given place p before

/-- What comes for a passage from the client is what the client gives on its
channel. -/
theorem feed {place : Option Nat} {direction : Relay.Direction} {input : Input}
    {happening : Happening}
    (from_client : ∀ bytes spot p, direction = .clientToBackend → input = .more bytes →
      place = some spot → g.passages[spot]? = some p →
        happening = .gives p.channel (.more bytes)) :
    (g.feed place direction input).Account (past ++ [happening]) told channels lines := by
  cases place with
  | none => exact account.later happening
  | some spot =>
      refine account.fed
        (fun place p => if spot = place then p.feed direction input else p) ?_ ?_ ?_
      · intro place
        rw [List.getElem?_modify]
        rfl
      · intro place p
        split
        · exact p.feeds_feed direction input
        · exact ⟨rfl, rfl, fun _ carries => carries⟩
      · intro place p held
        have before := account.given p (List.mem_of_getElem? held)
        split
        · rename_i same
          subst same
          rcases p.produced_feed direction input with same | ⟨bytes, towards, comes, more⟩
          · rw [same]
            exact before.later happening
          · rw [more, from_client bytes spot p towards comes rfl held]
            exact before.more bytes
        · exact before.later happening

theorem hangsUp : g.hangUp.Account (past ++ [.hangsUp]) told channels lines := by
  refine account.fed (fun _ p => p.feed .clientToBackend .finish) ?_ ?_ ?_
  · intro place
    exact List.getElem?_map
  · exact fun _ p => p.feeds_feed _ _
  · intro place p held
    exact (account.given p (List.mem_of_getElem? held)).later _

/-- A link takes the passage that its channel stands for. -/
theorem lands {channel : Nat} (member : channel ∈ channels) {fewer : List Nat}
    (part : fewer ⊆ channels) (gone : channel ∉ fewer) :
    (g.land channel true).Account past told fewer (lines ++ [(channel, .new)]) := by
  obtain ⟨place, found, apart⟩ := account.waiting channel member
  obtain ⟨own, held, same⟩ := account.current channel place found
  have crossed : (g.land channel true).crossed = g.crossed ++ [place] := by
    rw [land, found]
    rfl
  refine ⟨?paired, ?once, account.current, ?waiting, ?linked, ?fresh, ?quiet, account.given⟩
  case paired => simp [crossed, account.paired]
  case once =>
    rw [crossed]
    refine List.nodup_append.mpr ⟨account.once, List.pairwise_singleton _ _, ?_⟩
    rintro other taken _ last rfl
    exact apart (List.mem_singleton.mp last ▸ taken)
  case waiting =>
    intro other later
    obtain ⟨spot, stands, free⟩ := account.waiting other (part later)
    refine ⟨spot, stands, ?_⟩
    rw [crossed, List.mem_append, List.mem_singleton]
    rintro (taken | rfl)
    · exact free taken
    · -- Two channels do not stand for one passage.
      obtain ⟨p, known, others⟩ := account.current other spot stands
      rw [held] at known
      cases known
      have alike : channel = other := same.symm.trans others
      exact gone (alike ▸ later)
  case linked =>
    intro index line spot linked taken
    rw [crossed] at taken
    rcases held_concat linked with before | ⟨last, rfl⟩
    · have inside := (List.getElem?_eq_some_iff.mp before).1
      rw [List.getElem?_append_left (account.paired ▸ inside)] at taken
      exact account.linked index line spot before taken
    · rw [last, ← account.paired, List.getElem?_concat_length] at taken
      cases taken
      obtain ⟨carries, untaken⟩ := account.fresh place own held apart
      refine ⟨own, held, same, carries, ?_⟩
      rw [account.quiet index (Nat.le_of_eq last.symm)]
      exact untaken
  case fresh =>
    intro spot p known free
    rw [crossed, List.mem_append, not_or] at free
    exact account.fresh spot p known free.1
  case quiet =>
    intro index beyond
    rw [List.length_append] at beyond
    exact account.quiet index (Nat.le_of_succ_le beyond)

/-- A link goes on, and its passage with it. -/
theorem moves {index place : Nat} {line : Nat × Pump} {p moved : Passage} {more : List Sight}
    {pump : Pump} (linked : lines[index]? = some line) (crossed : g.crossed[index]? = some place)
    (held : g.passages[place]? = some p) (channel : moved.channel = p.channel)
    (carries : p.outbound.Carries line.2 → moved.outbound.Carries pump)
    (produced : moved.outbound.source.produced = p.outbound.source.produced)
    (accepted : moved.outbound.sink.accepted =
      p.outbound.sink.accepted ++ delivered index more)
    (others : ∀ other, other ≠ index → delivered other more = []) :
    ({ g with passages := g.passages.set place moved } : Guest).Account past (told ++ more) channels
      (lines.set index (line.1, pump)) := by
  obtain ⟨_, known, own, carried, taken⟩ := account.linked index line place linked crossed
  rw [held] at known
  cases known
  have inside := (List.getElem?_eq_some_iff.mp held).1
  have inRange := (List.getElem?_eq_some_iff.mp linked).1
  have unchanged {spot : Nat} (apart : place ≠ spot) :
      (g.passages.set place moved)[spot]? = g.passages[spot]? := List.getElem?_set_ne apart
  have still {other : Nat} (apart : other ≠ index) :
      delivered other (told ++ more) = delivered other told := by
    rw [delivered_append, others other apart, List.append_nil]
  refine ⟨?paired, account.once, ?current, account.waiting, ?linked, ?fresh, ?quiet, ?given⟩
  case paired => simp [account.paired]
  case current =>
    intro other spot stands
    obtain ⟨q, found, same⟩ := account.current other spot stands
    by_cases here : place = spot
    · subst here
      rw [held] at found
      cases found
      exact ⟨moved, List.getElem?_set_self inside, channel.trans same⟩
    · exact ⟨q, (unchanged here).trans found, same⟩
  case linked =>
    intro other beside spot found crosses
    by_cases same : other = index
    · subst same
      rw [crossed] at crosses
      cases crosses
      rw [List.getElem?_set_self inRange] at found
      cases found
      refine ⟨moved, List.getElem?_set_self inside, channel.trans own, carries carried, ?_⟩
      rw [accepted, taken, delivered_append]
    · rw [List.getElem?_set_ne (Ne.symm same)] at found
      -- No two links have the same passage.
      have apart : place ≠ spot := by
        rintro rfl
        have within := (List.getElem?_eq_some_iff.mp crosses).1
        exact same ((List.getElem?_inj within account.once).mp (crosses.trans crossed.symm))
      rw [still same]
      obtain ⟨q, known, rest⟩ := account.linked other beside spot found crosses
      exact ⟨q, (unchanged apart).trans known, rest⟩
  case fresh =>
    intro spot q found free
    have apart : place ≠ spot := by
      rintro rfl
      exact free (List.mem_of_getElem? crossed)
    exact account.fresh spot q ((unchanged apart).symm.trans found) free
  case quiet =>
    intro other beyond
    rw [List.length_set] at beyond
    have apart : other ≠ index := by
      rintro rfl
      omega
    exact (still apart).trans (account.quiet other beyond)
  case given =>
    intro q member
    rcases List.mem_or_eq_of_mem_set member with before | rfl
    · exact account.given q before
    · rw [channel, produced]
      exact account.given p (List.mem_of_getElem? held)

end Guest.Account

/-! ## The account of a client -/

theorem Guest.asked_feed (g : Guest) (place : Option Nat) (direction : Relay.Direction)
    (input : Input) : (g.feed place direction input).asked = g.asked := by
  cases place <;> rfl

def Tie.line (tie : Tie) : Nat × Pump := (tie.channel, tie.relay.outbound)

/-- A client is asked for its channel as long as it has one to ask for. -/
structure Party.Account (p : Party) (subsystems : List String) (past : List Happening)
    (told : List Sight) : Prop where
  asked : ∀ asked, p.guest.asked = some asked →
    p.session.claims subsystems asked.channel asked.name = true
  bytes : p.guest.Account past told p.session.channels (p.ties.map Tie.line)

/-- A link whose pump is answered goes on or is over, and its bytes are told. -/
theorem Party.relay_eq (p : Party) (index : Nat) (direction : Relay.Direction)
    (event : Pump.Event) (tie : Tie) :
    ∃ changed : Tie, changed.line = (tie.channel, (tie.relay.step direction event).1.outbound) ∧
      (p.relay index direction event tie).1 = p.setTie index changed ∧
      ∀ other, delivered other (p.relay index direction event tie).2 =
        if direction = .clientToBackend ∧ index = other then (tie.relay.step direction event).2
        else [] := by
  unfold Party.relay
  generalize tie.relay.step direction event = moved
  have told (other : Nat) : delivered other
      (if moved.2.isEmpty then [] else [.shown (.delivered index direction moved.2)]) =
        if direction = .clientToBackend ∧ index = other then moved.2 else [] := by
    cases bytes : moved.2 with
    | nil => simp [delivered]
    | cons byte more => cases direction <;> simp [delivered, Sight.carried]
  dsimp only
  split
  · refine ⟨_, rfl, rfl, fun other => ?_⟩
    rw [delivered_append, told]
    exact List.append_nil _
  · exact ⟨_, rfl, rfl, told⟩

/-- So it is after something has happened to it. -/
def Party.Accounts (subsystems : List String) (past : List Happening) (told : List Sight)
    (result : Party × List Sight) : Prop :=
  result.1.Account subsystems past (told ++ result.2)

namespace Party.Account

variable {p : Party} {subsystems : List String} {past : List Happening} {told : List Sight}

theorem free_of_hears (hears : p.hears = true) : p.guest.asked = none := by
  unfold Party.hears Party.isHeard at hears
  rw [Bool.and_eq_true, Bool.and_eq_true] at hears
  exact Option.isNone_iff_eq_none.mp hears.1.1

/-- Who waits for no answer has asked for nothing. -/
theorem of_free {q : Party} (free : q.guest.asked = none)
    (bytes : q.guest.Account past told q.session.channels (q.ties.map Tie.line)) :
    q.Account subsystems past told := by
  refine ⟨fun asked found => ?_, bytes⟩
  rw [free] at found
  cases found

theorem map_set {index : Nat} {tie changed : Tie} (held : p.ties[index]? = some tie)
    (same : changed.line = tie.line) :
    (p.ties.set index changed).map Tie.line = p.ties.map Tie.line := by
  obtain ⟨inRange, found⟩ := List.getElem?_eq_some_iff.mp held
  rw [List.map_set, same, ← found, ← List.map_set, List.set_getElem_self]

variable (account : p.Account subsystems past told)
include account

/-- Nothing happens to its bytes. -/
theorem idle (happening : Happening) {more : List Sight}
    (nothing : ∀ index, delivered index more = []) :
    Party.Accounts subsystems (past ++ [happening]) told (p, more) :=
  ⟨account.asked, (account.bytes.later happening).tells nothing⟩

/-- How its tasks go on has nothing to do with its bytes. -/
theorem goesOn (q : Party) (session : q.session = p.session) (guest : q.guest = p.guest)
    (ties : q.ties.map Tie.line = p.ties.map Tie.line) : q.Account subsystems past told := by
  obtain ⟨asked, bytes⟩ := account
  refine ⟨?_, ?_⟩
  · rw [session, guest]
    exact asked
  · rw [session, guest, ties]
    exact bytes

theorem gives (free : p.guest.asked = none) (channel : Nat) (input : Input) :
    Party.Accounts subsystems (past ++ [.gives channel input]) told
      ({ p with guest := p.guest.feed (p.guest.current channel) .clientToBackend input }, []) := by
  refine of_free ((p.guest.asked_feed _ _ _).trans free) ?_
  refine Guest.Account.tells (account.bytes.feed ?_) fun _ => rfl
  rintro bytes spot passage - rfl current held
  obtain ⟨own, known, same⟩ := account.bytes.current channel spot current
  rw [held] at known
  cases known
  rw [same]

theorem closes (free : p.guest.asked = none) (channel : Nat) :
    Party.Accounts subsystems (past ++ [.closes channel]) told
      ({ p with
          session := p.session.closeChannel channel
          guest := p.guest.feed (p.guest.current channel) .clientToBackend .finish },
        []) := by
  refine of_free ((p.guest.asked_feed _ _ _).trans free) ?_
  have narrowed := account.bytes.narrows (p.session.closeChannel_subset channel)
  refine Guest.Account.tells (narrowed.feed ?_) fun _ => rfl
  rintro _ _ _ _ ⟨⟩

/-- The request is answered, and its channel is claimed. -/
theorem lands (draining : Bool) {asked : Asked} (asks : p.guest.asked = some asked)
    (outcome : Except Channel.Error Unit) (happening : Happening) :
    Party.Accounts subsystems (past ++ [happening]) told
      (p.land subsystems draining asked outcome) := by
  have claims := account.asked asked asks
  have member : asked.channel ∈ p.session.channels := by
    rw [Secure.Session.claims, Bool.and_eq_true] at claims
    exact List.contains_iff_mem.mp claims.2
  have part := p.session.closeChannel_subset asked.channel
  have gone : asked.channel ∉ (p.session.closeChannel asked.channel).channels :=
    fun later => ((p.session.mem_channels_closeChannel _ _).mp later).2 rfl
  unfold Party.land
  generalize (if asked.dialled then outcome else .error .groupShutdown) = connected
  dsimp only
  have nothing (success closed : Bool) (index : Nat) :
      delivered index (.shown (.reply asked.channel success) ::
        (if closed then [.shown (.channelClosed asked.channel)] else [])) = [] := by
    cases closed <;> rfl
  cases connected.isOk && !draining with
  | true =>
      have landed := account.bytes.lands member part gone
      refine of_free rfl ?_
      rw [Secure.Session.session_request claims _ _, if_pos rfl, List.map_append]
      exact (landed.later happening).tells (nothing _ _)
  | false =>
      have landed := (account.bytes.narrows part).setAsked p.guest.keeper none
      refine of_free rfl ?_
      rw [Secure.Session.session_request claims _ _]
      exact (landed.later happening).tells (nothing _ _)

/-- Its keeper looks after it, and may end it. -/
theorem polls (cancelled : Bool) (f : Secure.Keeper.Findings) (happening : Happening) :
    Party.Accounts subsystems (past ++ [happening]) told (p.poll cancelled f) := by
  unfold Party.poll
  dsimp only
  generalize p.guest.keeper.poll { f with cancelled, ended := p.gone } = keeper
  generalize (p.up ||
    decide (p.guest.keeper.takes? { f with cancelled, ended := p.gone } = some true)) = up
  have nothing (index : Nat) : delivered index
      (if keeper.told = p.guest.keeper.told then [] else (keeper.told.map .told).toList) = [] := by
    split
    · rfl
    · cases keeper.told <;> rfl
  let next : Party := { p with up, guest := { p.guest with keeper } }
  have kept : next.Account subsystems past told :=
    ⟨account.asked, account.bytes.setAsked keeper p.guest.asked⟩
  split
  · exact (kept.goesOn (next.ends _) rfl rfl rfl).idle happening nothing
  · exact kept.idle happening nothing

/-- A pump of a link is answered. -/
theorem moves {index : Nat} {tie : Tie} (held : p.ties[index]? = some tie)
    {direction : Relay.Direction} {move : Move} {event : Pump.Event} {guest : Guest}
    (moved : p.guest.move? index direction move tie.relay = some (event, guest))
    (happening : Happening) :
    Party.Accounts subsystems (past ++ [happening]) told
      (({ p with guest } : Party).relay index direction event tie) := by
  obtain ⟨changed, line, stepped, told_eq⟩ :=
    ({ p with guest := guest } : Party).relay_eq index direction event tie
  obtain ⟨place, crossed, rest⟩ := Option.bind_eq_some_iff.mp moved
  obtain ⟨passage, found, rest⟩ := Option.bind_eq_some_iff.mp rest
  cases going : tie.relay.ended with
  | some ended => simp [going] at rest
  | none =>
      rw [going, Option.isSome_none, if_neg (by decide)] at rest
      obtain ⟨⟨answer, lane⟩, answered, same⟩ := Option.bind_eq_some_iff.mp rest
      cases same
      obtain ⟨bytes, mover, others, _⟩ := Relay.step_of_going going direction event
      unfold Party.Accounts
      rw [stepped]
      refine ⟨account.asked, ?_⟩
      change Guest.Account _ _ _ _ ((p.ties.set index changed).map Tie.line)
      rw [List.map_set, line]
      have linked : (p.ties.map Tie.line)[index]? = some tie.line := by
        rw [List.getElem?_map, held]
        rfl
      have kept := Move.answer?_kept answered
      have later := account.bytes.later happening
      cases direction with
      | clientToBackend =>
          refine later.moves linked crossed found rfl (fun carries => ?_) kept.1 ?_ ?_
          · change passage.outbound.Carries (tie.relay.pump .clientToBackend) at carries
            have after := Move.answer?_carries carries answered
            rw [← mover, ← bytes] at after
            exact after
          · rw [told_eq, if_pos ⟨rfl, rfl⟩]
            exact congrArg (· ++ _) kept.2
          · exact fun other different =>
              (told_eq other).trans (if_neg fun both => different both.2.symm)
      | backendToClient =>
          have same : (tie.relay.step .backendToClient event).1.outbound = tie.relay.outbound :=
            others .clientToBackend (by decide)
          rw [same]
          refine later.moves linked crossed found rfl (fun carries => carries) rfl ?_ ?_
          · rw [told_eq]
            exact (List.append_nil _).symm
          · exact fun other _ => told_eq other

/-- Whatever happens to a client, its account goes on. -/
theorem act (draining cancelled : Bool) (happening : Happening) :
    Party.Accounts subsystems (past ++ [happening]) told
      (p.act subsystems draining cancelled happening) := by
  have still : Party.Accounts subsystems (past ++ [happening]) told (p, []) :=
    account.idle happening fun _ => rfl
  cases happening with
  | arrives | slips => exact still
  | attempts accepted =>
      simp only [Party.act]
      cases p.isHeard with
      | false => exact still
      | true => exact ⟨account.asked, (account.bytes.later _).tells fun _ => rfl⟩
  | opens channel =>
      simp only [Party.act]
      cases hears : p.hears with
      | false => exact still
      | true =>
          have free := free_of_hears hears
          have opened := account.bytes.opens channel fun other member =>
            (p.session.mem_channels_openChannel channel other).mp member
          exact of_free free (opened.tells fun _ => rfl)
  | gives channel input =>
      simp only [Party.act]
      cases hears : p.hears with
      | false => exact still
      | true => exact account.gives (free_of_hears hears) channel input
  | requests channel name =>
      simp only [Party.act]
      cases p.hears with
      | false => exact still
      | true =>
          cases claims : p.session.claims subsystems channel name with
          | false => exact account.idle _ fun _ => rfl
          | true =>
              refine ⟨fun asked found => ?_, ?_⟩
              · cases found
                exact claims
              · exact ((account.bytes.setAsked _ _).later _).tells fun _ => rfl
  | lands outcome =>
      simp only [Party.act]
      cases asks : p.guest.asked with
      | none => exact still
      | some asked => exact account.lands draining asks outcome _
  | closes channel =>
      simp only [Party.act]
      cases hears : p.hears with
      | false => exact still
      | true => exact account.closes (free_of_hears hears) channel
  | hangsUp =>
      simp only [Party.act]
      cases free : p.guest.asked with
      | none => exact of_free free (account.bytes.hangsUp.tells fun _ => rfl)
      | some asked => exact still
  | polls f =>
      simp only [Party.act]
      split
      · exact account.polls cancelled f _
      · exact still
  | backs index input =>
      refine ⟨?_, ?_⟩
      · rw [Party.act, Guest.asked_feed]
        exact account.asked
      · refine Guest.Account.tells (account.bytes.feed ?_) fun _ => rfl
        rintro _ _ _ ⟨⟩
  | moves index direction move =>
      simp only [Party.act]
      cases found : p.tie? index with
      | none => exact still
      | some tie =>
          have held := (Option.filter_eq_some_iff.mp found).1
          cases moved : p.guest.move? index direction move tie.relay with
          | none => simpa only [moved] using still
          | some answer =>
              simp only [moved]
              exact account.moves held moved _
  | fails outcome =>
      simp only [Party.act]
      cases mayEnd cancelled outcome with
      | false => exact still
      | true => exact (account.goesOn (p.ends outcome) rfl rfl rfl).idle _ fun _ => rfl
  | drops index outcome =>
      simp only [Party.act]
      cases found : p.tie? index with
      | none => exact still
      | some tie =>
          have held := (Option.filter_eq_some_iff.mp found).1
          cases mayEnd cancelled outcome with
          | false => exact still
          | true =>
              let ended := p.setTie index { tie with outcome := some outcome }
              exact (account.goesOn ended rfl rfl (map_set held rfl)).idle _ fun _ => rfl

/-- What was delivered over a link was given on its channel. -/
theorem delivered_of_tie {index : Nat} {tie : Tie} (held : p.ties[index]? = some tie) :
    ∃ bytes, Given past tie.channel bytes ∧ delivered index told <+: bytes := by
  have account := account.bytes
  have linked : (p.ties.map Tie.line)[index]? = some tie.line := by
    rw [List.getElem?_map, held]
    rfl
  have inside := (List.getElem?_eq_some_iff.mp linked).1
  rw [← account.paired] at inside
  obtain ⟨passage, found, channel, ⟨_, holds⟩, accepted⟩ :=
    account.linked index tie.line _ linked (List.getElem?_eq_getElem inside)
  refine ⟨passage.outbound.source.produced, ?_, ?_⟩
  · have given := account.given passage (List.mem_of_getElem? found)
    rw [channel] at given
    exact given
  · rw [holds.produced, accepted]
    exact List.prefix_append _ _

end Party.Account

/-- What happens to one client, of all that concerns it. -/
def doings {κ : Type} : List (Occurrence κ) → List Happening :=
  List.filterMap fun
    | .of _ happening => some happening
    | .server _ => none

/-- Who has not come gets nothing delivered. -/
structure Outlook.Account (o : Outlook) (subsystems : List String) (past : List Happening)
    (told : List Sight) : Prop where
  absent : o.party = none → ∀ index, delivered index told = []
  party : ∀ p, o.party = some p → p.Account subsystems past told

namespace Outlook.Account

variable {κ : Type} {o : Outlook} {subsystems : List String} {past : List Happening}
  {told : List Sight}

theorem turn (account : o.Account subsystems past told) (turn : Turn) :
    (o.turn turn).Account subsystems past told := by
  have same {later : Outlook} (unchanged : later.party = o.party) :
      later.Account subsystems past told :=
    ⟨fun absent => account.absent (unchanged ▸ absent),
      fun p seen => account.party p (unchanged ▸ seen)⟩
  cases turn with
  | closes | goesOn | loopEnds =>
      refine same ?_
      unfold Outlook.turn
      dsimp only
      split <;> rfl
  | poolLost =>
      refine ⟨fun absent => account.absent (Option.map_eq_none_iff.mp absent), fun p seen => ?_⟩
      obtain ⟨before, held, rfl⟩ := Option.map_eq_some_iff.mp seen
      refine (account.party before held).goesOn before.lose rfl rfl ?_
      change (before.ties.map _).map Tie.line = _
      rw [List.map_map]
      rfl

theorem arrive (account : o.Account subsystems past told) (absent : o.party = none) :
    o.arrive.1.Account subsystems past (told ++ o.arrive.2) := by
  have nothing := account.absent absent
  unfold Outlook.arrive
  split
  · rw [List.append_nil]
    exact account
  · refine ⟨nofun, fun p seen => ?_⟩
    cases seen
    refine Party.Account.of_free rfl (Guest.Account.new _ fun index => ?_)
    rw [delivered_append, nothing]
    cases o.draining <;> rfl

theorem later (account : o.Account subsystems past told) (happening : Happening) :
    o.Account subsystems (past ++ [happening]) told :=
  ⟨account.absent, fun p seen =>
    ⟨(account.party p seen).asked, (account.party p seen).bytes.later happening⟩⟩

theorem step (account : o.Account subsystems past told) (occurrence : Occurrence κ) :
    (o.step subsystems occurrence).1.Account subsystems (past ++ doings [occurrence])
      (told ++ (o.step subsystems occurrence).2) := by
  cases occurrence with
  | server turn =>
      change (o.turn turn).Account subsystems (past ++ []) (told ++ [])
      rw [List.append_nil, List.append_nil]
      exact account.turn turn
  | of who happening =>
      change Account _ subsystems (past ++ [happening]) _
      have still := account.later happening
      cases seen : o.party with
      | none =>
          simp only [Outlook.step, seen]
          cases happening with
          | arrives => exact still.arrive seen
          | _ =>
              rw [List.append_nil]
              exact still
      | some p =>
          simp only [Outlook.step, seen]
          refine ⟨nofun, fun q found => ?_⟩
          cases found
          exact (account.party p seen).act o.draining o.cancelled happening

theorem run (account : o.Account subsystems past told) (occurrences : List (Occurrence κ)) :
    (o.run subsystems occurrences).Account subsystems (past ++ doings occurrences)
      (told ++ o.seen subsystems occurrences) := by
  induction occurrences generalizing o past told with
  | nil =>
      change o.Account subsystems (past ++ []) (told ++ [])
      rw [List.append_nil, List.append_nil]
      exact account
  | cons first rest ih =>
      have after := ih (account.step first)
      rw [List.append_assoc, List.append_assoc, doings, ← List.filterMap_append] at after
      exact after

/-- A link gets what was given on its channel. -/
theorem delivered_of_tie (account : o.Account subsystems past told) {index : Nat} {tie : Tie}
    (tied : (o.party.bind fun p => p.ties[index]?) = some tie) :
    ∃ bytes, Given past tie.channel bytes ∧ delivered index told <+: bytes := by
  obtain ⟨p, seen, held⟩ := Option.bind_eq_some_iff.mp tied
  exact (account.party p seen).delivered_of_tie held

/-- Where there is no link, nothing is delivered. -/
theorem delivered_of_untied (account : o.Account subsystems past told) {index : Nat}
    (untied : (o.party.bind fun p => p.ties[index]?) = none) : delivered index told = [] := by
  cases seen : o.party with
  | none => exact account.absent seen index
  | some p =>
      rw [seen, Option.bind_some, List.getElem?_eq_none_iff] at untied
      exact (account.party p seen).bytes.quiet index (by rwa [List.length_map])

end Outlook.Account

end Server

end NetconfGate

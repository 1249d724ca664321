import NetconfGate.Bridge.Crossing

/-!
# What crosses a bridge

Each byte of a source is in one place: its sink has taken it, or its pump holds
it, or it waits to be read.  The pump of each direction keeps this account
through every answer, and it stands when the pump is stopped, wherever that is.
A pump that came to the end of its stream holds nothing, and nothing waits.  What
was read is counted in 64 bits, which tell the number itself of fewer than 2^64
bytes.
-/

namespace NetconfGate

namespace Crossing

/-- What is settled when a pump is at this point. -/
def Lane.Settled (lane : Lane) (held : Bytes) : Pump.Phase → Prop
  | .reading => held = [] ∧ lane.sink.flushed = lane.sink.accepted
  | .writing rest => held = rest
  | .flushing => held = []
  | .ended none =>
      held = [] ∧ lane.sink.flushed = lane.sink.accepted ∧ lane.source.ended = true ∧
        lane.source.waiting = []
  | .ended (some _) => True

/-- `held` is what was counted and not taken by the sink. -/
structure Lane.Holds (lane : Lane) (pump : Pump) (held : Bytes) : Prop where
  produced : lane.source.produced = lane.sink.accepted ++ (held ++ lane.source.waiting)
  count : pump.count = .ofNat (lane.sink.accepted.length + held.length)
  small : held.length ≤ bufferSize
  settled : lane.Settled held pump.phase

def Lane.Carries (lane : Lane) (pump : Pump) : Prop := ∃ held, lane.Holds pump held

namespace Lane

variable {lane : Lane} {pump : Pump}

theorem carries_new : Carries ⟨.new, .new⟩ .new :=
  ⟨[], rfl, rfl, Nat.zero_le _, rfl, rfl⟩

/-- A pump that fails leaves what it holds behind. -/
theorem Holds.fails {held : Bytes} (holds : lane.Holds pump held) (cause : SystemError) :
    lane.Carries ⟨.ended (some cause), pump.count⟩ :=
  ⟨held, holds.produced, holds.count, holds.small, True.intro⟩

theorem Carries.produce (carries : lane.Carries pump) (bytes : Bytes) :
    ({ lane with source := lane.source.produce bytes } : Lane).Carries pump := by
  obtain ⟨held, produced, count, small, settled⟩ := carries
  unfold Source.produce
  split
  · exact ⟨held, produced, count, small, settled⟩
  · rename_i going
    refine ⟨held, ?_, count, small, ?_⟩
    · simp only [produced, List.append_assoc]
    · cases phase : pump.phase with
      | reading | writing | flushing =>
          rw [phase] at settled
          exact settled
      | ended failure =>
          rw [phase] at settled
          cases failure with
          | none => exact absurd settled.2.2.1 going
          | some cause => exact True.intro

theorem Carries.finish (carries : lane.Carries pump) :
    ({ lane with source := lane.source.finish } : Lane).Carries pump := by
  obtain ⟨held, produced, count, small, settled⟩ := carries
  refine ⟨held, produced, count, small, ?_⟩
  cases phase : pump.phase with
  | reading | writing | flushing =>
      rw [phase] at settled
      exact settled
  | ended failure =>
      rw [phase] at settled
      cases failure with
      | none => exact ⟨settled.1, settled.2.1, rfl, settled.2.2.2⟩
      | some cause => exact True.intro

theorem Carries.shutDown (carries : lane.Carries pump) :
    ({ lane with sink := lane.sink.shutDown } : Lane).Carries pump := by
  obtain ⟨held, produced, count, small, settled⟩ := carries
  refine ⟨held, produced, count, small, ?_⟩
  cases phase : pump.phase with
  | reading | writing | flushing =>
      rw [phase] at settled
      exact settled
  | ended failure =>
      rw [phase] at settled
      cases failure <;> exact settled

/-- What a read takes from its source waits no more and is held by the pump. -/
theorem Carries.read (carries : lane.Carries pump) (reading : pump.phase = .reading) {limit : Nat}
    {chunk : Bytes} {source : Source} (found : lane.source.read? limit = some (chunk, source)) :
    ({ lane with source := source } : Lane).Carries (pump.step (.read chunk)).1 ∧
      (pump.step (.read chunk)).2 = [] := by
  obtain ⟨held, produced, count, small, settled⟩ := carries
  rw [reading] at settled
  obtain ⟨rfl, flushed⟩ := settled
  unfold Source.read? at found
  split at found
  · rename_i dry
    have waiting : lane.source.waiting = [] := List.isEmpty_iff.mp dry
    split at found
    · rename_i ended
      cases found
      have isOver : pump.step (.read []) = (⟨.ended none, pump.count⟩, []) := by
        simp [Pump.step, reading]
      rw [isOver]
      exact ⟨⟨[], produced, count, small, rfl, flushed, ended, waiting⟩, rfl⟩
    · cases found
  · rename_i wet
    split at found
    · cases found
    · rename_i positive
      cases found
      let chunk := lane.source.waiting.take (min limit bufferSize)
      have length : chunk.length ≤ bufferSize := by
        rw [List.length_take]
        omega
      have filled : chunk ≠ [] := by
        intro empty
        rcases List.take_eq_nil_iff.mp empty with none_taken | dry
        · simp only [bufferSize] at none_taken
          omega
        · exact wet (List.isEmpty_iff.mpr dry)
      have taken : pump.step (.read chunk) =
          (⟨.writing chunk, pump.count + .ofNat chunk.length⟩, []) := by
        simp [Pump.step, reading, length, filled]
      rw [taken]
      refine ⟨⟨chunk, ?_, ?_, length, rfl⟩, rfl⟩
      · rw [produced, List.take_append_drop]
        rfl
      · rw [count, ← UInt64.ofNat_add]
        rfl

/-- A flush covers all that was written. -/
theorem Carries.flush (carries : lane.Carries pump) (flushing : pump.phase = .flushing) :
    ({ lane with sink := lane.sink.flush } : Lane).Carries (pump.step .flushed).1 ∧
      (pump.step .flushed).2 = [] := by
  obtain ⟨held, produced, count, small, settled⟩ := carries
  rw [flushing] at settled
  cases settled
  have again : pump.step .flushed = (⟨.reading, pump.count⟩, []) := by
    simp [Pump.step, flushing]
  rw [again]
  exact ⟨⟨[], produced, count, small, rfl, rfl⟩, rfl⟩

/-- What a write takes is held by the pump no more. -/
theorem Holds.wrote {rest : Bytes} (holds : lane.Holds pump rest)
    (writing : pump.phase = .writing rest) (taken : Nat) :
    ({ lane with sink := lane.sink.take (pump.step (.wrote taken)).2 } : Lane).Carries
      (pump.step (.wrote taken)).1 := by
  by_cases none_taken : taken = 0
  · have fails : pump.step (.wrote taken) =
        (⟨.ended (some (.plain .writeZero)), pump.count⟩, []) := by
      simp [Pump.step, writing, none_taken]
    rw [fails, Sink.take_nil]
    exact holds.fails _
  · by_cases part : taken < rest.length
    · have goes : pump.step (.wrote taken) =
          (⟨.writing (rest.drop taken), pump.count⟩, rest.take taken) := by
        simp [Pump.step, writing, none_taken, part]
      rw [goes]
      refine ⟨rest.drop taken, ?_, ?_, ?_, rfl⟩
      · rw [holds.produced, Sink.take, List.append_assoc, ← List.append_assoc (rest.take taken),
          List.take_append_drop]
      · change pump.count =
          .ofNat ((lane.sink.accepted ++ rest.take taken).length + (rest.drop taken).length)
        rw [List.length_append, Nat.add_assoc, ← List.length_append, List.take_append_drop]
        exact holds.count
      · rw [List.length_drop]
        exact Nat.le_trans (Nat.sub_le _ _) holds.small
    · have goes : pump.step (.wrote taken) = (⟨.flushing, pump.count⟩, rest) := by
        simp [Pump.step, writing, none_taken, part]
      rw [goes]
      refine ⟨[], ?_, ?_, Nat.zero_le _, rfl⟩
      · rw [holds.produced, Sink.take, List.append_assoc]
        rfl
      · rw [holds.count, Sink.take, List.length_append]
        rfl

theorem Carries.wrote (carries : lane.Carries pump) (taken : Nat) :
    ({ lane with sink := lane.sink.take (pump.step (.wrote taken)).2 } : Lane).Carries
      (pump.step (.wrote taken)).1 := by
  obtain ⟨held, holds⟩ := carries
  have settled := holds.settled
  cases phase : pump.phase with
  | writing rest =>
      rw [phase] at settled
      cases settled
      exact holds.wrote phase taken
  | reading | flushing | ended =>
      have idle : pump.step (.wrote taken) = (pump, []) := by
        simp [Pump.step, phase]
      rw [idle, Sink.take_nil]
      exact ⟨held, holds⟩

/-- A failure delivers nothing, and either ends the pump or is not its own. -/
theorem Carries.failed (carries : lane.Carries pump) {event : Pump.Event} {cause : SystemError}
    (fails : event = .readFailed cause ∨ event = .writeFailed cause ∨ event = .flushFailed cause) :
    ({ lane with sink := lane.sink.take (pump.step event).2 } : Lane).Carries
      (pump.step event).1 := by
  obtain ⟨held, holds⟩ := carries
  have either : pump.step event = (pump, []) ∨
      pump.step event = (⟨.ended (some cause), pump.count⟩, []) := by
    rcases fails with rfl | rfl | rfl
    · cases phase : pump.phase <;> simp [Pump.step, phase]
    · cases phase : pump.phase <;> simp [Pump.step, phase]
    · cases phase : pump.phase <;> simp [Pump.step, phase]
  rcases either with same | ended
  · rw [same, Sink.take_nil]
    exact ⟨held, holds⟩
  · rw [ended, Sink.take_nil]
    exact holds.fails cause

end Lane

/-! ## Both lanes -/

variable {β : Type}

/-- Both lanes carry, the pump that ended the relay has ended as it says, and
nothing is shut down or told before that. -/
structure Sound (c : Crossing β) : Prop where
  carries : ∀ direction, (c.lane direction).Carries (c.relay.pump direction)
  ended : ∀ direction failure, c.relay.ended = some (direction, failure) →
    (c.relay.pump direction).phase = .ended failure
  going : c.relay.ended = none → c.unshut = Relay.shutdowns
  shut : ∀ direction, direction ∉ c.unshut →
    (c.lane direction).sink.shut = some (c.lane direction).sink.flushed
  result : ∀ result, c.result = some result →
    c.unshut = [] ∧ c.bridge.state = .closed ∧ c.relay.result?.map Bridge.outcome = some result

/-- One pump of a relay that goes on has moved, with its lane. -/
structure Moves (c next : Crossing β) (direction : Relay.Direction) (lane : Lane) (pump : Pump) :
    Prop where
  carrier : next.lane direction = lane
  mover : next.relay.pump direction = pump
  others : ∀ other, other ≠ direction →
    next.lane other = c.lane other ∧ next.relay.pump other = c.relay.pump other
  ended : next.relay.ended = none ∨
    ∃ failure, pump.phase = .ended failure ∧ next.relay.ended = some (direction, failure)
  unshut : next.unshut = c.unshut
  result : next.result = c.result

theorem going_of_phase {c : Crossing β} {direction : Relay.Direction} {phase : Pump.Phase}
    (active : c.phase? direction = some phase) :
    c.dropped = false ∧ c.relay.ended = none ∧ (c.relay.pump direction).phase = phase := by
  unfold phase? at active
  split at active
  · cases active
  · rename_i free
    rw [Bool.or_eq_true, not_or, Bool.not_eq_true, Option.not_isSome_iff_eq_none] at free
    exact ⟨free.1, free.2, Option.some.inj active⟩

theorem answer_moves {c : Crossing β} (kept : c.dropped = false) (going : c.relay.ended = none)
    (lane : Lane) (direction : Relay.Direction) (event : Pump.Event) :
    let moved := (c.relay.pump direction).step event
    Moves c ((c.setLane lane direction).answer direction event) direction
      { lane with sink := lane.sink.take moved.2 } moved.1 := by
  intro moved
  let answered : Lane := { lane with sink := lane.sink.take (c.relay.step direction event).2 }
  have next : (c.setLane lane direction).answer direction event =
      ({ c with relay := (c.relay.step direction event).1 } : Crossing β).setLane answered
        direction := by
    cases direction <;> simp [answer, setLane, setSink, Crossing.lane, kept, answered]
  obtain ⟨told, mover, others, ended⟩ := Relay.step_of_going going direction event
  rw [next]
  refine ⟨?_, ?_, ?_, ?_, unshut_setLane _ _ _, result_setLane _ _ _⟩
  · rw [lane_setLane]
    simp only [answered, told, moved]
  · rw [relay_setLane]
    exact mover
  · intro other different
    rw [relay_setLane, lane_setLane_of_ne _ _ different]
    refine ⟨?_, others other different⟩
    cases other <;> rfl
  · rw [relay_setLane]
    exact ended

theorem Sound.moves {c next : Crossing β} (sound : c.Sound) (going : c.relay.ended = none)
    {direction : Relay.Direction} {lane : Lane} {pump : Pump}
    (moves : Moves c next direction lane pump) (carries : lane.Carries pump) : next.Sound := by
  have unshut : next.unshut = Relay.shutdowns := moves.unshut.trans (sound.going going)
  refine ⟨?_, ?_, fun _ => unshut, ?_, ?_⟩
  · intro other
    by_cases same : other = direction
    · subst same
      rw [moves.carrier, moves.mover]
      exact carries
    · rw [(moves.others other same).1, (moves.others other same).2]
      exact sound.carries other
  · intro other failure ended
    rcases moves.ended with still | ⟨cause, isOver, told⟩
    · rw [still] at ended
      cases ended
    · rw [told] at ended
      cases ended
      rw [moves.mover]
      exact isOver
  · intro other gone
    rw [unshut] at gone
    exact absurd (Relay.mem_shutdowns other) gone
  · intro result told
    rw [moves.result] at told
    have isOver := (sound.result result told).1
    rw [sound.going going] at isOver
    cases isOver

/-- An answer is of no effect once the relay is over or the bridge is dropped. -/
theorem answer_of_still {c : Crossing β} {direction : Relay.Direction}
    (still : c.phase? direction = none) (event : Pump.Event) : c.answer direction event = c := by
  unfold answer
  split
  · rfl
  · rename_i kept
    have isOver : c.relay.ended.isSome = true := by
      simpa [phase?, kept, Option.isSome_iff_ne_none] using still
    rw [Relay.step_of_ended isOver]
    simp only [Sink.take_nil]
    exact setLane_lane c direction

theorem Sound.answer {c : Crossing β} (sound : c.Sound) (direction : Relay.Direction)
    {event : Pump.Event}
    (carries : ({ c.lane direction with
      sink := (c.lane direction).sink.take ((c.relay.pump direction).step event).2 } : Lane).Carries
        ((c.relay.pump direction).step event).1) :
    (c.answer direction event).Sound := by
  cases active : c.phase? direction with
  | none =>
      rw [answer_of_still active]
      exact sound
  | some phase =>
      obtain ⟨kept, going, _⟩ := going_of_phase active
      have moves := answer_moves kept going (c.lane direction) direction event
      rw [setLane_lane] at moves
      exact sound.moves going moves carries

theorem Sound.read {c : Crossing β} (sound : c.Sound) (direction : Relay.Direction)
    (limit : Nat) : (c.read direction limit).Sound := by
  unfold Crossing.read
  split
  · rename_i chunk source active found
    obtain ⟨kept, going, reading⟩ := going_of_phase active
    obtain ⟨carries, nothing⟩ := (sound.carries direction).read reading found
    have moves := answer_moves kept going { c.lane direction with source := source } direction
      (.read chunk)
    dsimp only at moves
    rw [nothing, Sink.take_nil] at moves
    exact sound.moves going moves carries
  · exact sound

theorem Sound.flush {c : Crossing β} (sound : c.Sound) (direction : Relay.Direction) :
    (c.flush direction).Sound := by
  unfold Crossing.flush
  split
  · rename_i active
    obtain ⟨kept, going, flushing⟩ := going_of_phase active
    obtain ⟨carries, nothing⟩ := (sound.carries direction).flush flushing
    have moves := answer_moves kept going
      { c.lane direction with sink := (c.lane direction).sink.flush } direction .flushed
    dsimp only at moves
    rw [nothing, Sink.take_nil] at moves
    exact sound.moves going moves carries
  · exact sound

theorem Sound.setSource {c : Crossing β} (sound : c.Sound) {source : Source}
    {direction : Relay.Direction}
    (carries : ({ c.lane direction with source := source } : Lane).Carries
      (c.relay.pump direction)) :
    (c.setSource source direction).Sound := by
  have sink (other : Relay.Direction) :
      ((c.setSource source direction).lane other).sink = (c.lane other).sink := by
    by_cases same : other = direction
    · rw [same, Crossing.setSource, lane_setLane]
    · rw [Crossing.setSource, lane_setLane_of_ne _ _ same]
  refine ⟨?_, ?_, ?_, ?_, ?_⟩
  · intro other
    rw [Crossing.setSource, relay_setLane]
    by_cases same : other = direction
    · rw [same, lane_setLane]
      exact carries
    · rw [lane_setLane_of_ne _ _ same]
      exact sound.carries other
  · simpa only [Crossing.setSource, relay_setLane] using sound.ended
  · simpa only [Crossing.setSource, relay_setLane, unshut_setLane] using sound.going
  · intro other gone
    rw [Crossing.setSource, unshut_setLane] at gone
    rw [sink]
    exact sound.shut other gone
  · simpa only [Crossing.setSource, relay_setLane, unshut_setLane, result_setLane, bridge_setLane]
      using sound.result

/-- A sink is shut down with all that was flushed. -/
theorem Sound.shutOne {c : Crossing β} (sound : c.Sound) {direction : Relay.Direction}
    {rest : List Relay.Direction} (first : c.unshut = direction :: rest)
    (isOver : c.relay.ended.isSome = true) :
    (({ c with unshut := rest } : Crossing β).setSink (c.lane direction).sink.shutDown
      direction).Sound := by
  have untold : c.result = none := by
    cases told : c.result with
    | none => rfl
    | some result =>
        have none_left := (sound.result result told).1
        rw [first] at none_left
        cases none_left
  have lane (other : Relay.Direction) :
      ({ c with unshut := rest } : Crossing β).lane other = c.lane other := by
    cases other <;> rfl
  refine ⟨?_, ?_, ?_, ?_, ?_⟩
  · intro other
    rw [Crossing.setSink, relay_setLane]
    by_cases same : other = direction
    · rw [same, lane_setLane, lane]
      exact (sound.carries direction).shutDown
    · rw [lane_setLane_of_ne _ _ same, lane]
      exact sound.carries other
  · simpa only [Crossing.setSink, relay_setLane] using sound.ended
  · intro going
    rw [Crossing.setSink, relay_setLane] at going
    rw [show c.relay.ended = none from going] at isOver
    cases isOver
  · intro other gone
    rw [Crossing.setSink, unshut_setLane] at gone
    by_cases same : other = direction
    · rw [same, Crossing.setSink, lane_setLane]
      rfl
    · rw [Crossing.setSink, lane_setLane_of_ne _ _ same, lane]
      apply sound.shut other
      rw [first, List.mem_cons]
      rintro (here | there)
      · exact same here
      · exact gone there
  · intro result told
    rw [Crossing.setSink, result_setLane, untold] at told
    cases told

/-- After the last sink the bridge is closed and tells what its relay came to. -/
theorem Sound.tell {c : Crossing β} (sound : c.Sound) (none_left : c.unshut = []) :
    ({ c with
      bridge := c.bridge.finish
      result := c.relay.result?.map Bridge.outcome } : Crossing β).Sound :=
  ⟨sound.carries, sound.ended, sound.going, sound.shut, fun _ told => ⟨none_left, rfl, told⟩⟩

theorem Sound.shutNext {c : Crossing β} (sound : c.Sound) : c.shut.Sound := by
  unfold Crossing.shut
  split
  · rename_i cause direction rest kept isOver first
    have shut := sound.shutOne first (isOver ▸ rfl)
    dsimp only
    split
    · rename_i last
      have none_left : rest = [] := List.isEmpty_iff.mp last
      exact shut.tell ((unshut_setLane _ _ _).trans none_left)
    · exact shut
  · exact sound

theorem Sound.step {c : Crossing β} (sound : c.Sound) (event : Event) : (c.step event).Sound := by
  cases event with
  | produces direction bytes => exact sound.setSource ((sound.carries direction).produce bytes)
  | finishes direction => exact sound.setSource (sound.carries direction).finish
  | reads direction count => exact sound.read direction count
  | readFails direction cause =>
      exact sound.answer direction ((sound.carries direction).failed (Or.inl rfl))
  | writes direction count => exact sound.answer direction ((sound.carries direction).wrote count)
  | writeFails direction cause =>
      exact sound.answer direction ((sound.carries direction).failed (Or.inr (Or.inl rfl)))
  | flushes direction => exact sound.flush direction
  | flushFails direction cause =>
      exact sound.answer direction ((sound.carries direction).failed (Or.inr (Or.inr rfl)))
  | shuts failure => exact sound.shutNext
  | drops => exact ⟨sound.carries, sound.ended, sound.going, sound.shut, sound.result⟩

theorem Sound.run {c : Crossing β} (sound : c.Sound) (events : List Event) :
    (c.run events).Sound := by
  induction events generalizing c with
  | nil => exact sound
  | cons event rest ih => exact ih (sound.step event)

theorem sound_start {b : Bridge β} {c : Crossing β} (started : start b = .ok c) : c.Sound := by
  unfold start Bridge.start at started
  split at started
  · cases started
  · cases started
    refine ⟨?_, ?_, fun _ => rfl, ?_, ?_⟩
    · intro direction
      cases direction <;> exact Lane.carries_new
    · intro direction failure ended
      cases ended
    · exact fun direction gone => absurd (Relay.mem_shutdowns direction) gone
    · intro result told
      cases told

/-! ## How a crossing ends -/

/-- The sinks are shut down in their order, and after the last there is a result. -/
structure Returns (c : Crossing β) : Prop where
  left : c.unshut <:+ Relay.shutdowns
  told : c.unshut = [] → c.result.isSome = true

theorem returns_start {b : Bridge β} {c : Crossing β} (started : start b = .ok c) : c.Returns := by
  unfold start Bridge.start at started
  split at started
  · cases started
  · cases started
    exact ⟨List.suffix_rfl, nofun⟩

theorem answer_kept (c : Crossing β) (direction : Relay.Direction) (event : Pump.Event) :
    (c.answer direction event).unshut = c.unshut ∧
      (c.answer direction event).result = c.result := by
  unfold answer
  split
  · exact ⟨rfl, rfl⟩
  · exact ⟨unshut_setLane _ _ _, result_setLane _ _ _⟩

theorem answer_setLane_kept (c : Crossing β) (lane : Lane) (direction : Relay.Direction)
    (event : Pump.Event) :
    ((c.setLane lane direction).answer direction event).unshut = c.unshut ∧
      ((c.setLane lane direction).answer direction event).result = c.result := by
  obtain ⟨unshut, result⟩ := answer_kept (c.setLane lane direction) direction event
  exact ⟨unshut.trans (unshut_setLane _ _ _), result.trans (result_setLane _ _ _)⟩

theorem shut_of_ended {c : Crossing β} (kept : c.dropped = false)
    (ended : c.relay.ended.isSome = true) :
    c.shut.unshut = c.unshut.tail ∧ c.shut.dropped = false ∧ c.shut.relay = c.relay := by
  obtain ⟨cause, isOver⟩ := Option.isSome_iff_exists.mp ended
  cases first : c.unshut with
  | nil =>
      have same : c.shut = c := by
        simp only [shut, kept, isOver, first]
      rw [same]
      exact ⟨first, kept, rfl⟩
  | cons direction rest =>
      simp only [shut, kept, isOver, first, List.tail_cons]
      split <;> simp [setSink]

theorem Returns.step {c : Crossing β} (returns : c.Returns) (event : Event) :
    (c.step event).Returns := by
  have of_kept {next : Crossing β} (kept : next.unshut = c.unshut ∧ next.result = c.result) :
      next.Returns := by
    refine ⟨kept.1 ▸ returns.left, ?_⟩
    rw [kept.1, kept.2]
    exact returns.told
  cases event with
  | produces direction | finishes direction =>
      exact of_kept ⟨unshut_setLane _ _ _, result_setLane _ _ _⟩
  | readFails direction cause | writes direction cause | writeFails direction cause
  | flushFails direction cause => exact of_kept (answer_kept c direction _)
  | reads direction count =>
      change (c.read direction count).Returns
      unfold Crossing.read
      split
      · exact of_kept (answer_setLane_kept c _ direction _)
      · exact returns
  | flushes direction =>
      change (c.flush direction).Returns
      unfold Crossing.flush
      split
      · exact of_kept (answer_setLane_kept c _ direction _)
      · exact returns
  | drops => exact ⟨returns.left, returns.told⟩
  | shuts failure =>
      change c.shut.Returns
      unfold Crossing.shut
      split
      · rename_i cause direction rest kept ended first
        have left : rest <:+ Relay.shutdowns := by
          have before := returns.left
          rw [first] at before
          exact (List.suffix_cons direction rest).trans before
        dsimp only
        split
        · refine ⟨?_, fun _ => ?_⟩
          · rw [Crossing.setSink, unshut_setLane]
            exact left
          · rw [Option.isSome_map, Relay.isSome_result?, Crossing.setSink, relay_setLane, ended]
            rfl
        · rename_i more
          refine ⟨?_, ?_⟩
          · rw [Crossing.setSink, unshut_setLane]
            exact left
          · intro none_left
            rw [Crossing.setSink, unshut_setLane] at none_left
            exact absurd (List.isEmpty_iff.mpr none_left) more
      · exact returns

theorem Returns.run {c : Crossing β} (returns : c.Returns) (events : List Event) :
    (c.run events).Returns := by
  induction events generalizing c with
  | nil => exact returns
  | cons event rest ih => exact ih (returns.step event)

/-- The two sinks of a relay that is over are shut down by two answers. -/
theorem Returns.result {c : Crossing β} (returns : c.Returns) (kept : c.dropped = false)
    (ended : c.relay.ended.isSome = true) (first second : Option SystemError) :
    (c.run [.shuts first, .shuts second]).result.isSome = true := by
  obtain ⟨one, kept_one, same⟩ := shut_of_ended kept ended
  obtain ⟨two, _, _⟩ := shut_of_ended kept_one (same ▸ ended)
  apply (returns.run [.shuts first, .shuts second]).told
  change c.shut.shut.unshut = []
  have few : c.unshut.length ≤ 2 := returns.left.length_le
  apply List.eq_nil_of_length_eq_zero
  rw [two, one, List.length_tail, List.length_tail]
  omega

/-- What was read is as much as the sink took or up to a buffer more, and no more
than the source produced. -/
structure Lane.Read (lane : Lane) (count : Nat) : Prop where
  least : lane.sink.accepted.length ≤ count
  most : count ≤ lane.sink.accepted.length + 8192
  some_of : count ≤ lane.source.produced.length

/-- What a sink took is a beginning of what its source produced, and what was read
is counted. -/
theorem Lane.Carries.bounds {lane : Lane} {pump : Pump} (carries : lane.Carries pump) :
    lane.sink.accepted <+: lane.source.produced ∧
      ∃ count, lane.Read count ∧ pump.count = .ofNat count := by
  obtain ⟨held, produced, count, small, _⟩ := carries
  have whole : lane.source.produced.length =
      lane.sink.accepted.length + (held.length + lane.source.waiting.length) := by
    rw [produced, List.length_append, List.length_append]
  simp only [bufferSize] at small
  refine ⟨⟨held ++ lane.source.waiting, produced.symm⟩, _, ⟨?_, ?_, ?_⟩, count⟩ <;> omega

/-- From a source of fewer than 2^64 bytes the counter tells what was read. -/
theorem Lane.Carries.toNat_count {lane : Lane} {pump : Pump} (carries : lane.Carries pump)
    (fits : lane.source.produced.length < UInt64.size) : lane.Read pump.count.toNat := by
  obtain ⟨_, count, read, told⟩ := carries.bounds
  rw [told, UInt64.toNat_ofNat_of_lt' (Nat.lt_of_le_of_lt read.some_of fits)]
  exact read

/-- A pump that came to the end of its stream has delivered all of it. -/
theorem Lane.Carries.complete {lane : Lane} {pump : Pump} (carries : lane.Carries pump)
    (finished : pump.phase = .ended none) :
    lane.source.ended = true ∧ lane.sink.accepted = lane.source.produced ∧
      lane.sink.flushed = lane.source.produced ∧
      pump.count = .ofNat lane.source.produced.length := by
  obtain ⟨held, produced, count, _, settled⟩ := carries
  rw [finished] at settled
  obtain ⟨rfl, flushed, ended, dry⟩ := settled
  rw [dry, List.append_nil, List.append_nil] at produced
  refine ⟨ended, produced.symm, flushed.trans produced.symm, ?_⟩
  rw [produced]
  exact count

theorem outcome_eq_ok {result : Except SystemError Relay.Summary} {summary : Relay.Summary}
    (told : Bridge.outcome result = .ok summary) : result = .ok summary := by
  cases result with
  | ok other =>
      cases told
      rfl
  | error cause => cases told

theorem Sound.of_ok {c : Crossing β} (sound : c.Sound) {summary : Relay.Summary}
    (told : c.result = some (.ok summary)) :
    let lane := c.lane summary.endedBy
    lane.source.ended = true ∧ lane.sink.accepted = lane.source.produced ∧
      lane.sink.shut = some lane.source.produced ∧
      summary.count summary.endedBy = .ofNat lane.source.produced.length ∧
      ∀ direction, summary.count direction = (c.relay.pump direction).count := by
  intro lane
  obtain ⟨none_left, _, outcome⟩ := sound.result _ told
  obtain ⟨result, relayed, same⟩ := Option.map_eq_some_iff.mp outcome
  rw [outcome_eq_ok same] at relayed
  obtain ⟨isOver, counts⟩ := Relay.ended_of_result relayed
  have finished := sound.ended _ _ isOver
  obtain ⟨ended, accepted, flushed, count⟩ := (sound.carries summary.endedBy).complete finished
  have shut := sound.shut summary.endedBy (by rw [none_left]; exact List.not_mem_nil)
  exact ⟨ended, accepted, shut.trans (congrArg some flushed), (counts _).trans count, counts⟩

theorem Sound.of_result {c : Crossing β} (sound : c.Sound)
    {result : Except Bridge.Error Relay.Summary} (told : c.result = some result) :
    (∀ direction, (c.lane direction).sink.shut.isSome = true) ∧ c.bridge.state = .closed ∧
      ((∃ summary, result = .ok summary) ∨ ∃ cause, result = .error (.relay cause)) := by
  obtain ⟨none_left, closed, outcome⟩ := sound.result _ told
  refine ⟨?_, closed, ?_⟩
  · intro direction
    rw [sound.shut direction (by rw [none_left]; exact List.not_mem_nil)]
    rfl
  · obtain ⟨relayed, _, same⟩ := Option.map_eq_some_iff.mp outcome
    cases relayed with
    | ok summary => exact Or.inl ⟨summary, same.symm⟩
    | error cause => exact Or.inr ⟨cause, same.symm⟩

/--
A bridge that was started, through any events: any chunks and partial writes,
any interleaving of its pumps, and any point at which one of them ends or fails
or the whole is dropped.  In each direction the sink has taken a beginning of
what the source produced, and what was read and is counted lies between that and
a buffer more.  The counter tells it in 64 bits, so that it tells the number itself
while the source has produced fewer than 2^64 bytes.

A result comes only when both sinks are shut down and the bridge is closed; one
that is not a failure is that of a direction whose source has ended and whose
sink had taken and flushed all of it when it was shut down, and it tells how much
that was.  Once a pump has ended a bridge that is not dropped gets its result from
two shutdowns, however they go.
-/
theorem crossing_run {b : Bridge β} {c : Crossing β} (started : start b = .ok c)
    (events : List Event) :
    let c := c.run events
    (∀ direction,
      let lane := c.lane direction
      let counter := (c.relay.pump direction).count
      lane.sink.accepted <+: lane.source.produced ∧
        (∃ count, lane.Read count ∧ counter = .ofNat count) ∧
        (lane.source.produced.length < UInt64.size → lane.Read counter.toNat)) ∧
    (∀ summary, c.result = some (.ok summary) →
      let lane := c.lane summary.endedBy
      let counter := summary.count summary.endedBy
      lane.source.ended = true ∧ lane.sink.accepted = lane.source.produced ∧
        lane.sink.shut = some lane.source.produced ∧
        counter = .ofNat lane.source.produced.length ∧
        (lane.source.produced.length < UInt64.size →
          counter.toNat = lane.source.produced.length) ∧
        ∀ direction, summary.count direction = (c.relay.pump direction).count) ∧
    (∀ result, c.result = some result →
      (∀ direction, (c.lane direction).sink.shut.isSome = true) ∧ c.bridge.state = .closed ∧
        ((∃ summary, result = .ok summary) ∨ ∃ cause, result = .error (.relay cause))) ∧
    (c.dropped = false → c.relay.ended.isSome = true →
      ∀ first second, (c.run [.shuts first, .shuts second]).result.isSome = true) := by
  intro c
  have sound : c.Sound := (sound_start started).run events
  have returns : c.Returns := (returns_start started).run events
  refine ⟨?_, ?_, ?_, fun kept ended => returns.result kept ended⟩
  · intro direction
    obtain ⟨taken, read⟩ := (sound.carries direction).bounds
    exact ⟨taken, read, (sound.carries direction).toNat_count⟩
  · intro summary told
    obtain ⟨ended, taken, shut, counted, counts⟩ := sound.of_ok told
    refine ⟨ended, taken, shut, counted, fun fits => ?_, counts⟩
    rw [counted, UInt64.toNat_ofNat_of_lt' fits]
  · exact fun result told => sound.of_result told

/-- A client that sends two bytes and is done, to a backend that took them one
by one and is gone when it is shut down. -/
theorem crossing_run_of_client :
    let b : Bridge Unit := ((Bridge.new ⟨1⟩ (.localhost 830)).connect (.ok ())).2
    let out := Relay.Direction.clientToBackend
    let events : List Event :=
      [.produces out [104, 105], .reads out 4, .writes out 1, .writes out 1, .flushes out,
        .finishes out, .reads out 4, .shuts (some .brokenPipe), .shuts none]
    let c : Crossing Unit :=
      ⟨⟨⟨1⟩, .localhost 830, .bridging, none⟩, .new, ⟨.new, .new⟩, ⟨.new, .new⟩,
        Relay.shutdowns, none, false⟩
    start b = .ok c ∧ (c.run events).result = some (.ok ⟨2, 0, out⟩) ∧
      ((c.run events).lane out).source.produced.length < UInt64.size ∧
      ((c.run events).lane out).Read ((c.run events).relay.pump out).count.toNat ∧
      ((c.run events).lane out).sink.shut = some [104, 105] := by
  intro b out events c
  have started : start b = .ok c := rfl
  have told : (c.run events).result = some (.ok ⟨2, 0, out⟩) := by
    cbv
  have produced : ((c.run events).lane out).source.produced = [104, 105] := by
    cbv
  have fits : ((c.run events).lane out).source.produced.length < UInt64.size := by
    rw [produced]
    decide
  obtain ⟨every, complete, _⟩ := crossing_run started events
  obtain ⟨_, _, read⟩ := every out
  obtain ⟨_, _, shut, _⟩ := complete _ told
  refine ⟨started, told, fits, read fits, ?_⟩
  rw [shut, produced]

end Crossing

end NetconfGate

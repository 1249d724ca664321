import NetconfGate.Bytes
import NetconfGate.SystemError

/-!
# Pumps

A pump copies one side to the other: it reads a chunk, writes all of it, flushes,
and reads again. It ends at the end of the stream or at the first failure. What
it has counted and not delivered fits in its buffer. Its counter has 64 bits and
starts again from zero when they are used up.
-/

namespace NetconfGate

/-- The most that one read takes. -/
def bufferSize : Nat := 8192

/-- What a pump is about. -/
inductive Pump.Phase where
  | reading
  | writing (rest : Bytes)
  | flushing
  | ended (failure : Option SystemError)
deriving DecidableEq

structure Pump where
  phase : Pump.Phase
  /-- How many bytes were read, in 64 bits. -/
  count : UInt64
deriving DecidableEq

namespace Pump

/-- What the two sides answer a pump. A read of no bytes is the end of the
stream. A failure is one that the read, the write or the flush is given up with: a
write that is made again is no answer yet. -/
inductive Event where
  | read (chunk : Bytes)
  | readFailed (cause : SystemError)
  | wrote (count : Nat)
  | writeFailed (cause : SystemError)
  | flushed
  | flushFailed (cause : SystemError)

def new : Pump := ⟨.reading, 0⟩

/-- The pump afterwards, and the bytes that the other side has taken. Answers to
what it did not ask are of no effect. -/
def step (p : Pump) (event : Event) : Pump × Bytes :=
  match p.phase, event with
  | .reading, .read chunk =>
      if chunk.isEmpty then (⟨.ended none, p.count⟩, [])
      else if chunk.length ≤ bufferSize then (⟨.writing chunk, p.count + .ofNat chunk.length⟩, [])
      else (p, [])
  | .reading, .readFailed cause => (⟨.ended (some cause), p.count⟩, [])
  | .writing rest, .wrote count =>
      if count = 0 then (⟨.ended (some (.plain .writeZero)), p.count⟩, [])
      else if count < rest.length then (⟨.writing (rest.drop count), p.count⟩, rest.take count)
      else (⟨.flushing, p.count⟩, rest)
  | .writing _, .writeFailed cause => (⟨.ended (some cause), p.count⟩, [])
  | .flushing, .flushed => (⟨.reading, p.count⟩, [])
  | .flushing, .flushFailed cause => (⟨.ended (some cause), p.count⟩, [])
  | _, _ => (p, [])

/-- Read and not yet taken by the other side. -/
def held (p : Pump) : Bytes :=
  match p.phase with
  | .writing rest => rest
  | _ => []

theorem step_of_ended {p : Pump} {failure : Option SystemError} (ended : p.phase = .ended failure)
    (event : Event) : p.step event = (p, []) := by
  cases event <;> simp [step, ended]

end Pump

end NetconfGate

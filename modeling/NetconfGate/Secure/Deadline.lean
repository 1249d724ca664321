import NetconfGate.Duration

/-!
# Moments and deadlines

A moment is a time since the clock was started. The clock counts seconds in 63
bits, so a deadline that lies too far ahead does not exist.
-/

namespace NetconfGate

structure Moment where
  nanos : Nat
deriving DecidableEq

namespace Moment

/-- The first time that the clock cannot tell. -/
def limit : Nat := Nat.pow 2 63 * Duration.nanosPerSecond

def start : Moment := ⟨0⟩

def after? (m : Moment) (d : Duration) : Option Moment :=
  if m.nanos + d.nanos < limit then some ⟨m.nanos + d.nanos⟩ else none

theorem after?_eq_some_iff (m : Moment) (d : Duration) (later : Moment) :
    m.after? d = some later ↔ m.nanos + d.nanos < limit ∧ later = ⟨m.nanos + d.nanos⟩ := by
  unfold after?
  split
  · rename_i told
    rw [Option.some.injEq, eq_comm]
    exact (and_iff_right told).symm
  · rename_i untold
    exact iff_of_false nofun fun possible => untold possible.1

theorem after?_eq_none_iff (m : Moment) (d : Duration) :
    m.after? d = none ↔ limit ≤ m.nanos + d.nanos := by
  simp [after?]

/-- The clock stops at the last time that it can tell. -/
def advance (m : Moment) (d : Duration) : Moment := (m.after? d).getD m

def isBefore (a b : Moment) : Bool := a.nanos < b.nanos

/-- How long it is from `a` to `b`. -/
def until_ (a b : Moment) : Duration := ⟨b.nanos - a.nanos⟩

end Moment

end NetconfGate

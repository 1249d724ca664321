/-!
# Session identifiers

Connections are numbered from 1 in the order in which they are made, modulo
2^64. Generators that are clones of one another draw from one counter; a new
generator starts a counter of its own.
-/

namespace NetconfGate

structure SessionId where
  number : UInt64
deriving DecidableEq

namespace SessionId

def text (id : SessionId) : String := "#" ++ toString id.number

def debugText (id : SessionId) : String := "SessionId(" ++ toString id.number ++ ")"

def compare (a b : SessionId) : Ordering := Ord.compare a.number b.number

end SessionId

/-- The number that the next session gets. -/
structure SessionCounter where
  next : UInt64
deriving DecidableEq

namespace SessionCounter

def new : SessionCounter := ⟨1⟩

def generate (c : SessionCounter) : SessionId × SessionCounter := (⟨c.next⟩, ⟨c.next + 1⟩)

theorem generate_snd (c : SessionCounter) : c.generate.2 = ⟨c.next + 1⟩ := rfl

end SessionCounter

/-- A script over generators: the counters made so far, and for each generator
the counter it draws from. -/
structure Generators where
  counters : List SessionCounter
  families : List Nat
deriving DecidableEq

namespace Generators

/-- What can be asked of a list of generators. -/
inductive Command where
  | create
  | clone (generator : Nat)
  | generate (generator : Nat)
deriving DecidableEq

inductive Reply where
  | made (generator : Nat)
  | drawn (id : SessionId)
  | missing
deriving DecidableEq

def empty : Generators := ⟨[], []⟩

def step (g : Generators) : Command → Generators × Reply
  | .create =>
      (⟨g.counters ++ [SessionCounter.new], g.families ++ [g.counters.length]⟩,
        .made g.families.length)
  | .clone generator =>
      match g.families[generator]? with
      | some family => (⟨g.counters, g.families ++ [family]⟩, .made g.families.length)
      | none => (g, .missing)
  | .generate generator =>
      match g.families[generator]? with
      | none => (g, .missing)
      | some family =>
          match g.counters[family]? with
          | none => (g, .missing)
          | some counter =>
              let (id, counter) := counter.generate
              (⟨g.counters.set family counter, g.families⟩, .drawn id)

def run (g : Generators) : List Command → List Reply
  | [] => []
  | command :: rest => (g.step command).2 :: run (g.step command).1 rest

end Generators

end NetconfGate

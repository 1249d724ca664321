import NetconfGate.Bytes

/-!
# Pipes

One direction of a connection: the bytes that were written and not yet read. A
pipe that is ended gets no more of them; one that is broken as well fails its
reader once they are read.
-/

namespace NetconfGate.Bench

structure Pipe where
  chunks : List Bytes
  ended : Bool
  broken : Bool

namespace Pipe

def empty : Pipe := ⟨[], false, false⟩

def content (p : Pipe) : Bytes := p.chunks.flatten

def size (p : Pipe) : Nat := p.chunks.foldl (fun total chunk => total + chunk.length) 0

def hasBytes (p : Pipe) : Bool := p.chunks.any fun chunk => !chunk.isEmpty

/-- Nothing is written to a pipe that has ended. -/
def push (p : Pipe) (bytes : Bytes) : Pipe :=
  if p.ended || bytes.isEmpty then p else { p with chunks := p.chunks ++ [bytes] }

/-- The first `n` bytes of some chunks, and what is left of these. -/
def takeChunks : Nat → List Bytes → Bytes × List Bytes
  | _, [] => ([], [])
  | n, chunk :: rest =>
      if chunk.length ≤ n then
        let (taken, left) := takeChunks (n - chunk.length) rest
        (chunk ++ taken, left)
      else (chunk.take n, chunk.drop n :: rest)

def take (p : Pipe) (n : Nat) : Bytes × Pipe :=
  let (taken, left) := takeChunks n p.chunks
  (taken, { p with chunks := left })

def takeAll (p : Pipe) : Bytes × Pipe := (p.content, { p with chunks := [] })

def finish (p : Pipe) : Pipe := { p with ended := true }

def sever (p : Pipe) : Pipe := { p with ended := true, broken := true }

end Pipe

end NetconfGate.Bench

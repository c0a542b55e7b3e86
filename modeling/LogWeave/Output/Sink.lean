import LogWeave.Failure

/-! Where printed lines go, and what has become of them.

Lines are written one by one, each in portions, and show once they are flushed. A sink may be full
once it holds a number of lines, or fail at one of its flushes. -/
namespace LogWeave

/-- What a sink does not put up with. -/
structure SinkLimits where
  /-- Lines that make it full. -/
  lines : Option Nat
  /-- The number of the flush that fails, from 0. -/
  flush : Option Nat
  deriving DecidableEq, Repr

/-- Lines flushed together, and when. -/
structure Flush where
  time : Nat
  text : String
  deriving DecidableEq, Repr

structure Sink where
  limits : SinkLimits
  flushes : List Flush
  /-- Written and not yet flushed. -/
  pending : String
  /-- Lines written. -/
  lines : Nat
  /-- Lines flushed. -/
  shown : Nat
  deriving DecidableEq, Repr

namespace Sink

def new (limits : SinkLimits) : Sink := ⟨limits, [], "", 0, 0⟩

/-- A sink that takes everything. -/
def endless : Sink := new ⟨none, none⟩

/-- No line is taken any more. -/
def isFull (s : Sink) : Bool :=
  match s.limits.lines with
  | none => false
  | some most => most ≤ s.lines

/-- Keeps what has been written of a line, with all its newlines. -/
def keep (s : Sink) (written : String) : Sink :=
  { s with
    pending := s.pending ++ written
    lines := s.lines + written.toList.count '\n' }

/-- A sink together with what went wrong on the way to it. -/
abbrev Written := Sink × Except Failure Unit

/-- Writes a line, portion by portion, of which some have been written. A portion that ends with a
newline is kept together with those before it; what has not been kept when the sink is found full is
lost. -/
def writeFrom : (written : String) → Sink → List String → Written
  | _, s, [] => (s, .ok ())
  | written, s, portion :: rest =>
    if s.isFull then (s, .error (.io "sink is full"))
    else
      let written := written ++ portion
      if written.endsWith "\n" then writeFrom "" (s.keep written) rest
      else writeFrom written s rest

/-- Writes a line. -/
def write (s : Sink) (portions : List String) : Written := writeFrom "" s portions

/-- Shows what has been written. -/
def flush (s : Sink) (time : Nat) : Except Failure Sink :=
  let fails := match s.limits.flush with
    | none => false
    | some n => n ≤ s.flushes.length
  if fails then .error (.io "flush failed")
  else .ok { s with flushes := s.flushes ++ [⟨time, s.pending⟩], pending := "", shown := s.lines }

end Sink

end LogWeave

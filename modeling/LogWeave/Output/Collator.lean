import LogWeave.Line.Arrival
import LogWeave.Output.Sink
import LogWeave.Run.Channel

/-! Lines of all sources, printed in the order of their times.

A `Collator` holds lines back for a window of time, then prints them in order. A line that comes
after its window has closed is printed with the next one. A stream that broke and that nobody
opens again ends the printing, after what came before it. -/
namespace LogWeave

structure Collator where
  window : Nat
  /-- Lines name their source. -/
  shared : Bool
  batch : List Arrival
  /-- When the batch is printed. -/
  flushAt : Option Nat
  sink : Sink
  /-- How the printing ended, once it has. -/
  outcome : Option (Except Failure Unit)

namespace Collator

def new (window : Nat) (shared : Bool) (sink : Sink) : Collator :=
  ⟨window, shared, [], none, sink, none⟩

/-- Writes entries until one is refused. -/
def writeAll (shared : Bool) : Sink → List Entry → Sink.Written
  | s, [] => (s, .ok ())
  | s, e :: rest =>
    match s.write (e.portions shared) with
    | (s, .ok ()) => writeAll shared s rest
    | (s, .error failure) => (s, .error failure)

/-- Prints a batch in order. An empty batch leaves the sink alone. -/
def print (shared : Bool) (now : Nat) (s : Sink) (batch : List Arrival) : Sink.Written :=
  if batch.isEmpty then (s, .ok ())
  else
    match writeAll shared s (collate batch) with
    | (s, .error failure) => (s, .error failure)
    | (s, .ok ()) =>
      match s.flush now with
      | .ok s => (s, .ok ())
      | .error failure => (s, .error failure)

/-- Prints the batch; a failure ends the printing. -/
def flush (c : Collator) (now : Nat) : Collator :=
  match print c.shared now c.sink c.batch with
  | (sink, .ok ()) => { c with batch := [], sink }
  | (sink, .error failure) => { c with batch := [], sink, outcome := some (.error failure) }

/-- Ends the printing, unless it has ended. -/
def finish (c : Collator) (outcome : Except Failure Unit) : Collator :=
  { c with outcome := c.outcome.or (some outcome) }

/-- The failure of a stream that broke for good. -/
def broken (source text : String) : Failure :=
  .during ("read logs for " ++ source) text

/-- Takes one line in. A silent one is dropped; one that tells of a stream broken for good has the
batch printed and ends the printing. -/
def accept (c : Collator) (now : Nat) (a : Arrival) : Collator :=
  if a.isSilent then c
  else
    match a.fault? with
    | some text => (c.flush now).finish (.error (broken a.source text))
    | none => { c with batch := c.batch ++ [a] }

/-- Takes lines in until the printing ends. -/
def acceptAll (now : Nat) : Collator → List Arrival → Collator
  | c, [] => c
  | c, a :: rest =>
    let c := c.accept now a
    if c.outcome.isSome then c else acceptAll now c rest

/-- Sets the time of printing, if none is set. -/
def arm (c : Collator) (now : Nat) : Collator :=
  { c with flushAt := c.flushAt.or (some (now + c.window)) }

/-- Time to print. -/
def isDue (c : Collator) (now : Nat) : Bool := c.flushAt.any (· ≤ now)

/-- Takes in what is still in the channel, prints and ends. -/
def drain (c : Collator) (now : Nat) (queue : List Arrival) : Collator :=
  let c := acceptAll now c queue
  if c.outcome.isSome then c else (c.flush now).finish (.ok ())

/-- What a collator does next, if anything: when stopped it takes what is there and ends; else it
takes the next line; with no line to come it prints and ends; else it prints when it is time. -/
def step (c : Collator) (now : Nat) (stopped : Bool) (channel : Run.Channel Arrival) :
    Option (Collator × Run.Channel Arrival) :=
  if c.outcome.isSome then none
  else if stopped then some (c.drain now channel.queue, channel.drained)
  else
    match channel.take? with
    | some (a, channel) =>
      let c := c.accept now a
      some (if c.outcome.isSome then c else c.arm now, channel)
    | none =>
      if channel.senders = 0 then some ((c.flush now).finish (.ok ()), channel)
      else if c.isDue now then some ({ c with flushAt := none }.flush now, channel)
      else none

end Collator

end LogWeave

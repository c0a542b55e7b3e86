import LogWeave.Headcount
import LogWeave.Line.Arrival
import LogWeave.LogQuery
import LogWeave.Run.Channel
import LogWeave.Status.Bulletin

/-! What all tasks of a run share, and the world outside the run.

The world opens log streams, posts statuses and cancels the run. The journal keeps what happened
and when. -/
namespace LogWeave.Run

/-- What the world does to a run. -/
inductive Act where
  | post (service : String) (status : ServiceStatus)
  | cancel
  /-- Something that the run does not notice. -/
  | nothing
  deriving DecidableEq, Repr

/-- The world outside a run, whose state is a `σ`. -/
structure World (σ : Type) where
  /-- Opens the log of a service. -/
  openLog : σ → String → LogQuery → Opening × σ
  /-- What the world does now, if anything; it sees how many lines have been shown. -/
  act : (now shown : Nat) → σ → Option (Act × σ)
  /-- When the world does something next. -/
  due : σ → Option Nat
  /-- The times at which lines are received, in order. -/
  clock : Nat → Time.Instant

/-- What happens in a run. -/
inductive Event where
  /-- The log of a source is opened. -/
  | opened (query : LogQuery)
  /-- The log could not be opened. -/
  | refused
  /-- The stream is over. -/
  | ended (how : StreamEnd)
  /-- A line is put into the channel. -/
  | sent (a : Arrival)
  /-- The source is seen to have exited. -/
  | exited (startedAt : Option Time.Instant)
  /-- The source is seen to run again. -/
  | restarted (startedAt : Option Time.Instant)
  /-- The reader of the source has returned. -/
  | returned
  /-- A status of the source is posted. -/
  | posted (status : ServiceStatus)
  deriving DecidableEq, Repr

/-- Something that happened to a source at a time. -/
structure Happening where
  time : Nat
  source : String
  event : Event
  deriving DecidableEq, Repr

structure Floor (σ : Type) where
  now : Nat
  /-- The caller has cancelled. -/
  cancelled : Bool
  /-- The run has been stopped from within. -/
  stopped : Bool
  channel : Channel Arrival
  headcount : Headcount
  bulletin : Bulletin
  /-- Lines that have been given a time of receipt. -/
  receipts : Nat
  journal : List Happening
  world : σ

namespace Floor

variable {σ : Type}

def new (capacity tails : Nat) (bulletin : Bulletin) (cancelled : Bool) (world : σ) : Floor σ where
  now := 0
  cancelled
  stopped := false
  channel := .new capacity tails
  headcount := .new tails
  bulletin
  receipts := 0
  journal := []
  world

/-- Readers and printer are to come to an end. -/
def isHalted (f : Floor σ) : Bool := f.cancelled || f.stopped

def note (f : Floor σ) (source : String) (event : Event) : Floor σ :=
  { f with journal := f.journal ++ [⟨f.now, source, event⟩] }

/-- Does what the world does. -/
def apply (f : Floor σ) : Act → Floor σ
  | .post service status =>
    { f with bulletin := f.bulletin.post service status }.note service (.posted status)
  | .cancel => { f with cancelled := true }
  | .nothing => f

/-- The world's turn. -/
def worldStep (w : World σ) (f : Floor σ) (shown : Nat) : Option (Floor σ) :=
  (w.act f.now shown f.world).map fun (act, world) => { f with world }.apply act

end Floor

end LogWeave.Run

import LogWeave.Output.Collator
import LogWeave.Run.Schedule

/-! A collator fed with lines by hand: sent one after the other, with pauses between them. -/
namespace LogWeave.Run

/-- What the feeding hand does next. -/
inductive Feeding where
  | send (a : Arrival)
  | pause (time : Nat)
  /-- Stops the collator. -/
  | stop
  /-- Nothing more will be sent. -/
  | retire
  deriving DecidableEq, Repr

structure Feed where
  now : Nat
  stopped : Bool
  /-- When the collator is stopped from outside. -/
  stopAt : Option Nat
  channel : Channel Arrival
  feedings : List Feeding
  /-- The end of the present pause. -/
  resumeAt : Option Nat
  collator : Collator

namespace Feed

/-- The one sender. -/
def hand : Nat := 0

/-- The feeding hand holds its end of the channel when `hold` is set. -/
def new (capacity : Nat) (collator : Collator) (feedings : List Feeding) (hold : Bool)
    (stopAt : Option Nat) : Feed where
  now := 0
  stopped := stopAt == some 0
  stopAt
  channel := .new capacity 1
  feedings := if hold then feedings else feedings ++ [.retire]
  resumeAt := none
  collator

/-- The outside stops the collator when it is time. -/
def stopStep (f : Feed) : Option Feed :=
  if f.stopAt.any (· ≤ f.now) && !f.stopped then some { f with stopped := true } else none

def feedStep (f : Feed) : Option Feed :=
  match f.feedings with
  | [] => none
  | .send a :: rest =>
    match (f.channel.join hand).put? hand a with
    | some channel => some { f with channel, feedings := rest }
    | none =>
      if f.channel.line.contains hand then none
      else some { f with channel := f.channel.join hand }
  | .pause time :: rest =>
    match f.resumeAt with
    | none => some { f with resumeAt := some (f.now + time) }
    | some t => if t ≤ f.now then some { f with feedings := rest, resumeAt := none } else none
  | .stop :: rest => some { f with stopped := true, feedings := rest }
  | .retire :: rest => some { f with channel := f.channel.retire, feedings := rest }

def printStep (f : Feed) : Option Feed :=
  (f.collator.step f.now f.stopped f.channel).map fun (collator, channel) =>
    { f with collator, channel }

def schedule : Schedule Feed where
  tasks _ := 3
  step f k :=
    match k with
    | 0 => f.stopStep
    | 1 => f.feedStep
    | _ => f.printStep
  now f := f.now
  timers f := f.stopAt.toList ++ f.resumeAt.toList ++ f.collator.flushAt.toList
  wait f time := { f with now := time }
  isDone f := f.collator.outcome.isSome

/-- What a feed comes to. The collator is the first to go: one that is stopped at the outset takes
nothing. -/
def run (f : Feed) : Feed := schedule.run 2 f

end Feed

end LogWeave.Run

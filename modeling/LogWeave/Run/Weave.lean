import LogWeave.Output.Collator
import LogWeave.Run.Schedule
import LogWeave.Run.Tail

/-! The logs of all requested services, woven into one output.

Each service has a reader of its own; all send to one channel, which the collator prints. When the
logs are not followed the run is stopped as soon as no reader is left. Once the printing has ended
the readers are stopped, and the run is over when all have returned. A run for which there is no
channel never begins (`Weave.start?`). -/
namespace LogWeave.Run

structure Weave (σ : Type) where
  floor : Floor σ
  tails : List Tail
  collator : Collator
  follows : Bool

namespace Weave

variable {σ : Type}

def new (r : Request) (bulletin : Bulletin) (sink : Sink) (cancelled : Bool) (world : σ) :
    Weave σ where
  floor := .new r.capacity r.services.length bulletin cancelled world
  tails := r.services.mapIdx (Tail.new r.streaming r.isShared bulletin)
  collator := .new r.streaming.window r.isShared sink
  follows := r.streaming.follows

/-- A run begins only if there is a channel for its lines: with room for one at least, and for no
more than any channel has. Their number is reckoned in full, so one that is too large for a word is
too large for a channel. -/
def start? (r : Request) (bulletin : Bulletin) (sink : Sink) (cancelled : Bool) (world : σ) :
    Option (Weave σ) :=
  if 0 < r.capacity ∧ r.capacity ≤ Channel.most then some (new r bulletin sink cancelled world)
  else none

theorem start?_eq_some {r : Request} {bulletin : Bulletin} {sink : Sink} {cancelled : Bool}
    {world : σ} {v : Weave σ} : start? r bulletin sink cancelled world = some v ↔
      (0 < r.capacity ∧ r.capacity ≤ Channel.most) ∧ v = new r bulletin sink cancelled world := by
  rw [start?, Option.ite_none_right_eq_some, Option.some.injEq, eq_comm]

/-- With room for one line of each source at least, and for no more than a channel has, a run
begins. -/
theorem starts {r : Request} (hroom : 1 ≤ r.streaming.linesPerSource)
    (hmost : r.capacity ≤ Channel.most) (bulletin : Bulletin) (sink : Sink) (cancelled : Bool)
    (world : σ) : start? r bulletin sink cancelled world =
      some (new r bulletin sink cancelled world) :=
  start?_eq_some.2 ⟨⟨Nat.mul_pos (List.length_pos_iff.2 r.nonempty) hroom, hmost⟩, rfl⟩

/-- The world's turn. -/
def worldStep (w : World σ) (v : Weave σ) : Option (Weave σ) :=
  (v.floor.worldStep w v.collator.sink.shown).map fun floor => { v with floor }

/-- A reader's turn. -/
def tailStep (w : World σ) (v : Weave σ) (i : Nat) : Option (Weave σ) := do
  let t ← v.tails[i]?
  let (floor, t) ← t.step w v.floor
  pure { v with floor, tails := v.tails.set i t }

/-- Stops the run when nobody is left to send anything. -/
def watchStep (v : Weave σ) : Option (Weave σ) :=
  if !v.follows && !v.floor.isHalted && v.floor.headcount.running = 0 then
    some { v with floor := { v.floor with stopped := true } }
  else none

/-- The collator's turn. When it ends the run is stopped. -/
def printStep (v : Weave σ) : Option (Weave σ) :=
  (v.collator.step v.floor.now v.floor.isHalted v.floor.channel).map fun (collator, channel) =>
    let floor := { v.floor with channel, stopped := v.floor.stopped || collator.outcome.isSome }
    { v with floor, collator }

def isDone (v : Weave σ) : Bool := v.collator.outcome.isSome && v.tails.all Tail.isDone

/-- The world, the readers in the order of their services, the watcher and the collator. -/
def schedule (w : World σ) : Schedule (Weave σ) where
  tasks v := v.tails.length + 3
  step v k :=
    if k = 0 then v.worldStep w
    else if k ≤ v.tails.length then v.tailStep w (k - 1)
    else if k = v.tails.length + 1 then v.watchStep
    else v.printStep
  now v := v.floor.now
  timers v :=
    (w.due v.floor.world).toList ++ v.tails.filterMap Tail.timer? ++ v.collator.flushAt.toList
  wait v time := { v with floor := { v.floor with now := time } }
  isDone := isDone

/-- What a run comes to. -/
def run (w : World σ) (v : Weave σ) : Weave σ := (schedule w).run 0 v

end Weave

end LogWeave.Run

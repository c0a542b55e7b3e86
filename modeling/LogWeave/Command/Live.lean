import LogWeave.Command.Sandbox
import LogWeave.Docker.Patrol
import LogWeave.Run.Weave

/-! The logs of services that an engine runs, woven while the services are looked after.

All services must have started at least once. While their logs are followed a patrol posts their
statuses; a run ends when the user stops it, or by itself if nothing is followed. -/
namespace LogWeave.Command

/-- The world of a run. -/
structure Live (ε : Type) where
  engine : ε
  patrol : Option Docker.Patrol
  /-- The user stops the run when so many lines are shown. -/
  stopAfter : Option Nat
  /-- The user has stopped the run. -/
  stopped : Bool

namespace Live

variable {ε : Type}

/-- Time to open a log, so that attempts do not pile up within one instant. -/
def openingTime : Nat := 1

def openLog (c : Docker.Client ε) (l : Live ε) (service : String) (q : LogQuery) :
    Run.Opening × Live ε :=
  let (outcome, engine) := c.openLog service q l.engine
  (⟨openingTime, outcome⟩, { l with engine })

/-- The next thing that the patrol does. -/
def patrolStep (c : Docker.Client ε) (now : Nat) (l : Live ε) : Option (Run.Act × Live ε) := do
  let patrol ← l.patrol
  let (act, patrol, engine) ← patrol.step c now l.stopped l.engine
  pure (act, { l with patrol := some patrol, engine })

def act (c : Docker.Client ε) (now shown : Nat) (l : Live ε) : Option (Run.Act × Live ε) :=
  if !l.stopped && l.stopAfter.any (· ≤ shown) then some (.cancel, { l with stopped := true })
  else l.patrolStep c now

def world (c : Docker.Client ε) (clock : Nat → Time.Instant) : Run.World (Live ε) where
  openLog := openLog c
  act := act c
  due l := l.patrol.map Docker.Patrol.due
  clock

/-- The bulletin of services that have all started. -/
def firstLook (c : Docker.Client ε) : List String → Bulletin → Carrying ε Bulletin
  | [], b => pure b
  | service :: rest, b => do
    let status ← .ask (c.inspectStarted service)
    firstLook c rest (b.post service status)

/-- What a run has printed, and how it ended. -/
structure Printed where
  text : String
  outcome : Except Complaint Unit

/-- Weaves the logs of a request, unless the run cannot begin. -/
def weave (c : Docker.Client ε) (s : Surroundings ε) (r : Request) (pollInterval : Nat)
    (b : Bulletin) (e : ε) : Option Printed × ε :=
  let patrol := if r.streaming.follows then some (.new r.services pollInterval) else none
  match Run.Weave.start? r b .endless false (Live.mk e patrol s.stopAfter false) with
  | some start =>
    let v := start.run (world c s.clock)
    let sink := v.collator.sink
    (some ⟨String.join (sink.flushes.map Flush.text) ++ sink.pending,
      plainly (v.collator.outcome.getD (.ok ()))⟩, v.floor.world.engine)
  | none => (none, e)

end Live

end LogWeave.Command

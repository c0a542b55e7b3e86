import LogWeave.Run.Schedule
import LogWeave.Run.Tail

/-! One reader by itself, its lines taken by an observer.

The observer may rest before each line and may stop after a number of lines. -/
namespace LogWeave.Run

/-- What an observer is about to do. -/
inductive Attention where
  | deciding
  | resting (wakeAt : Nat)
  | taking
  | stopped
  deriving DecidableEq, Repr

structure Observer where
  /-- The rest before each line. -/
  rest : Option Nat
  /-- Lines after which the observer stops. -/
  most : Option Nat
  attention : Attention
  taken : List (Nat × Arrival)
  deriving DecidableEq, Repr

structure Observation (σ : Type) where
  floor : Floor σ
  tail : Tail
  observer : Observer

namespace Observation

variable {σ : Type}

def new (s : Streaming) (shared : Bool) (service : String) (capacity : Nat) (rest most : Option Nat)
    (bulletin : Bulletin) (cancelled : Bool) (world : σ) : Observation σ where
  floor := .new capacity 1 bulletin cancelled world
  tail := .new s shared bulletin 0 service
  observer := ⟨rest, most, .deciding, []⟩

def worldStep (w : World σ) (v : Observation σ) : Option (Observation σ) :=
  (v.floor.worldStep w 0).map fun floor => { v with floor }

def tailStep (w : World σ) (v : Observation σ) : Option (Observation σ) :=
  (v.tail.step w v.floor).map fun (floor, tail) => { v with floor, tail }

/-- Decides whether to go on. -/
def decideStep (v : Observation σ) : Observation σ :=
  let o := v.observer
  if o.most = some o.taken.length then
    { v with
      floor := { v.floor with channel := v.floor.channel.close }
      observer := { o with attention := .stopped } }
  else
    let attention : Attention := match o.rest with
      | some rest => .resting (v.floor.now + rest)
      | none => .taking
    { v with observer := { o with attention } }

def takeStep (v : Observation σ) : Option (Observation σ) :=
  let o := v.observer
  match v.floor.channel.take? with
  | some (a, channel) =>
    some { v with
      floor := { v.floor with channel }
      observer := { o with attention := .deciding, taken := o.taken ++ [(v.floor.now, a)] } }
  | none =>
    if v.floor.channel.senders = 0 then some { v with observer := { o with attention := .stopped } }
    else none

def observeStep (v : Observation σ) : Option (Observation σ) :=
  match v.observer.attention with
  | .deciding => some v.decideStep
  | .resting wakeAt =>
    if wakeAt ≤ v.floor.now then
      some { v with observer := { v.observer with attention := .taking } }
    else none
  | .taking => v.takeStep
  | .stopped => none

def timer? (o : Observer) : Option Nat :=
  match o.attention with
  | .resting wakeAt => some wakeAt
  | _ => none

def schedule (w : World σ) : Schedule (Observation σ) where
  tasks _ := 3
  step v k :=
    match k with
    | 0 => v.worldStep w
    | 1 => v.tailStep w
    | _ => v.observeStep
  now v := v.floor.now
  timers v := (w.due v.floor.world).toList ++ v.tail.timer?.toList ++ (timer? v.observer).toList
  wait v time := { v with floor := { v.floor with now := time } }
  isDone v := v.tail.isDone && v.observer.attention == .stopped

def run (w : World σ) (v : Observation σ) : Observation σ := (schedule w).run 0 v

/-- When the reader returned. -/
def returnedAt? (v : Observation σ) : Option Nat :=
  (v.floor.journal.find? (·.event == .returned)).map Happening.time

end Observation

end LogWeave.Run

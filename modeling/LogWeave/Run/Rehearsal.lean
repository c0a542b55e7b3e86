import LogWeave.Run.Floor

/-! A world that follows a script.

Each service has its openings written down in order; after the last it has only streams that never
bring anything. What the world does on its own stands in an agenda, ordered by time. -/
namespace LogWeave.Run

structure Rehearsal where
  openings : List (String × List Opening)
  agenda : List (Nat × Act)

namespace Rehearsal

/-- The next opening of a service, and the services with it crossed out. -/
def take (service : String) : List (String × List Opening) → Opening × List (String × List Opening)
  | [] => (.stream [.hang], [])
  | (name, openings) :: rest =>
    if name = service then
      match openings with
      | [] => (.stream [.hang], (name, []) :: rest)
      | o :: more => (o, (name, more) :: rest)
    else
      let (o, rest) := take service rest
      (o, (name, openings) :: rest)

/-- Receipts start after every time that a script mentions: with the year 2100. -/
def clock (n : Nat) : Time.Instant :=
  (Time.Instant.ofCounts? (4102444800 + n / Time.nanosPerSecond) (n % Time.nanosPerSecond)).getD
    Time.Instant.epoch

def world : World Rehearsal where
  openLog r service _ :=
    let (o, openings) := take service r.openings
    (o, { r with openings })
  act now _ r :=
    match r.agenda with
    | (time, act) :: agenda => if time ≤ now then some (act, { r with agenda }) else none
    | [] => none
  due r := r.agenda.head?.map Prod.fst
  clock

/-- A world that does these things at their times. Those of time 0 are over when a run starts. -/
def ofActs (openings : List (String × List Opening)) (acts : List (Nat × Act)) : Rehearsal :=
  ⟨openings, (acts.filter (0 < ·.1)).mergeSort fun a b => a.1 ≤ b.1⟩

/-- The bulletin when a run starts. -/
def bulletin (acts : List (Nat × Act)) : Bulletin :=
  acts.foldl (fun b act =>
    match act with
    | (0, .post service status) => b.post service status
    | _ => b) .new

/-- Whether a run is cancelled before it starts. -/
def isCancelled (acts : List (Nat × Act)) : Bool := acts.contains (0, .cancel)

end Rehearsal

end LogWeave.Run

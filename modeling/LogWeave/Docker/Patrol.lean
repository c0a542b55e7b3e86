import LogWeave.Docker.Client
import LogWeave.Run.Floor

/-! Looking after services: their statuses are asked for again and again and posted.

A round looks at every service in order. The next round begins a while after this one began; a
service whose status cannot be told keeps its last one. -/
namespace LogWeave.Docker

structure Patrol where
  services : List String
  /-- The time from one round to the next. -/
  interval : Nat
  /-- Services that this round has still to look at. -/
  ahead : List String
  /-- When the next round begins. -/
  due : Nat
  deriving DecidableEq, Repr

namespace Patrol

variable {ε : Type}

def new (services : List String) (interval : Nat) : Patrol := ⟨services, interval, [], 0⟩

/-- Looks at one service. -/
def look (c : Client ε) (e : ε) (service : String) : Run.Act × ε :=
  match c.inspect service e with
  | (.ok status, e) => (.post service status, e)
  | (.error _, e) => (.nothing, e)

/-- What the patrol does next: it looks at the next service of its round, or begins a round when
it is time, unless it is to stop. -/
def step (c : Client ε) (now : Nat) (stopped : Bool) (p : Patrol) (e : ε) :
    Option (Run.Act × Patrol × ε) :=
  match p.ahead with
  | service :: ahead =>
    let (act, e) := look c e service
    some (act, { p with ahead }, e)
  | [] =>
    if !stopped && p.due ≤ now then
      some (.nothing, { p with ahead := p.services, due := now + p.interval }, e)
    else none

/-- Posts what a look has brought. -/
def post (b : Bulletin) : Run.Act → Bulletin
  | .post service status => b.post service status
  | _ => b

/-- Rounds without a pause, up to the end of the one in which something has happened to the engine
that ends them. -/
def rounds (p : Patrol) (c : Client ε) (isOver : ε → Bool) :
    (most : Nat) → ε → Bulletin → Bulletin
  | 0, _, b => b
  | most + 1, e, b =>
    if p.ahead.isEmpty && isOver e then b
    else
      match p.step c p.due false e with
      | none => b
      | some (act, p, e) => p.rounds c isOver most e (post b act)

end Patrol

end LogWeave.Docker

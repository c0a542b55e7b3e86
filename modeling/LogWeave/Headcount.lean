/-! How many readers may still produce lines, and who waits for none to be left.

The count may rise again after it fell. A waiter puts its name down before it looks at the count. If
it finds somebody there it is parked; the next time the count falls to zero everybody whose name is
down is called, and a parked waiter that has been called begins anew when it is polled.

Between the steps of one waiter (`Waiter.next?`) readers may come and go. A poll takes as many steps
as there are to take: `Waiter.settle` is where they lead when nobody comes or goes meanwhile. -/
namespace LogWeave

/-- Who waits for the count to be zero. -/
inductive Waiter where
  /-- Has not put its name down yet. -/
  | arriving
  /-- Has put its name down and is about to look at the count. -/
  | listed (called : Bool)
  /-- Has found somebody there: waits to be called, or has been called and has not begun anew. -/
  | parked (called : Bool)
  /-- Has seen zero, or has given up. -/
  | gone
  deriving DecidableEq, Repr

namespace Waiter

/-- Whose name is down hears the call. -/
def call : Waiter → Waiter
  | .listed _ => .listed true
  | .parked _ => .parked true
  | w => w

/-- What a waiter does next, unless it has to wait or is gone. -/
def next? (running : Nat) : Waiter → Option Waiter
  | .arriving => some (.listed false)
  | .listed called => some (if running = 0 then .gone else .parked called)
  | .parked true => some .arriving
  | .parked false | .gone => none

/-- Where the steps of a waiter lead. -/
def settle (running : Nat) : Waiter → Waiter
  | .parked false => .parked false
  | .gone => .gone
  | _ => if running = 0 then .gone else .parked false

end Waiter

structure Headcount where
  running : Nat
  waiters : List Waiter
  deriving DecidableEq, Repr

namespace Headcount

/-- What a waiter learns when it is polled. -/
inductive Answer where
  | ready
  | pending
  | gone
  deriving DecidableEq, Repr

def new (running : Nat) : Headcount := ⟨running, []⟩

/-- One more. -/
def enter (h : Headcount) : Headcount := { h with running := h.running + 1 }

/-- One less; below zero nothing happens. The last one to leave calls all who wait. -/
def leave (h : Headcount) : Headcount :=
  match h.running with
  | 0 => h
  | 1 => ⟨0, h.waiters.map Waiter.call⟩
  | n + 2 => { h with running := n + 1 }

/-- A new waiter comes. -/
def arrive (h : Headcount) : Headcount := { h with waiters := h.waiters ++ [.arriving] }

/-- A waiter takes its next step, if it has one to take. -/
def step (h : Headcount) (i : Nat) : Headcount :=
  match h.waiters[i]?.bind (Waiter.next? h.running) with
  | some w => { h with waiters := h.waiters.set i w }
  | none => h

/-- A waiter takes its steps until it has to wait, or has seen zero. -/
def poll (h : Headcount) (i : Nat) : Headcount × Answer :=
  match h.waiters[i]? with
  | none | some .gone => (h, .gone)
  | some w =>
    let w := w.settle h.running
    ({ h with waiters := h.waiters.set i w }, if w = .gone then .ready else .pending)

/-- A new waiter comes and is polled. -/
def await (h : Headcount) : Headcount × Answer := h.arrive.poll h.waiters.length

/-- A waiter gives up. -/
def abandon (h : Headcount) (i : Nat) : Headcount :=
  { h with waiters := h.waiters.set i .gone }

@[simp] theorem running_enter (h : Headcount) : h.enter.running = h.running + 1 := rfl

@[simp] theorem running_leave (h : Headcount) : h.leave.running = h.running - 1 := by
  obtain ⟨running, waiters⟩ := h
  match running with
  | 0 | 1 | n + 2 => rfl

@[simp] theorem running_arrive (h : Headcount) : h.arrive.running = h.running := rfl

@[simp] theorem running_step (h : Headcount) (i : Nat) : (h.step i).running = h.running := by
  unfold step
  split <;> rfl

@[simp] theorem running_poll (h : Headcount) (i : Nat) : (h.poll i).1.running = h.running := by
  unfold poll
  split <;> rfl

@[simp] theorem running_await (h : Headcount) : h.await.1.running = h.running :=
  running_poll h.arrive _

@[simp] theorem running_abandon (h : Headcount) (i : Nat) : (h.abandon i).running = h.running := rfl

end Headcount

end LogWeave

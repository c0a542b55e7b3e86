import LogWeave.Status.Basic

/-! The last known status of every service, and those who wait for a change.

A `Watch` follows one service. It remembers the instance it has last seen start or stop, so that
the same instance is not taken for a restart. -/
namespace LogWeave

structure Bulletin where
  last : String → ServiceStatus
  /-- No more statuses once it has been taken down; the last ones can still be read. -/
  isUp : Bool

namespace Bulletin

def new : Bulletin := ⟨fun _ => .unheard, true⟩

/-- Sets the status of a service. -/
def post (b : Bulletin) (service : String) (status : ServiceStatus) : Bulletin :=
  if b.isUp then { b with last := fun s => if s = service then status else b.last s } else b

/-- Whether a status would be news. -/
def isNews (b : Bulletin) (service : String) (status : ServiceStatus) : Bool :=
  b.isUp && b.last service != status

def takeDown (b : Bulletin) : Bulletin := { b with isUp := false }

theorem last_post (b : Bulletin) (h : b.isUp = true) (service other : String)
    (status : ServiceStatus) :
    (b.post service status).last other = if other = service then status else b.last other := by
  simp [post, h]

@[simp] theorem last_takeDown (b : Bulletin) : b.takeDown.last = b.last := rfl

/-- What can be said of a condition on the status of a service. -/
inductive Outlook where
  | holds (status : ServiceStatus)
  | pending
  | lost
  deriving DecidableEq, Repr

def outlook (b : Bulletin) (service : String) (holds : ServiceStatus → Bool) : Outlook :=
  if holds (b.last service) then .holds (b.last service)
  else if b.isUp then .pending else .lost

end Bulletin

/-- Who follows the status of a service. -/
structure Watch where
  service : String
  /-- The instance last seen to start or stop. -/
  instance? : Option Time.Instant
  deriving DecidableEq, Repr

namespace Watch

def new (b : Bulletin) (service : String) : Watch := ⟨service, (b.last service).startedAt⟩

/-- Takes note of an instance. -/
def mark (w : Watch) (startedAt : Option Time.Instant) : Watch :=
  { w with instance? := startedAt }

/-- Takes note of the instance for which a condition holds, once it does. -/
def settle? (w : Watch) (b : Bulletin) (holds : ServiceStatus → Bool) : Option Watch :=
  match b.outlook w.service holds with
  | .holds status => some (w.mark status.startedAt)
  | .pending | .lost => none

theorem settle?_eq (w : Watch) (b : Bulletin) (holds : ServiceStatus → Bool) :
    w.settle? b holds =
      if holds (b.last w.service) then some (w.mark (b.last w.service).startedAt) else none := by
  unfold settle? Bulletin.outlook
  by_cases h : holds (b.last w.service) = true
  · simp [h]
  · cases hb : b.isUp <;> simp [h]

/-- The service has exited. -/
def exited? (w : Watch) (b : Bulletin) : Option Watch := w.settle? b ServiceStatus.isExited

/-- The service runs, as another instance than the one last seen. -/
def restarted? (w : Watch) (b : Bulletin) : Option Watch :=
  w.settle? b fun s => s.isAnother w.instance?

section Signals

variable {w w' : Watch} {b : Bulletin}

theorem exited?_eq_some : w.exited? b = some w' ↔
    (b.last w.service).phase = .exited ∧ w.mark (b.last w.service).startedAt = w' := by
  simp [exited?, settle?_eq, ServiceStatus.isExited]

theorem restarted?_eq_some : w.restarted? b = some w' ↔
    ((b.last w.service).phase = .running ∧ (b.last w.service).startedAt ≠ w.instance?) ∧
      w.mark (b.last w.service).startedAt = w' := by
  simp [restarted?, settle?_eq, ServiceStatus.isAnother]

end Signals

end Watch

end LogWeave

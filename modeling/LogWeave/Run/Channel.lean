/-! A channel of bounded length.

Senders stand in line: each may send once the lines in the channel and the senders before it leave
room. The channel ends when every sender has retired and nothing is left in it. -/
namespace LogWeave.Run

structure Channel (α : Type) where
  capacity : Nat
  queue : List α
  /-- Senders in line, by number, the first to come first. -/
  line : List Nat
  /-- Senders that have not retired. -/
  senders : Nat
  /-- The receiver has gone. -/
  isClosed : Bool
  deriving DecidableEq, Repr

namespace Channel

variable {α : Type}

/-- The most that any channel has room for: an eighth of the largest word. -/
def most : Nat := 0x1FFFFFFFFFFFFFFF

def new (capacity senders : Nat) : Channel α := ⟨capacity, [], [], senders, false⟩

/-- A sender joins the line, unless it stands there. -/
def join (c : Channel α) (sender : Nat) : Channel α :=
  if c.line.contains sender then c else { c with line := c.line ++ [sender] }

/-- A sender steps out of the line. -/
def stepOut (c : Channel α) (sender : Nat) : Channel α :=
  { c with line := c.line.filter (· != sender) }

/-- There is room for a sender in line. -/
def hasRoom (c : Channel α) (sender : Nat) : Bool :=
  c.queue.length + c.line.idxOf sender < c.capacity

/-- A sender in line puts something in, if there is room. -/
def put? (c : Channel α) (sender : Nat) (a : α) : Option (Channel α) :=
  if c.hasRoom sender then some { c.stepOut sender with queue := c.queue ++ [a] } else none

def take? (c : Channel α) : Option (α × Channel α) :=
  match c.queue with
  | [] => none
  | a :: rest => some (a, { c with queue := rest })

/-- A sender has sent its last. -/
def retire (c : Channel α) : Channel α := { c with senders := c.senders - 1 }

/-- The receiver goes, and what is in the channel with it. -/
def close (c : Channel α) : Channel α := { c with queue := [], isClosed := true }

/-- Everything in the channel, taken at once. -/
def drained (c : Channel α) : Channel α := { c with queue := [] }

@[simp] theorem queue_join (c : Channel α) (sender : Nat) : (c.join sender).queue = c.queue := by
  unfold join
  split <;> rfl

@[simp] theorem queue_stepOut (c : Channel α) (sender : Nat) :
    (c.stepOut sender).queue = c.queue := rfl

theorem queue_put? {c d : Channel α} {sender : Nat} {a : α} (h : c.put? sender a = some d) :
    d.queue = c.queue ++ [a] := by
  unfold put? at h
  split at h
  · cases h
    rfl
  · cases h

end Channel

end LogWeave.Run

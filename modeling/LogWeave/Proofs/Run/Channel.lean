import LogWeave.Run.Channel

/-! Standing in line.

What `join`, `put?` and `stepOut` do to a channel, and when there is room: whoever is first in the
line of an empty channel can send (`hasRoom_first`). -/
namespace LogWeave.Run.Channel

variable {α : Type} {c d : Channel α} {sender n : Nat} {a : α}

@[simp] theorem capacity_join : (c.join sender).capacity = c.capacity := by
  unfold join
  split <;> rfl

@[simp] theorem isClosed_join : (c.join sender).isClosed = c.isClosed := by
  unfold join
  split <;> rfl

@[simp] theorem senders_join : (c.join sender).senders = c.senders := by
  unfold join
  split <;> rfl

theorem join_of_mem (h : sender ∈ c.line) : c.join sender = c := by
  simp [join, h]

theorem mem_join : n ∈ (c.join sender).line ↔ n ∈ c.line ∨ n = sender := by
  by_cases h : sender ∈ c.line
  · rw [join_of_mem h]
    constructor
    · exact .inl
    · rintro (hn | rfl) <;> assumption
  · simp [join, h]

theorem mem_stepOut : n ∈ (c.stepOut sender).line ↔ n ∈ c.line ∧ n ≠ sender := by
  simp [stepOut]

/-- Whoever puts something in is out of the line. -/
theorem put?_eq (h : c.put? sender a = some d) :
    d = { c.stepOut sender with queue := c.queue ++ [a] } := by
  unfold put? at h
  split at h
  · exact (Option.some.inj h).symm
  · cases h

/-- The first in line can send when nothing is in the channel. -/
theorem hasRoom_first {rest : List Nat} (hl : c.line = sender :: rest) (hq : c.queue = [])
    (hc : 0 < c.capacity) : c.hasRoom sender = true := by
  simpa [hasRoom, hl, hq] using hc

/-- What is taken is the first in the channel. -/
theorem take?_some (h : c.take? = some (a, d)) :
    c.queue = a :: d.queue ∧ d = { c with queue := d.queue } := by
  unfold take? at h
  split at h
  · cases h
  · rename_i b rest hq
    cases h
    exact ⟨hq, rfl⟩

theorem take?_none (h : c.take? = none) : c.queue = [] := by
  unfold take? at h
  split at h
  · assumption
  · cases h

end LogWeave.Run.Channel

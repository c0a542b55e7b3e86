import LogWeave.Output.Collator
import LogWeave.Proofs.Run.Channel

/-! What a collator is left to do.

It takes each line in the channel, prints when it is time and ends. With each step there is less
left to do (`step_lowers`), and it can go on when it is stopped or has a line to take
(`step_isSome`). -/
namespace LogWeave.Collator

/-- A collator that is stopped goes on at once, and so does one that has a line to take. -/
theorem step_isSome {c : Collator} (ho : c.outcome = none) (now : Nat) {stopped : Bool}
    {channel : Run.Channel Arrival} (h : stopped = true ∨ channel.queue ≠ []) :
    ∃ next, c.step now stopped channel = some next := by
  unfold step
  simp only [ho, Option.isSome_none, Bool.false_eq_true, if_false]
  by_cases hs : stopped = true
  · exact ⟨_, if_pos hs⟩
  · rw [if_neg hs]
    obtain ⟨a, rest, hq⟩ := List.exists_cons_of_ne_nil (h.resolve_left hs)
    simp only [Run.Channel.take?, hq]
    exact ⟨_, rfl⟩

section Effort

variable (c : Collator) (now : Nat) (outcome : Except Failure Unit) (a : Arrival)
  (queue : List Arrival)

@[simp] theorem flushAt_flush : (c.flush now).flushAt = c.flushAt := by
  unfold flush
  split <;> rfl

@[simp] theorem flushAt_finish : (c.finish outcome).flushAt = c.flushAt := rfl

@[simp] theorem flushAt_accept : (c.accept now a).flushAt = c.flushAt := by
  unfold accept
  split
  · rfl
  · split
    · exact flushAt_flush c now
    · rfl

@[simp] theorem flushAt_acceptAll : (acceptAll now c queue).flushAt = c.flushAt := by
  induction queue generalizing c with
  | nil => rfl
  | cons a rest ih =>
    unfold acceptAll
    simp only
    split
    · exact flushAt_accept c now a
    · exact (ih _).trans (flushAt_accept c now a)

theorem isSome_finish : (c.finish outcome).outcome.isSome = true := by
  unfold finish
  cases c.outcome <;> rfl

theorem isSome_drain : (c.drain now queue).outcome.isSome = true := by
  unfold drain
  simp only
  split
  · assumption
  · exact isSome_finish ..

/-- A collator that is stopped ends. -/
theorem isSome_of_stopped {c c' : Collator} {now : Nat} {channel channel' : Run.Channel Arrival}
    (h : c.step now true channel = some (c', channel')) : c'.outcome.isSome = true := by
  unfold step at h
  split at h
  · cases h
  · cases h
    exact isSome_drain ..

@[simp] theorem flushAt_drain : (c.drain now queue).flushAt = c.flushAt := by
  unfold drain
  simp only
  split <;> simp

/-- What a collator still has to do: to print at the time set, and to end. -/
def effort : Nat := (if c.flushAt.isSome then 1 else 0) + if c.outcome.isSome then 0 else 1

end Effort

theorem effort_le_two (c : Collator) : c.effort ≤ 2 := by
  unfold effort
  split <;> split <;> omega

theorem one_le_effort {c : Collator} (h : c.outcome.isSome = false) : 1 ≤ c.effort := by
  simp [effort, h]

/-- **With each step there is less left to do**, a line in the channel counted as two steps. -/
theorem step_lowers {c c' : Collator} {now : Nat} {stopped : Bool}
    {channel channel' : Run.Channel Arrival}
    (h : c.step now stopped channel = some (c', channel')) :
    c'.effort + 2 * channel'.queue.length < c.effort + 2 * channel.queue.length := by
  unfold step at h
  split at h
  · cases h
  rename_i hopen
  split at h
  · cases h
    simp only [effort, flushAt_drain, isSome_drain, hopen, Run.Channel.drained]
    simp
    omega
  have hnone : c.outcome.isSome = false := by simpa using hopen
  split at h
  · rename_i a rest htake
    cases h
    have hlow := effort_le_two (if (c.accept now a).outcome.isSome = true then c.accept now a
      else (c.accept now a).arm now)
    have hhigh := one_le_effort hnone
    rw [(Run.Channel.take?_some htake).1, List.length_cons]
    omega
  split at h
  · cases h
    simp only [effort, flushAt_finish, flushAt_flush, isSome_finish, hnone]
    simp
  split at h
  · rename_i hdue
    cases h
    have harmed : c.flushAt.isSome = true := Option.isSome_of_any hdue
    simp only [effort, flushAt_flush, harmed, hnone]
    simp
    split <;> omega
  · cases h

end LogWeave.Collator

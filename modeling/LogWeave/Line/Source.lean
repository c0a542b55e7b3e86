import LogWeave.Time.Instant

/-! A source of lines, and how far it has been read.

`lastSeen` is the newest time among the lines passed on: no observed time is later
(`observe_newest`). -/
namespace LogWeave

structure Source where
  name : String
  lastSeen : Option Time.Instant
  deriving DecidableEq, Repr

namespace Source

def new (name : String) : Source := ⟨name, none⟩

/-- Takes note of the time of a line passed on. -/
def observe (s : Source) (t : Time.Instant) : Source :=
  { s with lastSeen := some (Time.Instant.later s.lastSeen t) }

@[simp] theorem observe_name (s : Source) (t : Time.Instant) : (s.observe t).name = s.name := rfl

theorem le_later (seen : Option Time.Instant) (t : Time.Instant) :
    t ≤ Time.Instant.later seen t := by
  cases seen with
  | none => exact Time.Instant.le_refl t
  | some s =>
    simp only [Time.Instant.later]
    split
    · assumption
    · exact Time.Instant.le_refl t

theorem seen_le_later (seen t : Time.Instant) : seen ≤ Time.Instant.later (some seen) t := by
  simp only [Time.Instant.later]
  split
  · exact Time.Instant.le_refl seen
  · rename_i h
    exact (Time.Instant.le_total seen t).resolve_right h

/-- Neither the time observed nor one seen before is later than the newest. -/
theorem observe_newest (s : Source) (t seen : Time.Instant)
    (h : seen = t ∨ s.lastSeen = some seen) :
    ∃ newest, (s.observe t).lastSeen = some newest ∧ seen ≤ newest := by
  refine ⟨_, rfl, ?_⟩
  rcases h with rfl | h
  · exact le_later _ _
  · rw [h]
    exact seen_le_later seen t

end Source

end LogWeave

import LogWeave.Proofs.Run.Drift

/-! Schedules that are written down.

A script says whose turn it is and when time passes, whatever the state; a task whose turn it is
moves if it can. So two states may be led through one and the same schedule. Wherever moves and
times between them lead, a script leads (`exists_script`), and a run writes a script of its own
(`runFrom_succ`). -/
namespace LogWeave.Run.Schedule

variable {S : Type} (m : Schedule S)

inductive Cue where
  | turn (task : Nat)
  | pass (time : Nat)
  deriving DecidableEq, Repr

/-- A task moves, if it can. -/
def turn (s : S) (k : Nat) : S := if k < m.tasks s then (m.step s k).getD s else s

def cue (s : S) : Cue → S
  | .turn k => m.turn s k
  | .pass time => m.wait s (m.now s + time)

/-- What becomes of a state by a script. -/
def play (s : S) (script : List Cue) : S := script.foldl m.cue s

theorem turn_of_step {m : Schedule S} {s t : S} {k : Nat} (hk : k < m.tasks s)
    (hs : m.step s k = some t) : m.turn s k = t := by
  simp [turn, hk, hs]

theorem drifts_cue (s : S) (c : Cue) : m.Drifts s (m.cue s c) := by
  cases c with
  | turn k =>
    simp only [cue, turn]
    split
    · rename_i hk
      cases hs : m.step s k with
      | none => exact .refl
      | some t => exact .single (.move k hk hs)
    · exact .refl
  | pass time => exact .single (.elapse (Nat.le_add_right ..))

theorem drifts_play (s : S) (script : List Cue) : m.Drifts s (m.play s script) := by
  induction script generalizing s with
  | nil => exact .refl
  | cons c rest ih => exact (m.drifts_cue s c).trans (ih _)

/-- **Whatever the tasks do and however time passes, it can be written down.** -/
theorem exists_script {m : Schedule S} {s t : S} (h : m.Drifts s t) :
    ∃ script, m.play s script = t := by
  induction h with
  | refl => exact ⟨[], rfl⟩
  | tail _ hd ih =>
    obtain ⟨script, rfl⟩ := ih
    cases hd with
    | move k hk hs =>
      exact ⟨script ++ [.turn k], by rw [play, List.foldl_append]; exact turn_of_step hk hs⟩
    | @elapse time ht =>
      refine ⟨script ++ [.pass (time - m.now (m.play s script))], ?_⟩
      rw [play, List.foldl_append]
      show m.wait (m.play s script) (m.now (m.play s script) + _) = m.wait (m.play s script) time
      rw [Nat.add_sub_cancel' ht]

/-- Where the same tasks can move, the same one is the first to do so. -/
theorem mover?_congr {m : Schedule S} {s t : S} (first : Nat) (htasks : m.tasks t = m.tasks s)
    (hstep : ∀ k, (m.step t k).isSome = (m.step s k).isSome) :
    (m.mover? t first).map Prod.fst = (m.mover? s first).map Prod.fst := by
  simp only [mover?, htasks, List.map_findSome?]
  congr 1
  funext i
  have hi := hstep ((first + i) % m.tasks s)
  cases ht : m.step t ((first + i) % m.tasks s) <;>
    cases hs : m.step s ((first + i) % m.tasks s) <;> simp [ht, hs] at hi ⊢

/-- What a run does next, and who goes first then. -/
def advance? (horizon first : Nat) (s : S) : Option (Cue × Nat) :=
  if m.isDone s then none
  else
    match (m.mover? s first).map Prod.fst with
    | some k => some (.turn k, k)
    | none =>
      (m.next? s).bind fun time =>
        if time ≤ horizon then some (.pass (time - m.now s), 0) else none

/-- A run writes its script as it goes. -/
theorem runFrom_succ (horizon fuel first : Nat) (s : S) :
    m.runFrom horizon (fuel + 1) first s =
      match m.advance? horizon first s with
      | some (c, next) => m.runFrom horizon fuel next (m.cue s c)
      | none => s := by
  rw [runFrom, advance?]
  split
  · rfl
  cases hmove : m.mover? s first with
  | some moved =>
    obtain ⟨k, t⟩ := moved
    obtain ⟨hk, hs⟩ := m.mover?_some hmove
    exact congrArg (m.runFrom horizon fuel k) (turn_of_step hk hs).symm
  | none =>
    cases hnext : m.next? s with
    | none => rfl
    | some time =>
      have hpass : m.now s + (time - m.now s) = time :=
        Nat.add_sub_cancel' (m.now_lt_of_next? hnext).le
      simp only [Option.map_none, Option.bind_some]
      split
      · simp only [cue, hpass]
      · rfl

end LogWeave.Run.Schedule

/-! Tasks that share a state and a clock.

A task moves the state as long as it can; when it has to wait, the next in the circle goes on. When
all have to wait the clock jumps to the next timer. `Reachable` holds the states of every order in
which the tasks may move; `run` follows one of them (`reachable_run`). -/
namespace LogWeave.Run

structure Schedule (S : Type) where
  /-- How many tasks there are. -/
  tasks : S → Nat
  /-- What a task does next, unless it has to wait. -/
  step : S → Nat → Option S
  now : S → Nat
  /-- Times at which some task may go on. -/
  timers : S → List Nat
  wait : S → (time : Nat) → S
  isDone : S → Bool

namespace Schedule

variable {S : Type} (m : Schedule S)

/-- The next timer that lies ahead. -/
def next? (s : S) : Option Nat := ((m.timers s).filter (m.now s < ·)).min?

/-- No task can move. -/
def IsIdle (s : S) : Prop := ∀ k < m.tasks s, m.step s k = none

inductive Step : S → S → Prop where
  | move {s t : S} (k : Nat) (hk : k < m.tasks s) (hs : m.step s k = some t) : Step s t
  | wait {s : S} {time : Nat} (hs : m.IsIdle s) (ht : m.next? s = some time) :
    Step s (m.wait s time)

inductive Reachable (start : S) : S → Prop where
  | start : Reachable start start
  | step {s t : S} (h : Reachable start s) (hs : m.Step s t) : Reachable start t

/-- The first task that can move, from the `first`-th on and around the circle. -/
def mover? (s : S) (first : Nat) : Option (Nat × S) :=
  (List.range (m.tasks s)).findSome? fun i =>
    let k := (first + i) % m.tasks s
    (m.step s k).map (k, ·)

/-- Runs for at most `fuel` steps and until `horizon`. The task that moved last goes first. -/
def runFrom (horizon : Nat) : (fuel : Nat) → (first : Nat) → S → S
  | 0, _, s => s
  | fuel + 1, first, s =>
    if m.isDone s then s
    else
      match m.mover? s first with
      | some (k, t) => runFrom horizon fuel k t
      | none =>
        match m.next? s with
        | some time => if time ≤ horizon then runFrom horizon fuel 0 (m.wait s time) else s
        | none => s

/-- A run is given up after this time. -/
def horizon : Nat := 3600000

/-- Steps a run may take until it is given up. -/
def patience : Nat := 100000000

/-- Runs from the task that goes first. -/
def run (first : Nat) (s : S) : S := m.runFrom horizon patience first s

theorem mover?_some {s t : S} {first k : Nat} (h : m.mover? s first = some (k, t)) :
    k < m.tasks s ∧ m.step s k = some t := by
  obtain ⟨i, hi, he⟩ := List.exists_of_findSome?_eq_some h
  have hpos : 0 < m.tasks s := by
    have := List.mem_range.1 hi
    omega
  obtain ⟨u, hu, heq⟩ := Option.map_eq_some_iff.1 he
  simp only [Prod.mk.injEq] at heq
  obtain ⟨rfl, rfl⟩ := heq
  exact ⟨Nat.mod_lt _ hpos, hu⟩

theorem mover?_none {s : S} {first : Nat} (h : m.mover? s first = none) : m.IsIdle s := by
  intro k hk
  have hpos : 0 < m.tasks s := by omega
  have hall := List.findSome?_eq_none_iff.1 h
  have hi := hall ((k + m.tasks s - first % m.tasks s) % m.tasks s)
    (List.mem_range.2 (Nat.mod_lt _ hpos))
  simp only [Option.map_eq_none_iff] at hi
  have hf : first % m.tasks s < m.tasks s := Nat.mod_lt _ hpos
  have hround : (first + (k + m.tasks s - first % m.tasks s) % m.tasks s) % m.tasks s = k := by
    rw [Nat.add_mod_mod, ← Nat.mod_add_mod,
      show first % m.tasks s + (k + m.tasks s - first % m.tasks s) = k + m.tasks s by omega,
      Nat.add_mod_right, Nat.mod_eq_of_lt hk]
  rwa [hround] at hi

/-- Whatever a run comes to can be reached by steps. -/
theorem reachable_runFrom (horizon fuel first : Nat) {start s : S} (h : m.Reachable start s) :
    m.Reachable start (m.runFrom horizon fuel first s) := by
  induction fuel generalizing first s with
  | zero => exact h
  | succ fuel ih =>
    rw [runFrom]
    split
    · exact h
    · split
      · rename_i k t hmove
        obtain ⟨hk, hstep⟩ := m.mover?_some hmove
        exact ih k (h.step (.move k hk hstep))
      · rename_i hnone
        split
        · rename_i time hnext
          split
          · exact ih 0 (h.step (.wait (m.mover?_none hnone) hnext))
          · exact h
        · exact h

theorem reachable_run (first : Nat) (s : S) : m.Reachable s (m.run first s) :=
  m.reachable_runFrom _ _ _ .start

end Schedule

end LogWeave.Run

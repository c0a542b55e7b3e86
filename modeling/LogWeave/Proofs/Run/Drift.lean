import LogWeave.Run.Schedule
import Mathlib.Logic.Relation
import Mathlib.Order.WellFounded

/-! Tasks on a clock that goes by itself.

A `Schedule` lets its clock jump only when no task can move. A real clock does not wait: time may
pass at any moment, however much is left to do. `Drift` is a step of that kind, so `Drifts` holds
the states of every order of moves with any times between them; whatever `Reachable` holds is among
them (`Reachable.drifts`).

A `Course` is a whole history: time goes on forever and no task that could always move is passed
over forever. In a `Lockstep` the clock jumps as in a `Schedule`, so no time passes as long as a
task can move. `reaches_of_fair` says when such a history comes to a goal: a rank that no step
raises, and from every state some task that lowers it in the end. -/
namespace LogWeave.Run.Schedule

variable {S : Type} (m : Schedule S)

/-- A task moves, or time passes, whether or not a task could move. -/
inductive Drift : S → S → Prop where
  | move {s t : S} (k : Nat) (hk : k < m.tasks s) (hs : m.step s k = some t) : Drift s t
  | elapse {s : S} {time : Nat} (ht : m.now s ≤ time) : Drift s (m.wait s time)

/-- From one state to another, by any moves and any times between them. -/
abbrev Drifts : S → S → Prop := Relation.ReflTransGen m.Drift

/-- What every step keeps holds wherever the steps lead. -/
theorem Drifts.keep {m : Schedule S} {P : S → Prop} {start s : S} (h : m.Drifts start s)
    (hP : ∀ s t, P s → m.Drift s t → P t) (h0 : P start) : P s := by
  induction h with
  | refl => exact h0
  | tail _ hs ih => exact hP _ _ ih hs

theorem now_lt_of_next? {s : S} {time : Nat} (h : m.next? s = some time) : m.now s < time := by
  have hmem := List.min?_mem h
  simpa using (List.mem_filter.1 hmem).2

/-- A clock that waits goes no further than the next timer. -/
theorem next?_le {s : S} {time due : Nat} (h : m.next? s = some time) (hdue : due ∈ m.timers s)
    (hlt : m.now s < due) : time ≤ due := by
  have hmem : due ∈ (m.timers s).filter (m.now s < ·) :=
    List.mem_filter.2 ⟨hdue, decide_eq_true hlt⟩
  exact (List.min?_eq_some_iff.1 h).2 due hmem

/-- A clock that waits for the tasks is one that may not. -/
theorem Step.drift {m : Schedule S} {s t : S} (h : m.Step s t) : m.Drift s t := by
  cases h with
  | move k hk hs => exact .move k hk hs
  | wait _ ht => exact .elapse (m.now_lt_of_next? ht).le

theorem Reachable.drifts {m : Schedule S} {start s : S} (h : m.Reachable start s) :
    m.Drifts start s := by
  induction h with
  | start => exact .refl
  | step _ hs ih => exact ih.tail hs.drift

/-- Only waiting moves the clock, and nothing else; tasks neither come nor go. -/
structure Clocked : Prop where
  now_step : ∀ {s t : S} {k : Nat}, m.step s k = some t → m.now t = m.now s
  now_wait : ∀ (s : S) (time : Nat), m.now (m.wait s time) = time
  wait_now : ∀ s : S, m.wait s (m.now s) = s
  tasks_step : ∀ {s t : S} {k : Nat}, m.step s k = some t → m.tasks t = m.tasks s
  tasks_wait : ∀ (s : S) (time : Nat), m.tasks (m.wait s time) = m.tasks s

namespace Clocked

variable {m} (hm : m.Clocked)
include hm

theorem now_drift {s t : S} (h : m.Drift s t) : m.now s ≤ m.now t := by
  cases h with
  | move k _ hs => exact (hm.now_step hs).ge
  | elapse ht => rwa [hm.now_wait]

theorem tasks_drift {s t : S} (h : m.Drift s t) : m.tasks t = m.tasks s := by
  cases h with
  | move k _ hs => exact hm.tasks_step hs
  | elapse _ => exact hm.tasks_wait _ _

end Clocked

/-- **What a fair history comes to.** Each step lowers the rank or leaves what matters as it was;
and at every moment short of the goal there is a task that lowers the rank, whenever it gets its
turn later on. -/
theorem reaches_of_fair {m : Schedule S} {α : Type} [Preorder α] [WellFoundedLT α] (state : Nat → S)
    (hfair : ∀ n k, ∃ i, n ≤ i ∧ (k < m.tasks (state i) →
      m.step (state i) k = none ∨ m.step (state i) k = some (state (i + 1))))
    (goal : S → Prop) (rank : S → α) (still : S → S → Prop) (hrefl : ∀ s, still s s)
    (htrans : ∀ s t u, still s t → still t u → still s u)
    (hstep : ∀ n, rank (state (n + 1)) < rank (state n) ∨
      (rank (state (n + 1)) = rank (state n) ∧ still (state n) (state (n + 1))))
    (hready : ∀ n, ¬ goal (state n) → ∃ k later, ∀ i, n ≤ i → later ≤ i →
      still (state n) (state i) → k < m.tasks (state i) ∧
        ∃ u, m.step (state i) k = some u ∧ rank u < rank (state i)) :
    ∃ n, goal (state n) := by
  suffices h : ∀ r n, rank (state n) = r → ∃ i, goal (state i) from h _ 0 rfl
  intro r
  induction r using WellFoundedLT.induction with
  | ind r ih =>
    intro n hn
    by_cases hg : goal (state n)
    · exact ⟨n, hg⟩
    obtain ⟨k, later, hk⟩ := hready n hg
    by_contra hnone
    -- As long as nothing lowers the rank, the state stays as it is in all that matters.
    have hstill : ∀ i, n ≤ i → rank (state i) = r ∧ still (state n) (state i) := by
      intro i hi
      induction i, hi using Nat.le_induction with
      | base => exact ⟨hn, hrefl _⟩
      | succ i _ ihi =>
        obtain ⟨hr, hs⟩ := ihi
        rcases hstep i with hlt | ⟨heq, hs'⟩
        · exact absurd (ih _ (hr ▸ hlt) (i + 1) rfl) hnone
        · exact ⟨heq.trans hr, htrans _ _ _ hs hs'⟩
    obtain ⟨i, hi, hfair⟩ := hfair (max n later) k
    have hni : n ≤ i := (le_max_left n later).trans hi
    obtain ⟨hr, hs⟩ := hstill i hni
    obtain ⟨htask, u, hu, hlt⟩ := hk i hni ((le_max_right n later).trans hi) hs
    rcases hfair htask with hno | hmoved
    · rw [hu] at hno
      cases hno
    · rw [hu] at hmoved
      cases hmoved
      exact hnone (ih _ (hr ▸ hlt) (i + 1) rfl)

/-- A history without end. A task that could move from some time on gets its turn. -/
structure Course (start : S) where
  state : Nat → S
  state_zero : state 0 = start
  drift : ∀ n, m.Drift (state n) (state (n + 1))
  fair : ∀ n k, ∃ i, n ≤ i ∧ (k < m.tasks (state i) →
    m.step (state i) k = none ∨ m.step (state i) k = some (state (i + 1)))
  endless : ∀ time, ∃ n, time ≤ m.now (state n)

namespace Course

variable {m} {start : S} (c : m.Course start)

theorem drifts_add (n i : Nat) : m.Drifts (c.state n) (c.state (n + i)) := by
  induction i with
  | zero => exact .refl
  | succ i ih => exact ih.tail (c.drift (n + i))

theorem drifts (n : Nat) : m.Drifts start (c.state n) := by
  have h := c.drifts_add 0 n
  rwa [c.state_zero, Nat.zero_add] at h

theorem now_mono (hm : m.Clocked) {n i : Nat} (h : n ≤ i) :
    m.now (c.state n) ≤ m.now (c.state i) := by
  induction i, h using Nat.le_induction with
  | base => exact le_rfl
  | succ i _ ih => exact ih.trans (hm.now_drift (c.drift i))

/-- A history comes to its goal if some task lowers the rank once enough time has passed. -/
theorem reaches (hm : m.Clocked) {α : Type} [Preorder α] [WellFoundedLT α] (P goal : S → Prop)
    (rank : S → α) (still : S → S → Prop) (hrefl : ∀ s, still s s)
    (htrans : ∀ s t u, still s t → still t u → still s u) (hP : ∀ n, P (c.state n))
    (hdrift : ∀ s t, P s → m.Drift s t → rank t < rank s ∨ (rank t = rank s ∧ still s t))
    (hready : ∀ s, P s → ¬ goal s → ∃ k time, ∀ t, P t → still s t → time ≤ m.now t →
      k < m.tasks t ∧ ∃ u, m.step t k = some u ∧ rank u < rank t) :
    ∃ n, goal (c.state n) := by
  refine reaches_of_fair c.state c.fair goal rank still hrefl htrans
    (fun n => hdrift _ _ (hP n) (c.drift n)) fun n hg => ?_
  obtain ⟨k, time, hk⟩ := hready _ (hP n) hg
  obtain ⟨later, hlater⟩ := c.endless time
  exact ⟨k, later, fun i _ hi hs => hk _ (hP i) hs (hlater.trans (c.now_mono hm hi))⟩

/-- What is left of a history is one. -/
def after (hm : m.Clocked) (n : Nat) : m.Course (c.state n) where
  state i := c.state (n + i)
  state_zero := rfl
  drift i := c.drift (n + i)
  fair i k := by
    obtain ⟨j, hj, hfair⟩ := c.fair (n + i) k
    obtain ⟨d, rfl⟩ := Nat.exists_eq_add_of_le ((Nat.le_add_right n i).trans hj)
    exact ⟨d, by omega, hfair⟩
  endless time := by
    obtain ⟨j, hj⟩ := c.endless time
    exact ⟨j, hj.trans (c.now_mono hm (Nat.le_add_left j n))⟩

end Course

/-- A history in which the clock stands as long as a task can move, and then goes on to the next
timer. A task that could move from some moment on gets its turn. -/
structure Lockstep (start : S) where
  state : Nat → S
  state_zero : state 0 = start
  step : ∀ n, m.Step (state n) (state (n + 1)) ∨ state (n + 1) = state n
  fair : ∀ n k, ∃ i, n ≤ i ∧ (k < m.tasks (state i) →
    m.step (state i) k = none ∨ m.step (state i) k = some (state (i + 1)))

theorem Lockstep.drifts {m : Schedule S} {start : S} (c : m.Lockstep start) (n : Nat) :
    m.Drifts start (c.state n) := by
  induction n with
  | zero => rw [c.state_zero]
  | succ n ih =>
    rcases c.step n with hs | heq
    · exact ih.tail hs.drift
    · rwa [heq]

/-- No time passes as long as some task can move. -/
theorem Lockstep.now_eq {m : Schedule S} (hm : m.Clocked) {start : S} (c : m.Lockstep start)
    {n : Nat} (hbusy : ∀ i < n, ¬ m.IsIdle (c.state i)) : m.now (c.state n) = m.now start := by
  induction n with
  | zero => rw [c.state_zero]
  | succ n ih =>
    have hn := ih fun i hi => hbusy i (hi.trans (Nat.lt_succ_self n))
    rcases c.step n with hs | heq
    · generalize c.state (n + 1) = next at hs
      cases hs with
      | move k _ hk => exact (hm.now_step hk).trans hn
      | wait hidle _ => exact absurd hidle (hbusy n (Nat.lt_succ_self n))
    · rw [heq, hn]

/-! ### Every state has a history -/

/-- One task after the other, and then a moment passes. -/
def roundFrom (start : S) : Nat → S
  | 0 => start
  | n + 1 =>
    let s := roundFrom start n
    let k := n % (m.tasks start + 1)
    if k < m.tasks start then (m.step s k).getD s else m.wait s (m.now s + 1)

section Round

variable {m} (hm : m.Clocked) (start : S)
include hm

theorem drift_roundFrom (n : Nat) (htasks : m.tasks (m.roundFrom start n) = m.tasks start) :
    m.Drift (m.roundFrom start n) (m.roundFrom start (n + 1)) := by
  simp only [roundFrom]
  split
  · rename_i hk
    cases hs : m.step (m.roundFrom start n) (n % (m.tasks start + 1)) with
    | none =>
      have h : m.Drift (m.roundFrom start n) (m.wait (m.roundFrom start n) (m.now _)) :=
        .elapse le_rfl
      rwa [hm.wait_now] at h
    | some t => exact .move _ (by rwa [htasks]) hs
  · exact .elapse (Nat.le_succ _)

theorem tasks_roundFrom (n : Nat) : m.tasks (m.roundFrom start n) = m.tasks start := by
  induction n with
  | zero => rfl
  | succ n ih => exact (hm.tasks_drift (drift_roundFrom hm start n ih)).trans ih

theorem now_roundFrom (n : Nat) : n ≤ m.now (m.roundFrom start (n * (m.tasks start + 1))) := by
  have hmono : ∀ a i, m.now (m.roundFrom start a) ≤ m.now (m.roundFrom start (a + i)) := by
    intro a i
    induction i with
    | zero => exact le_rfl
    | succ i ih =>
      exact ih.trans (hm.now_drift (drift_roundFrom hm start _ (tasks_roundFrom hm start _)))
  induction n with
  | zero => exact Nat.zero_le _
  | succ n ih =>
    have hround : (n + 1) * (m.tasks start + 1) =
        n * (m.tasks start + 1) + m.tasks start + 1 := Nat.succ_mul _ _
    have hlast : (n * (m.tasks start + 1) + m.tasks start) % (m.tasks start + 1) =
        m.tasks start := by
      rw [Nat.mul_add_mod_of_lt (Nat.lt_succ_self _)]
    rw [hround, roundFrom]
    simp only [hlast, lt_irrefl, if_false, hm.now_wait]
    exact Nat.succ_le_succ (ih.trans (hmono _ _))

/-- The history in which the tasks go round. -/
def Course.round : m.Course start where
  state := m.roundFrom start
  state_zero := rfl
  drift n := drift_roundFrom hm start n (tasks_roundFrom hm start n)
  fair n k := by
    refine ⟨n * (m.tasks start + 1) + k, ?_, fun hk => ?_⟩
    · exact (Nat.le_mul_of_pos_right n (Nat.succ_pos _)).trans (Nat.le_add_right _ _)
    · rw [tasks_roundFrom hm start] at hk
      have hturn : (n * (m.tasks start + 1) + k) % (m.tasks start + 1) = k :=
        Nat.mul_add_mod_of_lt (Nat.lt_succ_of_lt hk)
      simp only [roundFrom, hturn, if_pos hk]
      cases m.step (m.roundFrom start (n * (m.tasks start + 1) + k)) k with
      | none => exact .inl rfl
      | some t => exact .inr rfl
  endless time := ⟨_, now_roundFrom hm start time⟩

end Round

/-- One task after the other; and when none can move, the next timer. -/
def paceFrom (start : S) : Nat → S
  | 0 => start
  | n + 1 =>
    let s := paceFrom start n
    let k := n % (m.tasks start + 1)
    if k < m.tasks start then (m.step s k).getD s
    else
      match m.mover? s 0 with
      | some _ => s
      | none => ((m.next? s).map (m.wait s)).getD s

theorem step_paceFrom {m : Schedule S} (start : S) (n : Nat)
    (htasks : m.tasks (m.paceFrom start n) = m.tasks start) :
    m.Step (m.paceFrom start n) (m.paceFrom start (n + 1)) ∨
      m.paceFrom start (n + 1) = m.paceFrom start n := by
  simp only [paceFrom]
  split
  · rename_i hk
    cases hs : m.step (m.paceFrom start n) (n % (m.tasks start + 1)) with
    | none => exact .inr rfl
    | some t => exact .inl (.move _ (by rwa [htasks]) hs)
  · split
    · exact .inr rfl
    · rename_i hmove
      cases ht : m.next? (m.paceFrom start n) with
      | none => exact .inr rfl
      | some time => exact .inl (.wait (m.mover?_none hmove) ht)

section Pace

variable {m} (hm : m.Clocked) (start : S)
include hm

theorem tasks_paceFrom (n : Nat) : m.tasks (m.paceFrom start n) = m.tasks start := by
  induction n with
  | zero => rfl
  | succ n ih =>
    rcases step_paceFrom start n ih with hs | heq
    · exact (hm.tasks_drift hs.drift).trans ih
    · rw [heq, ih]

/-- The history in which the tasks go round and then wait. -/
def Lockstep.round : m.Lockstep start where
  state := m.paceFrom start
  state_zero := rfl
  step n := step_paceFrom start n (tasks_paceFrom hm start n)
  fair n k := by
    refine ⟨n * (m.tasks start + 1) + k, ?_, fun hk => ?_⟩
    · exact (Nat.le_mul_of_pos_right n (Nat.succ_pos _)).trans (Nat.le_add_right _ _)
    · rw [tasks_paceFrom hm start] at hk
      have hturn : (n * (m.tasks start + 1) + k) % (m.tasks start + 1) = k :=
        Nat.mul_add_mod_of_lt (Nat.lt_succ_of_lt hk)
      simp only [paceFrom, hturn, if_pos hk]
      cases m.step (m.paceFrom start (n * (m.tasks start + 1) + k)) k with
      | none => exact .inl rfl
      | some t => exact .inr rfl

end Pace

end LogWeave.Run.Schedule

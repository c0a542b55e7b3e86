import LogWeave.Proofs.Output.Effort
import LogWeave.Proofs.Run.Headcount
import Mathlib.Algebra.GroupWithZero.Nat
import Mathlib.Data.Nat.Find

/-! What becomes of a halted run.

Once a run is halted no log is opened and no line sent (`Move.quiet`). Each task that has not
returned can move at once, and each of its moves brings it nearer to its end (`Move.closes`), so the
run is over soon, whatever the world does (`returns_of_fair`); and on a clock that waits for the
tasks no time passes until then (`Lockstep.returns`). -/
namespace LogWeave.Run

namespace Tail

variable {σ : Type} {w : World σ} {f : Floor σ} {t : Tail} {r : Floor σ × Tail}

/-- How far a reader is from its end when the run is halted. -/
def closing (t : Tail) : Nat :=
  match t.stage with
  | .done => 0
  | .dormant => 1
  | .leaving _ => 2
  | _ => 3

theorem closing_of_isBusy (h : t.isBusy = true) : t.closing = 3 := by
  unfold isBusy at h
  unfold closing
  split at h <;> simp_all

/-- In a halted run each turn of a reader brings it nearer to its end. -/
theorem Turn.closes (h : Turn w f t r) (hh : f.isHalted = true) : r.2.closing < t.closing := by
  cases h with
  | giveUp hb =>
    rw [closing_of_isBusy hb]
    exact Nat.lt_succ_self 2
  | rest hs | leave hs | retire hs => simp [closing, hs, Tail.retire]
  | start _ hh' | connect _ hh' | postpone _ hh' | refuse _ hh' | finish _ hh' | fail _ hh'
  | skip _ hh' | take _ hh' | hold _ hh' | resume _ hh' | deliver _ hh' | queue _ hh' | exit _ hh'
  | retry _ hh' | wake _ hh' => simp [hh] at hh'

/-- In a halted run no reader has to wait. -/
theorem turn_of_halted (w : World σ) (hh : f.isHalted = true) (hd : t.isDone = false) :
    ∃ r, Turn w f t r := by
  cases hs : t.stage with
  | done => simp [isDone, hs] at hd
  | dormant => exact ⟨_, .retire hs hh⟩
  | leaving exited => exact ⟨_, turn_of_leave hs⟩
  | starting | opening | reading | sending | pausing =>
    exact ⟨_, .giveUp (by simp [isBusy, hs]) (.inl hh)⟩

end Tail

namespace Weave

variable {σ : Type} {w : World σ} {v v' : Weave σ}

/-- In a halted run no log is opened and no line sent. -/
theorem Move.quiet (h : Move w v v') (hh : v.floor.isHalted = true) :
    sentAll v'.floor.journal = sentAll v.floor.journal ∧
      ∀ service, opensOf service v'.floor.journal = opensOf service v.floor.journal := by
  cases h with
  | @world act world _ =>
    exact ⟨Floor.sentAll_apply { v.floor with world } act,
      fun service => Floor.opensOf_apply service { v.floor with world } act⟩
  | turn _ hx =>
    obtain ⟨-, later, hj, hlater⟩ := hx.quiet hh
    refine ⟨?_, fun service => ?_⟩
    · have hnone : sentAll later = [] := by
        refine List.filterMap_eq_nil_iff.2 fun e he => ?_
        rw [hlater e he]
        rfl
      rw [hj, sentAll_append, hnone, List.append_nil]
    · have hnone : opensOf service later = 0 := by
        refine List.countP_eq_zero.2 fun event hevent => ?_
        obtain ⟨e, he, rfl⟩ := List.mem_map.1 hevent
        rw [hlater e (List.mem_filter.1 he).1]
        exact Bool.false_ne_true
      rw [hj, opensOf, eventsOf_append, List.countP_append, ← opensOf, ← opensOf, hnone,
        Nat.add_zero]
  | stop | print | elapse => exact ⟨rfl, fun _ => rfl⟩

/-- How far a halted run is from its end. -/
def closing (v : Weave σ) : Nat :=
  (v.tails.map Tail.closing).sum + if v.collator.outcome.isSome then 0 else 1

theorem closing_turn (hh : v.floor.isHalted = true) {i : Nat} {t : Tail} {x : Floor σ × Tail}
    (hi : v.tails[i]? = some t) (hx : Tail.Turn w v.floor t x) :
    closing { v with floor := x.1, tails := v.tails.set i x.2 } < closing v := by
  obtain ⟨before, after, htails, -, hset⟩ := split_of_getElem? hi
  have hcloses := hx.closes hh
  simp only [closing, hset]
  simp only [htails, List.map_append, List.map_cons, List.sum_append, List.sum_cons]
  omega

/-- A collator that is stopped ends at once. -/
theorem closing_print (hh : v.floor.isHalted = true) {c : Collator} {channel : Channel Arrival}
    (hc : v.collator.step v.floor.now v.floor.isHalted v.floor.channel = some (c, channel)) :
    closing { v with
      collator := c
      floor := { v.floor with channel, stopped := v.floor.stopped || c.outcome.isSome } } <
      closing v := by
  have hopen := Collator.outcome_of_step hc
  have hend : c.outcome.isSome = true := by
    rw [hh] at hc
    exact Collator.isSome_of_stopped hc
  simp [closing, hopen, hend]

/-- **Whatever happens in a halted run, it gets no farther from its end**; and if no nearer, all is
as it was. -/
theorem Move.closes (h : Move w v v') (hh : v.floor.isHalted = true) :
    closing v' < closing v ∨ (closing v' = closing v ∧ Still v v') := by
  have hh' := h.isHalted hh
  cases h with
  | @world act world _ =>
    obtain ⟨hchannel, hcount, -⟩ := Floor.apply_eq { v.floor with world } act
    exact .inr ⟨rfl, rfl, rfl, hchannel, hcount, hh'.trans hh.symm⟩
  | turn hi hx => exact .inl (closing_turn hh hi hx)
  | stop _ hrun =>
    rw [hh] at hrun
    cases hrun
  | print hc => exact .inl (closing_print hh hc)
  | elapse => exact .inr ⟨rfl, rfl, rfl, rfl, rfl, rfl⟩

/-- **Short of its end somebody can move in a halted run**, and need not wait for anything. -/
theorem ready_of_halted (w : World σ) (hh : v.floor.isHalted = true) (hd : v.isDone = false) :
    ∃ k, ∀ u, Still v u → k < (schedule w).tasks u ∧
      ∃ u', (schedule w).step u k = some u' ∧ closing u' < closing u := by
  cases ho : v.collator.outcome with
  | none =>
    refine ⟨v.tails.length + 2, fun u hu => ?_⟩
    have hhu := hu.halted.trans hh
    have hstopped : u.floor.isHalted = true ∨ u.floor.channel.queue ≠ [] := .inl hhu
    obtain ⟨⟨c, channel⟩, hc⟩ := Collator.step_isSome (hu.collator ▸ ho) u.floor.now hstopped
    rw [← hu.tails]
    exact ⟨Nat.lt_succ_self _, _, step_collator hc, closing_print hhu hc⟩
  | some outcome =>
    obtain ⟨t, ht, hdone⟩ : ∃ t ∈ v.tails, t.isDone = false := by
      simpa [isDone, ho] using hd
    obtain ⟨i, hi⟩ := List.mem_iff_getElem?.1 ht
    refine ⟨i + 1, fun u hu => ?_⟩
    have hhu := hu.halted.trans hh
    obtain ⟨x, hx⟩ := Tail.turn_of_halted w hhu hdone
    have hiu : u.tails[i]? = some t := by rwa [hu.tails]
    have hlt : i < u.tails.length := (List.getElem?_eq_some_iff.1 hiu).1
    refine ⟨?_, _, step_reader hiu hx, closing_turn hhu hiu hx⟩
    show i + 1 < u.tails.length + 3
    omega

section History

variable {state : Nat → Weave σ}
  (hmove : ∀ n, Move w (state n) (state (n + 1)) ∨ state (n + 1) = state n)
  (hh : (state 0).floor.isHalted = true)
include hmove hh

theorem halted_of_moves (n : Nat) : (state n).floor.isHalted = true := by
  induction n with
  | zero => exact hh
  | succ n ih =>
    rcases hmove n with hm | heq
    · exact hm.isHalted ih
    · rwa [heq]

/-- **A halted run is over soon**, in any history that passes no task over. -/
theorem returns_of_fair
    (hfair : ∀ n k, ∃ i, n ≤ i ∧ (k < (schedule w).tasks (state i) →
      (schedule w).step (state i) k = none ∨
        (schedule w).step (state i) k = some (state (i + 1)))) :
    ∃ n, (state n).isDone = true := by
  have hhalted := halted_of_moves hmove hh
  refine Schedule.reaches_of_fair state hfair (fun v => v.isDone = true) closing Still Still.refl
    (fun _ _ _ => Still.trans) (fun n => ?_) (fun n hd => ?_)
  · rcases hmove n with hm | heq
    · exact hm.closes (hhalted n)
    · rw [heq]
      exact .inr ⟨rfl, .refl _⟩
  · obtain ⟨k, hk⟩ := ready_of_halted w (hhalted n) (by simpa using hd)
    exact ⟨k, n, fun i _ _ hs => hk _ hs⟩

end History

/-- A run that is halted at some moment of its history is over some day. -/
theorem returns_of_course {start : Weave σ} (c : (schedule w).Course start) {n : Nat}
    (hh : (c.state n).floor.isHalted = true) : ∃ i, (c.state i).isDone = true :=
  let later := c.after (clocked w) n
  have ⟨i, hi⟩ := returns_of_fair (fun i => .inl (move_of_drift (later.drift i)))
    (by rwa [later.state_zero]) later.fair
  ⟨n + i, hi⟩

/-- **No time passes until a halted run is over.** -/
theorem returns_of_lockstep {start : Weave σ} (c : (schedule w).Lockstep start)
    (hh : start.floor.isHalted = true) :
    ∃ n, (c.state n).isDone = true ∧ (c.state n).floor.now = start.floor.now := by
  have hmove (n : Nat) : Move w (c.state n) (c.state (n + 1)) ∨ c.state (n + 1) = c.state n :=
    (c.step n).imp_left fun hs => move_of_drift hs.drift
  have hzero : (c.state 0).floor.isHalted = true := by rwa [c.state_zero]
  have hhalted := halted_of_moves hmove hzero
  have hreturns := returns_of_fair hmove hzero c.fair
  -- Up to the first moment at which the run is over some task can move.
  refine ⟨Nat.find hreturns, Nat.find_spec hreturns, c.now_eq (clocked w) fun i hi hidle => ?_⟩
  obtain ⟨k, hk⟩ := ready_of_halted w (hhalted i) (by simpa using Nat.find_min hreturns hi)
  obtain ⟨htask, u, hu, -⟩ := hk _ (.refl _)
  rw [hidle k htask] at hu
  cases hu

end Weave

end LogWeave.Run

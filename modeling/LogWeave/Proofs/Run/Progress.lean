import LogWeave.Proofs.Output.Effort
import LogWeave.Proofs.Run.Labour
import LogWeave.Proofs.Run.Wiring
import Mathlib.Algebra.GroupWithZero.Nat

/-! How far a run that does not follow is from its end.

What is left to do of it is a number (`effort`): what each reader still has to do, the lines in the
channel and what the collator is about. Nothing that happens raises it (`Move.lowers`), and as long
as a line is in the channel or some reader is neither done nor before a silent stream, there is a
task that lowers it once enough time has passed (`Wired.ready`). -/
namespace LogWeave.Run.Weave

variable {σ : Type} {w : World σ} {r : Request} {limits : SinkLimits}
  {streams : String → List StreamItem} {plan : String → Except Failure (List StreamItem)}
  {v v' : Weave σ}

/-- What is left to do. -/
def effort (streams : String → List StreamItem) (v : Weave σ) : Nat :=
  (v.tails.map fun t => t.weight (streams t.service) v.floor.channel.line).sum +
    2 * v.floor.channel.queue.length + v.collator.effort + if v.floor.isHalted then 0 else 1

theorem Still.effort_eq (h : Still v v') : effort streams v' = effort streams v := by
  rw [effort, h.tails, h.collator, h.channel, h.halted, effort]

/-- Readers have numbers of their own. -/
theorem Woven.number_ne (h : Woven r v) {before after : List Tail} {t : Tail}
    (htails : v.tails = before ++ t :: after) :
    ∀ u ∈ before ++ after, u.number ≠ t.number := by
  have ht : t.number = before.length := h.number _ t (by simp [htails])
  intro u hu
  rcases List.mem_append.1 hu with hu | hu
  · obtain ⟨j, hj⟩ := List.mem_iff_getElem?.1 hu
    have hlt : j < before.length := (List.getElem?_eq_some_iff.1 hj).1
    have hnumber : u.number = j :=
      h.number j u (by rw [htails, List.getElem?_append_left hlt, hj])
    omega
  · obtain ⟨j, hj⟩ := List.mem_iff_getElem?.1 hu
    have hnumber : u.number = before.length + 1 + j := by
      refine h.number _ u ?_
      rw [htails, List.getElem?_append_right (by omega),
        show before.length + 1 + j - before.length = j + 1 by omega, List.getElem?_cons_succ, hj]
    omega

/-- A turn changes what one reader has to do, and of the others nothing. -/
theorem Woven.turn_lowers (h : Woven r v) {i : Nat} {t : Tail} {x : Floor σ × Tail}
    (hi : v.tails[i]? = some t) (hx : Tail.Turn w v.floor t x)
    (hlowers : x.2.weight (streams t.service) x.1.channel.line + 2 * x.1.channel.queue.length <
      t.weight (streams t.service) v.floor.channel.line + 2 * v.floor.channel.queue.length) :
    effort streams { v with floor := x.1, tails := v.tails.set i x.2 } < effort streams v := by
  obtain ⟨before, after, htails, -, hset⟩ := split_of_getElem? hi
  have hothers : ∀ u ∈ before ++ after,
      u.weight (streams u.service) x.1.channel.line =
        u.weight (streams u.service) v.floor.channel.line := by
    intro u hu
    have hline := hx.line_other (h.number_ne htails u hu)
    unfold Tail.weight
    simp only [hline]
  have hbefore : before.map (fun u => u.weight (streams u.service) x.1.channel.line) =
      before.map fun u => u.weight (streams u.service) v.floor.channel.line :=
    List.map_congr_left fun u hu => hothers u (List.mem_append_left _ hu)
  have hafter : after.map (fun u => u.weight (streams u.service) x.1.channel.line) =
      after.map fun u => u.weight (streams u.service) v.floor.channel.line :=
    List.map_congr_left fun u hu => hothers u (List.mem_append_right _ hu)
  have hservice : x.2.service = t.service := hx.tail_eq.2.1
  simp only [effort, hset, hx.isHalted_eq]
  simp only [htails, List.map_append, List.map_cons, List.sum_append, List.sum_cons, hbefore,
    hafter, hservice]
  omega

/-- What the collator takes it need not take again. -/
theorem print_lowers (w : World σ) {c : Collator} {channel : Channel Arrival}
    (hc : v.collator.step v.floor.now v.floor.isHalted v.floor.channel = some (c, channel)) :
    effort streams { v with
      collator := c
      floor := { v.floor with channel, stopped := v.floor.stopped || c.outcome.isSome } } <
      effort streams v := by
  obtain ⟨-, -, hchannel⟩ := Collator.step_channel hc
  have hline : channel.line = v.floor.channel.line := by rw [hchannel]
  have hlowers := Collator.step_lowers hc
  simp only [effort, hline]
  cases hh : v.floor.isHalted with
  | true =>
    have hh' : ({ v.floor with channel, stopped := v.floor.stopped || c.outcome.isSome } :
        Floor σ).isHalted = true := (Move.print (w := w) hc).isHalted hh
    simp only [hh', if_true]
    omega
  | false =>
    simp only [Bool.false_eq_true, if_false]
    split <;> omega

theorem stop_lowers (hh : v.floor.isHalted = false) :
    effort streams { v with floor := { v.floor with stopped := true } } < effort streams v := by
  simp only [effort, hh]
  simp [Floor.isHalted]

/-- **Nothing that happens gives more to do**, if the turns of the readers do not; and if it leaves
as much, all is as it was. -/
theorem Move.lowers (hm : Move w v v') (hw : w.NeverCancels)
    (hcancelled : v.floor.cancelled = false)
    (hturn : ∀ i t x, v.tails[i]? = some t → Tail.Turn w v.floor t x →
      effort streams { v with floor := x.1, tails := v.tails.set i x.2 } < effort streams v) :
    effort streams v' < effort streams v ∨
      (effort streams v' = effort streams v ∧ Still v v') := by
  cases hm with
  | @world act world hact =>
    obtain ⟨hchannel, hcount, -, hstopped, -⟩ := Floor.apply_eq { v.floor with world } act
    have hstill : Still v { v with floor := { v.floor with world }.apply act } := by
      refine ⟨rfl, rfl, hchannel, hcount, ?_⟩
      rw [Floor.isHalted, hw.cancelled_apply hact hcancelled, hstopped, Floor.isHalted, hcancelled]
    exact .inr ⟨hstill.effort_eq, hstill⟩
  | turn hi hx => exact .inl (hturn _ _ _ hi hx)
  | stop _ hh => exact .inl (stop_lowers hh)
  | print hc => exact .inl (print_lowers w hc)
  | elapse => exact .inr ⟨rfl, rfl, rfl, rfl, rfl, rfl⟩

/-- Each turn of a reader lowers it, as long as nobody is told to give up. -/
theorem Wired.turn_lowers (h : Wired r limits v) (hf : v.follows = false) (hm : v.Meets plan)
    (hh : v.floor.isHalted = false) {i : Nat} {t : Tail} {x : Floor σ × Tail}
    (hi : v.tails[i]? = some t) (hx : Tail.Turn w v.floor t x) :
    effort (fun service => itemsIn (plan service))
      { v with floor := x.1, tails := v.tails.set i x.2 } <
        effort (fun service => itemsIn (plan service)) v := by
  have ht := List.mem_of_getElem? hi
  exact h.woven.turn_lowers hi hx (hx.lowers hh h.counted.isOpen (h.woven.follow_eq hf ht)
    (h.counted.straight hf hh t ht) (hm t ht))

/-! ### Somebody can move -/

/-- A task lowers the effort when it gets its turn. -/
def Lowers (w : World σ) (streams : String → List StreamItem) (v : Weave σ) (k : Nat) : Prop :=
  k < (schedule w).tasks v ∧
    ∃ v', (schedule w).step v k = some v' ∧ effort streams v' < effort streams v

theorem lowers_collator (w : World σ) (ho : v.collator.outcome = none)
    (hready : v.floor.isHalted = true ∨ v.floor.channel.queue ≠ []) :
    Lowers w streams v (v.tails.length + 2) := by
  obtain ⟨⟨c, channel⟩, hc⟩ := Collator.step_isSome ho v.floor.now hready
  exact ⟨Nat.lt_succ_self _, _, step_collator hc, print_lowers w hc⟩

theorem lowers_reader {i : Nat} {t : Tail} {x : Floor σ × Tail} (hi : v.tails[i]? = some t)
    (hx : Tail.Turn w v.floor t x)
    (hlowers : effort streams { v with floor := x.1, tails := v.tails.set i x.2 } <
      effort streams v) : Lowers w streams v (i + 1) := by
  have hlt : i < v.tails.length := (List.getElem?_eq_some_iff.1 hi).1
  refine ⟨?_, _, step_reader hi hx, hlowers⟩
  show i + 1 < v.tails.length + 3
  omega

theorem Wired.lowers_watcher (w : World σ) (h : Wired r limits v) (hf : v.follows = false)
    (hh : v.floor.isHalted = false) (hdone : ∀ t ∈ v.tails, t.isDone = true) :
    Lowers w streams v (v.tails.length + 1) := by
  have hzero : v.floor.headcount.running = 0 := by
    rw [h.counted.running, List.countP_eq_zero]
    intro t ht
    simp [Tail.isActive_of_isDone (hdone t ht)]
  refine ⟨?_, _, step_watcher hf hh hzero, stop_lowers hh⟩
  show v.tails.length + 1 < v.tails.length + 3
  omega

/-- With an empty channel a reader is not held up by the line, or the first in line is not. -/
theorem Wired.first (h : Wired r limits v)
    (hcapacity : 0 < v.floor.channel.capacity) (hq : v.floor.channel.queue = []) {t : Tail}
    (ht : t ∈ v.tails) :
    ∃ (i : Nat) (u : Tail), v.tails[i]? = some u ∧ (u = t ∨ ∃ a next, u.stage = .sending a next) ∧
      (u.number ∈ v.floor.channel.line → v.floor.channel.hasRoom u.number = true) := by
  cases hline : v.floor.channel.line with
  | nil =>
    obtain ⟨i, hi⟩ := List.mem_iff_getElem?.1 ht
    exact ⟨i, t, hi, .inl rfl, by simp⟩
  | cons n rest =>
    obtain ⟨u, a, next, hi, hs⟩ := h.line n (by simp [hline])
    refine ⟨n, u, hi, .inr ⟨a, next, hs⟩, fun _ => ?_⟩
    rw [h.woven.number n u hi]
    exact Channel.hasRoom_first hline hq hcapacity

/-- **With a line in the channel, or a reader that neither is done nor has a silent stream, somebody
can move**, once enough time has passed. -/
theorem Wired.ready (w : World σ) (plan : String → Except Failure (List StreamItem))
    (h : Wired r limits v) (hf : v.follows = false) (hcapacity : 0 < v.floor.channel.capacity)
    (hh : v.floor.isHalted = false)
    (hnext : v.floor.channel.queue = [] → ∃ t ∈ v.tails, t.isHung = false ∧ t.isDone = false) :
    ∃ k time, ∀ u, Wired r limits u → u.Meets plan → Still v u → time ≤ u.floor.now →
      Lowers w (fun service => itemsIn (plan service)) u k := by
  by_cases hq : v.floor.channel.queue = []
  · obtain ⟨next, hmem, hgoes⟩ := hnext hq
    obtain ⟨i, t, hi, hsame, hroom⟩ := h.first hcapacity hq hmem
    have ht := List.mem_of_getElem? hi
    have hgoes : t.isHung = false ∧ t.isDone = false := by
      rcases hsame with rfl | ⟨a, next, hs⟩
      · exact hgoes
      · exact ⟨by simp [Tail.isHung, hs], by simp [Tail.isDone, hs]⟩
    obtain ⟨time, htime⟩ := (h.counted.straight hf hh t ht).ready w (h.woven.follow_eq hf ht)
      hgoes.1 hgoes.2
    refine ⟨i + 1, time, fun u hu hum hstill hnow => ?_⟩
    have huh := hstill.halted.trans hh
    have huf := hu.woven.follows.trans (h.woven.follows.symm.trans hf)
    have hiu : u.tails[i]? = some t := by rwa [hstill.tails]
    obtain ⟨x, hx⟩ := htime u.floor huh hu.counted.isOpen hnow (by rwa [hstill.channel])
    exact lowers_reader hiu hx (hu.turn_lowers huf hum huh hiu hx)
  · refine ⟨v.tails.length + 2, 0, fun u hu _ hstill _ => ?_⟩
    rw [← hstill.tails]
    refine lowers_collator w ?_ (.inr (by rwa [hstill.channel]))
    cases ho : u.collator.outcome with
    | none => rfl
    | some outcome =>
      have huh := hu.halted (by rw [ho, Option.isSome_some])
      rw [hstill.halted.trans hh] at huh
      cases huh

end LogWeave.Run.Weave

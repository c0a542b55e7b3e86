import LogWeave.Proofs.Output.Ledger
import LogWeave.Proofs.Run.Drift
import LogWeave.Proofs.Run.Turn
import LogWeave.Run.Weave
import Mathlib.Data.List.Basic

/-! What can happen in a weave.

`Move` lists the steps: the world acts, a reader takes its turn, the watcher stops the run, the
collator goes on, or time passes. Each reader answers for one service throughout, and no two for the
same one (`Woven`). Whoever finds all as it was (`Still`) can do what he could have done before. -/
namespace LogWeave.Run

/-- The caller is not told to cancel. -/
def World.NeverCancels {σ : Type} (w : World σ) : Prop :=
  ∀ now shown state state', w.act now shown state ≠ some (.cancel, state')

/-- What the world does is no cancelling then. -/
theorem World.NeverCancels.cancelled_apply {σ : Type} {w : World σ} (hw : w.NeverCancels)
    {f : Floor σ} {shown : Nat} {act : Act} {world : σ}
    (hact : w.act f.now shown f.world = some (act, world)) (hf : f.cancelled = false) :
    ({ f with world }.apply act).cancelled = false := by
  cases act with
  | cancel => exact (hw _ _ _ _ hact).elim
  | post | nothing => exact hf

namespace Weave

variable {σ : Type}

/-- The steps of a weave. -/
inductive Move (w : World σ) (v : Weave σ) : Weave σ → Prop where
  | world {act : Act} {world : σ} (h : w.act v.floor.now v.collator.sink.shown v.floor.world =
      some (act, world)) : Move w v { v with floor := { v.floor with world }.apply act }
  | turn {i : Nat} {t : Tail} {r : Floor σ × Tail} (hi : v.tails[i]? = some t)
    (h : Tail.Turn w v.floor t r) : Move w v { v with floor := r.1, tails := v.tails.set i r.2 }
  | stop (hf : v.follows = false) (hh : v.floor.isHalted = false)
    (hr : v.floor.headcount.running = 0) :
    Move w v { v with floor := { v.floor with stopped := true } }
  | print {c : Collator} {channel : Channel Arrival}
    (h : v.collator.step v.floor.now v.floor.isHalted v.floor.channel = some (c, channel)) :
    Move w v { v with
      collator := c
      floor := { v.floor with channel, stopped := v.floor.stopped || c.outcome.isSome } }
  | elapse {time : Nat} (h : v.floor.now ≤ time) :
    Move w v { v with floor := { v.floor with now := time } }

variable {w : World σ} {v v' : Weave σ}

theorem tailStep_eq_some {i : Nat} (h : v.tailStep w i = some v') :
    ∃ t r, v.tails[i]? = some t ∧ Tail.Turn w v.floor t r ∧
      v' = { v with floor := r.1, tails := v.tails.set i r.2 } := by
  simp only [tailStep, Option.bind_eq_bind, Option.bind_eq_some_iff, Option.pure_def,
    Option.some.injEq] at h
  obtain ⟨t, ht, r, hr, rfl⟩ := h
  exact ⟨t, r, ht, Tail.step_eq_some_iff.1 hr, rfl⟩

theorem watchStep_eq_some (h : v.watchStep = some v') :
    v.follows = false ∧ v.floor.isHalted = false ∧ v.floor.headcount.running = 0 ∧
      v' = { v with floor := { v.floor with stopped := true } } := by
  unfold watchStep at h
  split at h
  · rename_i hc
    simp only [Bool.and_eq_true, Bool.not_eq_true', decide_eq_true_eq] at hc
    cases h
    exact ⟨hc.1.1, hc.1.2, hc.2, rfl⟩
  · cases h

/-- The list is complete. -/
theorem move_of_step {k : Nat} (h : (schedule w).step v k = some v') : Move w v v' := by
  simp only [schedule] at h
  split at h
  · simp only [worldStep, Floor.worldStep, Option.map_map, Option.map_eq_some_iff] at h
    obtain ⟨⟨act, world⟩, hact, rfl⟩ := h
    exact .world hact
  split at h
  · obtain ⟨t, r, ht, hr, rfl⟩ := tailStep_eq_some h
    exact .turn ht hr
  split at h
  · obtain ⟨hf, hh, hr, rfl⟩ := watchStep_eq_some h
    exact .stop hf hh hr
  · obtain ⟨⟨c, channel⟩, hc, rfl⟩ := Option.map_eq_some_iff.1 h
    exact .print hc

theorem move_of_drift (h : (schedule w).Drift v v') : Move w v v' := by
  cases h with
  | move k _ hs => exact move_of_step hs
  | elapse ht => exact .elapse ht

/-- What has been halted stays so. -/
theorem Move.isHalted (h : Move w v v') (hv : v.floor.isHalted = true) :
    v'.floor.isHalted = true := by
  cases h with
  | @world act _ _ =>
    simp only [Floor.isHalted, Bool.or_eq_true] at hv ⊢
    cases act with
    | cancel => exact .inl rfl
    | post | nothing => exact hv
  | turn _ ht => rwa [← ht.isHalted_eq] at hv
  | stop => simp [Floor.isHalted]
  | print =>
    simp only [Floor.isHalted, Bool.or_eq_true] at hv ⊢
    exact hv.imp_right .inl
  | elapse => exact hv

theorem step_reader {i : Nat} {t : Tail} {x : Floor σ × Tail} (hi : v.tails[i]? = some t)
    (hx : Tail.Turn w v.floor t x) : (schedule w).step v (i + 1) =
      some { v with floor := x.1, tails := v.tails.set i x.2 } := by
  have hlt : i < v.tails.length := (List.getElem?_eq_some_iff.1 hi).1
  have htail : v.tailStep w i = some { v with floor := x.1, tails := v.tails.set i x.2 } := by
    simp [tailStep, hi, Tail.step_of_turn hx]
  simp only [schedule, Nat.add_one_ne_zero, if_false, Nat.succ_le_of_lt hlt, if_true,
    Nat.add_sub_cancel, htail]

theorem step_watcher (hf : v.follows = false) (hh : v.floor.isHalted = false)
    (hzero : v.floor.headcount.running = 0) : (schedule w).step v (v.tails.length + 1) =
      some { v with floor := { v.floor with stopped := true } } := by
  simp [schedule, watchStep, hf, hh, hzero]

theorem step_collator {c : Collator} {channel : Channel Arrival}
    (hc : v.collator.step v.floor.now v.floor.isHalted v.floor.channel = some (c, channel)) :
    (schedule w).step v (v.tails.length + 2) = some { v with
      collator := c
      floor := { v.floor with channel, stopped := v.floor.stopped || c.outcome.isSome } } := by
  simp [schedule, printStep, hc]

/-- Tasks take no time, and none is added. -/
theorem now_of_step {k : Nat} (h : (schedule w).step v k = some v') :
    v'.floor.now = v.floor.now ∧ v'.tails.length = v.tails.length := by
  simp only [schedule] at h
  split at h
  · simp only [worldStep, Floor.worldStep, Option.map_map, Option.map_eq_some_iff] at h
    obtain ⟨⟨act, world⟩, -, rfl⟩ := h
    exact ⟨(Floor.apply_eq { v.floor with world } act).2.2.1, rfl⟩
  split at h
  · obtain ⟨t, x, -, hx, rfl⟩ := tailStep_eq_some h
    exact ⟨hx.floor_eq.1, List.length_set⟩
  split at h
  · obtain ⟨-, -, -, rfl⟩ := watchStep_eq_some h
    exact ⟨rfl, rfl⟩
  · obtain ⟨⟨c, channel⟩, -, rfl⟩ := Option.map_eq_some_iff.1 h
    exact ⟨rfl, rfl⟩

theorem clocked (w : World σ) : (schedule w).Clocked where
  now_step h := (now_of_step h).1
  now_wait _ _ := rfl
  wait_now _ := rfl
  tasks_step h := congrArg (· + 3) (now_of_step h).2
  tasks_wait _ _ := rfl

/-- All is as it was, but for the time and the world. -/
structure Still (v v' : Weave σ) : Prop where
  tails : v'.tails = v.tails
  collator : v'.collator = v.collator
  channel : v'.floor.channel = v.floor.channel
  headcount : v'.floor.headcount = v.floor.headcount
  halted : v'.floor.isHalted = v.floor.isHalted

theorem Still.refl (v : Weave σ) : Still v v := ⟨rfl, rfl, rfl, rfl, rfl⟩

theorem Still.trans {u : Weave σ} (h : Still u v) (h' : Still v v') : Still u v' :=
  ⟨h'.tails.trans h.tails, h'.collator.trans h.collator, h'.channel.trans h.channel,
    h'.headcount.trans h.headcount, h'.halted.trans h.halted⟩

/-- What holds of every reader at its start holds of the readers that a run starts with. -/
theorem forall_tails_new {P : Tail → Prop} (r : Request) (bulletin : Bulletin) (sink : Sink)
    (cancelled : Bool) (world : σ)
    (h : ∀ number service, P (.new r.streaming r.isShared bulletin number service)) :
    ∀ t ∈ (new r bulletin sink cancelled world).tails, P t := by
  intro t ht
  simp only [new, List.mem_mapIdx] at ht
  obtain ⟨i, hi, rfl⟩ := ht
  exact h i _

/-- The readers of a request: one for each service, in order, all of one mind about following. -/
structure Woven (r : Request) (v : Weave σ) : Prop where
  follows : v.follows = r.streaming.follows
  length : v.tails.length = r.services.length
  number : ∀ (i : Nat) (t : Tail), v.tails[i]? = some t → t.number = i
  service : ∀ (i : Nat) (t : Tail), v.tails[i]? = some t → r.services[i]? = some t.service
  follow : ∀ (i : Nat) (t : Tail), v.tails[i]? = some t → t.follow = r.streaming.follows

theorem woven_new (r : Request) (bulletin : Bulletin) (sink : Sink) (cancelled : Bool)
    (world : σ) : Woven r (new r bulletin sink cancelled world) where
  follows := rfl
  length := by simp [new]
  number := by
    intro i t h
    simp only [new, List.getElem?_mapIdx, Option.map_eq_some_iff] at h
    obtain ⟨_, -, rfl⟩ := h
    rfl
  service := by
    intro i t h
    simp only [new, List.getElem?_mapIdx, Option.map_eq_some_iff] at h
    obtain ⟨service, hs, rfl⟩ := h
    exact hs
  follow := by
    intro i t h
    simp only [new, List.getElem?_mapIdx, Option.map_eq_some_iff] at h
    obtain ⟨_, -, rfl⟩ := h
    rfl

/-- One reader among the others, and any that takes its place. -/
theorem split_of_getElem? {tails : List Tail} {i : Nat} {t : Tail} (h : tails[i]? = some t) :
    ∃ before after, tails = before ++ t :: after ∧ before.length = i ∧
      ∀ u, tails.set i u = before ++ u :: after := by
  obtain ⟨hi, rfl⟩ := List.getElem?_eq_some_iff.1 h
  refine ⟨tails.take i, tails.drop (i + 1), ?_, List.length_take_of_le hi.le, fun u => ?_⟩
  · rw [List.getElem_cons_drop, List.take_append_drop]
  · rw [List.set_eq_take_append_cons_drop, if_pos hi]

/-- The reader that took its turn, or another one as it was. -/
theorem getElem?_set_turn {tails : List Tail} {i j : Nat} {t u : Tail}
    (h : (tails.set i t)[j]? = some u) : (j = i ∧ u = t) ∨ (j ≠ i ∧ tails[j]? = some u) := by
  by_cases hj : i = j
  · subst hj
    rw [List.getElem?_set] at h
    simp only [if_true] at h
    split at h
    · exact .inl ⟨rfl, (Option.some.inj h).symm⟩
    · cases h
  · rw [List.getElem?_set_ne hj] at h
    exact .inr ⟨Ne.symm hj, h⟩

theorem Woven.move {r : Request} (h : Woven r v) (hm : Move w v v') : Woven r v' := by
  cases hm with
  | @turn i t _ hi ht =>
    obtain ⟨hnumber, hservice, hfollow, -, -⟩ := ht.tail_eq
    refine ⟨h.follows, by simpa using h.length, ?_, ?_, ?_⟩ <;> intro j u hu <;>
      rcases getElem?_set_turn hu with ⟨rfl, rfl⟩ | ⟨-, hj⟩
    · exact hnumber.trans (h.number _ _ hi)
    · exact h.number j u hj
    · rw [hservice]
      exact h.service _ _ hi
    · exact h.service j u hj
    · exact hfollow.trans (h.follow _ _ hi)
    · exact h.follow j u hj
  | world | stop | print | elapse => exact ⟨h.follows, h.length, h.number, h.service, h.follow⟩

/-- The readers stay those of the request. -/
theorem Woven.drifts {r : Request} {bulletin : Bulletin} {sink : Sink} {cancelled : Bool}
    {world : σ} (h : (schedule w).Drifts (new r bulletin sink cancelled world) v) : Woven r v :=
  h.keep (fun _ _ hu hd => hu.move (move_of_drift hd)) (woven_new ..)

/-- What every move keeps holds wherever the moves of a run lead. -/
theorem Woven.keep {r : Request} {P : Weave σ → Prop} {bulletin : Bulletin} {sink : Sink}
    {cancelled : Bool} {world : σ}
    (h : (schedule w).Drifts (new r bulletin sink cancelled world) v)
    (hP : ∀ u u', Woven r u → P u → Move w u u' → P u')
    (h0 : P (new r bulletin sink cancelled world)) : P v := by
  have hall : Woven r v ∧ P v := by
    refine h.keep (P := fun v => Woven r v ∧ P v) ?_ ⟨woven_new .., h0⟩
    intro u u' ⟨hu, hPu⟩ hd
    exact ⟨hu.move (move_of_drift hd), hP u u' hu hPu (move_of_drift hd)⟩
  exact hall.2

/-- Two readers have two services. -/
theorem Woven.service_ne {r : Request} (h : Woven r v) {i j : Nat} {t u : Tail}
    (hi : v.tails[i]? = some t) (hj : v.tails[j]? = some u) (hne : j ≠ i) :
    u.service ≠ t.service := by
  intro heq
  have hti := h.service i t hi
  have huj := h.service j u hj
  rw [heq, ← hti] at huj
  have hlt : j < r.services.length := by
    rw [← h.length]
    exact (List.getElem?_eq_some_iff.1 hj).1
  exact hne ((List.getElem?_inj hlt r.nodup).1 huj)

/-- What holds of each reader and of what has happened to its source goes on to hold, if the reader
that takes its turn sees to it. -/
theorem Woven.forall_turn {r : Request} (h : Woven r v) {P : Tail → List Event → Prop} {i : Nat}
    {t : Tail} {x : Floor σ × Tail} (hi : v.tails[i]? = some t) (hx : Tail.Turn w v.floor t x)
    (hall : ∀ u ∈ v.tails, P u (eventsOf u.service v.floor.journal))
    (hself : P x.2 (eventsOf t.service x.1.journal)) :
    ∀ u ∈ v.tails.set i x.2, P u (eventsOf u.service x.1.journal) := by
  intro u hu
  obtain ⟨j, hj⟩ := List.mem_iff_getElem?.1 hu
  rcases getElem?_set_turn hj with ⟨rfl, rfl⟩ | ⟨hne, hj⟩
  · rw [hx.tail_eq.2.1]
    exact hself
  · rw [hx.eventsOf_other (h.service_ne hi hj hne)]
    exact hall u (List.mem_of_getElem? hj)

/-- Each service has its reader. -/
theorem Woven.reader {r : Request} (h : Woven r v) {service : String} (hs : service ∈ r.services) :
    ∃ t ∈ v.tails, t.service = service := by
  obtain ⟨i, hi⟩ := List.mem_iff_getElem?.1 hs
  have hlt : i < v.tails.length := by
    rw [h.length]
    exact (List.getElem?_eq_some_iff.1 hi).1
  have ht : r.services[i]? = some v.tails[i].service :=
    h.service i _ (List.getElem?_eq_getElem hlt)
  rw [hi] at ht
  exact ⟨v.tails[i], List.getElem_mem hlt, (Option.some.inj ht).symm⟩

/-- A reader answers for a service of the request. -/
theorem Woven.service_mem {r : Request} (h : Woven r v) {t : Tail} (ht : t ∈ v.tails) :
    t.service ∈ r.services := by
  obtain ⟨i, hi⟩ := List.mem_iff_getElem?.1 ht
  exact List.mem_of_getElem? (h.service i t hi)

/-- A run that does not follow has readers that do not. -/
theorem Woven.follow_eq {r : Request} (h : Woven r v) (hf : v.follows = false) {t : Tail}
    (ht : t ∈ v.tails) : t.follow = false := by
  obtain ⟨i, hi⟩ := List.mem_iff_getElem?.1 ht
  rw [h.follow i t hi, ← h.follows, hf]

end Weave

end LogWeave.Run

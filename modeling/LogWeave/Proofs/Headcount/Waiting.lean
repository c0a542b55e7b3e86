import LogWeave.Headcount
import Mathlib.Data.List.Basic
import Mathlib.Logic.Relation

/-! No call is missed.

A waiter has put its name down before it looks, so once it is parked every fall to zero calls it:
while the count is zero nobody is parked without having been called (`Heard`). Whatever readers and
waiters do, and wherever the polls of others are interrupted, a poll tells exactly whether the count
is zero (`attentive_after`). -/
namespace LogWeave

namespace Waiter

variable {running : Nat} {w w' : Waiter}

/-- One step leads to the other waiter. -/
abbrev Steps (running : Nat) (w w' : Waiter) : Prop := w.next? running = some w'

/-- A poll is made of steps and of nothing else. -/
theorem steps_settle (running : Nat) (w : Waiter) :
    Relation.ReflTransGen (Steps running) w (w.settle running) := by
  have arrives : Relation.ReflTransGen (Steps running) .arriving
      (if running = 0 then .gone else .parked false) :=
    .head (b := .listed false) rfl (.single rfl)
  match w with
  | .arriving => exact arrives
  | .parked true => exact .head (b := .arriving) rfl arrives
  | .listed called =>
    by_cases h0 : running = 0
    · exact .single (by simp [Steps, next?, settle, h0])
    · cases called with
      | false => exact .single (by simp [Steps, next?, settle, h0])
      | true =>
        -- Called between its name and its look: it begins anew without waiting.
        have looks : Steps running (.listed true) (.parked true) := by simp [Steps, next?, h0]
        exact .head looks (.head (b := .arriving) rfl arrives)
  | .parked false | .gone => exact .refl

/-- Where the steps lead there is none to take. -/
theorem next?_settle (running : Nat) (w : Waiter) : (w.settle running).next? running = none := by
  unfold settle
  split
  · rfl
  · rfl
  · split <;> rfl

/-- A waiter parks when it has seen that somebody is there. -/
theorem parked_of_next? (h : w.next? running = some (.parked false)) : running ≠ 0 := by
  match w with
  | .listed called =>
    intro h0
    simp [next?, h0] at h
  | .arriving | .parked true | .parked false | .gone => cases h

/-- A poll comes to an end with the look that tells it of zero, or parked. -/
theorem settle_live (hw : w ≠ .gone) (hp : w = .parked false → running ≠ 0) :
    w.settle running = if running = 0 then .gone else .parked false := by
  unfold settle
  split
  · exact (if_neg (hp rfl)).symm
  · exact absurd rfl hw
  · rfl

end Waiter

namespace Headcount

/-- What may happen to a headcount. A waiter is polled at once or step by step. -/
inductive Doing where
  | enter
  | leave
  | arrive
  | step (i : Nat)
  | poll (i : Nat)
  | abandon (i : Nat)
  deriving DecidableEq, Repr

/-- The waiter whose doing it is. -/
def Doing.waiter? : Doing → Option Nat
  | .enter | .leave | .arrive => none
  | .step i | .poll i | .abandon i => some i

def apply (h : Headcount) : Doing → Headcount
  | .enter => h.enter
  | .leave => h.leave
  | .arrive => h.arrive
  | .step i => h.step i
  | .poll i => (h.poll i).1
  | .abandon i => h.abandon i

def after (h : Headcount) (doings : List Doing) : Headcount := doings.foldl apply h

/-- While the count is zero nobody is parked without having been called. -/
def Heard (h : Headcount) : Prop := h.running = 0 → ∀ i : Nat, h.waiters[i]? ≠ some (.parked false)

variable {h : Headcount} {d : Doing} {i j : Nat} {w : Waiter} {called : Bool}

theorem poll_live (hi : h.waiters[i]? = some w) (hw : w ≠ .gone) :
    h.poll i = ({ h with waiters := h.waiters.set i (w.settle h.running) },
      if w.settle h.running = .gone then .ready else .pending) := by
  unfold poll
  rw [hi]
  match w, hw with
  | .arriving, _ | .listed _, _ | .parked _, _ => rfl

theorem leave_zero (h0 : h.running = 0) : h.leave = h := by
  obtain ⟨running, waiters⟩ := h
  subst h0
  rfl

/-- The last one to leave calls; before that nothing changes for those who wait. -/
theorem waiters_leave (h0 : h.running ≠ 0) :
    (h.leave.running ≠ 0 ∧ h.leave.waiters = h.waiters) ∨
      (h.leave.running = 0 ∧ h.leave.waiters = h.waiters.map Waiter.call) := by
  obtain ⟨running, waiters⟩ := h
  match running, h0 with
  | 1, _ => exact .inr ⟨rfl, rfl⟩
  | n + 2, _ => exact .inl ⟨Nat.succ_ne_zero n, rfl⟩

/-- What a waiter does changes neither the count nor another waiter. -/
theorem apply_own (hd : d.waiter? = some i) :
    (h.apply d).running = h.running ∧ ∀ j, j ≠ i → (h.apply d).waiters[j]? = h.waiters[j]? := by
  have other (w : Waiter) (j : Nat) (hj : j ≠ i) : (h.waiters.set i w)[j]? = h.waiters[j]? :=
    List.getElem?_set_ne (Ne.symm hj)
  cases d with
  | enter | leave | arrive => cases hd
  | abandon =>
    cases hd
    exact ⟨rfl, other .gone⟩
  | step =>
    cases hd
    refine ⟨running_step h i, fun j hj => ?_⟩
    simp only [apply, step]
    split
    · exact other _ j hj
    · rfl
  | poll =>
    cases hd
    refine ⟨running_poll h i, fun j hj => ?_⟩
    simp only [apply, poll]
    split
    · rfl
    · rfl
    · exact other _ j hj

/-- What others do leaves a waiter as it is, unless they call it. -/
theorem apply_other (hd : d.waiter? ≠ some i) (hi : h.waiters[i]? = some w) :
    (h.apply d).waiters[i]? = some w ∨
      ((h.apply d).running = 0 ∧ (h.apply d).waiters[i]? = some w.call) := by
  cases d with
  | enter => exact .inl hi
  | arrive =>
    refine .inl ?_
    have hlt : i < h.waiters.length := (List.getElem?_eq_some_iff.1 hi).1
    simpa [apply, arrive, List.getElem?_append_left hlt] using hi
  | leave =>
    by_cases h0 : h.running = 0
    · exact .inl (by rwa [apply, leave_zero h0])
    · rcases waiters_leave h0 with ⟨-, hw⟩ | ⟨hz, hw⟩
      · exact .inl (by rwa [apply, hw])
      · exact .inr ⟨hz, by simp [apply, hw, hi]⟩
  | step k | poll k | abandon k =>
    have hne : i ≠ k := fun hik => hd (congrArg some hik.symm)
    exact .inl (((apply_own rfl).2 i hne).trans hi)

namespace Heard

theorem new (running : Nat) : (new running).Heard := by
  intro _ i
  simp [Headcount.new]

/-- A waiter parks when it has seen that somebody is there. -/
theorem set (hh : h.Heard) (hw : w = .parked false → h.running ≠ 0) :
    Heard { h with waiters := h.waiters.set i w } := by
  intro h0 j hj
  rw [List.getElem?_set] at hj
  split at hj
  · split at hj
    · exact hw (Option.some.inj hj) h0
    · cases hj
  · exact hh h0 j hj

theorem leave (hh : h.Heard) : h.leave.Heard := by
  by_cases h0 : h.running = 0
  · rwa [leave_zero h0]
  · rcases waiters_leave h0 with ⟨hz, -⟩ | ⟨-, hw⟩
    · exact fun h0 => absurd h0 hz
    · intro _ i hi
      rw [hw, List.getElem?_map, Option.map_eq_some_iff] at hi
      obtain ⟨w, -, hcall⟩ := hi
      match w with
      | .arriving | .listed _ | .parked _ | .gone => cases hcall

/-- **Whatever happens, nobody misses a call.** -/
theorem apply (hh : h.Heard) (d : Doing) : (h.apply d).Heard := by
  cases d with
  | enter => exact fun h0 => absurd h0 (Nat.succ_ne_zero _)
  | leave => exact hh.leave
  | arrive =>
    intro h0 i hi
    simp only [Headcount.apply, arrive, List.getElem?_append] at hi
    split at hi
    · exact hh h0 i hi
    · simp [List.getElem?_singleton] at hi
  | abandon i => exact hh.set (by simp)
  | step i =>
    simp only [Headcount.apply, step]
    split
    · rename_i w hw
      obtain ⟨_, -, hnext⟩ := Option.bind_eq_some_iff.1 hw
      exact hh.set fun hp => Waiter.parked_of_next? (hp ▸ hnext)
    · exact hh
  | poll i =>
    simp only [Headcount.apply, poll]
    split
    · exact hh
    · exact hh
    · rename_i w hw hi
      refine hh.set fun hp h0 => ?_
      rw [Waiter.settle_live (fun hg => hw hg) fun hpark => absurd (hpark ▸ hi) (hh h0 i),
        if_pos h0] at hp
      cases hp

theorem after (hh : h.Heard) (doings : List Doing) : (h.after doings).Heard := by
  induction doings generalizing h with
  | nil => exact hh
  | cons d rest ih => exact ih (hh.apply d)

/-- A poll tells of zero, or parks. -/
theorem poll_eq (hh : h.Heard) (hi : h.waiters[i]? = some w) (hw : w ≠ .gone) :
    h.poll i = (⟨h.running, h.waiters.set i (if h.running = 0 then .gone else .parked false)⟩,
      if h.running = 0 then .ready else .pending) := by
  rw [poll_live hi hw, Waiter.settle_live hw fun hp h0 => hh h0 i (hp ▸ hi)]
  by_cases h0 : h.running = 0 <;> simp [h0]

end Heard

/-- Whoever is parked is parked until it does something itself, and once called it stays called. -/
theorem parked_after {doings : List Doing} (hi : h.waiters[i]? = some (.parked called))
    (hd : ∀ d ∈ doings, d.waiter? ≠ some i) :
    ∃ called', (h.after doings).waiters[i]? = some (.parked called') ∧
      (called = true → called' = true) ∧
      (called = false → called' = true → ∃ front, front <+: doings ∧
        (h.after front).running = 0) := by
  induction doings generalizing h called with
  | nil => exact ⟨called, hi, id, fun hf ht => by simp [hf] at ht⟩
  | cons d rest ih =>
    have hrest : ∀ d ∈ rest, d.waiter? ≠ some i := fun d hmem => hd d (List.mem_cons_of_mem _ hmem)
    rcases apply_other (hd d (List.mem_cons_self ..)) hi with hsame | ⟨hz, hcalled⟩
    · obtain ⟨called', hafter, hkeep, hfall⟩ := ih hsame hrest
      refine ⟨called', hafter, hkeep, fun hf ht => ?_⟩
      obtain ⟨front, hfront, hzero⟩ := hfall hf ht
      exact ⟨d :: front, (List.cons_prefix_cons).2 ⟨rfl, hfront⟩, hzero⟩
    · have hcalled : (h.apply d).waiters[i]? = some (.parked true) := hcalled
      obtain ⟨called', hafter, hkeep, -⟩ := ih hcalled hrest
      exact ⟨called', hafter, fun _ => hkeep rfl, fun _ _ =>
        ⟨[d], (List.cons_prefix_cons).2 ⟨rfl, List.nil_prefix⟩, hz⟩⟩

/-- **A waiter is called by every fall to zero that comes while it is parked**, however the count
has gone since, and by nothing else. -/
theorem recalled_after (hh : h.Heard) {doings : List Doing}
    (hi : h.waiters[i]? = some (.parked false)) (hd : ∀ d ∈ doings, d.waiter? ≠ some i) :
    ∃ called, (h.after doings).waiters[i]? = some (.parked called) ∧
      (called = true ↔ ∃ front, front <+: doings ∧ (h.after front).running = 0) := by
  obtain ⟨called, hafter, -, hfall⟩ := parked_after hi hd
  refine ⟨called, hafter, hfall rfl, ?_⟩
  rintro ⟨front, ⟨back, rfl⟩, hzero⟩
  obtain ⟨at?, hat, -⟩ := parked_after hi fun d hmem => hd d (List.mem_append_left _ hmem)
  have hcalled : at? = true := by
    cases at? with
    | true => rfl
    | false => exact absurd hat (hh.after front hzero i)
  obtain ⟨called', hafter', hkeep, -⟩ := parked_after hat
    fun d hmem => hd d (List.mem_append_right _ hmem)
  rw [after, List.foldl_append] at hafter
  obtain rfl : called' = called := by
    have heq := hafter'.symm.trans hafter
    simpa using heq
  exact hkeep hcalled

/-- What a waiter can rely on. -/
structure Attentive (h : Headcount) : Prop where
  /-- Whose name is down and who is not called is parked only while somebody is there. -/
  heard : h.running = 0 → ∀ i : Nat, h.waiters[i]? ≠ some (.parked false)
  /-- A poll tells whether the count is zero: then the waiter is gone, else it is parked again and
  can be called anew. -/
  poll : ∀ (i : Nat) (w : Waiter), h.waiters[i]? = some w → w ≠ .gone →
    (h.poll i).2 = (if h.running = 0 then .ready else .pending) ∧
      (h.poll i).1.waiters[i]? = some (if h.running = 0 then .gone else .parked false)
  /-- So does the first poll. -/
  await : h.await.2 = (if h.running = 0 then .ready else .pending) ∧
    h.await.1.waiters = h.waiters ++ [if h.running = 0 then .gone else .parked false]
  /-- A parked waiter is called by every fall to zero until it looks again, whatever comes after. -/
  recalled : ∀ (i : Nat) (doings : List Doing), h.waiters[i]? = some (.parked false) →
    (∀ d ∈ doings, d.waiter? ≠ some i) →
    ∃ called, (h.after doings).waiters[i]? = some (.parked called) ∧
      (called = true ↔ ∃ front, front <+: doings ∧ (h.after front).running = 0)
  /-- What a waiter does, and that it gives up, concerns nobody else. -/
  apart : ∀ d i, d.waiter? = some i → (h.apply d).running = h.running ∧
    ∀ j, j ≠ i → (h.apply d).waiters[j]? = h.waiters[j]?
  /-- With nobody there nobody can leave. -/
  floor : h.running = 0 → h.leave = h

/-- **Every poll tells whether the count is zero, and no call is missed**, however many readers
there are at first, and whatever readers and waiters have done. -/
theorem attentive_after (running : Nat) (doings : List Doing) :
    ((new running).after doings).Attentive := by
  have hh : ((new running).after doings).Heard := (Heard.new running).after doings
  generalize (new running).after doings = h at hh
  refine ⟨hh, ?_, ?_, fun i doings => recalled_after hh, fun d i => apply_own, leave_zero⟩
  · intro i w hi hw
    have hlt : i < h.waiters.length := (List.getElem?_eq_some_iff.1 hi).1
    rw [hh.poll_eq hi hw]
    exact ⟨rfl, List.getElem?_set_self hlt⟩
  · have hlast : h.arrive.waiters[h.waiters.length]? = some .arriving := by simp [arrive]
    have harrive : h.arrive.Heard := hh.apply .arrive
    rw [Headcount.await, harrive.poll_eq hlast (by simp)]
    refine ⟨rfl, ?_⟩
    show (h.waiters ++ [Waiter.arriving]).set h.waiters.length _ = _
    rw [List.set_append_right _ _ (Nat.le_refl _), Nat.sub_self]
    rfl

end Headcount

end LogWeave

import LogWeave.Proofs.Output.Effort
import LogWeave.Proofs.Output.Ledger

/-! How long a collator holds lines back.

A `Timesheet` sets the lines taken, each with its time, against what has been printed and when. A
collator is `Punctual` if besides it has set its time of printing so that no line it holds will
have waited longer than the window. Every step of a collator keeps that up (`Punctual.step`), and
so does any wait that does not go past the time set (`Punctual.elapse`). -/
namespace LogWeave

/-- A line, and when it was taken. -/
structure Taken where
  time : Nat
  line : Arrival
  deriving DecidableEq, Repr

/-- Printed then, it has waited no longer than the window. -/
def Taken.IsInTime (window : Nat) (x : Taken) (time : Nat) : Prop :=
  x.time ≤ time ∧ time ≤ x.time + window

/-- The lines to be printed: those before the first fault, without the silent ones. -/
def toPrint (taken : List Taken) : List Taken :=
  (taken.takeWhile fun x => x.line.fault?.isNone).filter fun x => !x.line.isSilent

/-- A batch, and when it was printed. -/
structure Printing where
  time : Nat
  batch : List Taken

def Printing.flush (shared : Bool) (p : Printing) : Flush :=
  ⟨p.time, rendering shared (p.batch.map Taken.line)⟩

section Lines

variable {taken : List Taken} {x : Taken}

theorem toPrint_append (h : ∀ y ∈ taken, y.line.fault? = none) (more : List Taken) :
    toPrint (taken ++ more) = toPrint taken ++ toPrint more := by
  have hall : ∀ y ∈ taken, (fun y : Taken => y.line.fault?.isNone) y = true := fun y hy => by
    simp [h y hy]
  simp only [toPrint, List.takeWhile_append_of_pos hall, List.takeWhile_eq_self_iff.2 hall,
    List.filter_append]

theorem toPrint_fault (h : x.line.fault?.isSome = true) (more : List Taken) :
    toPrint (x :: more) = [] := by
  simp [toPrint, Option.isSome_iff_ne_none.1 h]

theorem toPrint_silent (h : x.line.isSilent = true) : toPrint [x] = [] := by
  simp [toPrint, h, fault?_of_silent h]

theorem toPrint_plain (h : x.line.isSilent = false) (hf : x.line.fault? = none) :
    toPrint [x] = [x] := by
  simp [toPrint, h, hf]

end Lines

namespace Collator

section Window

variable (c : Collator) (now : Nat) (outcome : Except Failure Unit) (a : Arrival)
  (queue : List Arrival)

@[simp] theorem window_flush : (c.flush now).window = c.window := by
  unfold flush
  split <;> rfl

@[simp] theorem window_finish : (c.finish outcome).window = c.window := rfl

@[simp] theorem window_accept : (c.accept now a).window = c.window := by
  unfold accept
  split
  · rfl
  · split
    · exact window_flush c now
    · rfl

@[simp] theorem window_acceptAll : (acceptAll now c queue).window = c.window := by
  induction queue generalizing c with
  | nil => rfl
  | cons a rest ih =>
    unfold acceptAll
    dsimp only
    split
    · exact window_accept c now a
    · exact (ih _).trans (window_accept c now a)

@[simp] theorem window_drain : (c.drain now queue).window = c.window := by
  unfold drain
  dsimp only
  split <;> simp

end Window

/-- The lines that a collator has taken, against the batches it has printed and the one it
holds. -/
structure Timesheet (shared : Bool) (window now : Nat) (c : Collator) (taken : List Taken)
    (printed : List Printing) (held : List Taken) : Prop where
  shared_eq : c.shared = shared
  endless : c.sink.IsEndless
  pending : c.sink.pending = ""
  /-- One flush a batch. -/
  flushed : c.sink.flushes = printed.map (Printing.flush shared)
  inTime : ∀ p ∈ printed, ∀ x ∈ p.batch, x.IsInTime window p.time
  held_eq : held.map Taken.line = c.batch
  fresh : ∀ x ∈ held, x.IsInTime window now
  split : printed.flatMap Printing.batch ++ held = toPrint taken
  sound : c.outcome = none → ∀ x ∈ taken, x.line.fault? = none
  ended : c.outcome.isSome = true → held = []

variable {shared : Bool} {window now : Nat} {c : Collator} {taken held : List Taken}
  {printed : List Printing}

namespace Timesheet

theorem new (window : Nat) (shared : Bool) (now : Nat) :
    Timesheet shared window now (.new window shared .endless) [] [] [] where
  shared_eq := rfl
  endless := rfl
  pending := rfl
  flushed := rfl
  inTime := List.forall_mem_nil _
  held_eq := rfl
  fresh := List.forall_mem_nil _
  split := rfl
  sound := fun _ => List.forall_mem_nil _
  ended := fun _ => rfl

/-- Times of printing do not enter the sheet. -/
theorem setFlushAt (h : Timesheet shared window now c taken printed held) (time : Option Nat) :
    Timesheet shared window now { c with flushAt := time } taken printed held :=
  ⟨h.shared_eq, h.endless, h.pending, h.flushed, h.inTime, h.held_eq, h.fresh, h.split, h.sound,
    h.ended⟩

/-- What is held is printed, and nothing is held any more. -/
theorem flush (h : Timesheet shared window now c taken printed held) (ho : c.outcome = none) :
    ∃ printed', Timesheet shared window now (c.flush now) taken printed' [] ∧
      (c.flush now).outcome = none := by
  by_cases hb : c.batch = []
  · have hflush : c.flush now = c := by
      obtain ⟨_, _, batch, _, _, _⟩ := c
      simp only at hb
      subst hb
      rfl
    obtain rfl : held = [] := List.map_eq_nil_iff.1 (h.held_eq.trans hb)
    rw [hflush]
    exact ⟨printed, h, ho⟩
  · obtain ⟨sink, hprint, hl, hp, hfl⟩ | ⟨sink, _, _, -, hl, -, -, hr⟩ :=
      print_cases h.pending c.shared now hb
    · have hflush : c.flush now = { c with batch := [], sink } := by
        simp only [Collator.flush, hprint]
      rw [hflush]
      refine ⟨printed ++ [⟨now, held⟩], ⟨h.shared_eq, hl.trans h.endless, hp, ?_, ?_, rfl,
        List.forall_mem_nil _, ?_, h.sound, fun _ => rfl⟩, ho⟩
      · rw [List.map_append, ← h.flushed]
        show sink.flushes = c.sink.flushes ++ [⟨now, rendering shared (held.map Taken.line)⟩]
        rw [hfl, h.held_eq, h.shared_eq]
      · intro p hp
        rcases List.mem_append.1 hp with hp | hp
        · exact h.inTime p hp
        · rw [List.mem_singleton.1 hp]
          exact h.fresh
      · rw [List.flatMap_append, List.append_nil, ← h.split]
        simp
    · rw [Sink.refuses_endless (hl.trans h.endless)] at hr
      cases hr

/-- With nothing held the printing may end, whatever comes after a fault. -/
theorem finish (h : Timesheet shared window now c taken printed []) (outcome : Except Failure Unit)
    (more : List Taken) (hmore : toPrint (taken ++ more) = toPrint taken) :
    Timesheet shared window now (c.finish outcome) (taken ++ more) printed [] where
  shared_eq := h.shared_eq
  endless := h.endless
  pending := h.pending
  flushed := h.flushed
  inTime := h.inTime
  held_eq := h.held_eq
  fresh := List.forall_mem_nil _
  split := h.split.trans hmore.symm
  sound := by simp [Collator.finish]
  ended := fun _ => rfl

/-- **One line more** is held, or drops out, or ends the printing. -/
theorem accept (h : Timesheet shared window now c taken printed held) (ho : c.outcome = none)
    (a : Arrival) : ∃ printed' held',
      Timesheet shared window now (c.accept now a) (taken ++ [⟨now, a⟩]) printed' held' ∧
      (∀ x ∈ held', x ∈ held ∨ x.time = now) ∧
      ((c.accept now a).outcome.isSome = true → a.fault?.isSome = true) := by
  have hsound := h.sound ho
  cases hs : a.isSilent with
  | true =>
    have haccept : c.accept now a = c := by simp [Collator.accept, hs]
    have hprint : toPrint (taken ++ [⟨now, a⟩]) = toPrint taken := by
      rw [toPrint_append hsound, toPrint_silent hs, List.append_nil]
    rw [haccept]
    refine ⟨printed, held, ⟨h.shared_eq, h.endless, h.pending, h.flushed, h.inTime, h.held_eq,
      h.fresh, h.split.trans hprint.symm, fun _ => ?_, h.ended⟩, fun x hx => .inl hx, ?_⟩
    · simpa [or_imp, forall_and, fault?_of_silent hs] using hsound
    · simp [ho]
  | false =>
    cases hf : a.fault? with
    | some text =>
      have haccept : c.accept now a = (c.flush now).finish (.error (broken a.source text)) := by
        simp [Collator.accept, hs, hf]
      obtain ⟨printed', h', -⟩ := h.flush ho
      rw [haccept]
      refine ⟨printed', [], h'.finish _ _ ?_, List.forall_mem_nil _, fun _ => rfl⟩
      rw [toPrint_append hsound, toPrint_fault (by simp [hf]), List.append_nil]
    | none =>
      have haccept : c.accept now a = { c with batch := c.batch ++ [a] } := by
        simp [Collator.accept, hs, hf]
      rw [haccept]
      refine ⟨printed, held ++ [⟨now, a⟩], ⟨h.shared_eq, h.endless, h.pending, h.flushed, h.inTime,
        ?_, ?_, ?_, fun _ => ?_, by simp [ho]⟩, ?_, by simp [ho]⟩
      · rw [List.map_append, h.held_eq]
        rfl
      · intro x hx
        rcases List.mem_append.1 hx with hx | hx
        · exact h.fresh x hx
        · rw [List.mem_singleton.1 hx]
          exact ⟨le_rfl, Nat.le_add_right now window⟩
      · rw [toPrint_append hsound, toPrint_plain hs hf, ← h.split, List.append_assoc]
      · simpa [or_imp, forall_and, hf] using hsound
      · intro x hx
        rcases List.mem_append.1 hx with hx | hx
        · exact .inl hx
        · rw [List.mem_singleton.1 hx]
          exact .inr rfl

/-- The lines of a queue, up to a fault if there is one. -/
theorem acceptAll (h : Timesheet shared window now c taken printed held) (ho : c.outcome = none)
    (queue : List Arrival) : ∃ printed' held',
      Timesheet shared window now (Collator.acceptAll now c queue)
        (taken ++ queue.map (Taken.mk now)) printed' held' := by
  induction queue generalizing c taken printed held with
  | nil => exact ⟨printed, held, by rwa [List.map_nil, List.append_nil]⟩
  | cons a rest ih =>
    obtain ⟨printed', held', h', -, hfault⟩ := h.accept ho a
    have happend : taken ++ (a :: rest).map (Taken.mk now) =
        taken ++ [⟨now, a⟩] ++ rest.map (Taken.mk now) := by simp
    rw [happend]
    unfold Collator.acceptAll
    dsimp only
    split
    · rename_i hsome
      obtain rfl := h'.ended hsome
      have hmore : toPrint (taken ++ [⟨now, a⟩] ++ rest.map (Taken.mk now)) =
          toPrint (taken ++ [⟨now, a⟩]) := by
        rw [List.append_assoc, toPrint_append (h.sound ho), toPrint_append (h.sound ho),
          List.singleton_append, toPrint_fault (hfault hsome), toPrint_fault (hfault hsome)]
      refine ⟨printed', [], ⟨h'.shared_eq, h'.endless, h'.pending, h'.flushed, h'.inTime,
        h'.held_eq, h'.fresh, h'.split.trans hmore.symm, fun hnone => ?_, h'.ended⟩⟩
      rw [hnone] at hsome
      cases hsome
    · rename_i hnone
      exact ih h' (by simpa using hnone)

end Timesheet

/-- The time of printing is set so that no line held will have waited longer than the window. -/
structure Punctual (shared : Bool) (window now : Nat) (c : Collator) (taken : List Taken)
    (printed : List Printing) (held : List Taken) : Prop where
  sheet : Timesheet shared window now c taken printed held
  window_eq : c.window = window
  armed : c.outcome = none → held ≠ [] → c.flushAt.isSome = true
  due : c.outcome = none → ∀ d, c.flushAt = some d →
    now ≤ d ∧ d ≤ now + window ∧ ∀ x ∈ held, d ≤ x.time + window

namespace Punctual

theorem new (window : Nat) (shared : Bool) (now : Nat) :
    Punctual shared window now (.new window shared .endless) [] [] [] :=
  ⟨.new window shared now, rfl, fun _ hne => absurd rfl hne, fun _ _ hd => nomatch hd⟩

/-- Once the printing has ended there is no more to keep in time. -/
theorem of_ended (h : Timesheet shared window now c taken printed held) (hw : c.window = window)
    (ho : c.outcome.isSome = true) : Punctual shared window now c taken printed held := by
  refine ⟨h, hw, fun hnone => ?_, fun hnone => ?_⟩ <;> rw [hnone] at ho <;> cases ho

/-- No line waits past the time set. -/
theorem elapse (h : Punctual shared window now c taken printed held) {time : Nat}
    (hle : now ≤ time) (hdue : c.outcome = none → ∀ d, c.flushAt = some d → time ≤ d) :
    Punctual shared window time c taken printed held := by
  obtain ⟨hsheet, hw, harmed, hset⟩ := h
  refine ⟨⟨hsheet.shared_eq, hsheet.endless, hsheet.pending, hsheet.flushed, hsheet.inTime,
    hsheet.held_eq, fun x hx => ?_, hsheet.split, hsheet.sound, hsheet.ended⟩, hw, harmed,
    fun ho d hd => ?_⟩
  · have ho : c.outcome = none := by
      by_contra hne
      rw [hsheet.ended (Option.isSome_iff_ne_none.2 hne)] at hx
      cases hx
    obtain ⟨d, hd⟩ := Option.isSome_iff_exists.1 (harmed ho (List.ne_nil_of_mem hx))
    have hlast := (hset ho d hd).2.2 x hx
    exact ⟨(hsheet.fresh x hx).1.trans hle, (hdue ho d hd).trans hlast⟩
  · obtain ⟨-, hhigh, hheld⟩ := hset ho d hd
    exact ⟨hdue ho d hd, by omega, hheld⟩

/-- **A step keeps all lines in time.** -/
theorem step (h : Punctual shared window now c taken printed held) {stopped : Bool}
    {channel channel' : Run.Channel Arrival} {c' : Collator}
    (hs : c.step now stopped channel = some (c', channel')) :
    ∃ more printed' held', channel.queue = more ++ channel'.queue ∧
      Punctual shared window now c' (taken ++ more.map (Taken.mk now)) printed' held' := by
  have ho := outcome_of_step hs
  obtain ⟨hsheet, hw, harmed, hset⟩ := h
  unfold Collator.step at hs
  rw [if_neg (by simp [ho])] at hs
  split at hs
  · -- Stopped: the whole queue is taken and printed, and the printing ends.
    cases hs
    obtain ⟨printed', held', hall⟩ := hsheet.acceptAll ho channel.queue
    have hdrained : ∃ printed', Timesheet shared window now (c.drain now channel.queue)
        (taken ++ channel.queue.map (Taken.mk now)) printed' [] := by
      unfold Collator.drain
      dsimp only
      split
      · rename_i hsome
        exact ⟨printed', hall.ended hsome ▸ hall⟩
      · rename_i hnone
        obtain ⟨printed'', hflush, -⟩ := hall.flush (by simpa using hnone)
        have hfinish := hflush.finish (.ok ()) [] (by rw [List.append_nil])
        rw [List.append_nil] at hfinish
        exact ⟨printed'', hfinish⟩
    obtain ⟨printed'', hdrain⟩ := hdrained
    refine ⟨channel.queue, printed'', [], by simp [Run.Channel.drained], ?_⟩
    exact of_ended hdrain (by simpa using hw) (isSome_drain ..)
  split at hs
  · -- A line comes, and sets the time of printing unless it is set.
    rename_i a rest htake
    cases hs
    obtain ⟨printed', held', haccept, hheld, -⟩ := hsheet.accept ho a
    refine ⟨[a], printed', held', (Run.Channel.take?_some htake).1, ?_⟩
    split
    · rename_i hsome
      exact of_ended haccept (by simpa using hw) hsome
    · have hflushAt : ((c.accept now a).arm now).flushAt = c.flushAt.or (some (now + window)) := by
        simp [arm, hw]
      refine ⟨haccept.setFlushAt _, by simpa [arm] using hw, fun _ _ => ?_, fun _ d hd => ?_⟩
      · rw [hflushAt]
        cases c.flushAt <;> rfl
      · rw [hflushAt] at hd
        cases hc : c.flushAt with
        | none =>
          rw [hc] at hd
          obtain rfl : now + window = d := Option.some.inj hd
          refine ⟨Nat.le_add_right _ _, le_rfl, fun x hx => ?_⟩
          rcases hheld x hx with hx | hx
          · have hsome := harmed ho (List.ne_nil_of_mem hx)
            rw [hc] at hsome
            cases hsome
          · rw [hx]
        | some e =>
          rw [hc] at hd
          obtain rfl : e = d := Option.some.inj hd
          obtain ⟨hlow, hhigh, hall⟩ := hset ho e hc
          refine ⟨hlow, hhigh, fun x hx => ?_⟩
          rcases hheld x hx with hx | hx
          · exact hall x hx
          · rwa [hx]
  split at hs
  · -- No line will come.
    cases hs
    obtain ⟨printed', hflush, -⟩ := hsheet.flush ho
    have hfinish := hflush.finish (.ok ()) [] (by rw [List.append_nil])
    exact ⟨[], printed', [], rfl, of_ended hfinish (by simpa using hw) (isSome_finish ..)⟩
  split at hs
  · -- The window closes.
    cases hs
    obtain ⟨printed', hflush, hopen⟩ := (hsheet.setFlushAt none).flush ho
    refine ⟨[], printed', [], rfl, ?_⟩
    rw [List.map_nil, List.append_nil]
    refine ⟨hflush, by simpa using hw, fun _ hne => absurd rfl hne, fun _ d hd => ?_⟩
    rw [flushAt_flush] at hd
    cases hd
  · cases hs

end Punctual

end Collator

end LogWeave

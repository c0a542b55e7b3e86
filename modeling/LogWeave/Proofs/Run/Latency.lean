import LogWeave.Proofs.Output.Punctual
import LogWeave.Proofs.Run.Drift
import LogWeave.Run.Feed

/-! How soon a collator prints the lines it is fed.

A `Diary` is a run of a feed on a clock that waits for its tasks, with each line as it was taken.
However the lines come, no line waits longer than the window (`Diary.punctual`). Each step of a
feed leaves less to do (`labour_step`), so no run goes on forever (`no_endless_run`), and one that
has come to its end holds no line back (`held_of_ended`). -/
namespace LogWeave.Run.Feed

/-! ### What is taken, and when -/

/-- A run up to some state, with the lines taken on the way. -/
inductive Diary (start : Feed) : List Taken → Feed → Prop
  | start : Diary start [] start
  /-- The outside, or the hand that feeds. -/
  | feed {taken : List Taken} {f g : Feed} (h : Diary start taken f)
      (hs : f.stopStep = some g ∨ f.feedStep = some g) : Diary start taken g
  /-- The collator takes lines off the front of the channel. -/
  | print {taken : List Taken} {f g : Feed} {more : List Arrival} (h : Diary start taken f)
      (hs : f.printStep = some g) (hmore : f.channel.queue = more ++ g.channel.queue) :
      Diary start (taken ++ more.map (Taken.mk f.now)) g
  | wait {taken : List Taken} {f : Feed} {time : Nat} (h : Diary start taken f)
      (hs : schedule.IsIdle f) (ht : schedule.next? f = some time) :
      Diary start taken (schedule.wait f time)

/-- Every run has a diary. -/
theorem diary_of_reachable {start f : Feed} (h : schedule.Reachable start f) :
    ∃ taken, Diary start taken f := by
  induction h with
  | start => exact ⟨[], .start⟩
  | @step f g _ hs ih =>
    obtain ⟨taken, ih⟩ := ih
    cases hs with
    | move k hk hs =>
      match k, hs with
      | 0, hs => exact ⟨taken, .feed ih (.inl hs)⟩
      | 1, hs => exact ⟨taken, .feed ih (.inr hs)⟩
      | _ + 2, hs =>
        obtain ⟨⟨collator, channel⟩, hstep, rfl⟩ := Option.map_eq_some_iff.1 hs
        obtain ⟨more, hmore, -⟩ := Collator.step_channel hstep
        exact ⟨_, .print ih hs hmore⟩
    | wait hs ht => exact ⟨taken, .wait ih hs ht⟩

/-! ### No line waits past the window -/

theorem stopStep_frame {f g : Feed} (h : f.stopStep = some g) :
    g.now = f.now ∧ g.collator = f.collator := by
  unfold stopStep at h
  split at h
  · cases h
    exact ⟨rfl, rfl⟩
  · cases h

theorem feedStep_frame {f g : Feed} (h : f.feedStep = some g) :
    g.now = f.now ∧ g.collator = f.collator := by
  unfold feedStep at h
  repeat' split at h
  all_goals cases h
  all_goals exact ⟨rfl, rfl⟩

/-- A collator that waits is not due yet. -/
theorem lt_of_waits {c : Collator} {now : Nat} {stopped : Bool} {channel : Channel Arrival}
    (h : c.step now stopped channel = none) (ho : c.outcome = none) {d : Nat}
    (hd : c.flushAt = some d) : now < d := by
  unfold Collator.step at h
  rw [if_neg (by simp [ho])] at h
  split at h
  · cases h
  split at h
  · cases h
  split at h
  · cases h
  split at h
  · cases h
  · rename_i hdue
    simpa [Collator.isDue, hd] using hdue

theorem printStep_of_idle {f : Feed} (h : schedule.IsIdle f) :
    f.collator.step f.now f.stopped f.channel = none :=
  Option.map_eq_none_iff.1 (h 2 (show 2 < 3 by decide))

theorem flushAt_mem_timers {f : Feed} {d : Nat} (h : f.collator.flushAt = some d) :
    d ∈ schedule.timers f := by
  show d ∈ f.stopAt.toList ++ f.resumeAt.toList ++ f.collator.flushAt.toList
  simp [h]

variable {start f : Feed} {taken : List Taken} {shared : Bool} {window : Nat}

/-- **All lines are kept in time**, whatever happens. -/
theorem Diary.punctual (h : Diary start taken f) (hstart : start.collator =
      .new window shared .endless) :
    ∃ printed held, f.collator.Punctual shared window f.now taken printed held := by
  induction h with
  | start => exact ⟨[], [], hstart ▸ .new window shared start.now⟩
  | feed _ hs ih =>
    obtain ⟨printed, held, ih⟩ := ih
    obtain ⟨hnow, hcollator⟩ := hs.elim stopStep_frame feedStep_frame
    exact ⟨printed, held, by rwa [hnow, hcollator]⟩
  | @print taken f g more _ hs hmore ih =>
    obtain ⟨printed, held, ih⟩ := ih
    obtain ⟨⟨collator, channel⟩, hstep, rfl⟩ := Option.map_eq_some_iff.1 hs
    obtain ⟨more', printed', held', hqueue, hstep⟩ := ih.step hstep
    obtain rfl : more = more' := List.append_cancel_right (hmore.symm.trans hqueue)
    exact ⟨printed', held', hstep⟩
  | @wait taken f time _ hidle ht ih =>
    obtain ⟨printed, held, ih⟩ := ih
    refine ⟨printed, held, ih.elapse (schedule.now_lt_of_next? ht).le fun ho d hd => ?_⟩
    have hlt := lt_of_waits (printStep_of_idle hidle) ho hd
    exact schedule.next?_le ht (flushAt_mem_timers hd) hlt

/-! ### Every run comes to its end -/

/-- How many timers lie ahead. -/
def ahead (f : Feed) : Nat := ((schedule.timers f).filter (f.now < ·)).length

/-- What a feed still has to do. A line to be fed is fed, taken and printed. -/
def labour (f : Feed) : Nat :=
  8 * f.feedings.length + 2 * (f.collator.effort + 2 * f.channel.queue.length) + f.ahead +
    (!f.stopped).toNat + (!f.channel.line.contains hand).toNat + 2 * f.resumeAt.isNone.toNat

/-- Each of the three that may have a timer has one at most. -/
theorem ahead_eq (f : Feed) :
    f.ahead = (f.stopAt.toList.filter (f.now < ·)).length +
      (f.resumeAt.toList.filter (f.now < ·)).length +
      (f.collator.flushAt.toList.filter (f.now < ·)).length := by
  simp [ahead, schedule, List.filter_append, Nat.add_assoc]

theorem length_filter_toList_le (time : Option Nat) (now : Nat) :
    (time.toList.filter (now < ·)).length ≤ if time.isSome then 1 else 0 := by
  cases time with
  | none => simp
  | some t => exact List.length_filter_le _ _

/-- The collator leaves less to do, even when it sets a time. -/
theorem printStep_lowers {f g : Feed} (h : f.printStep = some g) : g.labour < f.labour := by
  obtain ⟨⟨collator, channel⟩, hstep, rfl⟩ := Option.map_eq_some_iff.1 h
  have hlowers := Collator.step_lowers hstep
  obtain ⟨-, -, hchannel⟩ := Collator.step_channel hstep
  have hline : channel.line = f.channel.line := by rw [hchannel]
  have hahead := length_filter_toList_le collator.flushAt f.now
  simp only [labour, ahead_eq, hline]
  split at hahead <;> omega

theorem stopStep_lowers {f g : Feed} (h : f.stopStep = some g) : g.labour < f.labour := by
  unfold stopStep at h
  split at h
  · rename_i hstop
    cases h
    have hgoes : f.stopped = false := by simp_all
    simp [labour, ahead_eq, hgoes]
  · cases h

theorem feedStep_lowers {f g : Feed} (h : f.feedStep = some g) : g.labour < f.labour := by
  unfold feedStep at h
  split at h
  · cases h
  · rename_i a rest hf
    split at h
    · -- Sent: the hand stands in line no more.
      rename_i channel hput
      cases h
      have hqueue : channel.queue.length = f.channel.queue.length + 1 := by
        rw [Channel.queue_put? hput, Channel.queue_join, List.length_append, List.length_singleton]
      have hone := Bool.toNat_le (!channel.line.contains hand)
      simp only [labour, ahead_eq, hf, hqueue, List.length_cons]
      omega
    · split at h
      · cases h
      · rename_i hout
        cases h
        have hin : (f.channel.join hand).line.contains hand = true :=
          List.contains_iff_mem.2 (Channel.mem_join.2 (.inr rfl))
        have hout : f.channel.line.contains hand = false := by simpa using hout
        simp only [labour, ahead_eq, hin, hout, Channel.queue_join, Bool.not_true, Bool.not_false,
          Bool.toNat_true, Bool.toNat_false]
        omega
  · rename_i time rest hf
    split at h
    · -- The pause begins, with a timer of its own.
      rename_i hnone
      cases h
      have hahead := length_filter_toList_le (some (f.now + time)) f.now
      simp only [labour, ahead_eq, hnone, Option.isSome_some, if_true, Option.isNone_none,
        Option.isNone_some, Bool.toNat_true, Bool.toNat_false] at hahead ⊢
      omega
    · rename_i t hsome
      split at h
      · cases h
        simp only [labour, ahead_eq, hf, hsome, List.length_cons, Option.isNone_none,
          Option.isNone_some, Bool.toNat_true, Bool.toNat_false, Option.toList_none,
          List.filter_nil, List.length_nil]
        omega
      · cases h
  · rename_i rest hf
    cases h
    simp only [labour, ahead_eq, hf, List.length_cons, Bool.not_true, Bool.toNat_false]
    omega
  · rename_i rest hf
    cases h
    simp only [labour, ahead_eq, hf, List.length_cons, Channel.retire]
    omega

/-- A timer that the clock has come to lies ahead no more. -/
theorem wait_lowers {f : Feed} {time : Nat} (h : schedule.next? f = some time) :
    (schedule.wait f time).labour < f.labour := by
  have hlt := schedule.now_lt_of_next? h
  have hsub : (schedule.timers f).filter (time < ·) =
      ((schedule.timers f).filter (f.now < ·)).filter (time < ·) := by
    rw [List.filter_filter]
    refine List.filter_congr fun d _ => ?_
    have himp : time < d → f.now < d := hlt.trans
    by_cases hd : time < d <;> simp [hd, himp]
  have hahead : (schedule.wait f time).ahead < f.ahead := by
    show ((schedule.timers f).filter (time < ·)).length <
      ((schedule.timers f).filter (f.now < ·)).length
    rw [hsub, List.length_filter_lt_length_iff_exists]
    exact ⟨time, List.min?_mem h, by simp⟩
  exact Nat.add_lt_add_right (Nat.add_lt_add_right (Nat.add_lt_add_right
    (Nat.add_lt_add_left hahead _) _) _) _

/-- **Each step leaves less to do.** -/
theorem labour_step {f g : Feed} (h : schedule.Step f g) : g.labour < f.labour := by
  cases h with
  | move k hk hs =>
    match k, hs with
    | 0, hs => exact stopStep_lowers hs
    | 1, hs => exact feedStep_lowers hs
    | _ + 2, hs => exact printStep_lowers hs
  | wait _ ht => exact wait_lowers ht

/-- A run does not go on forever. -/
theorem no_endless_run (run : Nat → Feed) : ¬ ∀ n, schedule.Step (run n) (run (n + 1)) := by
  intro h
  have hlow : ∀ n, (run n).labour + n ≤ (run 0).labour := by
    intro n
    induction n with
    | zero => exact le_rfl
    | succ n ih =>
      have hlt := labour_step (h n)
      omega
  have := hlow ((run 0).labour + 1)
  omega

/-- One that has come to its end holds no line back. -/
theorem held_of_ended {printed : List Printing} {held : List Taken}
    (h : f.collator.Punctual shared window f.now taken printed held)
    (hend : ∀ g, ¬ schedule.Step f g) : held = [] := by
  by_contra hne
  have ho : f.collator.outcome = none := by
    by_contra hsome
    exact hne (h.sheet.ended (Option.isSome_iff_ne_none.2 hsome))
  have hidle : schedule.IsIdle f := fun k hk => by
    by_contra hmove
    obtain ⟨g, hg⟩ := Option.ne_none_iff_exists'.1 hmove
    exact hend g (.move k hk hg)
  obtain ⟨d, hd⟩ := Option.isSome_iff_exists.1 (h.armed ho hne)
  have hlt := lt_of_waits (printStep_of_idle hidle) ho hd
  have hnext : schedule.next? f ≠ none := fun hnone => by
    have hmem : d ∈ (schedule.timers f).filter (schedule.now f < ·) :=
      List.mem_filter.2 ⟨flushAt_mem_timers hd, decide_eq_true hlt⟩
    rw [List.min?_eq_none_iff.1 hnone] at hmem
    cases hmem
  obtain ⟨time, htime⟩ := Option.ne_none_iff_exists'.1 hnext
  exact hend _ (.wait hidle htime)

/-- **Every line is printed within the window.** Take a collator whose sink takes everything, lines
fed to it at any times, and whatever may stop it. At any moment of any run all lines to be printed
that it has taken have been flushed, each in time, but for those it holds back; then it has set a
time to print, which comes before any of them has waited longer than the window, and has not come
if it waits. The run comes to its end, and then no line is held back. -/
theorem prints_in_time (capacity window : Nat) (shared : Bool) (feedings : List Feeding)
    (hold : Bool) (stopAt : Option Nat) :
    let start := new capacity (.new window shared .endless) feedings hold stopAt
    (∀ f, schedule.Reachable start f → ∃ taken, Diary start taken f) ∧
    (∀ taken f, Diary start taken f → ∃ (printed : List Printing) (held : List Taken),
      printed.flatMap Printing.batch ++ held = toPrint taken ∧
      f.collator.sink.flushes = printed.map (Printing.flush shared) ∧
      (∀ p ∈ printed, ∀ x ∈ p.batch, x.IsInTime window p.time) ∧
      held.map Taken.line = f.collator.batch ∧ (∀ x ∈ held, x.IsInTime window f.now) ∧
      (held ≠ [] → f.collator.outcome = none ∧ ∃ d, f.collator.flushAt = some d ∧
        (∀ x ∈ held, d ≤ x.time + window) ∧ (f.printStep = none → f.now < d)) ∧
      ((∀ g, ¬ schedule.Step f g) → held = [])) ∧
    ∀ run : Nat → Feed, run 0 = start → ¬ ∀ n, schedule.Step (run n) (run (n + 1)) := by
  intro start
  refine ⟨fun f => diary_of_reachable, fun taken f hf => ?_, fun run _ => no_endless_run run⟩
  have hstart : start.collator = .new window shared .endless := rfl
  obtain ⟨printed, held, h⟩ := hf.punctual hstart
  refine ⟨printed, held, h.sheet.split, h.sheet.flushed, h.sheet.inTime, h.sheet.held_eq,
    h.sheet.fresh, fun hne => ?_, held_of_ended h⟩
  have ho : f.collator.outcome = none := by
    by_contra hsome
    exact hne (h.sheet.ended (Option.isSome_iff_ne_none.2 hsome))
  obtain ⟨d, hd⟩ := Option.isSome_iff_exists.1 (h.armed ho hne)
  obtain ⟨-, -, hheld⟩ := h.due ho d hd
  exact ⟨ho, d, hd, hheld, fun hwaits => lt_of_waits (Option.map_eq_none_iff.1 hwaits) ho hd⟩

end LogWeave.Run.Feed

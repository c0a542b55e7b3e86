import LogWeave.Proofs.Output.Ledger
import LogWeave.Proofs.Run.Drift
import LogWeave.Run.Feed

/-! What a collator prints of the lines it is fed.

However the lines come, and whenever the collator is stopped, the lines it takes are printed in
consecutive batches, each in the order of its times, and none is lost or printed twice
(`feed_prints`). -/
namespace LogWeave.Run.Feed

/-- The lines that are to be sent, in order. -/
def sends (feedings : List Feeding) : List Arrival :=
  feedings.filterMap fun
    | .send a => some a
    | _ => none

theorem sends_send (a : Arrival) (rest : List Feeding) :
    sends (.send a :: rest) = a :: sends rest := rfl

/-- What of these lines is in the channel or still to come. -/
def outstanding (f : Feed) : List Arrival := f.channel.queue ++ sends f.feedings

/-- Feeding moves lines into the channel, and no further. -/
theorem feedStep_outstanding {f g : Feed} (h : f.feedStep = some g) :
    g.outstanding = f.outstanding ∧ g.collator = f.collator := by
  unfold feedStep at h
  split at h
  · cases h
  · rename_i a rest hf
    simp only [outstanding, hf, sends_send]
    split at h
    · rename_i channel hput
      cases h
      have hq := Channel.queue_put? hput
      rw [Channel.queue_join] at hq
      simp [hq]
    · split at h
      · cases h
      · cases h
        simp [hf, sends_send]
  · rename_i time rest hf
    split at h
    · cases h
      exact ⟨rfl, rfl⟩
    · split at h
      · cases h
        simp [outstanding, hf, sends]
      · cases h
  · rename_i rest hf
    cases h
    simp [outstanding, hf, sends]
  · rename_i rest hf
    cases h
    simp [outstanding, hf, sends, Channel.retire]

theorem stopStep_outstanding {f g : Feed} (h : f.stopStep = some g) :
    g.outstanding = f.outstanding ∧ g.collator = f.collator := by
  unfold stopStep at h
  split at h
  · cases h
    exact ⟨rfl, rfl⟩
  · cases h

/-- What has been taken out of the channel, with the collator's ledger of it. -/
def Kept (shared : Bool) (all : List Arrival) (f : Feed) : Prop :=
  ∃ taken batches, all = taken ++ f.outstanding ∧ f.collator.Ledger shared taken batches

variable {shared : Bool} {all : List Arrival} {f g : Feed}

/-- The collator takes lines off the front of the queue. -/
theorem printStep_taken {taken : List Arrival} {batches : List (List Arrival)}
    (h : f.collator.Ledger shared taken batches) (hs : f.printStep = some g) :
    ∃ more batches', f.outstanding = more ++ g.outstanding ∧
      g.collator.Ledger shared (taken ++ more) batches' ∧
      (f.stopped = true → g.channel.queue = []) := by
  obtain ⟨⟨collator, channel⟩, hstep, rfl⟩ := Option.map_eq_some_iff.1 hs
  obtain ⟨more, batches', hq, hl, hempty⟩ := h.step hstep
  exact ⟨more, batches', by simp [outstanding, hq], hl, hempty⟩

theorem Kept.drift (h : Kept shared all f) (hd : schedule.Drift f g) : Kept shared all g := by
  obtain ⟨taken, batches, hall, hl⟩ := h
  cases hd with
  | elapse _ => exact ⟨taken, batches, hall, hl⟩
  | move k hk hs =>
    match k, hs with
    | 0, hs =>
      obtain ⟨ho, hc⟩ := stopStep_outstanding hs
      exact ⟨taken, batches, by rw [ho, hall], by rwa [hc]⟩
    | 1, hs =>
      obtain ⟨ho, hc⟩ := feedStep_outstanding hs
      exact ⟨taken, batches, by rw [ho, hall], by rwa [hc]⟩
    | _ + 2, hs =>
      obtain ⟨more, batches', ho, hl', -⟩ := printStep_taken hl hs
      exact ⟨taken ++ more, batches', by rw [hall, ho, List.append_assoc], hl'⟩

theorem sends_new (window capacity : Nat) (hold : Bool) (feedings : List Feeding)
    (stopAt : Option Nat) :
    (new capacity (.new window shared .endless) feedings hold stopAt).outstanding =
      sends feedings := by
  cases hold <;> simp [outstanding, new, Channel.new, sends]

/-- **No line is lost, none is printed twice.** Of all the lines fed, those before the rest of the
queue have been taken. Up to the first that tells of a stream broken for good, the ones that are not
silent are those of the batches, one for each flush and printed in the order of its times, and of
the batch still held back. A collator that is stopped takes all that is in the channel; once it has
ended nothing is held back, and its outcome is the first fault taken, or success without one. -/
theorem feed_prints (window capacity : Nat) (shared hold : Bool) (feedings : List Feeding)
    (stopAt : Option Nat)
    (h : schedule.Drifts (new capacity (.new window shared .endless) feedings hold stopAt) f) :
    ∃ (taken : List Arrival) (batches : List (List Arrival)),
      sends feedings = taken ++ f.channel.queue ++ sends f.feedings ∧
      batches.flatten ++ f.collator.batch = printable taken ∧
      f.collator.sink.flushes.map Flush.text = batches.map (rendering shared) ∧
      (∀ b ∈ batches, b ≠ []) ∧
      f.collator.sink.pending = "" ∧
      (∀ g, f.printStep = some g → f.stopped = true → g.channel.queue = []) ∧
      ∀ outcome, f.collator.outcome = some outcome →
        f.collator.batch = [] ∧ outcome = verdict taken := by
  have hkept : Kept shared (sends feedings) f :=
    h.keep (fun _ _ => Kept.drift) ⟨[], [], (sends_new ..).symm, .new window shared⟩
  obtain ⟨taken, batches, hall, hl⟩ := hkept
  refine ⟨taken, batches, ?_, hl.split, hl.flushed, hl.nonempty, hl.pending, ?_, hl.ended⟩
  · rw [hall, outstanding, List.append_assoc]
  · intro g hg
    obtain ⟨_, _, _, _, hempty⟩ := printStep_taken hl hg
    exact hempty

/-- Stopped with three lines on their way, the middle one a fault. -/
theorem feed_prints_stopped :
    let start := new 2 (.new 100 true .endless)
      [.send (.line "web" "ready" .epoch), .send (.ending "db" (.broken "reset") none .epoch),
        .stop, .send (.line "web" "late" .epoch)] true none
    schedule.Drifts start start.run ∧ start.run.collator.outcome.isSome = true ∧
      start.run.collator.sink.flushes.length = 1 ∧
      ∃ (taken : List Arrival) (batches : List (List Arrival)),
        sends start.feedings = taken ++ start.run.channel.queue ++ sends start.run.feedings ∧
        batches.flatten ++ start.run.collator.batch = printable taken ∧
        start.run.collator.sink.flushes.map Flush.text = batches.map (rendering true) ∧
        ∀ outcome, start.run.collator.outcome = some outcome → outcome = verdict taken :=
  have h := (schedule.reachable_run 2 _).drifts
  have ⟨taken, batches, hall, hsplit, hfl, _, _, _, hend⟩ :=
    feed_prints 100 2 true true _ none h
  ⟨h, by decide +kernel, by decide +kernel, taken, batches, hall, hsplit, hfl,
    fun _ ho => (hend _ ho).2⟩

end LogWeave.Run.Feed

import LogWeave.Proofs.Output.Curtailing
import LogWeave.Proofs.Output.Printing
import LogWeave.Proofs.Run.Script

/-! A feed whose sink refuses.

Two feeds that differ only in what their sinks put up with are led through one schedule, and one of
the sinks takes everything. As long as the other one holds out both feeds are the same, and once it
has refused its collator does nothing any more (`Beside`). So it has the beginning of what would
have been written, and the failure is told (`prints_until_refused`). -/
namespace LogWeave.Run.Feed

open Collator (Curtailed Respects FillsUp FailsAt)

/-- The same feed, with a sink of these limits. -/
def within (limits : SinkLimits) (f : Feed) : Feed :=
  { f with collator := f.collator.within limits }

section Step

variable {f g : Feed}

theorem printStep_eq (f : Feed) :
    f.printStep = (f.collator.deed? f.now f.stopped f.channel).map fun (deed, channel) =>
      { f with collator := deed f.collator, channel } := by
  rw [printStep, Collator.step_eq_deed, Option.map_map]
  rfl

theorem printStep_of_deed {deed : Collator → Collator} {channel : Channel Arrival}
    (h : f.collator.deed? f.now f.stopped f.channel = some (deed, channel)) :
    f.printStep = some { f with collator := deed f.collator, channel } := by
  rw [printStep_eq, h]
  rfl

theorem printStep_of_none (h : f.collator.deed? f.now f.stopped f.channel = none) :
    f.printStep = none := by
  rw [printStep_eq, h]
  rfl

theorem printStep_of_ended {outcome : Except Failure Unit}
    (h : f.collator.outcome = some outcome) : f.printStep = none :=
  printStep_of_none (if_pos (by simp [h]))

theorem stopStep_within (limits : SinkLimits) (f : Feed) :
    (f.within limits).stopStep = f.stopStep.map (within limits) := by
  simp only [stopStep, apply_ite (Option.map _)]
  rfl

theorem feedStep_within (limits : SinkLimits) (f : Feed) :
    (f.within limits).feedStep = f.feedStep.map (within limits) := by
  obtain ⟨now, stopped, stopAt, channel, feedings, resumeAt, collator⟩ := f
  simp only [feedStep, within]
  cases feedings with
  | nil => rfl
  | cons feeding rest =>
    cases feeding with
    | send a =>
      simp only
      cases (channel.join hand).put? hand a with
      | some channel => rfl
      | none => simp only [apply_ite (Option.map _)]; rfl
    | pause time =>
      cases resumeAt with
      | none => rfl
      | some t => simp only [apply_ite (Option.map _)]; rfl
    | stop => rfl
    | retire => rfl

/-- The same tasks can move, whatever the sink puts up with. -/
theorem isSome_step_within (limits : SinkLimits) (f : Feed) (k : Nat) :
    (schedule.step (f.within limits) k).isSome = (schedule.step f k).isSome := by
  match k with
  | 0 => exact (congrArg Option.isSome (stopStep_within limits f)).trans Option.isSome_map
  | 1 => exact (congrArg Option.isSome (feedStep_within limits f)).trans Option.isSome_map
  | _ + 2 =>
    show ((f.within limits).printStep).isSome = f.printStep.isSome
    rw [printStep_eq, printStep_eq, Option.isSome_map, Option.isSome_map]
    rfl

end Step

/-- A collator that has ended is left as it is. -/
theorem collator_of_drifts {f g : Feed} {outcome : Except Failure Unit}
    (ho : f.collator.outcome = some outcome) (h : schedule.Drifts f g) :
    g.collator = f.collator := by
  refine h.keep (P := fun g => g.collator = f.collator) (fun g g' hg hd => ?_) rfl
  cases hd with
  | elapse _ => exact hg
  | move k _ hs =>
    match k, hs with
    | 0, hs => exact (stopStep_outstanding hs).2.trans hg
    | 1, hs => exact (feedStep_outstanding hs).2.trans hg
    | _ + 2, hs =>
      have hnone : g.printStep = none := printStep_of_ended (hg ▸ ho)
      rw [show g.printStep = some g' from hs] at hnone
      cases hnone

/-- A turn of the collator takes lines off the front of the queue. -/
theorem outstanding_of_printStep {f g : Feed} (h : f.printStep = some g) :
    ∃ more, f.outstanding = more ++ g.outstanding := by
  obtain ⟨⟨collator, channel⟩, hstep, rfl⟩ := Option.map_eq_some_iff.1 h
  obtain ⟨more, hqueue, -⟩ := Collator.step_channel hstep
  exact ⟨more, by simp [outstanding, hqueue]⟩

/-- A feed beside one with a sink that takes everything. -/
structure Beside (shared : Bool) (limits : SinkLimits) (f g : Feed) : Prop where
  coming : limits.Tidy shared f.outstanding
  curtailed : Curtailed shared limits f.collator g.collator
  /-- As long as its sink holds out it is the same. -/
  same : g.collator.outcome = none → g = f.within limits

namespace Beside

variable {shared : Bool} {limits : SinkLimits} {f g : Feed}

/-- The turn of a task that leaves the collator alone. -/
theorem apart (h : Beside shared limits f g) {step : Feed → Option Feed}
    (hframe : ∀ {f g : Feed}, step f = some g →
      g.outstanding = f.outstanding ∧ g.collator = f.collator)
    (hwithin : ∀ f, step (f.within limits) = (step f).map (within limits)) :
    Beside shared limits ((step f).getD f) ((step g).getD g) := by
  have hturn (f : Feed) : ((step f).getD f).outstanding = f.outstanding ∧
      ((step f).getD f).collator = f.collator := by
    cases hs : step f with
    | none => exact ⟨rfl, rfl⟩
    | some f' => exact hframe hs
  refine ⟨?_, ?_, fun ho => ?_⟩
  · rw [(hturn f).1]
    exact h.coming
  · rw [(hturn f).2, (hturn g).2]
    exact h.curtailed
  · rw [(hturn g).2] at ho
    obtain rfl := h.same ho
    rw [hwithin]
    cases step f <;> rfl

/-- The turn of the collator: both do the same deed, unless the other one has ended. -/
theorem print (h : Beside shared limits f g) :
    Beside shared limits (f.printStep.getD f) (g.printStep.getD g) := by
  cases hs : f.collator.deed? f.now f.stopped f.channel with
  | none =>
    have hg : g.printStep = none := by
      cases ho : g.collator.outcome with
      | some outcome => exact printStep_of_ended ho
      | none => exact h.same ho ▸ printStep_of_none (f := f.within limits) hs
    rwa [printStep_of_none hs, hg]
  | some next =>
    obtain ⟨deed, channel⟩ := next
    have hf := printStep_of_deed hs
    have hcoming :
        limits.Tidy shared (outstanding { f with collator := deed f.collator, channel }) := by
      obtain ⟨more, hmore⟩ := outstanding_of_printStep hf
      exact fun a ha => h.coming a (hmore ▸ List.mem_append_right more ha)
    have hdeed : Respects shared limits deed :=
      Collator.respects_of_deed (fun a ha => h.coming a (List.mem_append_left _ ha)) hs
    have hboth := hdeed _ _ h.curtailed
    rw [Collator.andThen_of_open (Collator.outcome_of_deed hs)] at hboth
    rw [hf]
    cases ho : g.collator.outcome with
    | some outcome =>
      rw [Collator.andThen_of_ended ho] at hboth
      rw [printStep_of_ended ho]
      exact ⟨hcoming, hboth, fun hopen => by simp [ho] at hopen⟩
    | none =>
      obtain rfl := h.same ho
      rw [Collator.andThen_of_open ho] at hboth
      rw [printStep_of_deed (f := f.within limits) hs]
      exact ⟨hcoming, hboth, fun hopen => congrArg
        (fun collator => { f with collator, channel }) (hboth.eq_of_open hopen)⟩

theorem cue (h : Beside shared limits f g) (c : Schedule.Cue) :
    Beside shared limits (schedule.cue f c) (schedule.cue g c) := by
  cases c with
  | pass time =>
    refine ⟨h.coming, h.curtailed, fun ho => ?_⟩
    obtain rfl := h.same ho
    rfl
  | turn k =>
    match k with
    | 0 => exact h.apart stopStep_outstanding (stopStep_within limits)
    | 1 => exact h.apart feedStep_outstanding (feedStep_within limits)
    | 2 => exact h.print
    | _ + 3 => exact h

theorem play (h : Beside shared limits f g) (script : List Schedule.Cue) :
    Beside shared limits (schedule.play f script) (schedule.play g script) := by
  induction script generalizing f g with
  | nil => exact h
  | cons c rest ih => exact ih (h.cue c)

theorem new (window capacity : Nat) (shared hold : Bool) (feedings : List Feeding)
    (stopAt : Option Nat) (limits : SinkLimits) (htidy : limits.Tidy shared (sends feedings)) :
    Beside shared limits
      (.new capacity (.new window shared (.new ⟨none, none⟩)) feedings hold stopAt)
      (.new capacity (.new window shared (.new limits)) feedings hold stopAt) where
  coming := by
    rw [show Sink.new ⟨none, none⟩ = Sink.endless from rfl, sends_new]
    exact htidy
  curtailed := by
    refine .along (.new window shared limits) ?_
    exact ⟨fun _ _ => Nat.zero_le _, fun _ _ => Nat.zero_le _⟩
  same _ := rfl

end Beside

/-! ### The schedule of a run -/

theorem advance_within (limits : SinkLimits) (horizon first : Nat) (f : Feed) :
    schedule.advance? horizon first (f.within limits) = schedule.advance? horizon first f := by
  have hmover := Schedule.mover?_congr (m := schedule) (s := f) (t := f.within limits) first rfl
    (isSome_step_within limits f)
  unfold Schedule.advance?
  rw [hmover]
  rfl

theorem advance_of_ended {f : Feed} {outcome : Except Failure Unit}
    (h : f.collator.outcome = some outcome) (horizon first : Nat) :
    schedule.advance? horizon first f = none := if_pos (Option.isSome_of_eq_some h)

/-- A run follows a schedule, and the run beside it follows the same one. -/
theorem exists_script_runFrom (horizon fuel first : Nat) (f : Feed) :
    ∃ script, schedule.runFrom horizon fuel first f = schedule.play f script ∧
      ∀ {shared limits g}, Beside shared limits f g →
        (schedule.runFrom horizon fuel first g).collator = (schedule.play g script).collator := by
  induction fuel generalizing first f with
  | zero => exact ⟨[], rfl, fun _ => rfl⟩
  | succ fuel ih =>
    simp only [Schedule.runFrom_succ]
    cases hnext : schedule.advance? horizon first f with
    | none =>
      refine ⟨[], rfl, fun {shared limits g} h => ?_⟩
      have hnone : schedule.advance? horizon first g = none := by
        cases ho : g.collator.outcome with
        | none => rw [h.same ho, advance_within, hnext]
        | some outcome => exact advance_of_ended ho horizon first
      rw [hnone]
      rfl
    | some next =>
      obtain ⟨c, next⟩ := next
      obtain ⟨script, hscript, hbeside⟩ := ih next (schedule.cue f c)
      refine ⟨c :: script, hscript, fun {shared limits g} h => ?_⟩
      cases ho : g.collator.outcome with
      | none =>
        have hsame : schedule.advance? horizon first g = some (c, next) := by
          rw [h.same ho, advance_within, hnext]
        rw [hsame]
        exact hbeside (h.cue c)
      | some outcome =>
        rw [advance_of_ended ho]
        exact (collator_of_drifts ho (schedule.drifts_play g _)).symm

/-! ### What failing sinks make of a feed -/

/-- What feeds come to that differ only in what their sinks put up with. Where lines are counted the
feeds have to be `tidy`. -/
structure Refused (tidy : Prop) (final : SinkLimits → Feed) : Prop where
  full : tidy → ∀ n, FillsUp n (final ⟨none, none⟩).collator (final ⟨some n, none⟩).collator
  failed : ∀ k, FailsAt k (final ⟨none, none⟩).collator (final ⟨none, some k⟩).collator
  /-- None ends well whose sink has refused. -/
  ok : ∀ limits, limits.lines = none ∨ tidy → (final limits).collator.outcome = some (.ok ()) →
    limits.Admits (final ⟨none, none⟩).collator.sink.lines
      (final ⟨none, none⟩).collator.sink.flushes.length ∧
    (final limits).collator = (final ⟨none, none⟩).collator.within limits
  /-- Nothing is written after the end. -/
  still : ∀ limits outcome f, (final limits).collator.outcome = some outcome →
    schedule.Drifts (final limits) f → f.collator = (final limits).collator

/-- Two runs side by side come to this. -/
theorem Refused.of_curtailed (shared : Bool) {tidy : Prop} {final : SinkLimits → Feed}
    (h : ∀ limits, limits.lines = none ∨ tidy → Curtailed shared limits
      (final ⟨none, none⟩).collator (final limits).collator) : Refused tidy final where
  full htidy _ := (h _ (.inr htidy)).fillsUp
  failed _ := (h _ (.inl rfl)).failsAt
  ok limits hlimits hok := (h limits hlimits).eq_of_ok hok
  still _ _ _ ho hd := collator_of_drifts ho hd

/-- **A sink that fails leaves the beginning written and an error told.** Whatever is fed, whenever
the collator is stopped and whoever moves when (`Schedule.exists_script`): a sink that takes `n`
lines has the first `n` of all that would be written; if there are more the printing ends with its
error and nothing is written any more, else all is as if the sink took everything. So it is with a
sink that fails at its `k`-th flush and with what it shows. Lines are counted where all that is
printed is printed on one line: neither a message nor a notice has a newline in it, nor the name of
a source that is printed. -/
theorem prints_until_refused (window capacity : Nat) (shared hold : Bool) (feedings : List Feeding)
    (stopAt : Option Nat) :
    let start (limits : SinkLimits) : Feed :=
      new capacity (.new window shared (.new limits)) feedings hold stopAt
    let tidy : Prop := ∀ a ∈ sends feedings,
      a.isSilent = false → a.fault? = none → IsRow (a.printed shared)
    (∀ script, Refused tidy fun limits => schedule.play (start limits) script) ∧
      Refused tidy fun limits => (start limits).run := by
  intro start tidy
  have hstart (limits : SinkLimits) (h : limits.lines = none ∨ tidy) :
      Beside shared limits (start ⟨none, none⟩) (start limits) :=
    .new window capacity shared hold feedings stopAt limits fun a ha hsilent hsound =>
      h.imp_right fun htidy => htidy a ha hsilent hsound
  refine ⟨fun script => ?_, ?_⟩ <;> refine .of_curtailed shared fun limits h => ?_
  · exact ((hstart limits h).play script).curtailed
  · obtain ⟨script, hscript, hbeside⟩ :=
      exists_script_runFrom Schedule.horizon Schedule.patience 2 (start ⟨none, none⟩)
    have hplay := ((hstart limits h).play script).curtailed
    rwa [← hscript, ← hbeside (hstart limits h)] at hplay

/-- Two flushes of a row each, the second before a stream that broke for good: a refusal is told,
and not the stream. -/
theorem prints_until_refused_torn :
    let feedings : List Feeding := [.send (.line "web" "ready" .epoch), .pause 150,
      .send (.line "web" "done" .epoch), .send (.ending "db" (.broken "reset") none .epoch)]
    let final (limits : SinkLimits) : Collator :=
      (new 2 (.new 100 true (.new limits)) feedings false none).run.collator
    (final ⟨none, none⟩).outcome = some (.error (.transport "read logs for db: reset")) ∧
      (final ⟨some 1, none⟩).outcome = some (.error (.io "sink is full")) ∧
      (final ⟨some 1, none⟩).sink.written = lined [attributed "web" "ready"] ∧
      (final ⟨none, some 1⟩).outcome = some (.error (.io "flush failed")) ∧
      (final ⟨none, some 1⟩).sink.flushes = [⟨100, lined [attributed "web" "ready"]⟩] := by
  intro feedings final
  have h := (prints_until_refused 100 2 true false feedings none).2
  have hfull := h.full (by decide) 1
  have hlines : 1 < (final ⟨none, none⟩).sink.lines := by decide +kernel
  have hrows : (rowsOf (final ⟨none, none⟩).sink.written).take 1 = [attributed "web" "ready"] := by
    decide +kernel
  have hflushes : (final ⟨none, none⟩).sink.flushes.take 1 =
      [⟨100, lined [attributed "web" "ready"]⟩] := by decide +kernel
  have hmore : 1 < (final ⟨none, none⟩).sink.flushes.length := by decide +kernel
  exact ⟨by decide +kernel, hfull.full hlines, hfull.written.trans (congrArg lined hrows),
    (h.failed 1).failed hmore, (h.failed 1).flushed.trans hflushes⟩

/-- **A name on two lines is written as a whole or not at all**, so a sink that takes three lines
has four of them, and yet not the last of three lines of the log. -/
theorem overruns_torn_name :
    let feedings : List Feeding := [.send (.line "we\nb" "2024-03-01T10:00:01Z x" .epoch),
      .pause 150, .send (.line "we\nb" "2024-03-01T10:00:02Z y" .epoch), .pause 150,
      .send (.line "we\nb" "2024-03-01T10:00:03Z z" .epoch)]
    let final (limits : SinkLimits) : Collator :=
      (new 16 (.new 100 true (.new limits)) feedings false none).run.collator
    (∀ a ∈ sends feedings, IsRow a.text ∧ a.notice = none) ∧
      (final ⟨none, none⟩).outcome = some (.ok ()) ∧
      (final ⟨none, none⟩).sink.lines = 6 ∧ (final ⟨none, none⟩).sink.flushes.length = 3 ∧
      (final ⟨some 3, none⟩).sink.lines = 4 ∧ (final ⟨some 3, none⟩).sink.flushes.length = 2 ∧
      (final ⟨some 3, none⟩).outcome = some (.error (.io "sink is full")) ∧
      (final ⟨some 3, none⟩).sink.written ≠
        lined ((rowsOf (final ⟨none, none⟩).sink.written).take 3) := by
  decide +kernel

end LogWeave.Run.Feed

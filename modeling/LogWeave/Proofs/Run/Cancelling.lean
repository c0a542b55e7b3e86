import LogWeave.Proofs.Run.Halting
import LogWeave.Proofs.Run.Wiring

/-! A run that its caller cancels.

In whatever state the readers are then, no log is opened any more and no line sent; the lines that
have been sent are printed up to the first fault, and the printing ends with that fault, if there is
one, or because the sink refuses (`Cancelled`). Nobody waits for the world or for the clock: the run
is over at the moment at which it is cancelled (`cancelled_at_once`). -/
namespace LogWeave.Run.Weave

variable {σ : Type} {w : World σ} {r : Request} {limits : SinkLimits} {u v v' : Weave σ}

/-- The printing ends once. -/
theorem Move.outcome_eq (h : Move w v v') {outcome : Except Failure Unit}
    (ho : v.collator.outcome = some outcome) : v'.collator.outcome = some outcome := by
  cases h with
  | print hc =>
    rw [Collator.outcome_of_step hc] at ho
    cases ho
  | world | turn | stop | elapse => exact ho

/-- What a halted run keeps of the moment `u` at which it was halted. -/
structure Kept (u v : Weave σ) : Prop where
  halted : v.floor.isHalted = true
  sent : sentAll v.floor.journal = sentAll u.floor.journal
  opens : ∀ service, opensOf service v.floor.journal = opensOf service u.floor.journal
  outcome : ∀ outcome, u.collator.outcome = some outcome → v.collator.outcome = some outcome

theorem Kept.drifts (hh : u.floor.isHalted = true) (h : (schedule w).Drifts u v) : Kept u v := by
  refine h.keep (P := Kept u) (fun v v' hv hd => ?_) ⟨hh, rfl, fun _ => rfl, fun _ => id⟩
  have hm := move_of_drift hd
  obtain ⟨hsent, hopens⟩ := hm.quiet hv.halted
  exact ⟨hm.isHalted hv.halted, hsent.trans hv.sent, fun service => (hopens service).trans
    (hv.opens service), fun outcome ho => hm.outcome_eq (hv.outcome outcome ho)⟩

/-- What the printing has come to, of a run that was cancelled in the state `u`. -/
structure Drained (r : Request) (u v : Weave σ) (outcome : Except Failure Unit) : Prop where
  /-- The lines sent by then are printed up to the first fault, in consecutive batches, each in the
  order of its times. -/
  printed : ∃ batches : List (List Arrival),
    batches.flatten = printable (sentAll u.floor.journal) ∧
    v.collator.sink.flushes.map Flush.text = batches.map (rendering r.isShared)
  pending : v.collator.sink.pending = ""
  verdict : outcome = verdict (sentAll u.floor.journal)
  /-- A printing that was not over ends with the first fault that was in the channel. -/
  drained : u.collator.outcome = none → outcome = LogWeave.verdict u.floor.channel.queue
  ended : ∀ earlier, u.collator.outcome = some earlier → outcome = earlier

/-- What becomes of a run that is cancelled in the state `u`. -/
structure Cancelled (r : Request) (u v : Weave σ) : Prop where
  /-- No log is opened any more. -/
  opens : ∀ service, opensOf service v.floor.journal = opensOf service u.floor.journal
  /-- No line is put into the channel. -/
  sent : sentAll v.floor.journal = sentAll u.floor.journal
  /-- Who has returned is not counted. -/
  running : v.floor.headcount.running = v.tails.countP Tail.isActive
  released : v.isDone = true → v.floor.headcount.running = 0
  outcome : ∀ outcome, v.collator.outcome = some outcome → Drained r u v outcome ∨
    v.collator.sink.refuses = true ∧ ∃ why, outcome = .error (.io why)

/-- Of the lines sent by then, those that the collator has taken tell of no fault unless it has
ended. -/
theorem Wired.verdict_queue (h : Wired r limits u) (ho : u.collator.outcome = none) :
    verdict (sentAll u.floor.journal) = verdict u.floor.channel.queue := by
  obtain ⟨taken, hall, haccount⟩ := h.account
  obtain ⟨batches, haccount⟩ := haccount.open ho
  rw [hall, verdict_append (haccount.sound ho)]

/-- **Whatever happens after a run is cancelled**, nothing is begun and nothing sent is lost. -/
theorem Wired.cancelled (hu : Wired r limits u) (hh : u.floor.isHalted = true)
    (h : (schedule w).Drifts u v) : Cancelled r u v := by
  have hkept := Kept.drifts hh h
  have hv : Wired r limits v := h.keep (fun _ _ hv hd => hv.move (move_of_drift hd)) hu
  refine ⟨hkept.opens, hkept.sent, hv.counted.running, fun hd => ?_, fun outcome ho => ?_⟩
  · simp only [isDone, Bool.and_eq_true, List.all_eq_true] at hd
    rw [hv.counted.running, List.countP_eq_zero]
    intro t ht
    simp [Tail.isActive_of_isDone (hd.2 t ht)]
  · rcases hv.account_of_ended ho with ⟨hbatch, hverdict, batches, haccount⟩ | hspoilt
    · rw [hkept.sent] at hverdict haccount
      have hsplit := haccount.split
      rw [hbatch, List.append_nil] at hsplit
      refine .inl ⟨⟨batches, hsplit, haccount.flushed⟩, haccount.pending, hverdict,
        fun hnone => ?_, fun earlier hearlier => ?_⟩
      · rw [hverdict, hu.verdict_queue hnone]
      · rw [hkept.outcome earlier hearlier, Option.some.injEq] at ho
        exact ho.symm
    · obtain ⟨why, hwhy⟩ := hspoilt.outcome
      rw [ho, Option.some.injEq] at hwhy
      exact .inr ⟨hspoilt.refuses, why, hwhy⟩

/-- **Cancelling ends a run at once and loses nothing that was sent.** Whatever is asked for,
whatever the sink puts up with, and in whatever state a run is when it is cancelled: from then on no
log is opened and no line sent, whatever the world does; who returns is counted no longer; and the
lines sent before are printed, up to the first fault. On a clock that waits for the tasks the run is
over before any time passes. -/
theorem cancelled_at_once (r : Request) (limits : SinkLimits) (bulletin : Bulletin)
    (cancelled : Bool) (world : σ)
    (hu : (schedule w).Drifts (new r bulletin (.new limits) cancelled world) u)
    (hc : u.floor.cancelled = true) :
    (∀ v, (schedule w).Drifts u v → Cancelled r u v) ∧
      ∀ c : (schedule w).Lockstep u,
        ∃ n, (c.state n).isDone = true ∧ (c.state n).floor.now = u.floor.now := by
  have hh : u.floor.isHalted = true := by simp [Floor.isHalted, hc]
  exact ⟨fun v h => (Wired.drifts hu).cancelled hh h, fun c => returns_of_lockstep c hh⟩

/-- A world that cancels as soon as a log has been opened. -/
def impatient : World Nat where
  openLog n _ _ := (.stream [.line "first", .line "second", .line "third"], n + 1)
  act _ _ n := if n = 1 then some (.cancel, 2) else none
  due _ := none
  clock _ := .epoch

/-- Cancelled with the channel full and a reader waiting in line. -/
theorem cancelled_at_once_impatient :
    ∃ (r : Request) (u : Weave Nat) (n : Nat),
      (schedule impatient).Drifts (new r .new (.new ⟨none, none⟩) false 0) u ∧
      u.floor.cancelled = true ∧ u.floor.channel.queue.length = 1 ∧ u.floor.channel.line = [0] ∧
      let v := (Schedule.Lockstep.round (clocked impatient) u).state n
      v.isDone = true ∧ v.floor.now = u.floor.now ∧ Cancelled r u v :=
  let r : Request := ⟨["web"], ⟨true, false, 100, 500, 1000, 1⟩, by decide, by decide⟩
  let start : Weave Nat := new r .new (.new ⟨none, none⟩) false 0
  let m := schedule impatient
  -- The reader goes on until it has to wait, then the world takes its turn.
  let u := m.runFrom 1000 1 0 (m.runFrom 1000 6 1 start)
  have hu : m.Drifts start u :=
    (m.reachable_runFrom 1000 1 0 (m.reachable_runFrom 1000 6 1 .start)).drifts
  have hc : u.floor.cancelled = true := by decide +kernel
  let c := Schedule.Lockstep.round (clocked impatient) u
  have ⟨hall, hreturns⟩ := cancelled_at_once r ⟨none, none⟩ .new false 0 hu hc
  have ⟨n, hdone, hnow⟩ := hreturns c
  ⟨r, u, n, hu, hc, by decide +kernel, by decide +kernel, hdone, hnow, hall _ (c.drifts n)⟩

end LogWeave.Run.Weave

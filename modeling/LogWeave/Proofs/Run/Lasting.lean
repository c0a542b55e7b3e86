import LogWeave.Proofs.Run.Halting
import LogWeave.Proofs.Run.Sifting
import LogWeave.Proofs.Run.Telling

/-! A run that follows, over sources that fail in every way.

Logs that do not open, streams that break off or end, services that exit, come back or flap: none of
them makes a reader that follows leave for good (`Tail.Turn.isOver_eq`). So nobody retires, no fault
is told, and nothing but its caller ends the run (`Weave.lasts`). -/
namespace LogWeave.Run

namespace Tail

variable {σ : Type} {w : World σ} {f : Floor σ} {t : Tail} {r : Floor σ × Tail}

/-- A reader that follows comes back whatever happens to its source, unless it is told to give
up. -/
theorem Turn.isOver_eq (h : Turn w f t r) (ht : t.Apt) (hf : t.follow = true)
    (hh : f.isHalted = false) (hc : f.channel.isClosed = false) (ho : t.isOver = false) :
    r.2.isOver = false := by
  cases h with
  | @deliver a next channel hs =>
    cases ht.tells hs with
    | last hfollow => simp [hf] at hfollow
    | _ => rfl
  | refuse _ _ _ hfollow => simp [hf] at hfollow
  | giveUp _ hg =>
    rcases hg with hg | ⟨hg, -⟩
    · simp [hh] at hg
    · simp [hc] at hg
  | @leave exited hs hfollow =>
    obtain rfl : exited = false := by simpa [hf] using hfollow
    simp [isOver, hs] at ho
  | retire _ hhalted => simp [hh] at hhalted
  | queue => exact ho
  | _ => rfl

theorem isDone_of_isOver (h : t.isOver = false) : t.isDone = false := by
  unfold isOver at h
  unfold isDone
  split
  · simp_all
  · rfl

end Tail

namespace Weave

variable {σ : Type} {w : World σ} {r : Request} {v v' : Weave σ}

/-- The state of a run that follows, with a sink that takes everything. -/
structure Enduring (r : Request) (v : Weave σ) : Prop where
  wired : Wired r ⟨none, none⟩ v
  told : Told v
  follows : v.follows = true
  /-- Nobody but the caller halts it. -/
  stopped : v.floor.cancelled = false → v.floor.stopped = false
  /-- Until then all readers stay. -/
  stay : v.floor.cancelled = false → ∀ t ∈ v.tails, t.isOver = false

/-- When no fault has been told and the sink takes everything, the printing can only end well. -/
theorem Wired.ok_of_outcome (h : Wired r ⟨none, none⟩ v)
    (hsound : ∀ a ∈ sentAll v.floor.journal, a.fault? = none) {outcome : Except Failure Unit}
    (ho : v.collator.outcome = some outcome) : outcome = .ok () := by
  rcases h.account_of_ended ho with ⟨-, hverdict, -⟩ | hspoilt
  · exact hverdict.trans (verdict_sound hsound)
  · exact absurd hspoilt.refuses (by simp [Sink.refuses_endless hspoilt.limits_eq])

theorem enduring_new (r : Request) (hf : r.streaming.follows = true) (bulletin : Bulletin)
    (cancelled : Bool) (world : σ) : Enduring r (new r bulletin .endless cancelled world) where
  wired := wired_new ..
  told := told_new ..
  follows := hf
  stopped _ := rfl
  stay _ := forall_tails_new _ _ _ _ _ fun _ _ => rfl

namespace Enduring

theorem isHalted_eq (h : Enduring r v) (hc : v.floor.cancelled = false) :
    v.floor.isHalted = false := by
  simp [Floor.isHalted, hc, h.stopped hc]

/-- Each reader holds its end of the channel. -/
theorem senders_eq (h : Enduring r v) (hc : v.floor.cancelled = false) :
    v.floor.channel.senders = r.services.length := by
  rw [h.wired.senders, List.countP_eq_length.2, h.wired.woven.length]
  intro t ht
  simp [Tail.isDone_of_isOver (h.stay hc t ht)]

theorem senders_pos (h : Enduring r v) (hc : v.floor.cancelled = false) :
    v.floor.channel.senders ≠ 0 := by
  rw [h.senders_eq hc]
  exact (List.length_pos_iff.2 r.nonempty).ne'

theorem turn (h : Enduring r v) {i : Nat} {t : Tail} {x : Floor σ × Tail}
    (hi : v.tails[i]? = some t) (hx : Tail.Turn w v.floor t x) :
    Enduring r { v with floor := x.1, tails := v.tails.set i x.2 } := by
  obtain ⟨-, hcancelled, hstopped, -⟩ := hx.floor_eq
  have hmem := List.mem_of_getElem? hi
  refine ⟨h.wired.turn hi hx, h.told.turn h.wired.woven hi hx, h.follows, fun hc => ?_,
    fun hc u hu => ?_⟩
  · exact hstopped.trans (h.stopped (hcancelled.symm.trans hc))
  · have hc : v.floor.cancelled = false := hcancelled.symm.trans hc
    have hfollow : t.follow = true :=
      (h.wired.woven.follow i t hi).trans (h.wired.woven.follows.symm.trans h.follows)
    rcases List.mem_or_eq_of_mem_set hu with hu | rfl
    · exact h.stay hc u hu
    · exact hx.isOver_eq (h.told.apt t hmem) hfollow (h.isHalted_eq hc) h.wired.counted.isOpen
        (h.stay hc t hmem)

/-- The printing goes on as long as nobody cancels: there are senders left and no fault comes. -/
theorem print (w : World σ) (h : Enduring r v) {c : Collator} {channel : Channel Arrival}
    (hc : v.collator.step v.floor.now v.floor.isHalted v.floor.channel = some (c, channel)) :
    Enduring r { v with
      collator := c
      floor := { v.floor with channel, stopped := v.floor.stopped || c.outcome.isSome } } := by
  have hwired := h.wired.print w hc
  refine ⟨hwired, h.told.move h.wired.woven (.print (w := w) hc), h.follows,
    fun hcancelled => ?_, h.stay⟩
  have hcancelled : v.floor.cancelled = false := hcancelled
  match ho : c.outcome with
  | none => simp [h.stopped hcancelled]
  | some outcome =>
    -- It would have ended well, and so with the last sender.
    obtain rfl := hwired.ok_of_outcome (h.told.sound h.follows) ho
    rcases (Collator.step_ok hc ho).2 with hhalted | hsenders
    · rw [h.isHalted_eq hcancelled] at hhalted
      cases hhalted
    · exact absurd hsenders (h.senders_pos hcancelled)

theorem move (h : Enduring r v) (hm : Move w v v') : Enduring r v' := by
  have hwired := h.wired.move hm
  have htold := h.told.move h.wired.woven hm
  cases hm with
  | @world act world hact =>
    obtain ⟨-, -, -, hstopped, -⟩ := Floor.apply_eq { v.floor with world } act
    have hcancelled (hc : ({ v.floor with world }.apply act).cancelled = false) :
        v.floor.cancelled = false := by
      cases act with
      | cancel => cases hc
      | post | nothing => exact hc
    exact ⟨hwired, htold, h.follows, fun hc => hstopped.trans (h.stopped (hcancelled hc)),
      fun hc => h.stay (hcancelled hc)⟩
  | turn hi hx => exact h.turn hi hx
  | stop hf =>
    rw [h.follows] at hf
    cases hf
  | print hc => exact h.print w hc
  | elapse => exact ⟨hwired, htold, h.follows, h.stopped, h.stay⟩

end Enduring

/-- What holds of a run that follows at every moment. -/
structure Lasting (r : Request) (v : Weave σ) : Prop where
  /-- Until the caller cancels it is not over, and nothing has ended or stopped it. -/
  goesOn : v.floor.cancelled = false →
    v.isDone = false ∧ v.collator.outcome = none ∧ v.floor.stopped = false
  /-- Until then each reader stays, and will open its log again. -/
  readers : v.floor.cancelled = false →
    v.tails.length = r.services.length ∧ ∀ t ∈ v.tails, t.isOver = false
  /-- Until then the channel has its senders. -/
  senders : v.floor.cancelled = false →
    0 < v.floor.channel.senders ∧ v.floor.channel.senders = r.services.length
  /-- The printing does not turn its back on the readers. -/
  isOpen : v.floor.channel.isClosed = false
  /-- Once it has ended, it has ended well. -/
  outcome : ∀ outcome, v.collator.outcome = some outcome → outcome = .ok ()
  /-- No line sent tells of a broken stream without a notice. -/
  sound : ∀ a ∈ sentAll v.floor.journal, a.fault? = none

/-- **A run that follows outlasts everything that its sources do.** Whatever comes of opening the
logs and of the streams, and whatever is posted of the services: the run is not over before its
caller cancels it, and it ends well. -/
theorem lasts {r : Request} (hf : r.streaming.follows = true) (bulletin : Bulletin)
    (cancelled : Bool) (world : σ)
    (h : (schedule w).Drifts (new r bulletin .endless cancelled world) v) : Lasting r v := by
  have hv : Enduring r v :=
    h.keep (fun _ _ hv hd => hv.move (move_of_drift hd))
      (enduring_new r hf bulletin cancelled world)
  have hnone (hc : v.floor.cancelled = false) : v.collator.outcome = none := by
    cases ho : v.collator.outcome with
    | none => rfl
    | some outcome =>
      have hhalted := hv.wired.halted (by rw [ho, Option.isSome_some])
      rw [hv.isHalted_eq hc] at hhalted
      cases hhalted
  exact {
    goesOn hc := ⟨by simp [isDone, hnone hc], hnone hc, hv.stopped hc⟩
    readers hc := ⟨hv.wired.woven.length, hv.stay hc⟩
    senders hc := ⟨Nat.pos_of_ne_zero (hv.senders_pos hc), hv.senders_eq hc⟩
    isOpen := hv.wired.counted.isOpen
    outcome _ ho := hv.wired.ok_of_outcome (hv.told.sound hv.follows) ho
    sound := hv.told.sound hv.follows }

/-- A world in which the log of one service does not open, its stream breaks off and then ends, and
the service exits and comes back. Then the caller cancels. -/
def troubled : World (Nat × Nat) where
  openLog s service _ :=
    if service = "db" then (.stream [.line "steady", .hang], s)
    else
      (match s.1 with
        | 0 => ⟨0, .error (.transport "refused")⟩
        | 1 => .stream [.line "first", .fail (.transport "reset")]
        | 2 => .stream [.line "second"]
        | _ => .stream [.line "again", .hang], s.1 + 1, s.2)
  act now _ s :=
    match s.2 with
    | 0 => if 2000 ≤ now then some (.post "web" ⟨.exited, none, none, none⟩, s.1, 1) else none
    | 1 =>
      if 4000 ≤ now then some (.post "web" ⟨.running, some .epoch, none, none⟩, s.1, 2) else none
    | 2 => if 6000 ≤ now then some (.cancel, s.1, 3) else none
    | _ => none
  due s := [2000, 4000, 6000][s.2]?
  clock _ := .epoch

/-- After all these troubles the run goes on, and it is over once it is cancelled. -/
theorem lasts_troubled :
    ∃ (r : Request) (u v : Weave (Nat × Nat)), r.streaming.follows = true ∧
      (schedule troubled).Drifts (new r .new .endless false (0, 0)) u ∧
      u.floor.cancelled = false ∧ opensOf "web" u.floor.journal = 4 ∧ Lasting r u ∧
      (schedule troubled).Drifts u v ∧ v.isDone = true ∧ Lasting r v :=
  -- The window is wide, so that nothing is printed before the end.
  let r : Request := ⟨["web", "db"], ⟨true, false, 100000, 500, 1000, 2⟩, by decide, by decide⟩
  let m := schedule troubled
  let u := m.runFrom 5000 200 0 (new r .new .endless false (0, 0))
  let u' := m.runFrom 7000 2 0 u
  have hu := (m.reachable_runFrom 5000 200 0 .start).drifts
  have hu' := (m.reachable_runFrom 7000 2 0 .start).drifts
  let c := Schedule.Lockstep.round (clocked troubled) u'
  have ⟨n, hdone, _⟩ := returns_of_lockstep c (by decide +kernel)
  have hv := hu'.trans (c.drifts n)
  ⟨r, u, c.state n, rfl, hu, by decide +kernel, by decide +kernel, lasts rfl .new false (0, 0) hu,
    hv, hdone, lasts rfl .new false (0, 0) (hu.trans hv)⟩

end Weave

end LogWeave.Run

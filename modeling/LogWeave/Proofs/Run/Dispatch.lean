import LogWeave.Proofs.Run.Errand
import LogWeave.Proofs.Run.Wiring

/-! A run that does not follow, over logs that may not open and streams that may break.

A `plan` says what comes of opening each log. Whatever the order of the turns, each reader sends its
tale in order, and the run is halted only when all tales are told or a failure has ended the
printing (`Errands.halted`). So a run that ends well has read every stream to its end
(`Errands.succeeded`), and one that ends with a failure has printed what that source brought before
it failed (`Errands.failed`). -/
namespace LogWeave

/-- The first thing that is not of a list, in what begins like the list and has one thing more. -/
theorem eq_of_prefix_concat {α : Type} {xs ys ls bs : List α} {a : α}
    (h : xs ++ a :: ys <+: ls ++ bs) (ha : a ∉ ls) (hb : bs.length ≤ 1) : xs = ls := by
  obtain ⟨zs, hz⟩ := h
  rw [List.append_assoc, List.cons_append] at hz
  rcases List.append_eq_append_iff.1 hz with ⟨mid, rfl, hmid⟩ | ⟨mid, rfl, hmid⟩
  · cases mid with
    | nil => exact (List.append_nil xs).symm
    | cons c rest =>
      obtain rfl : a = c := List.head_eq_of_cons_eq hmid
      exact absurd (List.mem_append_right _ (List.mem_cons_self ..)) ha
  · rw [hmid, List.length_append, List.length_cons] at hb
    obtain rfl : mid = [] := List.length_eq_zero_iff.1 (by omega)
    exact List.append_nil ls

namespace Run.Weave

variable {σ : Type} {w : World σ} {r : Request} {plan : String → Except Failure (List StreamItem)}
  {v v' : Weave σ}

/-- All readers are on their errands. -/
def OnErrands (plan : String → Except Failure (List StreamItem)) (tails : List Tail)
    (journal : List Happening) : Prop :=
  ∀ t ∈ tails, t.Errand (plan t.service) (eventsOf t.service journal)

/-- The state of a run whose openings go as planned. -/
structure Errands (r : Request) (plan : String → Except Failure (List StreamItem)) (v : Weave σ) :
    Prop where
  wired : Wired r ⟨none, none⟩ v
  cancelled : v.floor.cancelled = false
  follows : v.follows = false
  capacity : 0 < v.floor.channel.capacity
  errand : v.floor.isHalted = false → OnErrands plan v.tails v.floor.journal
  sent : ∀ t ∈ v.tails, (sentBy t.service v.floor.journal).map Arrival.untimed <+:
    tale t.service (plan t.service)
  /-- Nobody is told to give up before all is told, unless a failure has ended the printing. -/
  halted : v.floor.isHalted = true →
    ((∀ t ∈ v.tails, t.isDone = true) ∧ OnErrands plan v.tails v.floor.journal) ∨
      ∃ failure, v.collator.outcome = some (.error failure)

theorem errands_new (r : Request) (hf : r.streaming.follows = false)
    (hroom : 1 ≤ r.streaming.linesPerSource) (plan : String → Except Failure (List StreamItem))
    (bulletin : Bulletin) (world : σ) :
    Errands r plan (new r bulletin .endless false world) where
  wired := wired_new ..
  cancelled := rfl
  follows := hf
  capacity := Nat.mul_pos (List.length_pos_iff.2 r.nonempty) hroom
  errand _ := forall_tails_new _ _ _ _ _ fun _ _ => Tail.errand_new ..
  sent _ _ := List.nil_prefix
  halted := by simp [new, Floor.new, Floor.isHalted]

/-- A source whose failure has ended the printing, with all that it brought before. -/
structure Failed (r : Request) (plan : String → Except Failure (List StreamItem)) (v : Weave σ)
    (failure : Failure) (service text : String) : Prop where
  mem : service ∈ r.services
  broken : endIn (plan service) = some (.broken text)
  failure_eq : failure = .transport ("read logs for " ++ service ++ ": " ++ text)
  /-- Among the rows shown there is one for each of its lines. -/
  rows : ∃ rows others : List String,
    rows.Perm ((linesIn (plan service)).map (printedLine r.isShared service) ++ others) ∧
    String.join (v.collator.sink.flushes.map Flush.text) = String.join (rows.map (· ++ "\n"))

namespace Errands

theorem turn (h : Errands r plan v) (hm : v.Meets plan) {i : Nat} {t : Tail} {x : Floor σ × Tail}
    (hi : v.tails[i]? = some t) (hx : Tail.Turn w v.floor t x) :
    Errands r plan { v with floor := x.1, tails := v.tails.set i x.2 } := by
  have ht := List.mem_of_getElem? hi
  have hwired := h.wired.turn hi hx
  have hcancelled := hx.floor_eq.2.1.trans h.cancelled
  have hcapacity : 0 < x.1.channel.capacity := hx.delivers.capacity ▸ h.capacity
  cases hh : v.floor.isHalted with
  | false =>
    have herrand : OnErrands plan (v.tails.set i x.2) x.1.journal := by
      refine h.wired.woven.forall_turn (P := fun u events => u.Errand (plan u.service) events)
        hi hx (h.errand hh) ?_
      rw [hx.tail_eq.2.1]
      exact (h.errand hh t ht).turn hx (Tail.not_givesUp hh h.wired.counted.isOpen)
        (h.wired.woven.follow_eq h.follows ht) (hm t ht)
    refine ⟨hwired, hcancelled, h.follows, hcapacity, fun _ => herrand,
      fun u hu => (herrand u hu).prefix_tale, ?_⟩
    simp [hx.isHalted_eq, hh]
  | true =>
    refine ⟨hwired, hcancelled, h.follows, hcapacity, ?_, ?_, fun _ => .inr ?_⟩
    · simp [hx.isHalted_eq, hh]
    · refine h.wired.woven.forall_turn (P := fun u events =>
        (events.filterMap Event.sent?).map Arrival.untimed <+: tale u.service (plan u.service))
        hi hx h.sent ?_
      rw [← sentBy, hx.sentBy_quiet hh, hx.tail_eq.2.1]
      exact h.sent t ht
    · refine (h.halted hh).resolve_left fun hdone => ?_
      have hreturned := hdone.1 t ht
      rw [hx.senders_eq.1] at hreturned
      cases hreturned

theorem print (w : World σ) (h : Errands r plan v) {c : Collator} {channel : Channel Arrival}
    (hc : v.collator.step v.floor.now v.floor.isHalted v.floor.channel = some (c, channel)) :
    Errands r plan { v with
      collator := c
      floor := { v.floor with channel, stopped := v.floor.stopped || c.outcome.isSome } } := by
  have hcapacity := (Move.print (w := w) hc).capacity_eq
  refine ⟨h.wired.print w hc, h.cancelled, h.follows, hcapacity ▸ h.capacity, fun hh => ?_, h.sent,
    fun hhalted => ?_⟩
  · refine h.errand ?_
    simp only [Floor.isHalted, Bool.or_eq_false_iff] at hh ⊢
    exact ⟨hh.1, hh.2.1⟩
  · cases hh : v.floor.isHalted with
    | true =>
      refine .inl ((h.halted hh).resolve_right fun hfailed => ?_)
      obtain ⟨failure, hfailure⟩ := hfailed
      rw [Collator.outcome_of_step hc] at hfailure
      cases hfailure
    | false =>
      cases ho : c.outcome with
      | none =>
        simp only [Floor.isHalted, Bool.or_eq_true, Bool.or_eq_false_iff] at hhalted hh
        simp [ho, hh] at hhalted
      | some outcome =>
        cases outcome with
        | error failure => exact .inr ⟨failure, rfl⟩
        | ok =>
          -- It has ended with the last sender.
          have hnone := (Collator.step_ok hc ho).2.resolve_left (by simp [hh])
          refine .inl ⟨fun t ht => ?_, h.errand hh⟩
          have hretired := List.countP_eq_zero.1 (h.wired.senders ▸ hnone) t ht
          simpa using hretired

theorem stop (w : World σ) (h : Errands r plan v) (hh : v.floor.isHalted = false)
    (hzero : v.floor.headcount.running = 0) :
    Errands r plan { v with floor := { v.floor with stopped := true } } := by
  refine ⟨h.wired.move (Move.stop (w := w) h.follows hh hzero), h.cancelled, h.follows, h.capacity,
    by simp [Floor.isHalted], h.sent, fun _ => .inl ⟨fun t ht => ?_, h.errand hh⟩⟩
  have hidle := List.countP_eq_zero.1 (h.wired.counted.running ▸ hzero) t ht
  exact (h.errand hh t ht).isDone_of_idle (by simpa using hidle)

theorem world (h : Errands r plan v) (hw : w.NeverCancels) {act : Act} {world : σ}
    (hact : w.act v.floor.now v.collator.sink.shown v.floor.world = some (act, world)) :
    Errands r plan { v with floor := { v.floor with world }.apply act } := by
  obtain ⟨hchannel, -, -, hstopped, -⟩ := Floor.apply_eq { v.floor with world } act
  have hcancelled := hw.cancelled_apply hact h.cancelled
  have hhalted : ({ v.floor with world }.apply act).isHalted = v.floor.isHalted := by
    rw [Floor.isHalted, hcancelled, hstopped, Floor.isHalted, h.cancelled]
  have hall (hall : OnErrands plan v.tails v.floor.journal) :
      OnErrands plan v.tails ({ v.floor with world }.apply act).journal := by
    intro t ht
    obtain ⟨posted, hp⟩ := Floor.eventsOf_apply t.service { v.floor with world } act
    rw [hp]
    exact (hall t ht).posted posted
  refine ⟨h.wired.world hact, hcancelled, h.follows, by rw [hchannel]; exact h.capacity, ?_, ?_, ?_⟩
  · rw [hhalted]
    exact fun hh => hall (h.errand hh)
  · intro t ht
    rw [Floor.sentBy_apply]
    exact h.sent t ht
  · rw [hhalted]
    exact fun hh => (h.halted hh).imp_left fun hdone => ⟨hdone.1, hall hdone.2⟩

/-- **Whatever happens next, the readers go on with their errands**, or a failure has ended the
printing. -/
theorem move (h : Errands r plan v) (hw : w.NeverCancels) (hm : v.Meets plan) (hv : Move w v v') :
    Errands r plan v' := by
  cases hv with
  | world hact => exact h.world hw hact
  | turn hi hx => exact h.turn hm hi hx
  | stop _ hh hzero => exact h.stop w hh hzero
  | print hc => exact h.print w hc
  | elapse htime =>
    exact ⟨h.wired.move (Move.elapse (w := w) htime), h.cancelled, h.follows, h.capacity, h.errand,
      h.sent, h.halted⟩

/-! ### How it ends -/

/-- Each line that has been sent is of its source's tale. -/
theorem mem_tale (h : Errands r plan v) {e : Happening} (he : e ∈ v.floor.journal) {a : Arrival}
    (hsent : e.event.sent? = some a) :
    e.source ∈ r.services ∧ a.untimed ∈ tale e.source (plan e.source) := by
  obtain ⟨t, ht, hservice, hmem⟩ := h.wired.sender he hsent
  rw [← hservice]
  exact ⟨h.wired.woven.service_mem ht, (h.sent t ht).subset (List.mem_map_of_mem hmem)⟩

/-- What a source has brought before its fault has been printed before it. -/
theorem rows_of_fault (h : Errands r plan v) {before rest : List Arrival} {a : Arrival}
    {text : String} (hall : sentAll v.floor.journal = before ++ a :: rest)
    (hsound : ∀ b ∈ before, b.fault? = none) (ha : a.fault? = some text)
    (hmem : a.source ∈ r.services) :
    ∃ others : List String, ((printable (sentAll v.floor.journal)).map
      (Arrival.printed r.isShared)).Perm
        ((linesIn (plan a.source)).map (printedLine r.isShared a.source) ++ others) := by
  obtain ⟨t, ht, hservice⟩ := h.wired.woven.reader hmem
  have hsources : ∀ e ∈ v.floor.journal, ∀ b, e.event.sent? = some b → b.source = e.source := by
    intro e he b hb
    exact source_tale (a := b.untimed) (h.mem_tale he hb).2
  have hown : (before.filter fun b => b.source = a.source).map Arrival.untimed =
      linesFrom a.source (plan a.source) := by
    have hprefix := h.sent t ht
    rw [hservice, sentBy_eq_filter hsources, hall, List.filter_append,
      List.filter_cons_of_pos (by simp), List.map_append, List.map_cons, tale] at hprefix
    refine eq_of_prefix_concat hprefix (fun hline => ?_) ?_
    · have hnone := fault?_linesFrom hline
      rw [Arrival.fault?_untimed, ha] at hnone
      cases hnone
    · cases endIn (plan a.source) <;> simp
  have hprinted : ((before.filter fun b => b.source = a.source).filter fun b => !b.isSilent).map
      (Arrival.printed r.isShared) =
        (linesIn (plan a.source)).map (printedLine r.isShared a.source) := by
    rw [← Arrival.printed_map_untimed, hown, printed_linesFrom]
  rw [hall, printable_split hsound ha]
  have hperm := (List.filter_append_perm (fun b : Arrival => decide (b.source = a.source))
    (before.filter fun b => !b.isSilent)).symm.map (Arrival.printed r.isShared)
  rw [List.map_append, List.filter_comm, hprinted] at hperm
  exact ⟨_, hperm⟩

/-- **A failure is that of a source that has failed**, told after all its lines. -/
theorem failed (h : Errands r plan v) {failure : Failure}
    (ho : v.collator.outcome = some (.error failure)) :
    ∃ service text, Failed r plan v failure service text := by
  rcases h.wired.account_of_ended ho with ⟨hbatch, hverdict, batches, haccount⟩ | hspoilt
  · obtain ⟨before, a, rest, text, hall, hsound, ha, hfailure⟩ := fault_of_verdict hverdict.symm
    obtain ⟨e, he, hsent⟩ : ∃ e ∈ v.floor.journal, e.event.sent? = some a := by
      refine mem_sentAll.1 ?_
      rw [hall]
      exact List.mem_append_right _ (List.mem_cons_self ..)
    obtain ⟨hmem, htale⟩ := h.mem_tale he hsent
    have hsource : a.source = e.source := source_tale (a := a.untimed) htale
    rw [← hsource] at hmem htale
    obtain ⟨others, hothers⟩ := h.rows_of_fault hall hsound ha hmem
    obtain ⟨rows, hrows, hshown⟩ := haccount.rows hbatch
    exact ⟨a.source, text, hmem, endIn_of_fault htale (by rwa [Arrival.fault?_untimed]), hfailure,
      rows, others, hrows.trans hothers, hshown⟩
  · exact absurd hspoilt.refuses (by simp [Sink.refuses_endless hspoilt.limits_eq])

/-- **A run ends well only when every stream has ended by itself.** -/
theorem succeeded (h : Errands r plan v) (ho : v.collator.outcome = some (.ok ()))
    {service : String} (hs : service ∈ r.services) :
    endIn (plan service) = some .finished ∧
      Event.ended .finished ∈ eventsOf service v.floor.journal := by
  rcases h.wired.account_of_ended ho with ⟨-, hverdict, -⟩ | hspoilt
  · have hsound := sound_of_verdict hverdict.symm
    have hhalted := h.wired.halted (by rw [ho, Option.isSome_some])
    obtain ⟨hdone, hall⟩ := (h.halted hhalted).resolve_right (by simp [ho])
    obtain ⟨t, ht, rfl⟩ := h.wired.woven.reader hs
    obtain ⟨htold, how, hend, hfinished⟩ := (hall t ht).of_isDone (hdone t ht)
    cases how with
    | finished => exact ⟨hend, hfinished rfl⟩
    | broken text =>
      -- Its failure would have been told.
      have hmem := mem_tale_of_broken t.service hend
      rw [← htold] at hmem
      obtain ⟨a, ha, huntimed⟩ := List.mem_map.1 hmem
      have hnone := hsound a (sentBy_subset ha)
      rw [← Arrival.fault?_untimed, huntimed] at hnone
      cases hnone
  · exact absurd hspoilt.refuses (by simp [Sink.refuses_endless hspoilt.limits_eq])

end Errands

variable {bulletin : Bulletin} {world : σ}

/-- All along its history each reader is on its errand. -/
theorem errands_course (hf : r.streaming.follows = false)
    (hroom : 1 ≤ r.streaming.linesPerSource) (hw : w.NeverCancels)
    (c : (schedule w).Course (new r bulletin .endless false world))
    (hm : ∀ n, (c.state n).Meets plan) (n : Nat) : Errands r plan (c.state n) := by
  induction n with
  | zero => exact c.state_zero.symm ▸ errands_new r hf hroom plan bulletin world
  | succ n ih => exact ih.move hw (hm n) (move_of_drift (c.drift n))

end Run.Weave

end LogWeave

import LogWeave.Proofs.Output.Sorting
import LogWeave.Proofs.Run.Receipts
import LogWeave.Proofs.Run.Resume
import Mathlib.Data.List.Pairwise
import Mathlib.Data.List.Perm.Basic

/-! Where notices are printed.

The lines of a batch are put in order by the times they carry, and a notice carries the time of its
receipt. So within a flush a notice stands where its receipt belongs, whenever the lines around it
were sent; between flushes the order of sending is kept (`Weave.Shows`). If no line carries a time
later than its own receipt, then a notice comes after all lines that were sent before it, and only
lines of its own flush that carry an earlier time get ahead of it (`Weave.places_notices`). -/
namespace LogWeave

/-- Batches of what has been mapped are mapped batches. -/
theorem exists_flatten_of_prefix_map {α β : Type} {f : α → β} {bs : List (List β)} {l : List α}
    (h : bs.flatten <+: l.map f) :
    ∃ as : List (List α), as.map (List.map f) = bs ∧ as.flatten <+: l := by
  induction bs generalizing l with
  | nil => exact ⟨[], rfl, List.nil_prefix⟩
  | cons b rest ih =>
    obtain ⟨more, hmore⟩ := h
    rw [List.flatten_cons, List.append_assoc] at hmore
    obtain ⟨first, later, rfl, rfl, hlater⟩ := List.map_eq_append_iff.1 hmore.symm
    obtain ⟨as, rfl, has⟩ := ih (l := later) ⟨more, hlater.symm⟩
    exact ⟨first :: as, rfl, (List.prefix_append_right_inj first).2 has⟩

/-- A notice is put where its receipt belongs. -/
theorem Arrival.loggedAt_notice {a : Arrival} (ha : a.notice.isSome = true) :
    a.entry.loggedAt = a.receivedAt := by
  obtain ⟨notice, hnotice⟩ := Option.isSome_iff_exists.1 ha
  rw [entry, hnotice]

namespace Run

/-- The lines with something to print, each with its number in the order of sending. -/
def numbered (journal : List Happening) : List (Arrival × Nat) :=
  ((sentAll journal).filter fun a => !a.isSilent).zipIdx

theorem numbered_sorted (journal : List Happening) :
    (numbered journal).Pairwise fun x y => x.2 < y.2 := by
  have hnumbers : ((numbered journal).map Prod.snd).Pairwise (· < ·) := by
    rw [numbered, List.zipIdx_map_snd]
    exact List.pairwise_lt_range'
  exact List.pairwise_map.1 hnumbers

theorem mem_of_numbered {x : Arrival × Nat} {journal : List Happening} (h : x ∈ numbered journal) :
    x.1 ∈ sentAll journal := by
  have hx : x.1 ∈ (numbered journal).map Prod.fst := List.mem_map_of_mem h
  rw [numbered, List.zipIdx_map_fst] at hx
  exact List.mem_of_mem_filter hx

/-- Of two lines of one source the one sent later is not received earlier, if all are received in
order. -/
theorem receivedAt_numbered {journal : List Happening}
    (h : (sentAll journal).Pairwise fun a b => a.source = b.source → a.receivedAt ≤ b.receivedAt)
    {x y : Arrival × Nat} (hx : x ∈ numbered journal) (hy : y ∈ numbered journal)
    (hxy : x.2 ≤ y.2) (hsource : x.1.source = y.1.source) : x.1.receivedAt ≤ y.1.receivedAt := by
  let ordered (x y : Arrival × Nat) : Prop := x.1.source = y.1.source →
    (x.2 ≤ y.2 → x.1.receivedAt ≤ y.1.receivedAt) ∧ (y.2 ≤ x.2 → y.1.receivedAt ≤ x.1.receivedAt)
  have hsymm : Std.Symm ordered := ⟨fun x y hxy hsource => (hxy hsource.symm).symm⟩
  have hfirst : ((numbered journal).map Prod.fst).Pairwise fun a b =>
      a.source = b.source → a.receivedAt ≤ b.receivedAt := by
    rw [numbered, List.zipIdx_map_fst]
    exact h.filter _
  have hordered : (numbered journal).Pairwise ordered := by
    refine ((numbered_sorted journal).and (List.pairwise_map.1 hfirst)).imp fun hxy hsource => ?_
    exact ⟨fun _ => hxy.2 hsource, fun hle => absurd hxy.1 hle.not_gt⟩
  have hself : ∀ x ∈ numbered journal, ordered x x :=
    fun x _ _ => ⟨fun _ => le_rfl, fun _ => le_rfl⟩
  exact (hordered.forall_of_forall hself hx hy hsource).1 hxy

/-- Put at an earlier time, or at the same time and sent before. -/
def Earlier (x y : Arrival × Nat) : Prop :=
  x.1.entry.loggedAt < y.1.entry.loggedAt ∨
    x.1.entry.loggedAt = y.1.entry.loggedAt ∧ x.2 < y.2

/-- Numbered lines in the order of their times. -/
def arranged (batch : List (Arrival × Nat)) : List (Arrival × Nat) :=
  batch.mergeSort fun x y => x.1.entry.before y.1.entry

theorem arranged_perm (batch : List (Arrival × Nat)) : (arranged batch).Perm batch :=
  List.mergeSort_perm _ _

/-- A batch is printed as it is arranged. -/
theorem collate_numbered (batch : List (Arrival × Nat)) :
    collate (batch.map Prod.fst) = (arranged batch).map fun x => x.1.entry := by
  rw [collate, List.map_map, arranged]
  exact (List.map_mergeSort (f := Arrival.entry ∘ Prod.fst) (s := Entry.before)
    fun _ _ _ _ => rfl).symm

theorem arranged_earlier {batch : List (Arrival × Nat)}
    (h : batch.Pairwise fun x y => x.2 < y.2) : (arranged batch).Pairwise Earlier := by
  have hstable := pairwise_mergeSort_of_pairwise
    (fun a b c : Arrival × Nat => Entry.before_trans a.1.entry b.1.entry c.1.entry)
    (fun a b => Entry.before_total a.1.entry b.1.entry) h
  refine hstable.imp fun {x y} hxy => ?_
  simp only [Entry.before, decide_eq_true_eq] at hxy
  rcases hxy.1.lt_or_eq with hlt | heq
  · exact .inl hlt
  · exact .inr ⟨heq, hxy.2 heq.ge⟩

namespace Weave

variable {σ : Type} {w : World σ} {r : Request} {limits : SinkLimits} {v : Weave σ}

/-- What a run shows: flushes of numbered lines. -/
structure Shows (r : Request) (v : Weave σ) (shown : List (List (Arrival × Nat))) : Prop where
  /-- Their rows have been written, all of them unless the sink refuses, -/
  written : v.collator.Writes r.isShared (shown.flatten.map fun x => x.1.entry)
  /-- those of one flush together. -/
  flushed : v.collator.sink.flushes.map Flush.text <+: shown.map fun flush =>
    String.join (flush.map fun x => x.1.entry.row r.isShared)
  /-- They are the lines that were sent first, -/
  sent : ∃ sent, sent <+: numbered v.floor.journal ∧ shown.flatten.Perm sent
  /-- all of them, once the printing has ended well. -/
  whole : v.collator.outcome = some (.ok ()) → shown.flatten.Perm (numbered v.floor.journal)
  /-- A flush has lines sent after those of the flushes before it, -/
  across : shown.Pairwise fun f g => ∀ x ∈ f, ∀ y ∈ g, x.2 < y.2
  /-- and puts them in the order of their times, and lines of one time in the order of sending. -/
  within : ∀ flush ∈ shown, flush.Pairwise Earlier

/-- Without faults the lines with something to print are shown. -/
theorem Wired.shows (h : Wired r limits v)
    (hsound : ∀ a ∈ sentAll v.floor.journal, a.fault? = none) : ∃ shown, Shows r v shown := by
  obtain ⟨batches, torn, hprinted⟩ := h.printed
  have hnumbered : (numbered v.floor.journal).map Prod.fst =
      printable (sentAll v.floor.journal) := by
    rw [printable_sound hsound, numbered, List.zipIdx_map_fst]
  have hlines : (batches ++ [torn]).flatten <+: (numbered v.floor.journal).map Prod.fst := by
    rw [hnumbered, List.flatten_append, List.flatten_singleton]
    exact hprinted.lines
  obtain ⟨parts, hparts, hprefix⟩ := exists_flatten_of_prefix_map hlines
  have hperm : (parts.map arranged).flatten.Perm parts.flatten := by
    simpa [List.flatMap_def] using
      List.Perm.flatMap_left parts (f := arranged) (g := id) fun b _ => arranged_perm b
  obtain ⟨hwithin, hacross⟩ := List.pairwise_flatten.1
    ((numbered_sorted v.floor.journal).sublist hprefix.sublist)
  refine ⟨parts.map arranged, ?_, ?_, ⟨parts.flatten, hprefix, hperm⟩, fun hok => ?_, ?_, ?_⟩
  · have hwrites := hprinted.writes
    rw [← hparts] at hwrites
    simpa [List.flatMap_def, Function.comp_def, collate_numbered, List.map_flatten] using hwrites
  · rw [hprinted.flushed]
    have hrows : (parts.map arranged).map (fun flush =>
        String.join (flush.map fun x => x.1.entry.row r.isShared)) =
          (batches ++ [torn]).map (rendering r.isShared) := by
      rw [← hparts, List.map_map, List.map_map]
      refine List.map_congr_left fun b _ => ?_
      simp only [Function.comp_apply, rendering, collate_numbered, List.map_map]
      rfl
    rw [hrows, List.map_append]
    exact List.prefix_append ..
  · have hall : (batches ++ [torn]).flatten = (numbered v.floor.journal).map Prod.fst := by
      rw [hnumbered, ← hprinted.whole hok, List.flatten_append, List.flatten_singleton]
    have hlength := congrArg List.length hall
    rw [← hparts, ← List.map_flatten, List.length_map, List.length_map] at hlength
    exact hprefix.eq_of_length hlength ▸ hperm
  · refine List.pairwise_map.2 (hacross.imp fun {b c} hbc x hx y hy => ?_)
    exact hbc x ((arranged_perm b).mem_iff.1 hx) y ((arranged_perm c).mem_iff.1 hy)
  · intro flush hflush
    obtain ⟨b, hb, rfl⟩ := List.mem_map.1 hflush
    exact arranged_earlier (hwithin b hb)

/-- A notice comes after the lines of the log that were sent before it. -/
def Behind (shown : List (List (Arrival × Nat))) : Prop :=
  shown.flatten.Pairwise fun x y => x.1.source = y.1.source →
    x.1.notice.isSome = true → y.1.isLogged = true → x.2 < y.2

/-- A notice comes before the lines of the log that were sent after it. -/
def Ahead (shown : List (List (Arrival × Nat))) : Prop :=
  shown.flatten.Pairwise fun x y => x.1.source = y.1.source →
    x.1.isLogged = true → y.1.notice.isSome = true → x.2 < y.2

/-- Which lines of the log get ahead of a notice. -/
structure Overtaken (shown : List (List (Arrival × Nat))) : Prop where
  /-- One sent after the notice is flushed with it and carries a time before its receipt, -/
  only : shown.flatten.Pairwise fun x y => x.1.source = y.1.source →
    x.1.isLogged = true → y.1.notice.isSome = true → x.2 < y.2 ∨
      x.1.entry.loggedAt < y.1.receivedAt ∧ ∃ flush ∈ shown, x ∈ flush ∧ y ∈ flush
  /-- and so does each line of such a time that is flushed with it. -/
  each : ∀ flush ∈ shown, flush.Pairwise fun x y =>
    x.1.notice.isSome = true → ¬ y.1.entry.loggedAt < x.1.receivedAt

namespace Shows

variable {shown : List (List (Arrival × Nat))}

theorem overtaken (h : Shows r v shown) : Overtaken shown := by
  refine ⟨List.pairwise_flatten.2 ⟨fun flush hflush => ?_, ?_⟩, fun flush hflush => ?_⟩
  · refine (h.within flush hflush).imp_of_mem fun {x y} hx hy hxy _ _ hnotice => ?_
    rw [Earlier, Arrival.loggedAt_notice hnotice] at hxy
    rcases hxy with hlt | ⟨-, hlt⟩
    · exact .inr ⟨hlt, flush, hflush, hx, hy⟩
    · exact .inl hlt
  · exact h.across.imp fun hxy x hx y hy _ _ _ => .inl (hxy x hx y hy)
  · refine (h.within flush hflush).imp fun {x y} hxy hnotice => ?_
    rw [Earlier, Arrival.loggedAt_notice hnotice] at hxy
    rcases hxy with hlt | ⟨heq, -⟩
    · exact hlt.asymm
    · exact heq.not_gt

/-- What is shown has been sent. -/
theorem mem_numbered (h : Shows r v shown) {flush : List (Arrival × Nat)} (hflush : flush ∈ shown)
    {x : Arrival × Nat} (hx : x ∈ flush) : x ∈ numbered v.floor.journal := by
  obtain ⟨sent, hsent, hperm⟩ := h.sent
  exact hsent.subset (hperm.mem_iff.1 (List.mem_flatten_of_mem hflush hx))

/-- Where lines are received in order and carry no later times, no notice gets ahead of a line. -/
theorem behind (h : Shows r v shown)
    (hreceived : (sentAll v.floor.journal).Pairwise fun a b =>
      a.source = b.source → a.receivedAt ≤ b.receivedAt)
    (htimely : ∀ a ∈ sentAll v.floor.journal, a.isLogged = true →
      a.entry.loggedAt ≤ a.receivedAt) : Behind shown := by
  refine List.pairwise_flatten.2 ⟨fun flush hflush => ?_, ?_⟩
  · refine (h.within flush hflush).imp_of_mem fun {x y} hx hy hxy hsource hnotice hlogged => ?_
    rw [Earlier, Arrival.loggedAt_notice hnotice] at hxy
    rcases hxy with hlt | ⟨-, hlt⟩
    · have hx := h.mem_numbered hflush hx
      have hy := h.mem_numbered hflush hy
      by_contra hle
      have hback := receivedAt_numbered hreceived hy hx (not_lt.1 hle) hsource.symm
      have hlate := htimely y.1 (mem_of_numbered hy) hlogged
      exact absurd (hlt.trans_le hlate) hback.not_gt
    · exact hlt
  · exact h.across.imp fun hxy x hx y hy _ _ _ => hxy x hx y hy

end Shows

/-- **A notice is printed where its receipt belongs.** Whatever is asked for, whatever the windows
and the delays: a line of the log gets ahead of a notice that was sent before it only if it is
flushed with it and carries an earlier time. On a clock that never goes back, and with no line of a
time later than its receipt, a notice comes after all lines of the log that were sent before it. -/
theorem places_notices (hf : r.streaming.follows = true) (limits : SinkLimits)
    (bulletin : Bulletin) (cancelled : Bool) (world : σ)
    (h : (schedule w).Drifts (new r bulletin (.new limits) cancelled world) v) :
    ∃ shown, Shows r v shown ∧ Overtaken shown ∧
      (Monotone w.clock → (∀ a ∈ sentAll v.floor.journal, a.isLogged = true →
        a.entry.loggedAt ≤ a.receivedAt) → Behind shown) := by
  have hwired : Wired r limits v := .drifts h
  have htold : Told v := .drifts h
  obtain ⟨shown, hshown⟩ := hwired.shows (htold.sound (hwired.woven.follows.trans hf))
  refine ⟨shown, hshown, hshown.overtaken, fun hw htimely => hshown.behind ?_ htimely⟩
  exact (Dated.drifts hw h).receivedAt_le hwired htold

/-- When its window closes the collator prints, if the sink takes everything. -/
theorem drift_flush (w : World σ) (ho : v.collator.outcome = none) (hh : v.floor.isHalted = false)
    (hq : v.floor.channel.queue = []) (hs : v.floor.channel.senders ≠ 0)
    (hd : v.collator.isDue v.floor.now = true) (he : v.collator.sink.IsEndless)
    (hp : v.collator.sink.pending = "") (hb : v.collator.batch ≠ []) :
    ∃ v', (schedule w).Drift v v' ∧ v'.floor.journal = v.floor.journal ∧
      v'.collator.sink.pending = "" ∧ v'.collator.sink.flushes = v.collator.sink.flushes ++
        [⟨v.floor.now, rendering v.collator.shared v.collator.batch⟩] := by
  have hstep := Collator.step_due ho hq hs hd
  rw [← hh] at hstep
  refine ⟨_, .move (v.tails.length + 2) (Nat.lt_succ_self _) (step_collator hstep), rfl, ?_⟩
  exact Collator.flushes_flush (c := { v.collator with flushAt := none }) he hp hb _

theorem valid_clock : Time.Instant.Valid 1709287206 0 := by decide

/-- A world that restarts a service within one window, and whose stream brings a line from before
the notices. -/
def hasty : World (Nat × Nat) where
  openLog s _ _ :=
    (if s.1 = 0 then ⟨0, .error (.transport "refused")⟩
      else .stream [.line "2024-03-01T10:00:05Z b", .hang], s.1 + 1, s.2)
  act now _ s :=
    match s.2 with
    | 0 => if 10 ≤ now then some (.post "web" ⟨.exited, none, none, none⟩, s.1, 1) else none
    | 1 =>
      if 50 ≤ now then some (.post "web" ⟨.running, some .epoch, none, none⟩, s.1, 2) else none
    | _ => none
  due s := [10, 50][s.2]?
  clock _ := ⟨1709287206, 0, valid_clock⟩

/-- What the reader of that service sends. -/
def hastyLines : List (Arrival × Nat) :=
  [(.notify "web" exitedNotice (hasty.clock 0), 0),
    (.notify "web" restartedNotice (hasty.clock 1), 1),
    (.line "web" "2024-03-01T10:00:05Z b" (hasty.clock 2), 2)]

/-- What is printed of it. -/
def hastyText : String := "b\nThe container exited.\nThe container restarted, streaming logs..\n"

theorem rendering_hasty : rendering false (hastyLines.map Prod.fst) = hastyText := by
  let exited : Entry := ⟨"web", "", hasty.clock 0, some exitedNotice⟩
  let restarted : Entry := ⟨"web", "", hasty.clock 1, some restartedNotice⟩
  let b : Entry := ⟨"web", "b", ⟨1709287205, 0, by decide⟩, none⟩
  have hentries : (hastyLines.map Prod.fst).map Arrival.entry = [exited, restarted, b] := by
    decide +kernel
  have hnotices : exited.before restarted = true := by decide
  have hearlier : exited.before b = false := by decide
  have hcollate : collate (hastyLines.map Prod.fst) = [b, exited, restarted] := by
    rw [collate, hentries]
    simp [List.mergeSort, List.MergeSort.Internal.splitInTwo, hnotices, hearlier]
  rw [rendering, hcollate]
  decide +kernel

/-- The logs of that service alone, with a window of 100. -/
def hastyRequest : Request := ⟨["web"], ⟨true, false, 100, 500, 1000, 2⟩, by decide, by decide⟩

/-- Where the window closes. -/
def hastyBrink : Weave (Nat × Nat) :=
  (schedule hasty).runFrom 200 19 0 (new hastyRequest .new .endless false (0, 0))

theorem drifts_hastyBrink :
    (schedule hasty).Drifts (new hastyRequest .new .endless false (0, 0)) hastyBrink :=
  ((schedule hasty).reachable_runFrom 200 19 0 .start).drifts

/-- A state of that run after its first flush. -/
theorem drifts_hasty : ∃ v,
    (schedule hasty).Drifts (new hastyRequest .new .endless false (0, 0)) v ∧
      numbered v.floor.journal = hastyLines ∧
      v.collator.sink.flushes.map Flush.text = [hastyText] ∧
      ∀ a ∈ sentAll v.floor.journal, a.isLogged = true → a.entry.loggedAt ≤ a.receivedAt := by
  have hopen : hastyBrink.collator.outcome = none :=
    Option.isNone_iff_eq_none.1 (by decide +kernel)
  have hbatch : hastyBrink.collator.batch = hastyLines.map Prod.fst := by decide +kernel
  have hsink : hastyBrink.collator.sink = .endless := by decide +kernel
  have hshared : hastyBrink.collator.shared = false := by decide +kernel
  obtain ⟨v, hdrift, hjournal, -, hflushes⟩ := drift_flush hasty hopen (by decide +kernel)
    (by decide +kernel) (by decide +kernel) (by decide +kernel) (by rw [hsink]; rfl)
    (by rw [hsink]; rfl) (by rw [hbatch]; decide)
  refine ⟨v, drifts_hastyBrink.tail hdrift, ?_, ?_, ?_⟩
  · rw [hjournal]
    decide +kernel
  · rw [hflushes, hsink, hbatch, hshared, List.map_append, List.map_singleton, rendering_hasty]
    rfl
  · rw [hjournal]
    decide +kernel

/-- Three lines in one flush: two notices, and a line that gets ahead of them. -/
theorem places_notices_hasty :
    ∃ (r : Request) (v : Weave (Nat × Nat)) (shown : List (List (Arrival × Nat))),
      r.streaming.follows = true ∧
      (schedule hasty).Drifts (new r .new .endless false (0, 0)) v ∧
      v.collator.sink.flushes.map Flush.text = [hastyText] ∧ numbered v.floor.journal = hastyLines ∧
      Shows r v shown ∧ Overtaken shown ∧ Behind shown :=
  have ⟨v, hv, hlines, hflushes, htimely⟩ := drifts_hasty
  have ⟨shown, hshown, hovertaken, hbehind⟩ :=
    places_notices (r := hastyRequest) rfl ⟨none, none⟩ .new false (0, 0) hv
  ⟨hastyRequest, v, shown, rfl, hv, hflushes, hlines, hshown, hovertaken,
    hbehind monotone_const htimely⟩

/-- Whoever shows that text has put the line in front of a notice that was sent before it. -/
theorem not_ahead_hasty {shown : List (List (Arrival × Nat))} (h : Shows r v shown)
    (hr : r.isShared = false) (hlines : numbered v.floor.journal = hastyLines)
    (htext : v.collator.sink.flushes.map Flush.text = [hastyText]) : ¬ Ahead shown := by
  intro hahead
  let row (x : Arrival × Nat) : String := x.1.entry.row false
  obtain ⟨flush, rest, rfl, hflush⟩ : ∃ flush rest, shown = flush :: rest ∧
      String.join (flush.map row) = hastyText := by
    obtain ⟨more, hmore⟩ := h.flushed
    rw [htext, hr] at hmore
    cases shown with
    | nil => cases hmore
    | cons flush rest => exact ⟨flush, rest, rfl, (List.cons.inj hmore).1.symm⟩
  have hmem : ∀ x ∈ flush, x ∈ hastyLines := fun x hx =>
    hlines ▸ h.mem_numbered (List.mem_cons_self ..) hx
  match flush with
  | [] => exact absurd hflush (by decide)
  | [x] =>
    have hone : ∀ x ∈ hastyLines, String.join [row x] ≠ hastyText := by decide +kernel
    exact hone x (hmem x (by simp)) hflush
  | x :: y :: later =>
    -- The text begins with two rows, of which the first is the line and the second is not.
    have htwo : ∀ x ∈ hastyLines, ∀ y ∈ hastyLines,
        (row x ++ row y).toList <+: hastyText.toList →
          x.1.source = y.1.source ∧ x.1.isLogged = true ∧ y.1.notice.isSome = true ∧ y.2 ≤ x.2 := by
      decide +kernel
    have hprefix : (row x ++ row y).toList <+: hastyText.toList := by
      refine ⟨(String.join (later.map row)).toList, ?_⟩
      rw [← hflush, ← String.toList_append, String.append_assoc]
      simp
    obtain ⟨hsource, hlogged, hnotice, hle⟩ :=
      htwo x (hmem x (by simp)) y (hmem y (by simp)) hprefix
    have hafter : y ∈ (y :: later) ++ rest.flatten := List.mem_cons_self ..
    have hlt := List.rel_of_pairwise_cons hahead hafter hsource hlogged hnotice
    exact absurd hlt hle.not_gt

/-- A notice may come after a line that was sent after it. -/
theorem overtaken_hasty :
    ∃ (r : Request) (v : Weave (Nat × Nat)), r.streaming.follows = true ∧
      Monotone hasty.clock ∧
      (schedule hasty).Drifts (new r .new .endless false (0, 0)) v ∧
      (∀ a ∈ sentAll v.floor.journal, a.isLogged = true → a.entry.loggedAt ≤ a.receivedAt) ∧
      v.collator.sink.flushes.map Flush.text =
        ["b\nThe container exited.\nThe container restarted, streaming logs..\n"] ∧
      ¬ ∃ shown, Shows r v shown ∧ Behind shown ∧ Ahead shown := by
  obtain ⟨v, hv, hlines, hflushes, htimely⟩ := drifts_hasty
  refine ⟨hastyRequest, v, rfl, monotone_const, hv, htimely, hflushes, ?_⟩
  rintro ⟨shown, hshown, -, hahead⟩
  exact not_ahead_hasty hshown rfl hlines hflushes hahead

end Weave

end Run

end LogWeave

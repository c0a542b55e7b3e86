import LogWeave.Proofs.Output.Refusing

/-! Two collators that are given the same, one with a sink that refuses.

As long as its sink holds out it does what the other one does, and from then on it does nothing
(`Curtailed`): the sink has the first rows of all that the other one is given, or shows the first of
the other one's flushes (`Cut`). All that a collator does is put together of a few deeds, each of
them done only if the printing has not ended (`andThen`), so it is enough to look at these
(`Respects`, `respects_of_deed`). -/
namespace LogWeave

/-- Each of these lines that is printed counts as one. -/
def SinkLimits.Tidy (limits : SinkLimits) (shared : Bool) (lines : List Arrival) : Prop :=
  ∀ a ∈ lines, a.isSilent = false → a.fault? = none → limits.CountsOne (a.printed shared)

namespace Collator

/-! ### Deeds -/

/-- The same collator, with a sink of these limits. -/
def within (limits : SinkLimits) (c : Collator) : Collator :=
  { c with sink := { c.sink with limits } }

/-- The printing goes on, unless it has ended. -/
def andThen (c : Collator) (f : Collator → Collator) : Collator :=
  if c.outcome.isSome then c else f c

theorem andThen_of_ended {c : Collator} {outcome : Except Failure Unit}
    (h : c.outcome = some outcome) (f : Collator → Collator) : c.andThen f = c :=
  if_pos (by simp [h])

theorem andThen_of_open {c : Collator} (h : c.outcome = none) (f : Collator → Collator) :
    c.andThen f = f c := if_neg (by simp [h])

theorem andThen_assoc (c : Collator) (f g : Collator → Collator) :
    (c.andThen f).andThen g = c.andThen fun c => (f c).andThen g := by
  cases ho : c.outcome with
  | some outcome => simp only [andThen_of_ended ho]
  | none => simp only [andThen_of_open ho]

theorem finish_eq_andThen (c : Collator) (outcome : Except Failure Unit) :
    c.finish outcome = c.andThen fun c => { c with outcome := some outcome } := by
  obtain ⟨_, _, _, _, _, _ | earlier⟩ := c <;> rfl

/-! ### Beside a sink that takes everything -/

/-- What a collator has written on a sink that takes everything: these rows, and all are shown. -/
structure Unhindered (shared : Bool) (limits : SinkLimits) (c : Collator) (rows : List String) :
    Prop where
  shared_eq : c.shared = shared
  endless : c.sink.IsEndless
  pending : c.sink.pending = ""
  flushed : String.join (c.sink.flushes.map Flush.text) = lined rows
  lines : c.sink.lines = (lined rows).toList.count '\n'
  rows : ∀ row ∈ rows, limits.CountsOne row
  batch : ∀ a ∈ c.batch, limits.CountsOne (a.printed shared)

/-- What is left of these rows and flushes by a sink that has refused, and what it says. -/
inductive Cut (limits : SinkLimits) (rows : List String) (flushes : List Flush) :
    String → Sink → Prop
  /-- It has become full with rows still to come. -/
  | full {n : Nat} {s : Sink} (hn : limits.lines = some n) (hlt : n < rows.length)
    (hwritten : s.written = lined (rows.take n)) (hflushes : s.flushes <+: flushes) :
    Cut limits rows flushes "sink is full" s
  /-- It has failed to show what it has written. -/
  | failed {k : Nat} {s : Sink} (hk : limits.flush = some k) (hlt : k < flushes.length)
    (hwritten : s.written = String.join ((flushes.take (k + 1)).map Flush.text))
    (hflushes : s.flushes = flushes.take k) : Cut limits rows flushes "flush failed" s

variable {shared : Bool} {limits : SinkLimits} {c d : Collator} {rows : List String}

namespace Unhindered

theorem new (window : Nat) (shared : Bool) (limits : SinkLimits) :
    (Collator.new window shared (.new ⟨none, none⟩)).Unhindered shared limits [] where
  shared_eq := rfl
  endless := rfl
  pending := rfl
  flushed := rfl
  lines := rfl
  rows := by simp
  batch := by simp [Collator.new]

variable (h : c.Unhindered shared limits rows)
include h

theorem held : ∀ a ∈ c.batch, limits.CountsOne (a.printed c.shared) := h.shared_eq ▸ h.batch

theorem isRow {n : Nat} (hn : limits.lines = some n) : ∀ row ∈ rows, IsRow row :=
  fun row hrow => (h.rows row hrow).resolve_left (by simp [hn])

/-- Where lines are counted there are as many as rows. -/
theorem lines_eq {n : Nat} (hn : limits.lines = some n) : c.sink.lines = rows.length := by
  rw [h.lines, count_lined (h.isRow hn)]

theorem written_eq : c.sink.written = lined rows := by
  rw [Sink.written, h.flushed, h.pending, String.append_empty]

/-- Where lines are counted the rows are those that can be read. -/
theorem rowsOf_written {n : Nat} (hn : limits.lines = some n) : rowsOf c.sink.written = rows := by
  rw [h.written_eq, rowsOf_lined (h.isRow hn)]

theorem flush_eq (hb : c.batch ≠ []) (now : Nat) :
    c.flush now =
      { c with
        batch := []
        sink := (c.sink.keep (lined (rowsIn c.shared c.batch))).reveal now } := by
  have hnone : c.sink.limits = ⟨none, none⟩ := h.endless
  exact flush_fits hb now (fun a _ => .inl (by rw [hnone])) (by simp [hnone]) (by simp [hnone])

/-- The batch is printed after the rows that have been. -/
theorem flush (hb : c.batch ≠ []) (now : Nat) :
    (c.flush now).Unhindered shared limits (rows ++ rowsIn shared c.batch) := by
  rw [h.flush_eq hb, h.shared_eq]
  refine ⟨rfl, h.endless, rfl, ?_, ?_, ?_, by simp⟩
  · simp [Sink.reveal, Sink.keep, h.pending, h.flushed, String.join_append, lined_append]
  · simp [Sink.reveal, Sink.keep, h.lines, lined_append]
  · simp only [List.mem_append, or_imp, forall_and]
    refine ⟨h.rows, fun row hrow => ?_⟩
    obtain ⟨a, ha, rfl⟩ := mem_rowsIn.1 hrow
    exact h.batch a ha

theorem flushes_flush (hb : c.batch ≠ []) (now : Nat) :
    (c.flush now).sink.flushes =
      c.sink.flushes ++ [⟨now, lined (rowsIn shared c.batch)⟩] := by
  simp [h.flush_eq hb, Sink.reveal, Sink.keep, h.pending, h.shared_eq]

end Unhindered

/-- What has been refused stays so, whatever else comes. -/
theorem Cut.mono {flushes later : List Flush} {why : String} {s : Sink}
    (h : Cut limits rows flushes why s) (more : List String) (hlater : flushes <+: later) :
    Cut limits (rows ++ more) later why s := by
  cases h with
  | full hn hlt hwritten hflushes =>
    refine .full hn (by rw [List.length_append]; omega) ?_ (hflushes.trans hlater)
    rwa [List.take_append_of_le_length hlt.le]
  | failed hk hlt hwritten hflushes =>
    obtain ⟨tail, rfl⟩ := hlater
    refine .failed hk (by rw [List.length_append]; omega) ?_ ?_
    · rwa [List.take_append_of_le_length hlt]
    · rwa [List.take_append_of_le_length hlt.le]

/-- A collator beside one with a sink that takes everything: it has done the same, or its sink has
refused and that has ended the printing. -/
inductive Curtailed (shared : Bool) (limits : SinkLimits) (c : Collator) : Collator → Prop
  | along {rows : List String} (h : c.Unhindered shared limits rows)
    (hlimits : limits.Admits rows.length c.sink.flushes.length) :
    Curtailed shared limits c (c.within limits)
  | cut {rows : List String} {d : Collator} {why : String} (h : c.Unhindered shared limits rows)
    (houtcome : d.outcome = some (.error (.io why)))
    (hsink : Cut limits rows c.sink.flushes why d.sink) : Curtailed shared limits c d

section Flush

variable (h : c.Unhindered shared limits rows) (hb : c.batch ≠ []) (now : Nat)
include h hb

/-- Where there is no room for the batch, its first rows are written and the printing ends. -/
theorem Unhindered.flush_full {n : Nat} (hn : limits.lines = some n) (hle : rows.length ≤ n)
    (hlt : n < rows.length + c.batch.length) :
    Curtailed shared limits (c.flush now) ((c.within limits).flush now) := by
  have hlines := h.lines_eq hn
  have hrows : ∀ a ∈ c.batch, IsRow (a.printed c.shared) :=
    fun a ha => (h.held a ha).resolve_left (by simp [hn])
  have hfull := Collator.flush_full (c := c.within limits) hb now hn hrows (hlines.trans_le hle)
    (hlt.trans_eq (by rw [← hlines]; rfl))
  refine .cut (h.flush hb now) (by rw [hfull]) ?_
  rw [hfull, h.flushes_flush hb]
  refine .full hn (by simpa using hlt) ?_ (List.prefix_append ..)
  -- What the batch adds are the rows that were still missing.
  have htake : (rows ++ rowsIn shared c.batch).take n =
      rows ++ (rowsIn shared c.batch).take (n - rows.length) := by
    rw [List.take_append, List.take_of_length_le hle]
  simp only [Sink.written, Sink.keep, within, h.pending, h.flushed, hlines, h.shared_eq, htake,
    lined_append, String.empty_append]

/-- Where the batch cannot be shown, it is written and the printing ends. -/
theorem Unhindered.flush_failed (hroom : ∀ n ∈ limits.lines, rows.length + c.batch.length ≤ n)
    (hk : limits.flush = some c.sink.flushes.length) :
    Curtailed shared limits (c.flush now) ((c.within limits).flush now) := by
  have hfailed := Collator.flush_failed (c := c.within limits) hb now hk h.held
    (fun n hn => (congrArg (· + _) (h.lines_eq hn)).trans_le (hroom n hn)) le_rfl
  refine .cut (h.flush hb now) (by rw [hfailed]) ?_
  rw [hfailed, h.flushes_flush hb]
  refine .failed hk (by simp) ?_ (by simp [Sink.keep, within])
  rw [List.take_of_length_le (by simp), List.map_append, String.join_append]
  simp [Sink.written, Sink.keep, within, h.pending, h.shared_eq]

/-- Where nothing is refused, the batch is printed. -/
theorem Unhindered.flush_along (hroom : ∀ n ∈ limits.lines, rows.length + c.batch.length ≤ n)
    (hshow : ∀ k ∈ limits.flush, c.sink.flushes.length < k) :
    Curtailed shared limits (c.flush now) ((c.within limits).flush now) := by
  have hfits := Collator.flush_fits (c := c.within limits) hb now h.held
    (fun n hn => (congrArg (· + _) (h.lines_eq hn)).trans_le (hroom n hn)) hshow
  have hwithin : (c.within limits).flush now = (c.flush now).within limits := by
    rw [hfits, h.flush_eq hb]
    rfl
  rw [hwithin]
  refine .along (h.flush hb now) ⟨by simpa using hroom, ?_⟩
  simpa [h.flushes_flush hb, Nat.succ_le_iff] using hshow

end Flush

/-- A deed that two collators do side by side. -/
def Respects (shared : Bool) (limits : SinkLimits) (f : Collator → Collator) : Prop :=
  ∀ c d : Collator, Curtailed shared limits c d →
    Curtailed shared limits (c.andThen f) (d.andThen f)

namespace Respects

variable {f g : Collator → Collator}

/-- Two deeds, one after the other. -/
theorem comp (hf : Respects shared limits f) (hg : Respects shared limits g) :
    Respects shared limits fun c => (f c).andThen g := by
  intro c d h
  rw [← andThen_assoc, ← andThen_assoc]
  exact hg _ _ (hf c d h)

/-- What a deed does to a collator that has ended does not matter. -/
theorem congr (hf : Respects shared limits f) (heq : ∀ c, c.outcome = none → g c = f c) :
    Respects shared limits g := by
  have hsame (c : Collator) : c.andThen g = c.andThen f := by
    cases ho : c.outcome with
    | some outcome => rw [andThen_of_ended ho, andThen_of_ended ho]
    | none => rw [andThen_of_open ho, andThen_of_open ho, heq c ho]
  intro c d h
  rw [hsame, hsame]
  exact hf c d h

/-- A deed has to be looked at where the printing goes on: what it does to a sink that takes
everything, and beside it to one that has held out so far. -/
theorem of_open (hf : ∀ {c : Collator} {rows : List String}, c.outcome = none →
    c.Unhindered shared limits rows →
    (∃ more, (f c).Unhindered shared limits (rows ++ more) ∧
      c.sink.flushes <+: (f c).sink.flushes) ∧
    (limits.Admits rows.length c.sink.flushes.length →
      Curtailed shared limits (f c) (f (c.within limits)))) : Respects shared limits f := by
  intro c d h
  cases ho : c.outcome with
  | some outcome =>
    rw [andThen_of_ended ho]
    cases h with
    | along h hlimits =>
      rw [andThen_of_ended (c := c.within limits) ho]
      exact .along h hlimits
    | cut h houtcome hsink =>
      rw [andThen_of_ended houtcome]
      exact .cut h houtcome hsink
  | none =>
    rw [andThen_of_open ho]
    cases h with
    | along h hlimits =>
      rw [andThen_of_open (c := c.within limits) ho]
      exact (hf ho h).2 hlimits
    | cut h houtcome hsink =>
      obtain ⟨⟨more, h', hflushes⟩, -⟩ := hf ho h
      rw [andThen_of_ended houtcome]
      exact .cut h' houtcome (hsink.mono more hflushes)

/-- A deed that leaves the sink alone, and whatever it may hold back. -/
theorem of_quiet (hsink : ∀ c, (f c).sink = c.sink) (hshared : ∀ c, (f c).shared = c.shared)
    (hbatch : ∀ c, (∀ a ∈ c.batch, limits.CountsOne (a.printed shared)) →
      ∀ a ∈ (f c).batch, limits.CountsOne (a.printed shared))
    (hwithin : ∀ c, f (c.within limits) = (f c).within limits) : Respects shared limits f := by
  refine of_open fun {c rows} _ h => ?_
  have h' : (f c).Unhindered shared limits rows := by
    refine ⟨(hshared c).trans h.shared_eq, ?_, ?_, ?_, ?_, h.rows, hbatch c h.batch⟩
    all_goals rw [hsink]
    · exact h.endless
    · exact h.pending
    · exact h.flushed
    · exact h.lines
  refine ⟨⟨[], by rwa [List.append_nil], by rw [hsink]⟩, fun hlimits => ?_⟩
  rw [hwithin]
  exact .along h' (by rwa [hsink])

/-- Printing: a sink takes the batch and shows it, or takes its first rows, or does not show it. -/
theorem flush (now : Nat) : Respects shared limits (Collator.flush · now) := by
  refine of_open fun {c rows} ho h => ?_
  by_cases hb : c.batch = []
  · have hwithin : (c.within limits).flush now = c.within limits :=
      flush_nil (c := c.within limits) hb now
    rw [flush_nil hb, hwithin]
    exact ⟨⟨[], by rwa [List.append_nil], List.prefix_rfl⟩, .along h⟩
  refine ⟨⟨_, h.flush hb now, by simp [h.flushes_flush hb]⟩, fun ⟨hlines, hflushes⟩ => ?_⟩
  by_cases hroom : ∀ n ∈ limits.lines, rows.length + c.batch.length ≤ n
  · by_cases hshow : ∀ k ∈ limits.flush, c.sink.flushes.length < k
    · exact h.flush_along hb now hroom hshow
    · push Not at hshow
      obtain ⟨k, hk, hle⟩ := hshow
      obtain rfl := (hflushes k hk).antisymm hle
      exact h.flush_failed hb now hroom hk
  · push Not at hroom
    obtain ⟨n, hn, hlt⟩ := hroom
    exact h.flush_full hb now hn (hlines n hn) hlt

theorem skip : Respects shared limits id :=
  of_quiet (fun _ => rfl) (fun _ => rfl) (fun _ => id) fun _ => rfl

/-- To print and then to end; a refusal comes before anything else there is to tell. -/
theorem flush_finish (now : Nat) (outcome : Except Failure Unit) :
    Respects shared limits fun c => (c.flush now).finish outcome := by
  have hend : Respects shared limits fun c => { c with outcome := some outcome } :=
    of_quiet (fun _ => rfl) (fun _ => rfl) (fun _ => id) fun _ => rfl
  exact ((flush now).comp hend).congr fun c _ => finish_eq_andThen ..

/-- A line that is on one line if it is printed at all. -/
theorem accept (now : Nat) {a : Arrival}
    (ha : a.isSilent = false → a.fault? = none → limits.CountsOne (a.printed shared)) :
    Respects shared limits (Collator.accept · now a) := by
  cases hs : a.isSilent with
  | true => exact skip.congr fun c _ => by simp [Collator.accept, hs]
  | false =>
    cases hf : a.fault? with
    | some text =>
      exact (flush_finish now _).congr fun c _ => by simp only [Collator.accept, hs, hf]; rfl
    | none =>
      have hpush : Respects shared limits fun c => { c with batch := c.batch ++ [a] } := by
        refine of_quiet (fun _ => rfl) (fun _ => rfl) (fun c hc => ?_) fun _ => rfl
        simpa [or_imp, forall_and] using ⟨hc, ha hs hf⟩
      exact hpush.congr fun c _ => by simp only [Collator.accept, hs, hf]; rfl

theorem acceptAll (now : Nat) {queue : List Arrival} (hqueue : limits.Tidy shared queue) :
    Respects shared limits (Collator.acceptAll now · queue) := by
  induction queue with
  | nil => exact skip
  | cons a rest ih =>
    obtain ⟨ha, hrest⟩ := List.forall_mem_cons.1 hqueue
    exact (accept now ha).comp (ih hrest)

theorem drain (now : Nat) {queue : List Arrival} (hqueue : limits.Tidy shared queue) :
    Respects shared limits (Collator.drain · now queue) :=
  (acceptAll now hqueue).comp (flush_finish now (.ok ()))

end Respects

/-- The deed that a collator does next, and the channel as it leaves it. Which one it is does not
depend on the sink. -/
def deed? (c : Collator) (now : Nat) (stopped : Bool) (channel : Run.Channel Arrival) :
    Option ((Collator → Collator) × Run.Channel Arrival) :=
  if c.outcome.isSome then none
  else if stopped then some ((drain · now channel.queue), channel.drained)
  else
    match channel.take? with
    | some (a, channel) => some (fun c => (c.accept now a).andThen (arm · now), channel)
    | none =>
      if channel.senders = 0 then some (fun c => (c.flush now).finish (.ok ()), channel)
      else if c.isDue now then some (fun c => { c with flushAt := none }.flush now, channel)
      else none

section Step

variable {now : Nat} {stopped : Bool} {channel channel' : Run.Channel Arrival}

theorem step_eq_deed (c : Collator) (now : Nat) (stopped : Bool) (channel : Run.Channel Arrival) :
    c.step now stopped channel =
      (c.deed? now stopped channel).map fun (f, channel) => (f c, channel) := by
  unfold step deed?
  split
  · rfl
  split
  · rfl
  cases channel.take? with
  | some taken => rfl
  | none =>
    simp only
    split
    · rfl
    split <;> rfl

theorem outcome_of_deed {f : Collator → Collator}
    (h : c.deed? now stopped channel = some (f, channel')) : c.outcome = none := by
  unfold deed? at h
  split at h
  · cases h
  · simpa using ‹¬c.outcome.isSome = true›

/-- **Whatever a collator does, both do it side by side.** -/
theorem respects_of_deed {f : Collator → Collator} (hqueue : limits.Tidy shared channel.queue)
    (h : c.deed? now stopped channel = some (f, channel')) : Respects shared limits f := by
  unfold deed? at h
  split at h
  · cases h
  split at h
  · cases h
    exact .drain now hqueue
  split at h
  · rename_i a rest htake
    cases h
    have ha := hqueue a (by simp [(Run.Channel.take?_some htake).1])
    have harm : Respects shared limits (arm · now) :=
      .of_quiet (fun _ => rfl) (fun _ => rfl) (fun _ => id) fun _ => rfl
    exact (Respects.accept now ha).comp harm
  split at h
  · cases h
    exact .flush_finish now (.ok ())
  split at h
  · cases h
    have hclear : Respects shared limits fun c => { c with flushAt := none } :=
      .of_quiet (fun _ => rfl) (fun _ => rfl) (fun _ => id) fun _ => rfl
    refine (hclear.comp (.flush now)).congr fun c ho => ?_
    exact (andThen_of_open (c := { c with flushAt := none }) ho (flush · now)).symm
  · cases h

end Step

/-! ### What is left -/

/-- What has been written on a sink that takes `n` lines, beside what is written on one that takes
everything. -/
structure FillsUp (n : Nat) (c d : Collator) : Prop where
  /-- All that would be written are whole rows. -/
  whole : c.sink.written = lined (rowsOf c.sink.written)
  lines : c.sink.lines = (rowsOf c.sink.written).length
  written : d.sink.written = lined ((rowsOf c.sink.written).take n)
  flushes : d.sink.flushes <+: c.sink.flushes
  full : n < c.sink.lines → d.outcome = some (.error (.io "sink is full"))
  room : c.sink.lines ≤ n → d = c.within ⟨some n, none⟩

/-- What a sink shows that fails at its `k`-th flush, beside one that never fails. -/
structure FailsAt (k : Nat) (c d : Collator) : Prop where
  flushed : d.sink.flushes = c.sink.flushes.take k
  /-- What it has failed to show has been written, and no more. -/
  written : d.sink.written = String.join ((c.sink.flushes.take (k + 1)).map Flush.text)
  failed : k < c.sink.flushes.length → d.outcome = some (.error (.io "flush failed"))
  sound : c.sink.flushes.length ≤ k → d = c.within ⟨none, some k⟩

namespace Curtailed

/-- As long as the printing goes on, both have done the same. -/
theorem eq_of_open (h : Curtailed shared limits c d) (ho : d.outcome = none) :
    d = c.within limits := by
  cases h with
  | along => rfl
  | cut _ houtcome => simp [houtcome] at ho

theorem fillsUp {n : Nat} (h : Curtailed shared ⟨some n, none⟩ c d) : FillsUp n c d := by
  cases h with
  | @along rows h hlimits =>
    have hle : rows.length ≤ n := hlimits.1 n rfl
    have hread := h.rowsOf_written rfl
    refine ⟨hread ▸ h.written_eq, hread ▸ h.lines_eq rfl, ?_, List.prefix_rfl, fun hlt => ?_,
      fun _ => rfl⟩
    · rw [hread, List.take_of_length_le hle]
      exact h.written_eq
    · rw [h.lines_eq rfl] at hlt
      omega
  | @cut rows _ _ h houtcome hsink =>
    have hread := h.rowsOf_written rfl
    cases hsink with
    | full hn hlt hwritten hflushes =>
      cases hn
      refine ⟨hread ▸ h.written_eq, hread ▸ h.lines_eq rfl, hread ▸ hwritten, hflushes,
        fun _ => houtcome, fun hle => ?_⟩
      rw [h.lines_eq rfl] at hle
      omega
    | failed hk => cases hk

theorem failsAt {k : Nat} (h : Curtailed shared ⟨none, some k⟩ c d) : FailsAt k c d := by
  cases h with
  | along h hlimits =>
    have hle : c.sink.flushes.length ≤ k := hlimits.2 k rfl
    refine ⟨(List.take_of_length_le hle).symm, ?_, fun hlt => by omega, fun _ => rfl⟩
    rw [List.take_of_length_le (by omega)]
    exact h.written_eq.trans h.flushed.symm
  | cut h houtcome hsink =>
    cases hsink with
    | full hn => cases hn
    | failed hk hlt hwritten hflushes =>
      cases hk
      exact ⟨hflushes, hwritten, fun _ => houtcome, fun hle => by omega⟩

/-- The printing ends well only if nothing has been refused. -/
theorem eq_of_ok (h : Curtailed shared limits c d) (hok : d.outcome = some (.ok ())) :
    limits.Admits c.sink.lines c.sink.flushes.length ∧ d = c.within limits := by
  cases h with
  | along h hlimits =>
    exact ⟨⟨fun n hn => (h.lines_eq hn).trans_le (hlimits.1 n hn), hlimits.2⟩, rfl⟩
  | cut _ houtcome =>
    rw [houtcome] at hok
    cases hok

end Curtailed

end Collator

end LogWeave

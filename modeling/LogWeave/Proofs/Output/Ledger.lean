import LogWeave.Output.Collator
import LogWeave.Proofs.Run.Channel
import Mathlib.Data.List.TakeWhile

/-! What a collator makes of the lines it takes.

An `Account` sets the lines taken from the channel against what has been printed: up to the first
line that tells of a stream broken for good, the lines that are not silent are those of the batches
printed so far, one batch a flush, and those still held back. Every step of a collator keeps the
account, unless the sink refuses and that ends the printing (`Accounted.step`). A `Ledger` is the
account of a sink that takes everything, which no step can spoil (`Ledger.step`). -/
namespace LogWeave

/-- An entry on a line of its own. -/
def Entry.row (shared : Bool) (e : Entry) : String := e.printed shared ++ "\n"

/-- A batch as it is printed: in the order of its times, an entry a line. -/
def rendering (shared : Bool) (batch : List Arrival) : String :=
  String.join ((collate batch).map (Entry.row shared))

@[simp] theorem rendering_nil (shared : Bool) : rendering shared [] = "" := by
  simp [rendering, collate]

/-- Batch after batch, an entry a line. -/
theorem join_renderings (shared : Bool) (batches : List (List Arrival)) :
    String.join (batches.map (rendering shared)) =
      String.join ((batches.flatMap collate).map (Entry.row shared)) := by
  induction batches with
  | nil => rfl
  | cons batch rest ih =>
    rw [List.map_cons, String.join_cons, ih, List.flatMap_cons, List.map_append,
      String.join_append, rendering]

/-- The lines that are to be printed: those before the first fault, without the silent ones. -/
def printable (as : List Arrival) : List Arrival :=
  (as.takeWhile fun a => a.fault?.isNone).filter fun a => !a.isSilent

/-- How the printing of these lines ends: with the first fault among them, if there is one. -/
def verdict : List Arrival → Except Failure Unit
  | [] => .ok ()
  | a :: rest =>
    match a.fault? with
    | some text => .error (.transport ("read logs for " ++ a.source ++ ": " ++ text))
    | none => verdict rest

section Lines

variable {as : List Arrival} {a : Arrival}

/-- Without a fault all but the silent lines are printed. -/
theorem printable_sound (h : ∀ b ∈ as, b.fault? = none) :
    printable as = as.filter fun a => !a.isSilent := by
  rw [printable, List.takeWhile_eq_self_iff.2 (by simpa using h)]

theorem printable_append (h : ∀ b ∈ as, b.fault? = none) (bs : List Arrival) :
    printable (as ++ bs) = printable as ++ printable bs := by
  have hall : ∀ b ∈ as, (fun b : Arrival => b.fault?.isNone) b = true := fun b hb => by
    simp [h b hb]
  rw [printable_sound h]
  simp only [printable, List.takeWhile_append_of_pos hall, List.filter_append]

/-- What has been printed stays so, whatever comes. -/
theorem printable_extends (as bs : List Arrival) : printable as <+: printable (as ++ bs) := by
  refine List.IsPrefix.filter _ ?_
  rw [List.takeWhile_append]
  split
  · exact (List.takeWhile_prefix _).trans (List.prefix_append ..)
  · exact List.prefix_rfl

theorem printable_fault {text : String} (h : a.fault? = some text) (bs : List Arrival) :
    printable (a :: bs) = [] := by
  simp [printable, h]

theorem printable_silent (h : a.isSilent = true) (hf : a.fault? = none) : printable [a] = [] := by
  simp [printable, h, hf]

theorem printable_plain (h : a.isSilent = false) (hf : a.fault? = none) : printable [a] = [a] := by
  simp [printable, h, hf]

/-- A silent line tells of no fault. -/
theorem fault?_of_silent (h : a.isSilent = true) : a.fault? = none := by
  simp only [Arrival.isSilent, Bool.and_eq_true, beq_iff_eq] at h
  simp [Arrival.fault?, h.2]

theorem verdict_append (h : ∀ b ∈ as, b.fault? = none) (bs : List Arrival) :
    verdict (as ++ bs) = verdict bs := by
  induction as with
  | nil => rfl
  | cons b rest ih =>
    simp only [List.cons_append, verdict, h b (List.mem_cons_self ..)]
    exact ih fun c hc => h c (List.mem_cons_of_mem b hc)

theorem verdict_sound (h : ∀ b ∈ as, b.fault? = none) : verdict as = .ok () := by
  have := verdict_append h []
  rwa [List.append_nil] at this

theorem sound_of_verdict (h : verdict as = .ok ()) : ∀ b ∈ as, b.fault? = none := by
  induction as with
  | nil => simp
  | cons b rest ih =>
    cases hf : b.fault? with
    | some text => simp [verdict, hf] at h
    | none =>
      simp only [verdict, hf] at h
      exact List.forall_mem_cons.2 ⟨hf, ih h⟩

/-- A failure is the first fault among the lines. -/
theorem fault_of_verdict {failure : Failure} (h : verdict as = .error failure) :
    ∃ before b rest text, as = before ++ b :: rest ∧ (∀ c ∈ before, c.fault? = none) ∧
      b.fault? = some text ∧
      failure = .transport ("read logs for " ++ b.source ++ ": " ++ text) := by
  induction as with
  | nil => cases h
  | cons b rest ih =>
    cases hf : b.fault? with
    | some text =>
      simp only [verdict, hf, Except.error.injEq] at h
      exact ⟨[], b, rest, text, rfl, by simp, hf, h.symm⟩
    | none =>
      simp only [verdict, hf] at h
      obtain ⟨before, c, later, text, rfl, hsound, hc, hfailure⟩ := ih h
      exact ⟨b :: before, c, later, text, rfl, List.forall_mem_cons.2 ⟨hf, hsound⟩, hc, hfailure⟩

/-- What is printed of lines with a fault is what comes before it. -/
theorem printable_split (h : ∀ b ∈ as, b.fault? = none) {text : String}
    (ha : a.fault? = some text) (rest : List Arrival) :
    printable (as ++ a :: rest) = as.filter fun b => !b.isSilent := by
  rw [printable_append h, printable_fault ha, List.append_nil, printable_sound h]

/-- After a fault nothing counts any more. -/
theorem verdict_extend {failure : Failure} (h : verdict as = .error failure) (bs : List Arrival) :
    verdict (as ++ bs) = .error failure ∧ printable (as ++ bs) = printable as := by
  induction as with
  | nil => cases h
  | cons b rest ih =>
    cases hf : b.fault? with
    | some text =>
      refine ⟨?_, by rw [List.cons_append, printable_fault hf, printable_fault hf]⟩
      simpa only [List.cons_append, verdict, hf] using h
    | none =>
      simp only [verdict, hf] at h
      obtain ⟨hv, hp⟩ := ih h
      have hb : ∀ c ∈ [b], c.fault? = none := by simpa using hf
      refine ⟨by simpa only [List.cons_append, verdict, hf] using hv, ?_⟩
      have h1 := printable_append hb (rest ++ bs)
      have h2 := printable_append hb rest
      simp only [List.singleton_append] at h1 h2
      rw [List.cons_append, h1, h2, hp]

end Lines

namespace Sink

/-- The sink takes everything and never fails. -/
def IsEndless (s : Sink) : Prop := s.limits = ⟨none, none⟩

/-- The sink takes no more lines, or fails when it is to show those it has. -/
def refuses (s : Sink) : Bool := s.isFull || s.limits.flush.any (· ≤ s.flushes.length)

theorem refuses_endless {s : Sink} (h : s.IsEndless) : s.refuses = false := by
  simp [refuses, isFull, show s.limits = ⟨none, none⟩ from h]

theorem endsWith_newline (text : String) : (text ++ "\n").endsWith "\n" = true := by
  rw [String.endsWith_eq_endsWith_toSlice, String.Slice.endsWith_string_iff]
  simp

/-- What can come of writing a text: it is all kept, or the sink refuses and keeps the beginning. -/
inductive Wrote (s : Sink) (text : String) : Written → Prop where
  | kept {t : Sink} (hl : t.limits = s.limits) (hf : t.flushes = s.flushes)
    (hp : t.pending = s.pending ++ text) : Wrote s text (t, .ok ())
  | refused {t : Sink} (why : String) (hl : t.limits = s.limits) (hf : t.flushes = s.flushes)
    (hp : ∃ lost, t.pending ++ lost = s.pending ++ text) (hr : t.refuses = true) :
    Wrote s text (t, .error (.io why))

/-- One text is written after another. -/
theorem Wrote.after {s t : Sink} {text later : String} {x : Written} (h : Wrote t later x)
    (hl : t.limits = s.limits) (hf : t.flushes = s.flushes) (hp : t.pending = s.pending ++ text) :
    Wrote s (text ++ later) x := by
  cases h with
  | kept hl' hf' hp' =>
    exact .kept (hl'.trans hl) (hf'.trans hf) (by rw [hp', hp, String.append_assoc])
  | refused why hl' hf' hp' hr =>
    obtain ⟨lost, hlost⟩ := hp'
    exact .refused why (hl'.trans hl) (hf'.trans hf)
      ⟨lost, by rw [hlost, hp, String.append_assoc]⟩ hr

theorem wrote_full {s : Sink} (h : s.isFull = true) (text : String) :
    Wrote s text (s, .error (.io "sink is full")) :=
  .refused _ rfl rfl ⟨text, rfl⟩ (by simp [refuses, h])

/-- A line that is written to its newline is kept whole. -/
theorem wrote_writeFrom (s : Sink) (written : String) (portions : List String) :
    Wrote s (written ++ String.join portions ++ "\n")
      (writeFrom written s (portions ++ ["\n"])) := by
  induction portions generalizing s written with
  | nil =>
    simp only [List.nil_append, writeFrom, endsWith_newline, if_true]
    split
    · exact wrote_full ‹_› _
    · exact .kept rfl rfl (by simp [keep])
  | cons portion rest ih =>
    simp only [List.cons_append, writeFrom]
    split
    · exact wrote_full ‹_› _
    split
    · have h := (ih (s.keep (written ++ portion)) "").after (s := s) rfl rfl rfl
      simpa [String.append_assoc] using h
    · simpa [String.append_assoc] using ih s (written ++ portion)

/-- What has been written is shown, or the sink refuses. -/
theorem flush_cases (s : Sink) (now : Nat) :
    s.flush now = .ok { s with
      flushes := s.flushes ++ [⟨now, s.pending⟩], pending := "", shown := s.lines } ∨
    s.flush now = .error (.io "flush failed") ∧ s.refuses = true := by
  unfold flush
  cases hl : s.limits.flush with
  | none => exact .inl rfl
  | some n =>
    by_cases hn : n ≤ s.flushes.length
    · exact .inr ⟨by simp [hn], by simp [refuses, hl, hn]⟩
    · exact .inl (by simp [hn])

end Sink

namespace Entry

/-- The portions of a line end with its newline. -/
theorem portions_newline (e : Entry) (shared : Bool) :
    ∃ portions, e.portions shared = portions ++ ["\n"] := by
  unfold portions
  split
  · exact ⟨[_], rfl⟩
  · split
    · exact ⟨[_, _], rfl⟩
    · exact ⟨[_], rfl⟩

theorem wrote_write (s : Sink) (e : Entry) (shared : Bool) :
    s.Wrote (e.row shared) (s.write (e.portions shared)) := by
  obtain ⟨portions, hp⟩ := e.portions_newline shared
  have hjoin := e.join_portions shared
  rw [hp, String.join_append] at hjoin
  have hrow : "" ++ String.join portions ++ "\n" = e.row shared := by simpa [row] using hjoin
  rw [hp, ← hrow]
  exact Sink.wrote_writeFrom s "" portions

end Entry

namespace Collator

theorem wrote_writeAll (s : Sink) (shared : Bool) (es : List Entry) :
    s.Wrote (String.join (es.map (Entry.row shared))) (writeAll shared s es) := by
  induction es generalizing s with
  | nil => exact .kept rfl rfl (by simp)
  | cons e rest ih =>
    have h := e.wrote_write s shared
    rw [List.map_cons, String.join_cons, writeAll]
    generalize s.write (e.portions shared) = x at h ⊢
    cases h with
    | kept hl hf hp => exact (ih _).after hl hf hp
    | refused why hl hf hp hr =>
      obtain ⟨lost, hlost⟩ := hp
      refine .refused why hl hf ⟨lost ++ String.join (rest.map (Entry.row shared)), ?_⟩ hr
      rw [← String.append_assoc, hlost, String.append_assoc]

/-- A batch that holds something is printed in one flush, or the sink refuses and the beginning of
it has been written. -/
theorem print_cases {s : Sink} (hp : s.pending = "") (shared : Bool) (now : Nat)
    {batch : List Arrival} (hb : batch ≠ []) :
    (∃ t : Sink, print shared now s batch = (t, .ok ()) ∧ t.limits = s.limits ∧ t.pending = "" ∧
      t.flushes = s.flushes ++ [⟨now, rendering shared batch⟩]) ∨
    ∃ (t : Sink) (why lost : String), print shared now s batch = (t, .error (.io why)) ∧
      t.limits = s.limits ∧ t.flushes = s.flushes ∧
      t.pending ++ lost = rendering shared batch ∧ t.refuses = true := by
  have h := wrote_writeAll s shared (collate batch)
  simp only [print, List.isEmpty_iff, hb, if_false]
  generalize writeAll shared s (collate batch) = x at h ⊢
  cases h with
  | refused why hl hf hpend hr =>
    obtain ⟨lost, hlost⟩ := hpend
    rw [hp, String.empty_append] at hlost
    exact .inr ⟨_, why, lost, rfl, hl, hf, hlost, hr⟩
  | @kept t hl hf hpend =>
    rw [hp, String.empty_append] at hpend
    rcases t.flush_cases now with ht | ⟨ht, hr⟩
    · refine .inl ⟨{ t with
        flushes := t.flushes ++ [⟨now, t.pending⟩], pending := "", shown := t.lines },
        by simp only [ht], hl, rfl, ?_⟩
      simp only [hf, hpend, rendering]
    · exact .inr ⟨t, "flush failed", "", by simp only [ht], hl, hf,
        by rw [hpend, String.append_empty, rendering], hr⟩

/-- A sink that takes everything shows the whole batch. -/
theorem flushes_flush {c : Collator} (he : c.sink.IsEndless) (hp : c.sink.pending = "")
    (hb : c.batch ≠ []) (now : Nat) : (c.flush now).sink.pending = "" ∧
      (c.flush now).sink.flushes = c.sink.flushes ++ [⟨now, rendering c.shared c.batch⟩] := by
  rcases print_cases hp c.shared now hb with
    ⟨sink, hprint, -, hpending, hfl⟩ | ⟨sink, why, lost, -, hl, -, -, hr⟩
  · simp only [Collator.flush, hprint, hpending, hfl, and_self]
  · rw [Sink.refuses_endless (hl.trans he)] at hr
    cases hr

/-- When its window closes and nothing is there to be taken, a collator prints. -/
theorem step_due {c : Collator} {now : Nat} {channel : Run.Channel Arrival}
    (ho : c.outcome = none) (hq : channel.queue = []) (hs : channel.senders ≠ 0)
    (hd : c.isDue now = true) :
    c.step now false channel = some ({ c with flushAt := none }.flush now, channel) := by
  simp [step, ho, Run.Channel.take?, hq, hs, hd]

/-- A collator takes lines off the front of the channel, and does nothing else to it. -/
theorem step_channel {c c' : Collator} {now : Nat} {stopped : Bool}
    {channel channel' : Run.Channel Arrival}
    (h : c.step now stopped channel = some (c', channel')) :
    ∃ more, channel.queue = more ++ channel'.queue ∧
      channel' = { channel with queue := channel'.queue } := by
  unfold step at h
  split at h
  · cases h
  split at h
  · cases h
    exact ⟨channel.queue, by simp [Run.Channel.drained], rfl⟩
  split at h
  · rename_i a rest htake
    cases h
    obtain ⟨hq, hrest⟩ := Run.Channel.take?_some htake
    exact ⟨[a], hq, hrest⟩
  split at h
  · cases h
    exact ⟨[], rfl, rfl⟩
  split at h
  · cases h
    exact ⟨[], rfl, rfl⟩
  · cases h

section Outcome

variable {c : Collator}

/-- A collator that has ended takes no more steps. -/
theorem outcome_of_step {c' : Collator} {now : Nat} {stopped : Bool}
    {channel channel' : Run.Channel Arrival}
    (hs : c.step now stopped channel = some (c', channel')) : c.outcome = none := by
  unfold step at hs
  split at hs
  · cases hs
  · rename_i hopen
    simpa using hopen

/-- When stopped a collator takes all there is. -/
theorem step_stopped {c' : Collator} {now : Nat} {channel channel' : Run.Channel Arrival}
    (hs : c.step now true channel = some (c', channel')) : channel'.queue = [] := by
  unfold step at hs
  split at hs
  · cases hs
  · cases hs
    rfl

/-- Printing ends with a failure or not at all. -/
theorem flush_failure (ho : c.outcome = none) (now : Nat) {outcome : Except Failure Unit}
    (h : (c.flush now).outcome = some outcome) : ∃ failure, outcome = .error failure := by
  unfold flush at h
  split at h
  · rw [ho] at h
    cases h
  · rename_i failure _
    exact ⟨failure, (Option.some.inj h).symm⟩

theorem accept_failure (ho : c.outcome = none) (now : Nat) (a : Arrival)
    {outcome : Except Failure Unit} (h : (c.accept now a).outcome = some outcome) :
    ∃ failure, outcome = .error failure := by
  unfold accept at h
  split at h
  · rw [ho] at h
    cases h
  split at h
  · rename_i text _
    cases hflush : (c.flush now).outcome with
    | none =>
      simp only [finish, hflush, Option.none_or, Option.some.injEq] at h
      exact ⟨_, h.symm⟩
    | some earlier =>
      simp only [finish, hflush, Option.some_or, Option.some.injEq] at h
      exact h ▸ flush_failure ho now hflush
  · rw [ho] at h
    cases h

/-- **The printing ends well only when it is stopped or with the last sender**, and then nothing is
left in the channel. -/
theorem step_ok {c' : Collator} {now : Nat} {stopped : Bool}
    {channel channel' : Run.Channel Arrival}
    (hs : c.step now stopped channel = some (c', channel')) (hok : c'.outcome = some (.ok ())) :
    channel'.queue = [] ∧ (stopped = true ∨ channel.senders = 0) := by
  unfold step at hs
  split at hs
  · cases hs
  rename_i hopen
  have ho : c.outcome = none := by simpa using hopen
  split at hs
  · rename_i hstop
    cases hs
    exact ⟨rfl, .inl hstop⟩
  split at hs
  · rename_i a rest htake
    cases hs
    have haccept : (c.accept now a).outcome = some (.ok ()) := by
      split at hok <;> exact hok
    obtain ⟨failure, hfailure⟩ := accept_failure ho now a haccept
    cases hfailure
  split at hs
  · rename_i htake hsenders
    cases hs
    exact ⟨Run.Channel.take?_none htake, .inr hsenders⟩
  split at hs
  · cases hs
    obtain ⟨failure, hfailure⟩ := flush_failure (c := { c with flushAt := none }) ho now hok
    cases hfailure
  · cases hs

end Outcome

/-! ### The account of any sink -/

/-- The lines that a collator has taken, against the batches it has printed and the one it holds,
when its sink has these limits. -/
structure Account (shared : Bool) (limits : SinkLimits) (c : Collator) (taken : List Arrival)
    (batches : List (List Arrival)) : Prop where
  shared_eq : c.shared = shared
  limits_eq : c.sink.limits = limits
  pending : c.sink.pending = ""
  /-- One flush a batch. -/
  flushed : c.sink.flushes.map Flush.text = batches.map (rendering shared)
  nonempty : ∀ b ∈ batches, b ≠ []
  split : batches.flatten ++ c.batch = printable taken
  sound : c.outcome = none → ∀ a ∈ taken, a.fault? = none
  ended : ∀ outcome, c.outcome = some outcome → c.batch = [] ∧ outcome = verdict taken

/-- The sink has refused, and that has ended the printing: after some batches, of the next one the
beginning has been written. -/
structure Spoilt (shared : Bool) (limits : SinkLimits) (c : Collator) (taken : List Arrival) :
    Prop where
  limits_eq : c.sink.limits = limits
  refuses : c.sink.refuses = true
  outcome : ∃ why, c.outcome = some (.error (.io why))
  torn : ∃ (batches : List (List Arrival)) (batch : List Arrival) (lost : String),
    batches.flatten ++ batch <+: printable taken ∧
    c.sink.flushes.map Flush.text = batches.map (rendering shared) ∧
    c.sink.pending ++ lost = rendering shared batch

/-- The lines taken are accounted for, or the sink has refused. -/
def Accounted (shared : Bool) (limits : SinkLimits) (c : Collator) (taken : List Arrival) : Prop :=
  (∃ batches, Account shared limits c taken batches) ∨ Spoilt shared limits c taken

section Account

variable {shared : Bool} {limits : SinkLimits} {c : Collator} {taken : List Arrival}
  {batches : List (List Arrival)}

namespace Account

theorem new (window : Nat) (shared : Bool) (limits : SinkLimits) :
    Account shared limits (Collator.new window shared (.new limits)) [] [] where
  shared_eq := rfl
  limits_eq := rfl
  pending := rfl
  flushed := rfl
  nonempty := by simp
  split := rfl
  sound := by simp
  ended := by simp [Collator.new]

/-- Times of printing do not enter the account. -/
theorem setFlushAt (h : Account shared limits c taken batches) (time : Option Nat) :
    Account shared limits { c with flushAt := time } taken batches :=
  ⟨h.shared_eq, h.limits_eq, h.pending, h.flushed, h.nonempty, h.split, h.sound, h.ended⟩

/-- Printing moves the batch to the printed ones. -/
theorem flush (h : Account shared limits c taken batches) (ho : c.outcome = none) (now : Nat) :
    (∃ batches', Account shared limits (c.flush now) taken batches' ∧
      (c.flush now).outcome = none ∧ (c.flush now).batch = []) ∨
    Spoilt shared limits (c.flush now) taken := by
  by_cases hb : c.batch = []
  · have hflush : c.flush now = c := by
      obtain ⟨window, _, batch, flushAt, sink, outcome⟩ := c
      simp only at hb
      subst hb
      rfl
    rw [hflush]
    exact .inl ⟨batches, h, ho, hb⟩
  rcases print_cases h.pending c.shared now hb with
    ⟨sink, hprint, hl, hp, hfl⟩ | ⟨sink, why, lost, hprint, hl, hfl, hlost, hr⟩
  · have hflush : c.flush now = { c with batch := [], sink } := by
      simp only [Collator.flush, hprint]
    rw [hflush]
    refine .inl ⟨batches ++ [c.batch],
      ⟨h.shared_eq, hl.trans h.limits_eq, hp, ?_, ?_, ?_, h.sound, ?_⟩, ho, rfl⟩
    · simp only [hfl, List.map_append, h.flushed, List.map_cons, List.map_nil, h.shared_eq]
    · intro b hmem
      rcases List.mem_append.1 hmem with hmem | hmem
      · exact h.nonempty b hmem
      · rwa [List.mem_singleton.1 hmem]
    · simpa using h.split
    · intro outcome heq
      rw [ho] at heq
      cases heq
  · have hflush : c.flush now =
        { c with batch := [], sink, outcome := some (.error (.io why)) } := by
      simp only [Collator.flush, hprint]
    rw [hflush]
    refine .inr ⟨hl.trans h.limits_eq, hr, ⟨why, rfl⟩, batches, c.batch, lost, ?_, ?_, ?_⟩
    · exact h.split ▸ List.prefix_rfl
    · exact (congrArg (List.map Flush.text) hfl).trans h.flushed
    · exact h.shared_eq ▸ hlost

/-- With nothing held back the printing may end. -/
theorem finish (h : Account shared limits c taken batches) (ho : c.outcome = none)
    (hb : c.batch = []) (outcome : Except Failure Unit) (more : List Arrival)
    (hv : outcome = verdict (taken ++ more)) (hp : printable (taken ++ more) = printable taken) :
    Account shared limits (c.finish outcome) (taken ++ more) batches where
  shared_eq := h.shared_eq
  limits_eq := h.limits_eq
  pending := h.pending
  flushed := h.flushed
  nonempty := h.nonempty
  split := h.split.trans hp.symm
  sound := by simp [Collator.finish, ho]
  ended := by
    intro o heq
    simp only [Collator.finish, ho, Option.none_or, Option.some.injEq] at heq
    exact ⟨hb, heq ▸ hv⟩

/-- After a fault the collator answers for no more lines. -/
theorem extend (h : Account shared limits c taken batches) {failure : Failure}
    (ho : c.outcome = some (.error failure)) (more : List Arrival) :
    Account shared limits c (taken ++ more) batches := by
  obtain ⟨hb, hv⟩ := h.ended _ ho
  obtain ⟨hv', hp⟩ := verdict_extend hv.symm more
  refine ⟨h.shared_eq, h.limits_eq, h.pending, h.flushed, h.nonempty, h.split.trans hp.symm, ?_, ?_⟩
  · intro hn
    rw [ho] at hn
    cases hn
  · intro outcome heq
    rw [ho, Option.some.injEq] at heq
    exact ⟨hb, heq ▸ hv'.symm⟩

end Account

/-- A refusal is what the printing ends with, whatever else there is to tell. -/
theorem Spoilt.finish (h : Spoilt shared limits c taken) (outcome : Except Failure Unit) :
    Spoilt shared limits (c.finish outcome) taken := by
  obtain ⟨why, hwhy⟩ := h.outcome
  exact ⟨h.limits_eq, h.refuses, ⟨why, by simp [Collator.finish, hwhy]⟩, h.torn⟩

/-- What comes after it is not printed any more. -/
theorem Spoilt.extend (h : Spoilt shared limits c taken) (more : List Arrival) :
    Spoilt shared limits c (taken ++ more) := by
  obtain ⟨batches, batch, lost, hprefix, hflushed, hpending⟩ := h.torn
  exact ⟨h.limits_eq, h.refuses, h.outcome, batches, batch, lost,
    hprefix.trans (printable_extends taken more), hflushed, hpending⟩

/-- The sink refuses nothing as long as the printing goes on. -/
theorem Accounted.open (h : Accounted shared limits c taken) (ho : c.outcome = none) :
    ∃ batches, Account shared limits c taken batches := by
  refine h.resolve_right fun hs => ?_
  obtain ⟨why, hwhy⟩ := hs.outcome
  rw [ho] at hwhy
  cases hwhy

/-- One line more. -/
theorem Account.accept (h : Account shared limits c taken batches) (ho : c.outcome = none)
    (now : Nat) (a : Arrival) : Accounted shared limits (c.accept now a) (taken ++ [a]) := by
  have hsound := h.sound ho
  cases hs : a.isSilent with
  | true =>
    have hf := fault?_of_silent hs
    have hp : printable (taken ++ [a]) = printable taken := by
      rw [printable_append hsound, printable_silent hs hf, List.append_nil]
    have haccept : c.accept now a = c := by simp [Collator.accept, hs]
    rw [haccept]
    refine .inl ⟨batches, h.shared_eq, h.limits_eq, h.pending, h.flushed, h.nonempty,
      h.split.trans hp.symm, fun _ => ?_, by simp [ho]⟩
    simpa [or_imp, forall_and, hf] using hsound
  | false =>
    cases hf : a.fault? with
    | some text =>
      have haccept : c.accept now a =
          (c.flush now).finish (.error (broken a.source text)) := by
        simp [Collator.accept, hs, hf]
      rw [haccept]
      rcases h.flush ho now with ⟨batches', h', ho', hb'⟩ | hspoilt
      · refine .inl ⟨batches', h'.finish ho' hb' _ [a] ?_ ?_⟩
        · simp only [verdict_append hsound, verdict, hf, broken, Failure.during,
            String.append_assoc]
        · rw [printable_append hsound, printable_fault hf, List.append_nil]
      · exact .inr ((hspoilt.finish _).extend [a])
    | none =>
      have hp : printable (taken ++ [a]) = printable taken ++ [a] := by
        rw [printable_append hsound, printable_plain hs hf]
      have haccept : c.accept now a = { c with batch := c.batch ++ [a] } := by
        simp [Collator.accept, hs, hf]
      rw [haccept]
      refine .inl ⟨batches, h.shared_eq, h.limits_eq, h.pending, h.flushed, h.nonempty, ?_,
        fun _ => ?_, by simp [ho]⟩
      · rw [hp, ← h.split, List.append_assoc]
      · simpa [or_imp, forall_and, hf] using hsound

/-- The lines of a queue, up to a fault if there is one. -/
theorem Account.acceptAll (h : Account shared limits c taken batches) (ho : c.outcome = none)
    (now : Nat) (queue : List Arrival) :
    Accounted shared limits (Collator.acceptAll now c queue) (taken ++ queue) := by
  induction queue generalizing c taken batches with
  | nil =>
    rw [List.append_nil]
    exact .inl ⟨batches, h⟩
  | cons a rest ih =>
    have h' := h.accept ho now a
    have happend : taken ++ a :: rest = taken ++ [a] ++ rest := by simp
    simp only [Collator.acceptAll, happend]
    split
    · rename_i hsome
      obtain ⟨outcome, hout⟩ := Option.isSome_iff_exists.1 hsome
      obtain ⟨failure, rfl⟩ := accept_failure ho now a hout
      rcases h' with ⟨batches', h'⟩ | hspoilt
      · exact .inl ⟨batches', h'.extend hout rest⟩
      · exact .inr (hspoilt.extend rest)
    · rename_i hnot
      have hopen : (c.accept now a).outcome = none := by simpa using hnot
      obtain ⟨batches', h'⟩ := h'.open hopen
      exact ih h' hopen

/-- Whatever was taken, an end without a fault comes after the last batch. -/
theorem Account.finish_ok (h : Account shared limits c taken batches) (ho : c.outcome = none)
    (now : Nat) : Accounted shared limits ((c.flush now).finish (.ok ())) taken := by
  rcases h.flush ho now with ⟨batches', h', ho', hb'⟩ | hspoilt
  · have hfinish := h'.finish ho' hb' (.ok ()) []
      (by rw [List.append_nil, verdict_sound (h'.sound ho')]) (by rw [List.append_nil])
    exact .inl ⟨batches', by rwa [List.append_nil] at hfinish⟩
  · exact .inr (hspoilt.finish _)

/-- **A step of the collator takes some lines off the channel and keeps the account of all it has
taken**, or the sink refuses. -/
theorem Accounted.step (h : Accounted shared limits c taken) {now : Nat} {stopped : Bool}
    {channel channel' : Run.Channel Arrival} {c' : Collator}
    (hs : c.step now stopped channel = some (c', channel')) :
    ∃ more, channel.queue = more ++ channel'.queue ∧
      Accounted shared limits c' (taken ++ more) := by
  unfold Collator.step at hs
  split at hs
  · cases hs
  rename_i hopen
  have ho : c.outcome = none := by simpa using hopen
  obtain ⟨batches, h⟩ := h.open ho
  split at hs
  · -- Stopped: the whole queue is taken, and the printing ends.
    cases hs
    have h' := h.acceptAll ho now channel.queue
    refine ⟨channel.queue, by simp [Run.Channel.drained], ?_⟩
    simp only [Collator.drain]
    split
    · exact h'
    · rename_i hnot
      have hrun : (Collator.acceptAll now c channel.queue).outcome = none := by simpa using hnot
      obtain ⟨batches', h'⟩ := h'.open hrun
      exact h'.finish_ok hrun now
  split at hs
  · -- A line comes.
    rename_i a rest htake
    cases hs
    refine ⟨[a], (Run.Channel.take?_some htake).1, ?_⟩
    rcases h.accept ho now a with ⟨batches', h'⟩ | hspoilt
    · refine .inl ⟨batches', ?_⟩
      split
      · exact h'
      · exact h'.setFlushAt _
    · obtain ⟨why, hwhy⟩ := hspoilt.outcome
      refine .inr ?_
      rw [if_pos (by simp [hwhy])]
      exact hspoilt
  split at hs
  · -- No line will come.
    cases hs
    exact ⟨[], rfl, by rw [List.append_nil]; exact h.finish_ok ho now⟩
  split at hs
  · -- The window closes.
    cases hs
    refine ⟨[], rfl, ?_⟩
    rw [List.append_nil]
    exact ((h.setFlushAt none).flush ho now).imp_left fun ⟨batches', h', _⟩ => ⟨batches', h'⟩
  · cases hs

/-- What has been written are the rows of these entries, all of them unless the sink refuses. -/
def Writes (shared : Bool) (c : Collator) (entries : List Entry) : Prop :=
  ∃ lost, String.join (c.sink.flushes.map Flush.text) ++ c.sink.pending ++ lost =
      String.join (entries.map (Entry.row shared)) ∧
    (lost ≠ "" → c.sink.refuses = true)

/-- What has been printed of the lines sent: batches, one flush each, and the beginning of another
one if the sink has refused. -/
structure Printed (shared : Bool) (c : Collator) (sent : List Arrival)
    (batches : List (List Arrival)) (torn : List Arrival) : Prop where
  flushed : c.sink.flushes.map Flush.text = batches.map (rendering shared)
  pending : ∃ lost, c.sink.pending ++ lost = rendering shared torn
  lines : batches.flatten ++ torn <+: printable sent
  refused : torn ≠ [] → c.sink.refuses = true
  /-- If the printing has ended well, nothing is left out. -/
  whole : c.outcome = some (.ok ()) → batches.flatten ++ torn = printable sent

theorem Accounted.printed (h : Accounted shared limits c taken) :
    ∃ batches torn, Printed shared c taken batches torn := by
  rcases h with ⟨batches, h⟩ | h
  · refine ⟨batches, [], h.flushed, ⟨"", by simp [h.pending]⟩, ?_, by simp, fun hok => ?_⟩
    · rw [List.append_nil]
      exact ⟨_, h.split⟩
    · rw [← h.split, (h.ended _ hok).1]
  · obtain ⟨batches, torn, lost, hlines, hflushed, hpending⟩ := h.torn
    refine ⟨batches, torn, hflushed, ⟨lost, hpending⟩, hlines, fun _ => h.refuses, fun hok => ?_⟩
    obtain ⟨why, hwhy⟩ := h.outcome
    rw [hok] at hwhy
    cases hwhy

namespace Printed

variable {sent torn : List Arrival}

/-- Lines that are sent afterwards are not printed yet, and none is sent after a good end. -/
theorem extend (h : Printed shared c sent batches torn) {more : List Arrival}
    (hmore : c.outcome = some (.ok ()) → more = []) :
    Printed shared c (sent ++ more) batches torn := by
  refine ⟨h.flushed, h.pending, h.lines.trans (printable_extends sent more), h.refused,
    fun hok => ?_⟩
  rw [hmore hok, List.append_nil, h.whole hok]

/-- All that has been written is the beginning of rows. -/
theorem writes (h : Printed shared c sent batches torn) :
    c.Writes shared ((batches ++ [torn]).flatMap collate) := by
  obtain ⟨lost, hlost⟩ := h.pending
  refine ⟨lost, ?_, fun hne => h.refused fun htorn => hne ?_⟩
  · rw [h.flushed, String.append_assoc, hlost, ← join_renderings, List.map_append,
      String.join_append]
    simp
  · rw [htorn, rendering_nil] at hlost
    simpa using (String.append_eq_empty_iff.1 hlost).2

end Printed

end Account

/-! ### The account of a sink that takes everything -/

/-- The lines that a collator has taken, against the batches it has printed and the one it holds. -/
structure Ledger (shared : Bool) (c : Collator) (taken : List Arrival)
    (batches : List (List Arrival)) : Prop where
  shared_eq : c.shared = shared
  endless : c.sink.IsEndless
  pending : c.sink.pending = ""
  /-- One flush a batch. -/
  flushed : c.sink.flushes.map Flush.text = batches.map (rendering shared)
  nonempty : ∀ b ∈ batches, b ≠ []
  split : batches.flatten ++ c.batch = printable taken
  sound : c.outcome = none → ∀ a ∈ taken, a.fault? = none
  ended : ∀ outcome, c.outcome = some outcome → c.batch = [] ∧ outcome = verdict taken

section Ledger

variable {shared : Bool} {c : Collator} {taken : List Arrival} {batches : List (List Arrival)}

theorem Ledger.account (h : Ledger shared c taken batches) :
    Account shared ⟨none, none⟩ c taken batches :=
  ⟨h.shared_eq, h.endless, h.pending, h.flushed, h.nonempty, h.split, h.sound, h.ended⟩

theorem Account.ledger (h : Account shared ⟨none, none⟩ c taken batches) :
    Ledger shared c taken batches :=
  ⟨h.shared_eq, h.limits_eq, h.pending, h.flushed, h.nonempty, h.split, h.sound, h.ended⟩

/-- A sink that takes everything refuses nothing. -/
theorem Accounted.ledger (h : Accounted shared ⟨none, none⟩ c taken) :
    ∃ batches, Ledger shared c taken batches := by
  rcases h with ⟨batches, h⟩ | h
  · exact ⟨batches, h.ledger⟩
  · have hr := h.refuses
    rw [Sink.refuses_endless h.limits_eq] at hr
    cases hr

namespace Ledger

theorem new (window : Nat) (shared : Bool) :
    Ledger shared (Collator.new window shared .endless) [] [] :=
  (Account.new window shared ⟨none, none⟩).ledger

/-- **A step of the collator takes some lines off the channel and keeps the ledger of all it has
taken.** When stopped it takes all there are. -/
theorem step (h : Ledger shared c taken batches) {now : Nat} {stopped : Bool}
    {channel channel' : Run.Channel Arrival} {c' : Collator}
    (hs : c.step now stopped channel = some (c', channel')) :
    ∃ more batches', channel.queue = more ++ channel'.queue ∧
      Ledger shared c' (taken ++ more) batches' ∧ (stopped = true → channel'.queue = []) := by
  obtain ⟨more, hq, h'⟩ := Accounted.step (.inl ⟨batches, h.account⟩) hs
  obtain ⟨batches', h'⟩ := h'.ledger
  exact ⟨more, batches', hq, h', fun hstop => step_stopped (hstop ▸ hs)⟩

end Ledger

end Ledger

end Collator

end LogWeave

import LogWeave.Proofs.Output.Ledger
import LogWeave.Proofs.Run.Attribution

/-! What a sink takes of a batch before it refuses.

A row is kept as a whole or not at all, so a sink that becomes full has the first rows of a batch
(`writeAll_full`), and one that fails at a flush has them all but does not show them
(`flush_failed`). Rows have to be on one line each only where lines are counted
(`SinkLimits.CountsOne`). -/
namespace LogWeave

/-! ### Rows on end -/

/-- Rows, each on a line of its own. -/
def lined (rows : List String) : String := String.join (rows.map (· ++ "\n"))

theorem lined_cons (row : String) (rows : List String) :
    lined (row :: rows) = row ++ "\n" ++ lined rows := by
  rw [lined, List.map_cons, String.join_cons, lined]

theorem lined_append (rows more : List String) :
    lined (rows ++ more) = lined rows ++ lined more := by
  rw [lined, List.map_append, String.join_append, lined, lined]

/-- As many newlines as rows. -/
theorem count_lined {rows : List String} (h : ∀ row ∈ rows, IsRow row) :
    (lined rows).toList.count '\n' = rows.length := by
  induction rows with
  | nil => rfl
  | cons row rest ih =>
    obtain ⟨hrow, hrest⟩ := List.forall_mem_cons.1 h
    have hnone : row.toList.count '\n' = 0 := List.count_eq_zero.2 hrow
    have hone : "\n".toList.count '\n' = 1 := by decide
    rw [lined_cons, String.toList_append, String.toList_append, List.count_append,
      List.count_append, hnone, hone, ih hrest, List.length_cons]
    omega

/-- Rows are read back as they were written. -/
theorem rowsOf_lined {rows : List String} (h : ∀ row ∈ rows, IsRow row) :
    rowsOf (lined rows) = rows := by
  induction rows with
  | nil => rfl
  | cons row rest ih =>
    obtain ⟨hrow, hrest⟩ := List.forall_mem_cons.1 h
    have htext : (lined (row :: rest)).toList = row.toList ++ '\n' :: (lined rest).toList := by
      simp [lined_cons]
    rw [rowsOf, htext, List.splitOn_append_cons_self_of_not_mem hrow,
      List.dropLast_cons_of_ne_nil (List.splitOn_ne_nil _ _), List.map_cons, String.ofList_toList]
    exact congrArg (row :: ·) (ih hrest)

/-- The rows of a batch, in the order of their times. -/
def rowsIn (shared : Bool) (batch : List Arrival) : List String :=
  (collate batch).map (Entry.printed · shared)

theorem length_collate (batch : List Arrival) : (collate batch).length = batch.length := by
  rw [(collate_perm batch).length_eq, List.length_map]

@[simp] theorem length_rowsIn (shared : Bool) (batch : List Arrival) :
    (rowsIn shared batch).length = batch.length := by
  rw [rowsIn, List.length_map, length_collate]

theorem mem_rowsIn {shared : Bool} {batch : List Arrival} {row : String} :
    row ∈ rowsIn shared batch ↔ ∃ a ∈ batch, a.printed shared = row := by
  simp [rowsIn, (collate_perm batch).mem_iff, Arrival.printed]

/-! ### What sinks count -/

namespace SinkLimits

/-- A row counts as one line, if lines are counted at all. -/
def CountsOne (limits : SinkLimits) (row : String) : Prop := limits.lines = none ∨ IsRow row

/-- So many lines and flushes are put up with. -/
def Admits (limits : SinkLimits) (lines flushes : Nat) : Prop :=
  (∀ n ∈ limits.lines, lines ≤ n) ∧ ∀ k ∈ limits.flush, flushes ≤ k

end SinkLimits

namespace Sink

/-- All that has been written. -/
def written (s : Sink) : String := String.join (s.flushes.map Flush.text) ++ s.pending

/-- All that has been written is shown. -/
def reveal (s : Sink) (now : Nat) : Sink :=
  { s with flushes := s.flushes ++ [⟨now, s.pending⟩], pending := "", shown := s.lines }

theorem flush_eq_reveal (s : Sink) (h : ∀ k ∈ s.limits.flush, s.flushes.length < k) (now : Nat) :
    s.flush now = .ok (s.reveal now) := by
  unfold flush
  cases hk : s.limits.flush with
  | none => rfl
  | some k => simp [Nat.not_le.2 (h k hk), reveal]

theorem keep_keep (s : Sink) (first second : String) :
    (s.keep first).keep second = s.keep (first ++ second) := by
  simp [keep, String.append_assoc, Nat.add_assoc]

theorem endsWith_of_isRow {text : String} (h : IsRow text) : text.endsWith "\n" = false := by
  rw [← Bool.not_eq_true, String.endsWith_eq_endsWith_toSlice, String.Slice.endsWith_string_iff]
  simp only [String.copy_toSlice]
  intro hs
  have hmem : '\n' ∈ "\n".toList := by decide
  exact h (List.IsSuffix.subset hs hmem)

/-- A row is kept as a whole. -/
theorem writeFrom_row {s : Sink} {written : String} {portions : List String}
    (hfull : s.isFull = false) (h : s.limits.CountsOne (written ++ String.join portions)) :
    writeFrom written s (portions ++ ["\n"]) =
      (s.keep (written ++ String.join portions ++ "\n"), .ok ()) := by
  induction portions generalizing s written with
  | nil => simp [writeFrom, hfull, endsWith_newline]
  | cons portion rest ih =>
    rw [String.join_cons, ← String.append_assoc] at h ⊢
    simp only [List.cons_append, writeFrom, hfull, Bool.false_eq_true, if_false]
    split
    · rename_i hends
      -- A newline within the row, where nobody counts lines.
      have hnone : s.limits.lines = none := by
        refine h.resolve_right fun hrow => ?_
        have hfront : IsRow (written ++ portion) := fun hmem => hrow <| by
          rw [String.toList_append]
          exact List.mem_append_left _ hmem
        simp [endsWith_of_isRow hfront] at hends
      have hkept : (s.keep (written ++ portion)).isFull = false := by simp [isFull, keep, hnone]
      rw [ih hkept (.inl hnone), keep_keep]
      simp [String.append_assoc]
    · exact ih hfull h

/-- Room for one more line, wherever lines are counted. -/
theorem isFull_eq_false {s : Sink} (h : ∀ n ∈ s.limits.lines, s.lines < n) : s.isFull = false := by
  unfold isFull
  cases hl : s.limits.lines with
  | none => rfl
  | some n => simpa using h n hl

theorem lines_keep_row {s : Sink} {row : String} (h : IsRow row) :
    (s.keep (row ++ "\n")).lines = s.lines + 1 := by
  have hone : (lined [row]).toList.count '\n' = 1 := count_lined (by simpa using h)
  simpa [lined, keep] using hone

end Sink

/-- A line is kept as a whole or, by a sink that is full, not at all. -/
theorem Entry.write_row {s : Sink} {e : Entry} {shared : Bool}
    (h : s.limits.CountsOne (e.printed shared)) :
    s.write (e.portions shared) =
      if s.isFull then (s, .error (.io "sink is full")) else (s.keep (e.row shared), .ok ()) := by
  obtain ⟨portions, hp⟩ := e.portions_newline shared
  have hjoin : String.join portions = e.printed shared := by
    have hall := e.join_portions shared
    rw [hp, String.join_append] at hall
    simpa using hall
  rw [hp, Sink.write]
  split
  · rename_i hfull
    cases portions <;> simp [Sink.writeFrom, hfull]
  · rename_i hfull
    rw [Sink.writeFrom_row (by simpa using hfull) (by simpa [hjoin] using h), String.empty_append,
      hjoin, Entry.row]

namespace Collator

/-! ### What is written of a batch -/

section Writing

variable {s : Sink} {shared : Bool} {es : List Entry}

/-- Entries that there is room for are all kept. -/
theorem writeAll_fits (hrows : ∀ e ∈ es, s.limits.CountsOne (e.printed shared))
    (hlines : ∀ n ∈ s.limits.lines, s.lines + es.length ≤ n) :
    writeAll shared s es = (s.keep (lined (es.map (Entry.printed · shared))), .ok ()) := by
  induction es generalizing s with
  | nil => simp [writeAll, lined, Sink.keep]
  | cons e rest ih =>
    obtain ⟨hrow, hrest⟩ := List.forall_mem_cons.1 hrows
    simp only [List.length_cons] at hlines
    have hopen : s.isFull = false := Sink.isFull_eq_false fun n hn => by
      have := hlines n hn
      omega
    have hroom : ∀ n ∈ s.limits.lines, (s.keep (e.row shared)).lines + rest.length ≤ n := by
      intro n hn
      have hone := Sink.lines_keep_row (s := s) (hrow.resolve_left (by simp [Option.mem_def.1 hn]))
      have := hlines n hn
      rw [Entry.row, hone]
      omega
    simp only [writeAll, Entry.write_row hrow, hopen, Bool.false_eq_true, if_false]
    rw [ih (s := s.keep (e.row shared)) hrest hroom, Sink.keep_keep, List.map_cons, lined_cons,
      Entry.row]

/-- Of entries that there is no room for the first ones are kept. -/
theorem writeAll_full {n : Nat} (hn : s.limits.lines = some n)
    (hrows : ∀ e ∈ es, IsRow (e.printed shared)) (hle : s.lines ≤ n)
    (hlines : n < s.lines + es.length) :
    writeAll shared s es =
      (s.keep (lined ((es.map (Entry.printed · shared)).take (n - s.lines))),
        .error (.io "sink is full")) := by
  induction es generalizing s with
  | nil =>
    rw [List.length_nil] at hlines
    omega
  | cons e rest ih =>
    obtain ⟨hrow, hrest⟩ := List.forall_mem_cons.1 hrows
    simp only [writeAll, Entry.write_row (.inr hrow)]
    by_cases hfull : n ≤ s.lines
    · have htaken : n - s.lines = 0 := by omega
      simp [Sink.isFull, hn, hfull, htaken, lined, Sink.keep]
    · have hone : (s.keep (e.row shared)).lines = s.lines + 1 := Sink.lines_keep_row hrow
      have htaken : n - s.lines = (n - (s.keep (e.row shared)).lines) + 1 := by omega
      have hroom : n < (s.keep (e.row shared)).lines + rest.length := by
        rw [List.length_cons] at hlines
        omega
      simp only [Sink.isFull, hn, hfull, decide_false, Bool.false_eq_true, if_false]
      rw [ih (s := s.keep (e.row shared)) hn hrest (by omega) hroom, Sink.keep_keep, htaken,
        List.map_cons, List.take_succ_cons, lined_cons, Entry.row]

end Writing

section Printing

variable {c : Collator}

theorem forall_collate {shared : Bool} {batch : List Arrival} {P : String → Prop}
    (h : ∀ a ∈ batch, P (a.printed shared)) : ∀ e ∈ collate batch, P (e.printed shared) := by
  intro e he
  obtain ⟨a, ha, rfl⟩ := List.mem_map.1 ((collate_perm batch).mem_iff.1 he)
  exact h a ha

/-- A batch that there is room for is written. -/
theorem writeAll_batch (hrows : ∀ a ∈ c.batch, c.sink.limits.CountsOne (a.printed c.shared))
    (hlines : ∀ n ∈ c.sink.limits.lines, c.sink.lines + c.batch.length ≤ n) :
    writeAll c.shared c.sink (collate c.batch) =
      (c.sink.keep (lined (rowsIn c.shared c.batch)), .ok ()) :=
  writeAll_fits (forall_collate hrows) (by simpa [length_collate] using hlines)

theorem flush_nil (hb : c.batch = []) (now : Nat) : c.flush now = c := by
  obtain ⟨_, _, _, _, _, _⟩ := c
  cases hb
  rfl

variable (hb : c.batch ≠ []) (now : Nat)
include hb

/-- A batch that there is room for is printed and shown. -/
theorem flush_fits (hrows : ∀ a ∈ c.batch, c.sink.limits.CountsOne (a.printed c.shared))
    (hlines : ∀ n ∈ c.sink.limits.lines, c.sink.lines + c.batch.length ≤ n)
    (hflush : ∀ k ∈ c.sink.limits.flush, c.sink.flushes.length < k) :
    c.flush now =
      { c with
        batch := []
        sink := (c.sink.keep (lined (rowsIn c.shared c.batch))).reveal now } := by
  have hshown := (c.sink.keep (lined (rowsIn c.shared c.batch))).flush_eq_reveal hflush now
  simp only [Collator.flush, print, List.isEmpty_iff, hb, if_false, writeAll_batch hrows hlines,
    hshown]

/-- Of a batch that there is no room for the first rows are written. -/
theorem flush_full {n : Nat} (hn : c.sink.limits.lines = some n)
    (hrows : ∀ a ∈ c.batch, IsRow (a.printed c.shared)) (hle : c.sink.lines ≤ n)
    (hlines : n < c.sink.lines + c.batch.length) :
    c.flush now =
      { c with
        batch := []
        sink := c.sink.keep (lined ((rowsIn c.shared c.batch).take (n - c.sink.lines)))
        outcome := some (.error (.io "sink is full")) } := by
  have hfull := writeAll_full hn (forall_collate hrows) hle (by rwa [length_collate])
  simp only [Collator.flush, print, List.isEmpty_iff, hb, if_false, hfull, rowsIn]

/-- A batch that cannot be shown is written all the same. -/
theorem flush_failed {k : Nat} (hk : c.sink.limits.flush = some k)
    (hrows : ∀ a ∈ c.batch, c.sink.limits.CountsOne (a.printed c.shared))
    (hlines : ∀ n ∈ c.sink.limits.lines, c.sink.lines + c.batch.length ≤ n)
    (hflush : k ≤ c.sink.flushes.length) :
    c.flush now =
      { c with
        batch := []
        sink := c.sink.keep (lined (rowsIn c.shared c.batch))
        outcome := some (.error (.io "flush failed")) } := by
  have hfailed : (c.sink.keep (lined (rowsIn c.shared c.batch))).flush now =
      .error (.io "flush failed") := by
    simp [Sink.flush, Sink.keep, hk, hflush]
  simp only [Collator.flush, print, List.isEmpty_iff, hb, if_false, writeAll_batch hrows hlines,
    hfailed]

end Printing

end Collator

end LogWeave

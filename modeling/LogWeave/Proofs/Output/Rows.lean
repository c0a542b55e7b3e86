import LogWeave.Proofs.Output.Ledger
import Mathlib.Data.List.Perm.Basic

/-! What has been printed, row by row.

Batches are put in order each by itself, so all that is printed is one row for each line taken, in
some order (`Ledger.rows`). When a line was received does not show in its row. -/
namespace LogWeave

/-- A line of a source's log as it is printed. -/
def printedLine (shared : Bool) (source text : String) : String :=
  let message := match Stamp.readLine text with
    | .ok (message, _) => message
    | .error _ => text
  if shared then attributed source message else message

namespace Arrival

/-- A line without the time of its receipt. -/
def untimed (a : Arrival) : Arrival := { a with receivedAt := .epoch }

def printed (shared : Bool) (a : Arrival) : String := a.entry.printed shared

theorem printed_line (shared : Bool) (source text : String) (receivedAt : Time.Instant) :
    (line source text receivedAt).printed shared = printedLine shared source text := by
  simp only [printed, entry, line, printedLine]
  cases Stamp.readLine text <;> rfl

theorem printed_untimed (shared : Bool) (a : Arrival) :
    a.untimed.printed shared = a.printed shared := by
  simp only [printed, entry, untimed]
  cases a.notice with
  | some notice => rfl
  | none => cases Stamp.readLine a.text <;> rfl

/-- When lines were received does not show. -/
theorem printed_map_untimed (shared : Bool) (as : List Arrival) :
    ((as.map untimed).filter fun a => !a.isSilent).map (printed shared) =
      (as.filter fun a => !a.isSilent).map (printed shared) := by
  rw [List.filter_map, List.map_map]
  exact List.map_congr_left fun a _ => printed_untimed shared a

@[simp] theorem fault?_untimed (a : Arrival) : a.untimed.fault? = a.fault? := rfl

end Arrival

/-- A batch is printed as the rows of its lines, in some order. -/
theorem rows_rendering (shared : Bool) (batch : List Arrival) :
    ∃ rows : List String, rows.Perm (batch.map (Arrival.printed shared)) ∧
      rendering shared batch = String.join (rows.map (· ++ "\n")) := by
  refine ⟨(collate batch).map (Entry.printed · shared), ?_, ?_⟩
  · have hperm := (collate_perm batch).map (Entry.printed · shared)
    rwa [List.map_map] at hperm
  · rw [rendering, List.map_map]
    rfl

theorem rows_batches (shared : Bool) (batches : List (List Arrival)) :
    ∃ rows : List String, rows.Perm (batches.flatten.map (Arrival.printed shared)) ∧
      String.join (batches.map (rendering shared)) = String.join (rows.map (· ++ "\n")) := by
  induction batches with
  | nil => exact ⟨[], .nil, rfl⟩
  | cons batch rest ih =>
    obtain ⟨first, hfirst, hrendering⟩ := rows_rendering shared batch
    obtain ⟨later, hlater, hrest⟩ := ih
    refine ⟨first ++ later, ?_, ?_⟩
    · rw [List.flatten_cons, List.map_append]
      exact hfirst.append hlater
    · rw [List.map_cons, String.join_cons, hrendering, hrest, List.map_append, String.join_append]

/-- What has been printed when nothing is held back: a row for each line that was to be printed. -/
theorem Collator.Account.rows {shared : Bool} {limits : SinkLimits} {c : Collator}
    {taken : List Arrival} {batches : List (List Arrival)}
    (h : c.Account shared limits taken batches) (hbatch : c.batch = []) :
    ∃ rows : List String, rows.Perm ((printable taken).map (Arrival.printed shared)) ∧
      String.join (c.sink.flushes.map Flush.text) = String.join (rows.map (· ++ "\n")) := by
  have hsplit := h.split
  rw [hbatch, List.append_nil] at hsplit
  rw [h.flushed, ← hsplit]
  exact rows_batches shared batches

/-- **What has been printed in the end: a row for each line taken, and no other.** -/
theorem Collator.Ledger.rows {shared : Bool} {c : Collator} {taken : List Arrival}
    {batches : List (List Arrival)} (h : c.Ledger shared taken batches)
    (hsound : ∀ a ∈ taken, a.fault? = none) (hbatch : c.batch = []) :
    ∃ rows : List String,
      rows.Perm ((taken.filter fun a => !a.isSilent).map (Arrival.printed shared)) ∧
      String.join (c.sink.flushes.map Flush.text) = String.join (rows.map (· ++ "\n")) := by
  rw [← printable_sound hsound]
  exact h.account.rows hbatch

end LogWeave

import LogWeave.Line.Arrival
import Mathlib.Data.List.Basic

/-! What sorting leaves as it was.

Elements that are in order among themselves keep their places (`filter_mergeSort`), and so do
elements that neither comes before the other (`pairwise_mergeSort_of_pairwise`). A list in the order
of its keys is told by what it holds under each key (`eq_of_filter_key`). -/
namespace LogWeave

section Stable

variable {α : Type} {le : α → α → Bool}
  (trans : ∀ a b c, le a b = true → le b c = true → le a c = true)
  (total : ∀ a b, (le a b || le b a) = true)
include trans total

/-- Those that are in order among themselves stay in that order, whatever the others are. -/
theorem filter_mergeSort {p : α → Bool} {l : List α}
    (h : (l.filter p).Pairwise fun a b => le a b = true) :
    (l.mergeSort le).filter p = l.filter p := by
  have hsub : (l.filter p).Sublist ((l.mergeSort le).filter p) := by
    simpa [List.filter_filter] using
      (List.sublist_mergeSort trans total h List.filter_sublist).filter p
  exact (hsub.eq_of_length ((List.mergeSort_perm l le).filter p).length_eq.symm).symm

/-- Of two that may stand in either order, the one that came first stays first. -/
theorem pairwise_mergeSort_of_pairwise {r : α → α → Prop} {l : List α} (h : l.Pairwise r) :
    (l.mergeSort le).Pairwise fun a b => le a b = true ∧ (le b a = true → r a b) := by
  refine List.pairwise_iff_forall_sublist.2 fun {a b} hab => ?_
  have hle := List.pairwise_iff_forall_sublist.1 (List.pairwise_mergeSort trans total l) hab
  refine ⟨hle, fun hba => ?_⟩
  -- Both are among those that are equal to `a`, and these stay as they are.
  let tied (c : α) : Bool := le a c && le c a
  have hrefl : le a a = true := by simpa using total a a
  have hpair : [a, b].Sublist ((l.mergeSort le).filter tied) := by
    simpa [tied, hrefl, hle, hba] using hab.filter tied
  rw [filter_mergeSort trans total] at hpair
  · exact List.pairwise_iff_forall_sublist.1 h (hpair.trans List.filter_sublist)
  · refine List.pairwise_filter.2 (List.pairwise_of_forall fun c d hc hd => ?_)
    simp only [tied, Bool.and_eq_true] at hc hd
    exact trans c a d hc.2 hd.1

end Stable

section Keys

variable {α κ : Type} [DecidableEq κ] {key : α → κ} {l l' : List α}

theorem mem_of_filter_key (h : ∀ k, l.filter (key · = k) = l'.filter (key · = k)) {a : α}
    (ha : a ∈ l) : a ∈ l' := by
  have hmem : a ∈ l.filter (key · = key a) := by simpa using ha
  rw [h] at hmem
  exact List.mem_of_mem_filter hmem

/-- A list in the order of its keys is told by what it holds under each key. -/
theorem eq_of_filter_key {le : κ → κ → Prop} (antisymm : ∀ {k k'}, le k k' → le k' k → k = k')
    (hl : l.Pairwise fun a b => le (key a) (key b))
    (hl' : l'.Pairwise fun a b => le (key a) (key b))
    (h : ∀ k, l.filter (key · = k) = l'.filter (key · = k)) : l = l' := by
  induction l generalizing l' with
  | nil =>
    cases l' with
    | nil => rfl
    | cons b l' =>
      exact absurd (mem_of_filter_key (fun k => (h k).symm) List.mem_cons_self) List.not_mem_nil
  | cons a l ih =>
    cases l' with
    | nil => exact absurd (mem_of_filter_key h List.mem_cons_self) List.not_mem_nil
    | cons b l' =>
      obtain ⟨ha, htail⟩ := List.pairwise_cons.1 hl
      obtain ⟨hb, htail'⟩ := List.pairwise_cons.1 hl'
      -- Each head stands in the other list, so neither key lies before the other.
      have hkey : key a = key b := by
        rcases List.mem_cons.1 (mem_of_filter_key h List.mem_cons_self) with rfl | ha'
        · rfl
        rcases List.mem_cons.1 (mem_of_filter_key (fun k => (h k).symm) List.mem_cons_self) with
          rfl | hb'
        · rfl
        exact antisymm (ha b hb') (hb a ha')
      have hhead := h (key b)
      simp only [hkey, List.filter_cons, decide_true, if_true, List.cons.injEq] at hhead
      obtain ⟨rfl, -⟩ := hhead
      refine congrArg (a :: ·) (ih htail htail' fun k => ?_)
      have hk := h k
      simp only [List.filter_cons] at hk
      split at hk
      · exact (List.cons.inj hk).2
      · exact hk

end Keys

/-- Entries that are in the order of their times stay in that order, whatever is printed with
them. -/
theorem filter_collate {p : Entry → Bool} {batch : List Arrival}
    (h : ((batch.map Arrival.entry).filter p).Pairwise fun a b => a.loggedAt ≤ b.loggedAt) :
    (collate batch).filter p = (batch.map Arrival.entry).filter p :=
  filter_mergeSort Entry.before_trans Entry.before_total (by simpa [Entry.before] using h)

/-- So it is over all batches. -/
theorem filter_flatMap_collate {p : Entry → Bool} {batches : List (List Arrival)}
    (h : ((batches.flatten.map Arrival.entry).filter p).Pairwise fun a b =>
      a.loggedAt ≤ b.loggedAt) :
    (batches.flatMap collate).filter p = (batches.flatten.map Arrival.entry).filter p := by
  induction batches with
  | nil => rfl
  | cons batch rest ih =>
    rw [List.flatten_cons, List.map_append, List.filter_append] at h
    obtain ⟨hbatch, hrest, -⟩ := List.pairwise_append.1 h
    rw [List.flatMap_cons, List.filter_append, filter_collate hbatch, ih hrest, List.flatten_cons,
      List.map_append, List.filter_append]

end LogWeave

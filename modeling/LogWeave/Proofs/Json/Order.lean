import LogWeave.Json.Value
import Mathlib.Data.List.Nodup
import Mathlib.Data.String.Basic

/-! The order of the members of an object.

A value may be written with the members of its objects in any order; `ordered` has them in the
order of their names. Members of different names that are put one after the other come to stand in
that order (`foldl_put`), so a value is ordered once it has been read. -/
namespace LogWeave.Json.Value

/-- Members in the order of their names. -/
def sorted (ms : List (String × Value)) : List (String × Value) :=
  ms.mergeSort fun m m' => m.1 ≤ m'.1

mutual

/-- The same value, with the members of every object in the order of their names. -/
def ordered : Value → Value
  | .list vs => .list (orderedItems vs)
  | .object ms => .object (sorted (orderedMembers ms))
  | v => v

def orderedItems : List Value → List Value
  | [] => []
  | v :: vs => ordered v :: orderedItems vs

def orderedMembers : List (String × Value) → List (String × Value)
  | [] => []
  | (k, v) :: ms => (k, ordered v) :: orderedMembers ms

end

theorem orderedItems_eq_map (vs : List Value) : orderedItems vs = vs.map ordered := by
  induction vs with
  | nil => rfl
  | cons v vs ih => rw [orderedItems, ih, List.map_cons]

theorem orderedMembers_eq_map (ms : List (String × Value)) :
    orderedMembers ms = ms.map fun m => (m.1, m.2.ordered) := by
  induction ms with
  | nil => rfl
  | cons m ms ih => rw [orderedMembers, ih, List.map_cons]

/-- Each name stands behind those before it. -/
def InOrder (ms : List (String × Value)) : Prop := ms.Pairwise fun m m' => m.1 < m'.1

theorem mem_put {key : String} {v : Value} {ms : List (String × Value)} {m : String × Value}
    (h : m ∈ put key v ms) : m = (key, v) ∨ m ∈ ms := by
  induction ms with
  | nil => exact .inl (List.mem_singleton.1 h)
  | cons m' ms ih =>
    unfold put at h
    split at h
    · exact (List.mem_cons.1 h).imp_right id
    · split at h
      · exact (List.mem_cons.1 h).imp_right (List.mem_cons_of_mem _)
      · rcases List.mem_cons.1 h with rfl | h
        · exact .inr List.mem_cons_self
        · exact (ih h).imp_right (List.mem_cons_of_mem _)

/-- Putting a member keeps the order. -/
theorem InOrder.put {ms : List (String × Value)} (h : InOrder ms) (key : String) (v : Value) :
    InOrder (put key v ms) := by
  induction ms with
  | nil => exact List.pairwise_singleton _ _
  | cons m ms ih =>
    obtain ⟨hm, hms⟩ := List.pairwise_cons.1 h
    unfold Value.put
    split
    · rename_i hlt
      refine List.pairwise_cons.2 ⟨fun m' hm' => ?_, h⟩
      rcases List.mem_cons.1 hm' with rfl | hm'
      · exact hlt
      · exact lt_trans hlt (hm m' hm')
    · rename_i hle
      split
      · rename_i heq
        exact List.pairwise_cons.2 ⟨fun m' hm' => heq ▸ hm m' hm', hms⟩
      · rename_i hne
        refine List.pairwise_cons.2 ⟨fun m' hm' => ?_, ih hms⟩
        rcases mem_put hm' with rfl | hm'
        · exact lt_of_le_of_ne (not_lt.1 hle) (Ne.symm hne)
        · exact hm m' hm'

/-- A new name is put among the others. -/
theorem put_perm {key : String} {ms : List (String × Value)} (h : key ∉ ms.map Prod.fst)
    (v : Value) : (put key v ms).Perm ((key, v) :: ms) := by
  induction ms with
  | nil => exact .refl _
  | cons m ms ih =>
    have hne : key ≠ m.1 := fun heq => h (heq ▸ List.mem_cons_self)
    unfold put
    split
    · exact .refl _
    · exact ((ih fun hmem => h (List.mem_cons_of_mem _ hmem)).cons m).trans (.swap ..)

theorem sorted_perm (ms : List (String × Value)) : (sorted ms).Perm ms :=
  List.mergeSort_perm ms _

theorem sorted_pairwise (ms : List (String × Value)) :
    (sorted ms).Pairwise fun m m' => m.1 ≤ m'.1 := by
  have htrans : ∀ a b c : String × Value,
      decide (a.1 ≤ b.1) = true → decide (b.1 ≤ c.1) = true → decide (a.1 ≤ c.1) = true := by
    intro a b c hab hbc
    exact decide_eq_true (le_trans (of_decide_eq_true hab) (of_decide_eq_true hbc))
  have htotal : ∀ a b : String × Value, (decide (a.1 ≤ b.1) || decide (b.1 ≤ a.1)) = true := by
    intro a b
    simpa using le_total a.1 b.1
  exact (List.pairwise_mergeSort htrans htotal ms).imp of_decide_eq_true

/-- There is one way to put members of different names in order. -/
theorem eq_sorted {ms ms' : List (String × Value)} (hkeys : (ms.map Prod.fst).Nodup)
    (hin : InOrder ms') (hperm : ms'.Perm ms) : ms' = sorted ms := by
  have hone : ∀ m m', m ∈ ms' → m' ∈ sorted ms → m.1 ≤ m'.1 → m'.1 ≤ m.1 → m = m' := by
    intro m m' hm hm' hle hle'
    exact List.inj_on_of_nodup_map hkeys (hperm.mem_iff.1 hm) ((sorted_perm ms).mem_iff.1 hm')
      (le_antisymm hle hle')
  exact (hperm.trans (sorted_perm ms).symm).eq_of_pairwise hone (hin.imp le_of_lt)
    (sorted_pairwise ms)

/-- Members in order stay as they are. -/
theorem InOrder.sorted_eq {ms : List (String × Value)} (h : InOrder ms) : sorted ms = ms := by
  have hkeys : (ms.map Prod.fst).Nodup := List.pairwise_map.2 (h.imp ne_of_lt)
  exact (eq_sorted hkeys h (.refl ms)).symm

/-- The members of every object stand in the order of their names. -/
inductive IsOrdered : Value → Prop
  | null : IsOrdered .null
  | bool (b : Bool) : IsOrdered (.bool b)
  | number (n : Number) : IsOrdered (.number n)
  | text (s : String) : IsOrdered (.text s)
  | list {vs : List Value} (h : ∀ v ∈ vs, IsOrdered v) : IsOrdered (.list vs)
  | object {ms : List (String × Value)} (hin : InOrder ms) (h : ∀ m ∈ ms, IsOrdered m.2) :
      IsOrdered (.object ms)

/-- What is in order everywhere stays as it is. -/
theorem IsOrdered.ordered_eq {v : Value} (h : v.IsOrdered) : v.ordered = v := by
  induction h with
  | null | bool | number | text => rfl
  | @list vs _ ih =>
    have hsame : vs.map ordered = vs := (List.map_congr_left ih).trans (List.map_id vs)
    rw [ordered, orderedItems_eq_map, hsame]
  | @object ms hin _ ih =>
    have hsame : ms.map (fun m => (m.1, m.2.ordered)) = ms := by
      refine (List.map_congr_left fun m hm => ?_).trans (List.map_id ms)
      rw [ih m hm]
      rfl
    rw [ordered, orderedMembers_eq_map, hsame, hin.sorted_eq]

theorem foldl_put_perm {ms acc : List (String × Value)} (hacc : InOrder acc)
    (hkeys : ((acc ++ ms).map Prod.fst).Nodup) :
    InOrder (ms.foldl (fun acc m => put m.1 m.2 acc) acc) ∧
      (ms.foldl (fun acc m => put m.1 m.2 acc) acc).Perm (acc ++ ms) := by
  induction ms generalizing acc with
  | nil =>
    rw [List.append_nil]
    exact ⟨hacc, .refl acc⟩
  | cons m ms ih =>
    have hfresh : m.1 ∉ acc.map Prod.fst := by
      intro hmem
      rw [List.map_append, List.map_cons] at hkeys
      exact (List.nodup_append.1 hkeys).2.2 _ hmem _ List.mem_cons_self rfl
    have hshift : (put m.1 m.2 acc ++ ms).Perm (acc ++ m :: ms) :=
      ((put_perm hfresh m.2).append_right ms).trans List.perm_middle.symm
    obtain ⟨hin, hperm⟩ := ih (hacc.put m.1 m.2) ((hshift.map Prod.fst).nodup_iff.2 hkeys)
    exact ⟨hin, hperm.trans hshift⟩

/-- **Members put one after the other stand as if they were sorted.** -/
theorem foldl_put {ms : List (String × Value)} (hkeys : (ms.map Prod.fst).Nodup) :
    ms.foldl (fun acc m => put m.1 m.2 acc) [] = sorted ms := by
  obtain ⟨hin, hperm⟩ := foldl_put_perm .nil ((List.nil_append ms).symm ▸ hkeys)
  exact eq_sorted hkeys hin hperm

end LogWeave.Json.Value

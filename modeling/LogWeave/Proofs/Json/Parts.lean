import LogWeave.Proofs.Json.Spelling

/-! Lists and objects, read part by part.

`within` is what stands between two brackets: the parts, with commas between them and blanks
where the layout has them. A fold over the parts of a list or an object reads it, if each part is
read where it stands (`Reads.foldElements`, `Reads.foldMembers`). -/
namespace LogWeave.Json

open Reader

namespace Printer

/-- What stands behind a part, before the closing bracket. -/
def behind (gap last : List Char) : List (List Char) → List Char
  | [] => last
  | part :: parts => ',' :: (gap ++ (part ++ behind gap last parts))

/-- What stands between brackets. -/
def within (gap last : List Char) : List (List Char) → List Char
  | [] => []
  | part :: parts => gap ++ (part ++ behind gap last parts)

theorem intercalate_behind (gap last part : List Char) (parts : List (List Char)) :
    [','].intercalate ((part :: parts).map (gap ++ ·)) ++ last =
      gap ++ (part ++ behind gap last parts) := by
  induction parts generalizing part with
  | nil => simp [behind, List.intercalate]
  | cons next parts ih =>
    have hnext := ih next
    simp only [List.map_cons, List.intercalate, List.intersperse_cons_cons, List.flatten_cons] at hnext ⊢
    simp only [List.append_assoc, behind, List.cons_append, List.nil_append] at hnext ⊢
    rw [hnext]

theorem enclose_eq (l : Layout) (depth : Nat) (opening closing : Char)
    (parts : List (List Char)) : enclose l depth opening closing parts =
      opening :: (within (l.newline (depth + 1)) (l.newline depth) parts ++ [closing]) := by
  cases parts with
  | nil => rfl
  | cons part parts =>
    show opening :: (List.intercalate _ _) ++ _ ++ _ = opening :: (_ ++ _)
    rw [within, ← intercalate_behind]
    simp

theorem length_behind (gap last : List Char) (parts : List (List Char)) :
    parts.length ≤ (behind gap last parts).length := by
  induction parts with
  | nil => exact Nat.zero_le _
  | cons part parts ih =>
    simp only [behind, List.length_cons, List.length_append]
    omega

/-- There are no more parts than characters. -/
theorem length_within {parts : List (List Char)} (h : ∀ part ∈ parts, part ≠ [])
    (gap last : List Char) : parts.length ≤ (within gap last parts).length := by
  cases parts with
  | nil => exact Nat.zero_le _
  | cons part parts =>
    have hpart := List.length_pos_iff.2 (h part List.mem_cons_self)
    have := length_behind gap last parts
    simp only [within, List.length_cons, List.length_append]
    omega

end Printer

open Printer

namespace Reader

variable {β σ : Type} {gap last rest : List Char}

theorem Ends.behind (hlast : Blank last) (parts : List (List Char)) {c : Char}
    (hc : c = ']' ∨ c = '}') (rest : List Char) :
    Ends (behind gap last parts ++ c :: rest) := by
  cases parts with
  | nil =>
    refine .of_blank hlast fun d hd => ?_
    cases hd
    exact .inr (.inr hc)
  | cons part parts =>
    intro d hd
    cases hd
    exact .inr (.inl rfl)

/-- A part of a list begins like this. -/
def Begins (text : List Char) : Prop :=
  ∃ c cs, text = c :: cs ∧ Cursor.isBlank c = false ∧ c ≠ ']'

theorem Begins.ne_nil {text : List Char} (h : Begins text) : text ≠ [] := by
  obtain ⟨c, cs, rfl, -⟩ := h
  exact List.cons_ne_nil c cs

namespace Reads

section Elements

variable {step : β → Reader β} {run : β → σ → β} {spell : σ → List Char}

theorem foldElements_behind (hgap : Blank gap) (hlast : Blank last) {xs : List σ}
    (hbegins : ∀ x ∈ xs, Begins (spell x))
    (hstep : ∀ x ∈ xs, ∀ b rest, Ends rest → Reads (step b) (spell x) (run b x) rest)
    {most : Nat} (hmost : xs.length < most) (b : β) (rest : List Char) :
    Reads (Reader.foldElements step most false b) (behind gap last (xs.map spell))
      (xs.foldl run b) (']' :: rest) := by
  induction xs generalizing most b with
  | nil =>
    obtain ⟨most, rfl⟩ := Nat.exists_eq_add_one_of_ne_zero (Nat.ne_of_gt hmost)
    exact (nextElement_last hlast false rest).bind_nil (pure b _)
  | cons x xs ih =>
    obtain ⟨most, rfl⟩ := Nat.exists_eq_add_one_of_ne_zero (Nat.ne_of_gt (Nat.zero_lt_of_lt hmost))
    obtain ⟨c, cs, hspell, hsolid, hne⟩ := hbegins x List.mem_cons_self
    refine bind (show Reads (nextElement false) (',' :: gap) true _ from ?_) ?_
    · rw [hspell]
      exact nextElement_next hgap hsolid hne
    · refine bind (hstep x List.mem_cons_self b _ (.behind hlast _ (.inl rfl) rest)) ?_
      exact ih (fun y hy => hbegins y (List.mem_cons_of_mem x hy))
        (fun y hy => hstep y (List.mem_cons_of_mem x hy)) (Nat.lt_of_succ_lt_succ hmost) _

/-- **The elements of a list are read one by one.** -/
theorem foldElements (hgap : Blank gap) (hlast : Blank last) {xs : List σ}
    (hbegins : ∀ x ∈ xs, Begins (spell x))
    (hstep : ∀ x ∈ xs, ∀ b rest, Ends rest → Reads (step b) (spell x) (run b x) rest)
    {most : Nat} (hmost : xs.length < most) (b : β) (rest : List Char) :
    Reads (Reader.foldElements step most true b) (within gap last (xs.map spell))
      (xs.foldl run b) (']' :: rest) := by
  obtain ⟨most, rfl⟩ := Nat.exists_eq_add_one_of_ne_zero (Nat.ne_of_gt (Nat.zero_lt_of_lt hmost))
  cases xs with
  | nil => exact (nextElement_last Blank.nil true rest).bind_nil (pure b _)
  | cons x xs =>
    obtain ⟨c, cs, hspell, hsolid, hne⟩ := hbegins x List.mem_cons_self
    refine bind (show Reads (nextElement true) gap true _ from ?_) ?_
    · rw [hspell]
      exact nextElement_first hgap hsolid hne
    · refine bind (hstep x List.mem_cons_self b _ (.behind hlast _ (.inl rfl) rest)) ?_
      exact foldElements_behind hgap hlast (fun y hy => hbegins y (List.mem_cons_of_mem x hy))
        (fun y hy => hstep y (List.mem_cons_of_mem x hy)) (Nat.lt_of_succ_lt_succ hmost) _ rest

/-- A list is read if its elements are. -/
theorem elements {α : Type} {read : Reader α} {made : σ → α} (hgap : Blank gap)
    (hlast : Blank last) {xs : List σ} (hbegins : ∀ x ∈ xs, Begins (spell x))
    (hread : ∀ x ∈ xs, Takes read (spell x) (made x)) {most : Nat} (hmost : xs.length < most)
    (rest : List Char) :
    Reads (Reader.elements read most) (within gap last (xs.map spell)) (xs.map made)
      (']' :: rest) := by
  have hfold : ∀ (xs : List σ) (vs : List α),
      xs.foldl (fun vs x => made x :: vs) vs = (xs.map made).reverse ++ vs := by
    intro xs
    induction xs with
    | nil => exact fun vs => rfl
    | cons x xs ih =>
      intro vs
      rw [List.foldl_cons, ih, List.map_cons, List.reverse_cons, List.append_assoc]
      rfl
  have hstep : ∀ x ∈ xs, ∀ (vs : List α) (rest : List Char), Ends rest →
      Reads (read >>= fun v => Pure.pure (v :: vs)) (spell x) (made x :: vs) rest :=
    fun x hx vs rest hrest => (hread x hx Blank.nil hrest).bind_pure (· :: vs)
  have hread := (foldElements hgap hlast hbegins hstep hmost [] rest).map List.reverse
  rwa [hfold, List.append_nil, List.reverse_reverse] at hread

end Elements

section Members

variable {step : β → String → Reader β} {run : β → String × σ → β}
  {spell : String × σ → List Char}

/-- A member: its key, and what stands behind it. -/
def member (spell : String × σ → List Char) (x : String × σ) : List Char :=
  Printer.text x.1 ++ spell x

/-- Each member is read where it stands, after those in front of it. -/
def Follows (step : β → String → Reader β) (run : β → String × σ → β)
    (spell : String × σ → List Char) (b : β) (xs : List (String × σ)) : Prop :=
  ∀ before x after, before ++ x :: after = xs → ∀ rest, Ends rest →
    Reads (step (before.foldl run b) x.1) (spell x) (run (before.foldl run b) x) rest

theorem Follows.tail {b : β} {x : String × σ} {xs : List (String × σ)}
    (h : Follows step run spell b (x :: xs)) : Follows step run spell (run b x) xs := by
  rintro before y after rfl
  exact h (x :: before) y after rfl

theorem foldMembers_behind (hgap : Blank gap) (hlast : Blank last) {xs : List (String × σ)} {b : β}
    (hstep : Follows step run spell b xs) {most : Nat} (hmost : xs.length < most)
    (rest : List Char) :
    Reads (Reader.foldMembers step most false b) (behind gap last (xs.map (member spell)))
      (xs.foldl run b) ('}' :: rest) := by
  induction xs generalizing most b with
  | nil =>
    obtain ⟨most, rfl⟩ := Nat.exists_eq_add_one_of_ne_zero (Nat.ne_of_gt hmost)
    exact (nextKey_last hlast false rest).bind_nil (pure b _)
  | cons x xs ih =>
    obtain ⟨most, rfl⟩ := Nat.exists_eq_add_one_of_ne_zero (Nat.ne_of_gt (Nat.zero_lt_of_lt hmost))
    refine bind (show Reads (nextKey false) (',' :: gap) true _ from nextKey_next hgap _) ?_
    rw [member, List.append_assoc]
    refine bind (body x.1 _) (bind ?_ (ih hstep.tail (Nat.lt_of_succ_lt_succ hmost)))
    exact hstep [] x xs rfl _ (.behind hlast _ (.inr rfl) rest)

/-- **The members of an object are read one by one.** -/
theorem foldMembers (hgap : Blank gap) (hlast : Blank last) {xs : List (String × σ)} {b : β}
    (hstep : Follows step run spell b xs) {most : Nat} (hmost : xs.length < most)
    (rest : List Char) :
    Reads (Reader.foldMembers step most true b) (within gap last (xs.map (member spell)))
      (xs.foldl run b) ('}' :: rest) := by
  obtain ⟨most, rfl⟩ := Nat.exists_eq_add_one_of_ne_zero (Nat.ne_of_gt (Nat.zero_lt_of_lt hmost))
  cases xs with
  | nil => exact (nextKey_last Blank.nil true rest).bind_nil (pure b _)
  | cons x xs =>
    refine bind (show Reads (nextKey true) gap true _ from nextKey_first hgap _) ?_
    rw [member, List.append_assoc]
    refine bind (body x.1 _) (bind ?_
      (foldMembers_behind hgap hlast hstep.tail (Nat.lt_of_succ_lt_succ hmost) rest))
    exact hstep [] x xs rfl _ (.behind hlast _ (.inr rfl) rest)

end Members

end Reads

end Reader

end LogWeave.Json

import LogWeave.Json.Printer
import LogWeave.Proofs.Json.Taking
import Mathlib.Tactic.IntervalCases

/-! Texts and whole numbers, written and read back.

Every character is read back from its escape (`Reads.upToQuote_cons`), so a text is
(`Reads.body`). The digits of a whole number give the number (`fitting_toDigits`), as long as it
has 64 bits (`Takes.number`). -/
namespace LogWeave.Json

namespace Reader

/-! ### Texts -/

/-- Control characters are written with two digits that matter. -/
theorem leftpad_toDigits {n : Nat} (h : n < 0x20) : ∃ x y,
    List.leftpad 4 '0' (Nat.toDigits 16 n) = ['0', '0', x, y] ∧
      Text.hexValue? x = some (n / 16) ∧ Text.hexValue? y = some (n % 16) := by
  interval_cases n <;> exact ⟨_, _, rfl, rfl, rfl⟩

namespace Reads

variable {text rest : List Char} {c d : Char} {cs : List Char}

theorem escaped_short (hshort : Text.short? d = some c) (hd : d ≠ 'u') (rest : List Char) :
    Reads Text.escaped [d] c rest := by
  refine peek_cons ?_
  split
  · cases ‹some d = none›
  · exact absurd (Option.some.inj ‹_›) hd
  · obtain rfl := Option.some.inj ‹some d = _›
    rw [hshort]
    exact advance d (pure c rest)

theorem escaped_numbered (hc : c.toNat < 0x20) (rest : List Char) :
    Reads Text.escaped ('u' :: List.leftpad 4 '0' (Nat.toDigits 16 c.toNat)) c rest := by
  obtain ⟨x, y, hdigits, hx, hy⟩ := leftpad_toDigits hc
  rw [hdigits]
  refine peek_cons (advance 'u' ?_)
  have hunit : Reads Text.unit ['0', '0', x, y] c.toNat rest := by
    intro place
    refine ⟨(Cursor.advanceBy 4 ⟨['0', '0', x, y] ++ rest, place⟩).place, ?_⟩
    unfold Text.unit
    dsimp only [List.cons_append]
    rw [hx, hy]
    show Except.ok (((0 * 16 + 0) * 16 + c.toNat / 16) * 16 + c.toNat % 16, _) = _
    rw [show ((0 * 16 + 0) * 16 + c.toNat / 16) * 16 + c.toNat % 16 = c.toNat by omega]
    rfl
  refine hunit.bind_nil ?_
  have htrailing : Text.isTrailing c.toNat = false := by simp [Text.isTrailing]; omega
  have hleading : Text.isLeading c.toNat = false := by simp [Text.isLeading]; omega
  simp only [htrailing, hleading, Bool.false_eq_true, if_false]
  rw [Char.ofNat_toNat]
  exact pure c rest

variable {most : Nat}

theorem upToQuote_escaped {spelt : List Char} (hc : Reads Text.escaped spelt c (text ++ rest))
    (h : Reads (Text.upToQuote most) text cs rest) :
    Reads (Text.upToQuote (most + 1)) ('\\' :: (spelt ++ text)) (c :: cs) rest :=
  peek_cons (advance '\\' (hc.bind (h.bind_pure (c :: ·))))

theorem upToQuote_short (hshort : Text.short? d = some c) (hd : d ≠ 'u')
    (h : Reads (Text.upToQuote most) text cs rest) :
    Reads (Text.upToQuote (most + 1)) ('\\' :: d :: text) (c :: cs) rest := by
  have hescaped := escaped_short hshort hd (text ++ rest)
  exact upToQuote_escaped hescaped h

/-- **A character is read back from its escape.** -/
theorem upToQuote_cons (c : Char) (h : Reads (Text.upToQuote most) text cs rest) :
    Reads (Text.upToQuote (most + 1)) (Printer.escapeChar c ++ text) (c :: cs) rest := by
  unfold Printer.escapeChar
  split
  · exact upToQuote_short rfl (by decide) h
  · exact upToQuote_short rfl (by decide) h
  · exact upToQuote_short rfl (by decide) h
  · exact upToQuote_short rfl (by decide) h
  · exact upToQuote_short rfl (by decide) h
  · exact upToQuote_short rfl (by decide) h
  · exact upToQuote_short rfl (by decide) h
  · rename_i hquote hback _ _ _ _ _
    split
    · rename_i hc
      exact upToQuote_escaped (escaped_numbered hc _) h
    · rename_i hc
      refine peek_cons ?_
      split
      · cases ‹some c = none›
      · exact absurd (Option.some.inj ‹_›) hquote
      · exact absurd (Option.some.inj ‹_›) hback
      · obtain rfl := Option.some.inj ‹some c = _›
        have hcontrol : Text.isControl c = false := by simpa [Text.isControl] using hc
        rw [hcontrol]
        exact advance c (h.bind_pure (c :: ·))

theorem upToQuote (cs : List Char) (rest : List Char) (h : cs.length < most) :
    Reads (Text.upToQuote most) (cs.flatMap Printer.escapeChar ++ ['"']) cs rest := by
  induction cs generalizing most with
  | nil =>
    obtain ⟨most, rfl⟩ := Nat.exists_eq_add_one_of_ne_zero (Nat.ne_of_gt h)
    exact peek_cons (advance '"' (pure [] rest))
  | cons c cs ih =>
    obtain ⟨most, rfl⟩ := Nat.exists_eq_add_one_of_ne_zero (Nat.ne_of_gt (Nat.zero_lt_of_lt h))
    rw [List.flatMap_cons, List.append_assoc]
    exact upToQuote_cons c (ih (Nat.lt_of_succ_lt_succ h))

theorem length_flatMap_escapeChar (cs : List Char) :
    cs.length ≤ (cs.flatMap Printer.escapeChar).length := by
  induction cs with
  | nil => exact Nat.zero_le _
  | cons c cs ih =>
    have hc : 1 ≤ (Printer.escapeChar c).length := by
      unfold Printer.escapeChar
      split <;> (try split) <;> simp [Printer.numbered]
    rw [List.flatMap_cons, List.length_append, List.length_cons]
    omega

/-- **A text is read back as it was written.** -/
theorem body (s : String) (rest : List Char) : Reads Text.body (Printer.text s) s rest := by
  refine advance '"' (bound ?_)
  have hroom : s.toList.length <
      ((s.toList.flatMap Printer.escapeChar ++ ['"']) ++ rest).length + 1 := by
    have := length_flatMap_escapeChar s.toList
    simp only [List.length_append]
    omega
  have hread := upToQuote s.toList rest hroom
  have hbody := hread.bind_pure String.ofList
  rwa [String.ofList_toList] at hbody

end Reads

/-- A text wherever one may stand. -/
theorem Takes.text (expected s : String) : Takes (Scalar.text expected) (Printer.text s) s :=
  .solid rfl fun rest _ => Reads.body s rest

/-! ### Whole numbers -/

theorem fitting_concat {ds : List Char} {c : Char} {n k : Nat}
    (h : Scalar.fitting ds n = (k, 0)) (hk : k * 10 + (c.toNat - '0'.toNat) < UInt64.size) :
    Scalar.fitting (ds ++ [c]) n = (k * 10 + (c.toNat - '0'.toNat), 0) := by
  induction ds generalizing n with
  | nil =>
    obtain rfl : n = k := congrArg Prod.fst h
    exact if_pos hk
  | cons d ds ih =>
    simp only [List.cons_append, Scalar.fitting] at h ⊢
    split at h
    · rename_i hnext
      rw [if_pos hnext]
      exact ih h
    · exact absurd (congrArg Prod.snd h) (Nat.succ_ne_zero _)

/-- **The digits of a number of 64 bits give the number.** -/
theorem fitting_toDigits {n : Nat} (h : n < UInt64.size) :
    Scalar.fitting (Nat.toDigits 10 n) 0 = (n, 0) := by
  have hdigit : ∀ d < 10, (Nat.digitChar d).toNat - '0'.toNat = d := by
    intro d hd
    rw [Nat.toNat_digitChar_of_lt_ten hd]
    exact Nat.add_sub_cancel_left 48 d
  induction n using Nat.strongRecOn with
  | _ n ih =>
    by_cases hn : n < 10
    · rw [Nat.toDigits_of_lt_base hn, ← List.nil_append [n.digitChar]]
      have hlast : Scalar.fitting ([] ++ [n.digitChar]) 0 =
          (0 * 10 + (n.digitChar.toNat - '0'.toNat), 0) :=
        fitting_concat rfl (by rw [hdigit n hn]; omega)
      rwa [hdigit n hn, Nat.zero_mul, Nat.zero_add] at hlast
    · have hmod : n % 10 < 10 := Nat.mod_lt n (by decide)
      rw [Nat.toDigits_of_base_le (by decide) (Nat.le_of_not_lt hn)]
      have hlast := fitting_concat (c := (n % 10).digitChar) (ih (n / 10) (by omega) (by omega))
        (by rw [hdigit _ hmod]; omega)
      rwa [hdigit _ hmod, show n / 10 * 10 + n % 10 = n by omega] at hlast

/-- No number but zero begins with a zero. -/
theorem head_toDigits {n : Nat} (h : 0 < n) : (Nat.toDigits 10 n).head? ≠ some '0' := by
  induction n using Nat.strongRecOn with
  | _ n ih =>
    by_cases hn : n < 10
    · rw [Nat.toDigits_of_lt_base hn]
      interval_cases n <;> decide
    · rw [Nat.toDigits_of_base_le (by decide) (Nat.le_of_not_lt hn),
        List.head?_append_of_ne_nil _ Nat.toDigits_ne_nil]
      exact ih (n / 10) (by omega) (by omega)

theorem toDigits_eq_cons (n : Nat) :
    ∃ first ds, Nat.toDigits 10 n = first :: ds ∧ ∀ d ∈ first :: ds, d.isDigit = true := by
  obtain ⟨first, ds, hn⟩ := List.exists_cons_of_ne_nil (Nat.toDigits_ne_nil (n := n) (b := 10))
  refine ⟨first, ds, hn, fun d hd => ?_⟩
  exact Nat.isDigit_of_mem_toDigits (b := 10) (n := n) (by decide) (by decide) (hn ▸ hd)

theorem number_ofNat (n : Nat) : Printer.number (.whole (Int.ofNat n)) = Nat.toDigits 10 n :=
  Nat.toList_repr

theorem number_negSucc (n : Nat) :
    Printer.number (.whole (Int.negSucc n)) = '-' :: Nat.toDigits 10 (n + 1) := by
  show ("-" ++ (n + 1).repr).toList = _
  rw [String.toList_append, Nat.toList_repr]
  rfl

theorem Ends.not_mem {rest : List Char} {c : Char} (h : Ends rest) (hc : c ∈ rest.head?) :
    c.isDigit = false ∧ c ≠ '.' ∧ c ≠ 'e' ∧ c ≠ 'E' := by
  have hcases : c = ' ' ∨ c = '\n' ∨ c = '\t' ∨ c = '\r' ∨ c = ',' ∨ c = ']' ∨ c = '}' := by
    have := h c hc
    simp only [Cursor.isBlank, Bool.or_eq_true, beq_iff_eq] at this
    tauto
  rcases hcases with rfl | rfl | rfl | rfl | rfl | rfl | rfl <;> decide

namespace Reads

variable {rest : List Char}

theorem oneDigit {c : Char} (hc : c.isDigit = true) (ended : Complaint) (rest : List Char) :
    Reads (Scalar.oneDigit ended) [c] c rest := by
  refine peek_cons ?_
  show Reads (if c.isDigit = true then _ else _) _ _ _
  rw [if_pos hc]
  exact advance c (pure c rest)

/-- The digits behind the first one. -/
theorem moreDigits {n : Nat} {first : Char} {ds : List Char}
    (hn : Nat.toDigits 10 n = first :: ds) (hds : ∀ d ∈ ds, d.isDigit = true)
    (hrest : Ends rest) :
    Reads (do
      if first = '0' then do
        match ← Reader.peek with
        | some c => if c.isDigit then Reader.failAhead .invalidNumber else Pure.pure []
        | none => Pure.pure []
      else Reader.digits) ds ds rest := by
  split
  · rename_i hfirst
    obtain rfl : n = 0 := by
      by_contra hne
      exact head_toDigits (Nat.pos_of_ne_zero hne) (by rw [hn, hfirst]; rfl)
    obtain rfl : [] = ds := (List.cons.inj ((Nat.toDigits_zero 10).symm.trans hn)).2
    refine peek ?_
    split
    · rename_i c hc
      rw [if_neg (by rw [(hrest.not_mem hc).1]; decide)]
      exact pure [] rest
    · exact pure [] rest
  · exact digits hds fun c hc => (hrest.not_mem hc).1

theorem unsigned (negative : Bool) {n : Nat} (h : n < UInt64.size) (hrest : Ends rest) :
    Reads (Scalar.unsigned negative) (Nat.toDigits 10 n) (Scalar.wholeOf negative n) rest := by
  have hfit := fitting_toDigits h
  obtain ⟨first, ds, hn, hall⟩ := toDigits_eq_cons n
  rw [hn] at hfit ⊢
  have hfirst : first.isDigit = true := hall first List.mem_cons_self
  have hds : ∀ d ∈ ds, d.isDigit = true := fun d hd => hall d (List.mem_cons_of_mem first hd)
  refine (oneDigit hfirst _ _).bind ((moreDigits hn hds hrest).bind_nil ?_)
  rw [hfit]
  refine peek ?_
  split
  · exact absurd rfl (hrest.not_mem ‹_›).2.1
  · exact absurd rfl (hrest.not_mem ‹_›).2.2.1
  · exact absurd rfl (hrest.not_mem ‹_›).2.2.2
  · exact pure _ rest

end Reads

/-- A whole number that keeps 64 bits: with a sign or without. -/
def Fits64 (n : Int) : Prop := -0x8000000000000000 ≤ n ∧ n < 0x10000000000000000

instance (n : Int) : Decidable (Fits64 n) := inferInstanceAs (Decidable (_ ∧ _))

/-- **A whole number of 64 bits is read back as it was written.** -/
theorem Reads.number {n : Int} (hn : Fits64 n) {rest : List Char} (hrest : Ends rest) :
    Reads Scalar.number (Printer.number (.whole n)) (.whole n) rest := by
  obtain ⟨hlow, hhigh⟩ := hn
  cases n with
  | ofNat n =>
    have hread := Reads.unsigned false (n := n) (Int.ofNat_lt.1 hhigh) hrest
    obtain ⟨first, ds, hn, hall⟩ := toDigits_eq_cons n
    rw [number_ofNat]
    rw [hn] at hread ⊢
    refine peek_cons ?_
    split
    · obtain rfl := Option.some.inj ‹some first = _›
      exact absurd (hall '-' List.mem_cons_self) (by decide)
    · exact hread
  | negSucc n =>
    have hle : n + 1 ≤ 0x8000000000000000 := by omega
    have hvalue : Scalar.wholeOf true (n + 1) = .whole (Int.negSucc n) := by
      simp [Scalar.wholeOf, hle, Int.negSucc_eq]
    rw [number_negSucc, ← hvalue]
    refine peek_cons (advance '-' (Reads.unsigned true (Nat.lt_of_le_of_lt hle ?_) hrest))
    decide

end Reader

end LogWeave.Json

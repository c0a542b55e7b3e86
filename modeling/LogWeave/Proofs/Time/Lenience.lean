import LogWeave.Proofs.Line.Stamping
import LogWeave.Time.Lenient

/-! Times in stored documents are read back as they were written.

A lenient reader accepts more than is ever written, and what is written has a year of any length and
no more of a fraction than it needs. Field by field the reader takes off just what the writer put
there (`year_append`, `fraction_brief`), and every moment has a year that the calendar counts
(`Instant.year_bounds`), so every moment is read back (`read_brief`). -/
namespace LogWeave.Time

/-- Every moment has a year that the calendar counts. -/
theorem Instant.year_bounds (t : Instant) :
    Lenient.firstYear ≤ t.date.year ∧ t.date.year ≤ Lenient.lastYear := by
  obtain ⟨hfirst, hlast, -⟩ := t.valid
  have hjanuary : dayOf ⟨Lenient.firstYear, 1, 1⟩ = -96465292 := by decide
  have hdecember : dayOf ⟨Lenient.lastYear, 12, 31⟩ = 95026236 := by decide
  refine year_dateOf ?_ ?_
  · rw [hjanuary]
    unfold firstSecond at hfirst
    omega
  · rw [hdecember]
    unfold lastSecond at hlast
    omega

namespace Lenient

open Reader Rfc3339

variable {ds rest : List Char} {c : Char} {n : Nat}

/-! ### Blanks and digits -/

theorem blanks_cons (hc : Text.isBlank c = false) (rest : List Char) :
    blanks (c :: rest) = .ok ((), c :: rest) := by
  simp [blanks, skip, hc]

theorem isBlank_of_isDigit (hc : c.isDigit = true) : Text.isBlank c = false := by
  simp only [Char.isDigit, Bool.and_eq_true, decide_eq_true_eq] at hc
  have hlow : 48 ≤ c.toNat := hc.1
  have hhigh : c.toNat ≤ 57 := hc.2
  simp [Text.isBlank]
  omega

theorem blanks_digits (hds : ds ≠ []) (h : ∀ d ∈ ds, d.isDigit = true) (rest : List Char) :
    blanks (ds ++ rest) = .ok ((), ds ++ rest) := by
  obtain ⟨d, more, rfl⟩ := List.exists_cons_of_ne_nil hds
  exact blanks_cons (isBlank_of_isDigit (h d List.mem_cons_self)) _

theorem blanks_fixed {width : Nat} (hpos : 0 < width) (n : Nat) (rest : List Char) :
    blanks (fixed width n ++ rest) = .ok ((), fixed width n ++ rest) :=
  blanks_digits (fixed_ne_nil hpos n) (isDigit_fixed width n) rest

theorem separator_cons (hc : Text.isBlank c = false) (rest : List Char) :
    separator c (c :: rest) = .ok ((), rest) := by
  rw [separator, bind_ok (blanks_cons hc rest), bind_ok (only_cons c rest)]
  rfl

/-! ### Fields -/

theorem shortNumber_fixed {width : Nat} (hpos : 0 < width) (hn : n < Nat.pow 10 width)
    (hc : c.isDigit = false) (rest : List Char) :
    shortNumber width (fixed width n ++ c :: rest) = .ok (n, c :: rest) := by
  have hdigits : someDigits width (fixed width n ++ c :: rest) = .ok (fixed width n, c :: rest) :=
    someDigits_append (fixed_ne_nil hpos n) (isDigit_fixed width n) (length_fixed width n).le hc
      rest
  rw [shortNumber, bind_ok hdigits, numberOf_fixed, Nat.mod_eq_of_lt hn]
  rfl

/-- A field of two digits is read back. -/
theorem field_append {least most : Nat} (hleast : least ≤ n) (hmost : n ≤ most) (hn : n < 100)
    (hc : c.isDigit = false) (rest : List Char) :
    field least most (fixed 2 n ++ c :: rest) = .ok (n, c :: rest) := by
  have hbounds : (least ≤ n && n ≤ most) = true := by simp [hleast, hmost]
  rw [field, bind_ok (blanks_fixed (by decide) n _),
    bind_ok (shortNumber_fixed (by decide) hn hc rest), bind_ok (require_of hbounds _)]
  rfl

/-- Digits of any count are read as their number. -/
theorem longNumber_append (hds : ds ≠ []) (h : ∀ d ∈ ds, d.isDigit = true)
    (hsmall : numberOf ds < 0x8000000000000000) (hc : c.isDigit = false) (rest : List Char) :
    longNumber (ds ++ c :: rest) = .ok (numberOf ds, c :: rest) := by
  have htaken : (ds ++ c :: rest).takeWhile Char.isDigit = ds := by
    rw [List.takeWhile_append_of_pos h, List.takeWhile_cons_of_neg (by simp [hc]), List.append_nil]
  have hleft : (ds ++ c :: rest).dropWhile Char.isDigit = c :: rest := by
    rw [List.dropWhile_append_of_pos h, List.dropWhile_cons_of_neg (by simp [hc])]
  obtain ⟨d, more, rfl⟩ := List.exists_cons_of_ne_nil hds
  have hd : d.isDigit = true := h d List.mem_cons_self
  rw [List.cons_append] at htaken hleft ⊢
  simp only [longNumber, hd, htaken, hleft, hsmall, if_true]
  rfl

/-- Zeros in front do not count. -/
theorem numberOf_leftpad (width n : Nat) :
    numberOf (List.leftpad width '0' (Nat.toDigits 10 n)) = n := by
  rw [numberOf_eq, List.leftpad, Nat.ofDigitChars_append, Nat.ofDigitChars_replicate_zero,
    Nat.mul_zero, Nat.ofDigitChars_ten_toDigits]

theorem leftpad_ne_nil (width n : Nat) : List.leftpad width '0' (Nat.toDigits 10 n) ≠ [] :=
  List.append_ne_nil_of_right_ne_nil _ Nat.toDigits_ne_nil

/-- Digits do not begin with a sign. -/
theorem digits_ne_cons (hds : ds ≠ []) (h : ∀ d ∈ ds, d.isDigit = true) {sign : Char}
    (hsign : sign.isDigit = false) (rest more : List Char) : ds ++ rest ≠ sign :: more := by
  intro heq
  obtain ⟨d, left, rfl⟩ := List.exists_cons_of_ne_nil hds
  obtain rfl : d = sign := (List.cons.inj heq).1
  rw [h d List.mem_cons_self] at hsign
  cases hsign

/-- A number within the bounds of a year is kept as it was read. -/
theorem bounded_of {y : Int} (hy : -yearBound ≤ y ∧ y < yearBound) {number : Reader Int}
    {cs rest : List Char} (h : number cs = .ok (y, rest)) :
    (number >>= fun n => do
      require (-yearBound ≤ n && n < yearBound)
      pure n) cs = .ok (y, rest) := by
  have hbounds : (-yearBound ≤ y && y < yearBound) = true := by simp [hy]
  rw [bind_ok h, bind_ok (require_of hbounds _)]
  rfl

/-- Four digits are not taken for a sign. -/
theorem year_unsigned {y : Int} (hy : 0 ≤ y ∧ y ≤ 9999) (rest : List Char) :
    year (fixed 4 y.toNat ++ '-' :: rest) = .ok (y, '-' :: rest) := by
  have hsmall : y.toNat < 10000 := by omega
  have hbounds : -yearBound ≤ y ∧ y < yearBound := by
    unfold yearBound
    omega
  have hnumber : shortNumber 4 (fixed 4 y.toNat ++ '-' :: rest) = .ok (y.toNat, '-' :: rest) :=
    shortNumber_fixed (by decide) hsmall rfl rest
  have hunsigned {sign : Char} (hsign : sign.isDigit = false) (more : List Char) :
      fixed 4 y.toNat ++ '-' :: rest ≠ sign :: more :=
    digits_ne_cons (fixed_ne_nil (by decide) _) (isDigit_fixed 4 _) hsign _ more
  rw [year, bind_ok (blanks_fixed (by decide) _ _)]
  refine bounded_of hbounds ?_
  split
  · exact absurd ‹_› (hunsigned rfl _)
  · exact absurd ‹_› (hunsigned rfl _)
  · rw [bind_ok hnumber, Int.toNat_of_nonneg hy.1]
    rfl

/-- Behind a sign there are as many digits as the number needs. -/
theorem year_signed {y : Int} (hy : -yearBound ≤ y ∧ y < yearBound) (rest : List Char) :
    year ((if y < 0 then '-' else '+') ::
      (List.leftpad 4 '0' (Nat.toDigits 10 y.natAbs) ++ '-' :: rest)) = .ok (y, '-' :: rest) := by
  have hsmall : numberOf (List.leftpad 4 '0' (Nat.toDigits 10 y.natAbs)) <
      0x8000000000000000 := by
    rw [numberOf_leftpad]
    unfold yearBound at hy
    omega
  have hnumber := longNumber_append (leftpad_ne_nil 4 y.natAbs) (isDigit_leftpad 4 y.natAbs)
    hsmall (show '-'.isDigit = false from rfl) rest
  rw [numberOf_leftpad] at hnumber
  have hsign : Text.isBlank (if y < 0 then '-' else '+') = false := by split <;> decide
  rw [year, bind_ok (blanks_cons hsign _)]
  refine bounded_of hy ?_
  by_cases hneg : y < 0
  · have hvalue : -(y.natAbs : Int) = y := by omega
    rw [if_pos hneg]
    show (longNumber >>= _) _ = _
    rw [bind_ok hnumber, hvalue]
    rfl
  · have hvalue : (y.natAbs : Int) = y := by omega
    rw [if_neg hneg]
    show (longNumber >>= _) _ = _
    rw [bind_ok hnumber, hvalue]
    rfl

/-- A year is read back, in four digits or with its sign. -/
theorem year_append {y : Int} (hy : -yearBound ≤ y ∧ y < yearBound) (rest : List Char) :
    year (yearText y ++ '-' :: rest) = .ok (y, '-' :: rest) := by
  unfold yearText
  split
  · exact year_unsigned ‹_› rest
  · exact year_signed hy rest

/-- A fraction that ends in zeros is read back without them. -/
theorem fraction_scaled {width : Nat} (hn : n < nanosPerSecond) (hpos : 0 < width) (hle : width ≤ 9)
    (hwhole : n % Nat.pow 10 (9 - width) = 0) (hc : c.isDigit = false) (rest : List Char) :
    Reader.fraction ('.' :: (fixed width (n / Nat.pow 10 (9 - width)) ++ c :: rest)) =
      .ok (n, c :: rest) := by
  have hpowers : Nat.pow 10 width * Nat.pow 10 (9 - width) = nanosPerSecond := by
    refine (Nat.pow_add 10 width (9 - width)).symm.trans ?_
    rw [Nat.add_sub_cancel' hle]
    rfl
  have hsmall : n / Nat.pow 10 (9 - width) < Nat.pow 10 width :=
    (Nat.div_lt_iff_lt_mul (Nat.pow_pos (by decide))).2 (hn.trans_eq hpowers.symm)
  have hread := fraction_fixed hpos hle hsmall hc rest
  rwa [Nat.div_mul_cancel (Nat.dvd_of_mod_eq_zero hwhole)] at hread

/-- A fraction is read back from as many digits as it needs. -/
theorem fraction_brief (hn : n < nanosPerSecond) (hc : c.isDigit = false) (hpoint : c ≠ '.')
    (rest : List Char) :
    Reader.fraction (briefFraction n ++ c :: rest) = .ok (n, c :: rest) := by
  unfold briefFraction
  split
  · -- Without a point there is no fraction.
    rename_i hzero
    rw [hzero, List.nil_append, Reader.fraction]
    exact fun _ heq => hpoint (List.cons.inj heq).1
  · split
    · exact fraction_scaled hn (by decide) (by decide) ‹_› hc rest
    · split
      · exact fraction_scaled hn (by decide) (by decide) ‹_› hc rest
      · exact fraction_append hn hc rest

/-- What follows the seconds begins with no digit. -/
theorem briefFraction_eq_cons (n : Nat) :
    ∃ c rest, briefFraction n ++ ['Z'] = c :: rest ∧ c.isDigit = false := by
  unfold briefFraction
  split
  · exact ⟨_, _, rfl, rfl⟩
  · split
    · exact ⟨_, _, rfl, rfl⟩
    · split <;> exact ⟨_, _, rfl, rfl⟩

/-! ### A whole time -/

/-- **A moment is read back from its brief form.** -/
theorem read_brief (t : Instant) : read (brief t).toList = .ok t := by
  have hreal : t.date.isReal = true := isReal_dateOf _
  obtain ⟨⟨hjanuary, hdecember⟩, hfirst, hlast⟩ := t.date.isReal_range hreal
  obtain ⟨hhour, hminute, hsecond⟩ := Clock.isReal_iff.1 t.isReal_clock
  have hyear := t.year_bounds
  have hbound : -yearBound ≤ t.date.year ∧ t.date.year < yearBound := by
    unfold firstYear lastYear at hyear
    unfold yearBound
    omega
  have hcounted : (firstYear ≤ t.date.year && t.date.year ≤ lastYear && t.date.isReal) = true := by
    simp [hyear, hreal]
  have hfraction : fractionOf t < nanosPerSecond := Nat.mod_lt _ (by decide)
  have hchars : (brief t).toList = yearText t.date.year ++ '-' :: (fixed 2 t.date.month ++
      '-' :: (fixed 2 t.date.day ++ 'T' :: (fixed 2 t.clock.hour ++ ':' ::
      (fixed 2 t.clock.minute ++ ':' :: (fixed 2 t.clock.second ++
      (briefFraction (fractionOf t) ++ ['Z'])))))) := by
    simp [brief, toSecond, Instant.clock]
  obtain ⟨c, rest, hbehind, hc⟩ := briefFraction_eq_cons (fractionOf t)
  rw [read, Reader.run, hchars, time, bind_ok (year_append hbound _),
    bind_ok (separator_cons (by decide) _),
    bind_ok (field_append hjanuary hdecember (by omega) (by decide) _),
    bind_ok (separator_cons (by decide) _),
    bind_ok (field_append hfirst hlast (by omega) (by decide) _),
    bind_ok (rfl : dateTimeSeparator ('T' :: _) = .ok ((), _)),
    bind_ok (field_append (Nat.zero_le _) (by omega) (by omega) (by decide) _),
    bind_ok (separator_cons (by decide) _),
    bind_ok (field_append (Nat.zero_le _) (by omega) (by omega) (by decide) _),
    bind_ok (separator_cons (by decide) _), hbehind,
    bind_ok (field_append (Nat.zero_le _) hsecond (by omega) hc rest), ← hbehind,
    bind_ok (fraction_brief hfraction rfl (by decide) []), bind_ok (blanks_cons (by decide) []),
    bind_ok (rfl : offset ['Z'] = .ok (0, [])), bind_ok (rfl : finish [] = .ok ((), [])),
    bind_ok (require_of hcounted []), bind_ok (rfl : requireOffset 0 [] = .ok ((), [])),
    t.instantAt?_self]
  rfl

end Lenient

end LogWeave.Time

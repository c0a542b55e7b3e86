import LogWeave.Proofs.Line.Stamping

/-! Times as they are written, with any offset from universal time.

A `Writing` is what stands in a stamp: a date, a clock, a fraction of the second and an offset. It
is read as the moment at which clocks of that offset show it (`Writing.read_chars`). So written
times are ordered by the seconds they show, and second 60 comes after second 59 and before the next
(`Writing.lt_of_second_lt`, `Writing.lt_of_leap`). -/
namespace LogWeave.Time

/-- Two digits are the tens and the ones of their number. -/
theorem Reader.pair_fixed (n : Nat) (rest : List Char) :
    pair (fixed 2 n ++ rest) = .ok ((n / 10 % 10, n % 10), rest) := by
  obtain ⟨htens, htensValue⟩ := digitChar_spec (n / 10 % 10) (Nat.mod_lt _ (by decide))
  obtain ⟨hones, honesValue⟩ := digitChar_spec (n % 10) (Nat.mod_lt _ (by decide))
  simp [fixed, pair, htens, htensValue, hones, honesValue]

namespace Rfc3339

open Reader

/-- The characters of an offset: `Z`, or its hours and minutes after a sign. -/
def offsetChars (offset : Int) : List Char :=
  if offset = 0 then ['Z']
  else
    (if offset < 0 then '-' else '+') ::
      (fixed 2 (offset.natAbs / 3600) ++ ':' :: fixed 2 (offset.natAbs / 60 % 60))

/-- Hours and minutes after a sign are the seconds they count. -/
theorem offset_signed {c : Char} {s : Int} {n : Nat} (hc : c ≠ 'Z' ∧ c ≠ 'z')
    (hsign : ∀ rest, sign (c :: rest) = .ok (s, rest)) (hn : n < 86400) (hminutes : n % 60 = 0) :
    offset colon (c :: (fixed 2 (n / 3600) ++ ':' :: fixed 2 (n / 60 % 60))) =
      .ok (s * n, []) := by
  have hminute := pair_fixed (n / 60 % 60) []
  rw [List.append_nil] at hminute
  have hcount : (n / 3600 / 10 % 10 * 10 + n / 3600 % 10) * 3600 +
      (n / 60 % 60 / 10 % 10 * 10 + n / 60 % 60 % 10) * 60 = n := by omega
  unfold Reader.offset
  split
  · rename_i heq
    exact absurd (List.cons.inj heq).1 hc.1
  · rename_i heq
    exact absurd (List.cons.inj heq).1 hc.2
  · rw [bind_ok (hsign _), bind_ok (pair_fixed ..)]
    simp only
    rw [bind_ok (rfl : colon (':' :: _) = .ok ((), _)), bind_ok hminute]
    simp only
    rw [bind_ok (require_of (by simp; omega) _), hcount]
    rfl

/-- An offset is read back as it was written. -/
theorem offset_append {o : Int} (ho : o.natAbs < 86400) (hminutes : o % 60 = 0) :
    offset colon (offsetChars o) = .ok (o, []) := by
  have hwhole : o.natAbs % 60 = 0 := by omega
  by_cases hzero : o = 0
  · rw [offsetChars, if_pos hzero, hzero]
    rfl
  · by_cases hneg : o < 0
    · rw [offsetChars, if_neg hzero, if_pos hneg,
        offset_signed (by decide) (fun _ => rfl) ho hwhole]
      congr 2
      omega
    · rw [offsetChars, if_neg hzero, if_neg hneg,
        offset_signed (by decide) (fun _ => rfl) ho hwhole]
      congr 2
      omega

/-- An offset begins with no digit. -/
theorem offsetChars_eq_cons (o : Int) :
    ∃ c rest, offsetChars o = c :: rest ∧ c.isDigit = false := by
  unfold offsetChars
  split
  · exact ⟨'Z', [], rfl, rfl⟩
  · refine ⟨_, _, rfl, ?_⟩
    split <;> rfl

end Rfc3339

open Rfc3339 Reader

/-- What a written time shows. -/
structure Writing where
  date : Date
  clock : Clock
  fraction : Nat
  /-- Seconds by which its clocks are ahead of universal time. -/
  offset : Int
  isReal : date.isReal = true ∧ clock.isReal = true
  year : 0 ≤ date.year ∧ date.year ≤ 9999
  fraction_lt : fraction < nanosPerSecond
  offset_lt : offset.natAbs < 86400
  offset_minutes : offset % 60 = 0

namespace Writing

variable (w w' : Writing) {t t' : Instant}

def chars : List Char :=
  dateChars w.date ++ 'T' :: (clockChars w.clock w.fraction ++ offsetChars w.offset)

def text : String := String.ofList w.chars

/-- The moment that is shown, if the calendar has it. -/
def moment? : Option Instant := instantAt? w.date w.clock w.fraction w.offset

/-- The second that is shown, counted from 1970; a leap second is counted with the one before it. -/
def second : Int := dayOf w.date * 86400 + w.clock.seconds - w.offset

def isLeap : Bool := w.clock.second == 60

/-- Date, clock and fraction are read as the moment they show, with any spelling of the offset. -/
theorem read_followed {z : Char} {rest : List Char} (hz : z.isDigit = false)
    (hoffset : Reader.offset colon (z :: rest) = .ok (w.offset, [])) :
    Rfc3339.read (dateChars w.date ++ 'T' :: (clockChars w.clock w.fraction ++ z :: rest)) =
      match w.moment? with
      | some t => .ok t
      | none => .error .outOfRange := by
  have hlength : shortest ≤
      (dateChars w.date ++ 'T' :: (clockChars w.clock w.fraction ++ z :: rest)).length := by
    simp only [dateChars, clockChars, List.length_append, List.length_cons, length_fixed,
      shortest]
    omega
  have hbound : requireOffset w.offset [] = .ok ((), []) := by
    have hoffset_lt := w.offset_lt
    refine require_of ?_ []
    simp only [Bool.and_eq_true, decide_eq_true_eq]
    omega
  rw [Rfc3339.read, if_neg (hlength.trans (length_le_byteLength _)).not_gt, Reader.run, time,
    bind_ok (date_append w.isReal.1 w.year _), bind_ok (char_cons rfl _),
    bind_ok (clock_append w.isReal.2 w.fraction_lt hz rest)]
  simp only
  rw [bind_ok hoffset, bind_ok (rfl : finish [] = .ok ((), [])), bind_ok hbound, moment?]
  cases instantAt? w.date w.clock w.fraction w.offset <;> rfl

/-- **A written time is read as the moment it shows.** -/
theorem read_chars : Rfc3339.read w.chars =
    match w.moment? with
    | some t => .ok t
    | none => .error .outOfRange := by
  obtain ⟨z, rest, hoffset, hz⟩ := offsetChars_eq_cons w.offset
  rw [chars, hoffset]
  refine w.read_followed hz ?_
  rw [← hoffset]
  exact offset_append w.offset_lt w.offset_minutes

/-- What is read in front of a line has the second and the nanoseconds that are shown. -/
theorem counts_of_read (h : Stamp.read w.text = .ok t) :
    t.seconds = w.second ∧ t.nanos = w.clock.nanos w.fraction := by
  have hmoment : w.moment? = some t := by
    rw [Stamp.read, text, String.toList_ofList, read_chars] at h
    cases hmoment : w.moment? with
    | none => rw [hmoment] at h; cases h
    | some u => rw [hmoment] at h; cases h; rfl
  simp only [moment?, instantAt?, Instant.ofCounts?, Option.dite_none_right_eq_some] at hmoment
  obtain ⟨_, hcounts⟩ := hmoment
  cases hcounts
  exact ⟨rfl, rfl⟩

variable {w w'}

/-- Of two times, that of the earlier second is earlier. -/
theorem lt_of_second_lt (h : Stamp.read w.text = .ok t) (h' : Stamp.read w'.text = .ok t')
    (hsecond : w.second < w'.second) : t < t' := by
  obtain ⟨hseconds, -⟩ := counts_of_read w h
  obtain ⟨hseconds', -⟩ := counts_of_read w' h'
  rw [Instant.lt_iff_not_le, Instant.le_iff]
  omega

/-- **A leap second comes after the second it follows.** -/
theorem lt_of_leap (h : Stamp.read w.text = .ok t) (h' : Stamp.read w'.text = .ok t')
    (hsecond : w.second = w'.second) (hleap : w.isLeap = false) (hleap' : w'.isLeap = true) :
    t < t' := by
  obtain ⟨hseconds, hnanos⟩ := counts_of_read w h
  obtain ⟨hseconds', hnanos'⟩ := counts_of_read w' h'
  rw [Clock.nanos, if_neg (beq_eq_false_iff_ne.1 hleap)] at hnanos
  rw [Clock.nanos, if_pos (beq_iff_eq.1 hleap')] at hnanos'
  have hfraction := w.fraction_lt
  rw [Instant.lt_iff_not_le, Instant.le_iff]
  omega

end Writing

end LogWeave.Time

import LogWeave.Line.Stamp
import LogWeave.Proofs.Time.Almanac
import Mathlib.Data.List.TakeWhile

/-! A stamp in front of a line is read back as it was written.

The reader takes off a written time what the writer put there, field by field (`date_append`,
`clock_append`), so it finds the same date, clock and fraction, and with them the same moment
(`time_renderChars`). A year that four digits cannot write stands behind a sign, and no stamp begins
with one (`time_signed`). Hence a stamp is never read as another time (`Stamp.read_render`). -/
namespace LogWeave

namespace Time

namespace Reader

variable {α β : Type} {reader : Reader α} {next : α → Reader β} {cs rest : List Char} {a : α}
  {fault : Fault}

theorem bind_ok (h : reader cs = .ok (a, rest)) : (reader >>= next) cs = next a rest := by
  show (reader cs >>= fun x => next x.1 x.2) = _
  rw [h]
  rfl

theorem bind_error (h : reader cs = .error fault) : (reader >>= next) cs = .error fault := by
  show (reader cs >>= fun x => next x.1 x.2) = _
  rw [h]
  rfl

theorem char_cons {accept : Char → Bool} {c : Char} (h : accept c = true) (rest : List Char) :
    char accept (c :: rest) = .ok (c, rest) := by
  simp [char, h]

theorem only_cons (c : Char) (rest : List Char) : only c (c :: rest) = .ok (c, rest) :=
  char_cons (beq_self_eq_true c) rest

theorem require_of {holds : Bool} (h : holds = true) (cs : List Char) :
    require holds cs = .ok ((), cs) := by
  rw [h]
  rfl

/-- A field that begins with no digit is none. -/
theorem digits_cons {c : Char} (h : c.isDigit = false) (width : Nat) (rest : List Char) :
    digits (width + 1) (c :: rest) = .error .invalid := by
  have hc : char Char.isDigit (c :: rest) = .error .invalid := by simp [char, h]
  rw [digits, digitsAfter, bind_error hc]

/-- Digits are taken up to what is none. -/
theorem someDigits_append {ds : List Char} {most : Nat} (hds : ds ≠ [])
    (h : ∀ d ∈ ds, d.isDigit = true) (hmost : ds.length ≤ most) {c : Char}
    (hc : c.isDigit = false) (rest : List Char) :
    someDigits most (ds ++ c :: rest) = .ok (ds, c :: rest) := by
  have hrest : ((c :: rest).take (most - ds.length)).takeWhile Char.isDigit = [] := by
    cases most - ds.length with
    | zero => rfl
    | succ => simp [hc]
  have htaken : ((ds ++ c :: rest).take most).takeWhile Char.isDigit = ds := by
    rw [List.take_append, List.take_of_length_le hmost, List.takeWhile_append_of_pos h, hrest,
      List.append_nil]
  obtain ⟨d, more, rfl⟩ := List.exists_cons_of_ne_nil hds
  unfold someDigits
  rw [htaken]
  show Except.ok (_, List.drop _ _) = _
  rw [List.drop_left]

theorem fixed_ne_nil {width : Nat} (h : 0 < width) (n : Nat) : fixed width n ≠ [] := by
  rw [← List.length_pos_iff, length_fixed]
  exact h

/-- The number that digits spell, as the library has it. -/
theorem numberOf_eq (ds : List Char) : numberOf ds = Nat.ofDigitChars 10 ds 0 := by
  simp only [numberOf, Nat.ofDigitChars, digitValue, Nat.mul_comm 10]

/-- Digits after a point are parts of a second, as small as there are digits. -/
theorem fraction_fixed {width n : Nat} (hpos : 0 < width) (hle : width ≤ 9)
    (hn : n < Nat.pow 10 width) {c : Char} (hc : c.isDigit = false) (rest : List Char) :
    fraction ('.' :: (fixed width n ++ c :: rest)) =
      .ok (n * Nat.pow 10 (9 - width), c :: rest) := by
  have hdigits : someDigits 9 (fixed width n ++ c :: rest) = .ok (fixed width n, c :: rest) :=
    someDigits_append (fixed_ne_nil hpos n) (isDigit_fixed width n)
      ((length_fixed width n).trans_le hle) hc rest
  have hskip : skip Char.isDigit (c :: rest) = .ok ((), c :: rest) := by simp [skip, hc]
  have hspelt : numberOf (fixed width n) = n :=
    (numberOf_fixed width n).trans (Nat.mod_eq_of_lt hn)
  have hnumber : numberOf ((fixed width n).rightpad 9 '0') = n * Nat.pow 10 (9 - width) := by
    rw [numberOf_eq] at hspelt
    rw [List.rightpad, length_fixed, numberOf_eq, Nat.ofDigitChars_append, hspelt,
      Nat.ofDigitChars_replicate_zero, Nat.mul_comm]
    rfl
  show nanos _ = _
  rw [nanos, bind_ok hdigits, bind_ok hskip, hnumber]
  rfl

/-- Nine digits after a point are the nanoseconds. -/
theorem fraction_append {n : Nat} (hn : n < nanosPerSecond) {c : Char} (hc : c.isDigit = false)
    (rest : List Char) : fraction ('.' :: (fixed 9 n ++ c :: rest)) = .ok (n, c :: rest) := by
  have hread : fraction ('.' :: (fixed 9 n ++ c :: rest)) = .ok (n * 1, c :: rest) :=
    fraction_fixed (by decide) (by decide) hn hc rest
  rwa [Nat.mul_one] at hread

theorem offset_utc (separator : Reader Unit) (rest : List Char) :
    offset separator ('Z' :: rest) = .ok (0, rest) := rfl

end Reader

namespace Rfc3339

open Reader

variable {t : Instant}

/-- The characters of a date. -/
def dateChars (d : Date) : List Char :=
  fixed 4 d.year.toNat ++ '-' :: (fixed 2 d.month ++ '-' :: fixed 2 d.day)

/-- The characters of a clock, with nine digits of the second. -/
def clockChars (c : Clock) (fraction : Nat) : List Char :=
  fixed 2 c.hour ++ ':' :: (fixed 2 c.minute ++ ':' :: (fixed 2 c.second ++
    '.' :: fixed 9 fraction))

/-- A date is read back as it was written. -/
theorem date_append {d : Date} (hd : d.isReal = true) (hy : 0 ≤ d.year ∧ d.year ≤ 9999)
    (rest : List Char) : date (dateChars d ++ rest) = .ok (d, rest) := by
  obtain ⟨hmonth, hday⟩ := d.isReal_bounds hd
  have hyear : (⟨(d.year.toNat : Int), d.month, d.day⟩ : Date) = d := by
    rw [Int.toNat_of_nonneg hy.1]
  simp only [dateChars, List.append_assoc, List.cons_append]
  rw [date, bind_ok (digits_fixed 4 _ _ (by show _ < 10000; omega)), bind_ok (only_cons ..),
    bind_ok (digits_fixed 2 _ _ hmonth), bind_ok (only_cons ..),
    bind_ok (digits_fixed 2 _ _ hday)]
  simp only [hyear]
  rw [bind_ok (require_of hd _)]
  rfl

/-- A clock is read back as it was written. -/
theorem clock_append {c : Clock} (hc : c.isReal = true) {fraction : Nat}
    (hf : fraction < nanosPerSecond) {z : Char} (hz : z.isDigit = false) (rest : List Char) :
    clock (clockChars c fraction ++ z :: rest) = .ok ((c, fraction), z :: rest) := by
  obtain ⟨hhour, hminute, hsecond⟩ := Clock.isReal_iff.1 hc
  simp only [clockChars, List.append_assoc, List.cons_append]
  rw [clock, bind_ok (digits_fixed 2 _ _ (by show _ < 100; omega)), bind_ok (only_cons ..),
    bind_ok (digits_fixed 2 _ _ (by show _ < 100; omega)), bind_ok (only_cons ..),
    bind_ok (digits_fixed 2 _ _ (by show _ < 100; omega)), bind_ok (fraction_append hf hz rest),
    bind_ok (require_of hc _)]
  rfl

/-! ### Years of four digits -/

theorem renderChars_eq (h : 0 ≤ t.date.year ∧ t.date.year ≤ 9999) :
    renderChars t = dateChars t.date ++ 'T' :: (clockChars t.clock (fractionOf t) ++ ['Z']) := by
  simp only [renderChars, toSecond, yearText, h, and_self, if_true, dateChars, clockChars,
    List.append_assoc, List.cons_append]
  rfl

/-- **A time of the years 0 to 9999 is read back as it was written.** -/
theorem time_renderChars (h : 0 ≤ t.date.year ∧ t.date.year ≤ 9999) :
    time (renderChars t) = .ok (t, []) := by
  have hdate : t.date.isReal = true := isReal_dateOf _
  have hfraction : fractionOf t < nanosPerSecond := Nat.mod_lt _ (by decide)
  rw [renderChars_eq h, time, bind_ok (date_append hdate h _), bind_ok (char_cons rfl _),
    bind_ok (clock_append t.isReal_clock hfraction rfl [])]
  simp only
  rw [bind_ok (offset_utc colon []), bind_ok (rfl : finish [] = .ok ((), [])),
    bind_ok (rfl : requireOffset 0 [] = .ok ((), [])), t.instantAt?_self]
  rfl

/-! ### Other years -/

theorem isDigit_leftpad (width n : Nat) :
    ∀ d ∈ List.leftpad width '0' (Nat.toDigits 10 n), d.isDigit = true := by
  intro d hd
  rcases List.mem_append.1 hd with hd | hd
  · rw [List.eq_of_mem_replicate hd]
    rfl
  · exact Nat.isDigit_of_mem_toDigits (by decide) (by decide) hd

/-- Any other year begins with its sign. -/
theorem yearText_signed {year : Int} (h : ¬ (0 ≤ year ∧ year ≤ 9999)) :
    ∃ sign digits, yearText year = sign :: digits ∧ sign.isDigit = false ∧ sign ≠ ' ' ∧
      ∀ c ∈ digits, c.isDigit = true := by
  refine ⟨if year < 0 then '-' else '+', _, by rw [yearText, if_neg h], ?_, ?_,
    isDigit_leftpad 4 _⟩ <;> split <;> decide

/-- No stamp begins with a sign. -/
theorem time_signed (h : ¬ (0 ≤ t.date.year ∧ t.date.year ≤ 9999)) :
    time (renderChars t) = .error .invalid := by
  obtain ⟨sign, digits, hyear, hsign, -⟩ := yearText_signed h
  have hchars : ∃ rest, renderChars t = sign :: rest := by
    simp only [renderChars, toSecond, hyear, List.cons_append]
    exact ⟨_, rfl⟩
  obtain ⟨rest, hrest⟩ := hchars
  have hdate : date (sign :: rest) = .error .invalid := by
    rw [date, bind_error (digits_cons hsign 3 rest)]
  rw [hrest, time, bind_error hdate]

/-! ### A whole stamp -/

theorem blank_notMem_of_digits {cs : List Char} (h : ∀ c ∈ cs, c.isDigit = true) : ' ' ∉ cs := by
  intro hblank
  cases h ' ' hblank

theorem blank_notMem_yearText (year : Int) : ' ' ∉ yearText year := by
  by_cases h : 0 ≤ year ∧ year ≤ 9999
  · rw [yearText, if_pos h]
    exact blank_notMem_of_digits (isDigit_fixed _ _)
  · obtain ⟨sign, digits, hyear, -, hsign, hdigits⟩ := yearText_signed h
    rw [hyear]
    exact List.not_mem_cons_of_ne_of_not_mem hsign.symm (blank_notMem_of_digits hdigits)

/-- A written time reaches to the first blank after it. -/
theorem blank_notMem_renderChars (t : Instant) : ' ' ∉ renderChars t := by
  have hyear := blank_notMem_yearText t.date.year
  have hfixed (width n : Nat) : ' ' ∉ fixed width n := blank_notMem_of_digits (isDigit_fixed _ _)
  simp [renderChars, toSecond, hyear, hfixed]

theorem length_le_byteLength (cs : List Char) : cs.length ≤ Text.byteLength cs := by
  induction cs with
  | nil => exact Nat.le_refl 0
  | cons c cs ih =>
    have hc := c.utf8Size_pos
    simp only [List.length_cons, Text.byteLength]
    omega

theorem shortest_le_renderChars (t : Instant) : shortest ≤ Text.byteLength (renderChars t) := by
  refine Nat.le_trans ?_ (length_le_byteLength _)
  simp only [renderChars, toSecond, List.length_append, List.length_cons, length_fixed, shortest]
  omega

theorem read_renderChars (t : Instant) : read (renderChars t) =
    if 0 ≤ t.date.year ∧ t.date.year ≤ 9999 then .ok t else .error .invalid := by
  rw [read, if_neg (by have := shortest_le_renderChars t; omega), Reader.run]
  split
  · rename_i h
    rw [time_renderChars h]
    rfl
  · rename_i h
    rw [time_signed h]
    rfl

end Rfc3339

end Time

namespace Stamp

open Time (Instant)
open Time.Rfc3339 (render renderChars)

/-- Why a written time is not read back, if it is not. -/
def unread (t : Instant) : Failure :=
  .malformedLine ("parse timestamp " ++ Text.quoted (render t) ++ ": " ++
    Time.Fault.invalid.message)

theorem read_render_eq (t : Instant) : read (render t) =
    if 0 ≤ t.date.year ∧ t.date.year ≤ 9999 then .ok t else .error (unread t) := by
  have hchars : (render t).toList = renderChars t := String.toList_ofList
  rw [read, hchars, Time.Rfc3339.read_renderChars]
  by_cases h : 0 ≤ t.date.year ∧ t.date.year ≤ 9999
  · simp only [if_pos h]
  · simp only [if_neg h]
    rfl

/-- A line is read as its stamp is. -/
theorem readLine_render (t : Instant) (message : String) :
    readLine (render t ++ " " ++ message) = (read (render t)).map (message, ·) := by
  have hchars : (render t ++ " " ++ message).toList = renderChars t ++ ' ' :: message.toList := by
    simp [render]
  have hblank : ∀ c ∈ renderChars t, c ≠ ' ' :=
    fun c hc heq => Time.Rfc3339.blank_notMem_renderChars t (heq ▸ hc)
  rw [readLine, hchars, split?_append _ _ hblank]
  simp only [String.ofList_toList]
  rfl

/-- **What is written as a stamp is read back as it was, or not at all.** A moment of the years 0 to
9999 comes back by itself and in front of any message; a stamp of any other year is refused. So no
stamp is read as another time. -/
theorem read_render (t : Instant) (message : String) :
    (0 ≤ t.date.year ∧ t.date.year ≤ 9999 →
      read (render t) = .ok t ∧ readLine (render t ++ " " ++ message) = .ok (message, t)) ∧
    (t.date.year < 0 ∨ 9999 < t.date.year →
      read (render t) = .error (unread t) ∧
        readLine (render t ++ " " ++ message) = .error (unread t)) ∧
    (∀ t', read (render t) = .ok t' → t' = t) ∧
    (∀ m' t', readLine (render t ++ " " ++ message) = .ok (m', t') → m' = message ∧ t' = t) := by
  rw [readLine_render, read_render_eq]
  refine ⟨fun h => ?_, fun h => ?_, ?_⟩
  · rw [if_pos h]
    exact ⟨rfl, rfl⟩
  · rw [if_neg (by omega)]
    exact ⟨rfl, rfl⟩
  · by_cases h : 0 ≤ t.date.year ∧ t.date.year ≤ 9999
    · rw [if_pos h]
      exact ⟨fun t' heq => by cases heq; rfl, fun m' t' heq => by cases heq; exact ⟨rfl, rfl⟩⟩
    · rw [if_neg h]
      exact ⟨fun t' heq => (by cases heq), fun m' t' heq => (by cases heq)⟩

/-- The last nanosecond of a leap second is read back, and the first moments after the year 9999 and
before the year 0 are not. -/
theorem read_render_leap :
    let leap : Instant := ⟨1483228799, 1999999999, by decide⟩
    let late : Instant := ⟨253402300800, 0, by decide⟩
    let early : Instant := ⟨-62167219201, 0, by decide⟩
    render leap = "2016-12-31T23:59:60.999999999Z" ∧
      readLine (render leap ++ " " ++ "two words") = .ok ("two words", leap) ∧
      render late = "+10000-01-01T00:00:00.000000000Z" ∧ read (render late) = .error (unread late) ∧
      render early = "-0001-12-31T23:59:59.000000000Z" ∧
      readLine (render early ++ " " ++ "") = .error (unread early) :=
  ⟨by decide +kernel, ((read_render _ _).1 (by decide +kernel)).2, by decide +kernel,
    ((read_render _ "").2.1 (by decide +kernel)).1, by decide +kernel,
    ((read_render _ _).2.1 (by decide +kernel)).2⟩

end Stamp

end LogWeave

import LogWeave.Time.Rfc3339

/-! Dates and clocks of moments.

Every day has a date of the calendar (`isReal_dateOf`), and every moment a clock that could show it,
leap seconds included (`Instant.isReal_clock`). Date, clock and fraction give the moment back
(`Instant.instantAt?_self`). -/
namespace LogWeave.Time

/-! ### The calendar -/

/-- A March year is as long as the leap day at its end makes it. -/
theorem daysBeforeYear_isLeapYear (year : Int) :
    daysBeforeYear (year + 1) - daysBeforeYear year =
      if isLeapYear (year + 1) then 366 else 365 := by
  simp only [daysBeforeYear, isLeapYear, Bool.and_eq_true, Bool.or_eq_true, beq_iff_eq, bne_iff_ne]
  split <;> omega

/-- The calendar month that begins `m` months after the first of March. -/
def monthAfterMarch (m : Int) : Nat := (if m < 10 then m + 3 else m - 9).toNat

theorem monthAfterMarch_bounds {m : Int} (h : 0 ≤ m ∧ m ≤ 11) :
    1 ≤ monthAfterMarch m ∧ monthAfterMarch m ≤ 12 := by
  unfold monthAfterMarch
  split <;> omega

/-- From March to January, month follows month by the days of the calendar. -/
theorem daysBeforeMonth_succ (year : Int) (m : Fin 11) :
    daysBeforeMonth (m + 1) = daysBeforeMonth m + daysInMonth year (monthAfterMarch m) := by
  match m with
  | 0 | 1 | 2 | 3 | 4 | 5 | 6 | 7 | 8 | 9 | 10 => rfl

theorem daysInMonth_february (year : Int) :
    daysInMonth year 2 = if isLeapYear year then 29 else 28 := rfl

/-- Every day of a March year has a date of the calendar; the last one may be a leap day. -/
theorem isReal_dateWithin (year n : Int) (h0 : 0 ≤ n)
    (hn : n < if isLeapYear (year + 1) then 366 else 365) : (dateWithin year n).isReal = true := by
  have hlength : n ≤ 365 := by split at hn <;> omega
  obtain ⟨m, hm⟩ : ∃ m, (5 * n + 2) / 153 = m := ⟨_, rfl⟩
  have hdate : dateWithin year n = ⟨if m < 10 then year else year + 1, monthAfterMarch m,
      (n - daysBeforeMonth m + 1).toNat⟩ := by rw [← hm]; rfl
  have hmonth : 0 ≤ m ∧ m ≤ 11 := by omega
  have hbegun : daysBeforeMonth m ≤ n := by simp only [daysBeforeMonth]; omega
  obtain ⟨hleast, hmost⟩ := monthAfterMarch_bounds hmonth
  simp only [hdate, Date.isReal, Bool.and_eq_true, decide_eq_true_eq]
  refine ⟨⟨⟨hleast, hmost⟩, by omega⟩, ?_⟩
  by_cases hfeb : m = 11
  · -- February comes last: it is as long as the rest of the year.
    subst hfeb
    show _ ≤ daysInMonth (year + 1) 2
    rw [daysInMonth_february]
    simp only [daysBeforeMonth] at hbegun ⊢
    split at hn <;> simp_all <;> omega
  · have hlt : m.toNat < 11 := by omega
    have hcast : ((⟨m.toNat, hlt⟩ : Fin 11) : Int) = m := Int.toNat_of_nonneg hmonth.1
    have hdays := daysBeforeMonth_succ (if m < 10 then year else year + 1) ⟨m.toNat, hlt⟩
    rw [hcast] at hdays
    have hnext : n < daysBeforeMonth (m + 1) := by simp only [daysBeforeMonth]; omega
    omega

/-- **Every day has a date of the calendar.** -/
theorem isReal_dateOf (day : Int) : (dateOf day).isReal = true := by
  obtain ⟨hlow, hhigh⟩ := yearOf_holds (day + epochDay)
  have hlength := daysBeforeYear_isLeapYear (yearOf (day + epochDay))
  exact isReal_dateWithin _ _ (by omega) (by omega)

/-- The days of a span of years have dates of these years. -/
theorem year_dateOf {first last day : Int} (hfirst : dayOf ⟨first, 1, 1⟩ ≤ day)
    (hlast : day ≤ dayOf ⟨last, 12, 31⟩) :
    first ≤ (dateOf day).year ∧ (dateOf day).year ≤ last := by
  obtain ⟨hlow, hhigh⟩ := yearOf_holds (day + epochDay)
  have hyear : (dateOf day).year = if (5 * (day + epochDay -
      daysBeforeYear (yearOf (day + epochDay))) + 2) / 153 < 10 then yearOf (day + epochDay)
      else yearOf (day + epochDay) + 1 := rfl
  have hjanuary : dayOf ⟨first, 1, 1⟩ = daysBeforeYear (first - 1) + 306 - epochDay := by
    simp [dayOf, daysBeforeMonth]
  have hdecember : dayOf ⟨last, 12, 31⟩ = daysBeforeYear last + 305 - epochDay := by
    simp [dayOf, daysBeforeMonth]
    omega
  rw [hyear]
  generalize yearOf (day + epochDay) = year at *
  constructor
  · -- January and February belong to the March year before.
    refine Int.not_lt.1 fun hearly => ?_
    rcases Int.lt_or_le year (first - 1) with hlt | hge
    · have hmono := daysBeforeYear_mono (show year + 1 ≤ first - 1 by omega)
      omega
    · obtain rfl : year = first - 1 := by split at hearly <;> omega
      split at hearly <;> omega
  · refine Int.not_lt.1 fun hlate => ?_
    rcases Int.lt_or_le last year with hlt | hge
    · have hmono := daysBeforeYear_mono (show last + 1 ≤ year by omega)
      have hstep := daysBeforeYear_succ last
      omega
    · obtain rfl : year = last := by split at hlate <;> omega
      split at hlate <;> omega

theorem Date.isReal_range {d : Date} (h : d.isReal = true) :
    (1 ≤ d.month ∧ d.month ≤ 12) ∧ 1 ≤ d.day ∧ d.day ≤ 31 := by
  simp only [Date.isReal, Bool.and_eq_true, decide_eq_true_eq] at h
  have hdays : daysInMonth d.year d.month ≤ 31 := by
    unfold daysInMonth
    split
    · split <;> omega
    all_goals omega
  omega

/-- A date of the calendar can be written with two digits for the month and two for the day. -/
theorem Date.isReal_bounds {d : Date} (h : d.isReal = true) : d.month < 100 ∧ d.day < 100 := by
  have hrange := Date.isReal_range h
  omega

/-! ### The clock -/

namespace Clock

variable {s : Nat} {leap : Bool}

theorem isReal_iff {c : Clock} :
    c.isReal = true ↔ c.hour < 24 ∧ c.minute < 60 ∧ c.second ≤ 60 := by
  simp [isReal, and_assoc]

theorem isReal_ofSeconds (hs : s < 86400) : (ofSeconds s leap).isReal = true := by
  refine isReal_iff.2 ⟨?_, ?_, ?_⟩ <;> simp only [ofSeconds]
  · omega
  · omega
  · split <;> omega

theorem seconds_ofSeconds (hleap : leap = true → s % 60 = 59) : (ofSeconds s leap).seconds = s := by
  have hhours : s / 3600 = s / 60 / 60 := (Nat.div_div_eq_div_mul s 60 60).symm
  cases leap with
  | false =>
    simp only [ofSeconds, seconds, Bool.false_eq_true, if_false, hhours]
    omega
  | true =>
    have hlast := hleap rfl
    simp only [ofSeconds, seconds, if_true, hhours]
    omega

theorem second_ofSeconds (hleap : leap = true → s % 60 = 59) :
    (ofSeconds s leap).second = 60 ↔ leap = true := by
  cases leap with
  | false => exact iff_of_false (Nat.ne_of_lt (Nat.mod_lt s (by decide))) Bool.false_ne_true
  | true => exact iff_of_true (congrArg (· + 1) (hleap rfl)) rfl

end Clock

namespace Instant

/-- The clock at a moment. -/
def clock (t : Instant) : Clock := .ofSeconds t.secondOfDay t.isLeap

variable (t : Instant)

theorem secondOfDay_lt : t.secondOfDay < 86400 := by
  unfold secondOfDay
  omega

/-- A leap second can only follow the last second of a minute. -/
theorem seconds_of_isLeap (h : t.isLeap = true) : t.seconds % 60 = 59 := by
  obtain ⟨-, -, hnanos⟩ := t.valid
  simp only [isLeap, decide_eq_true_eq] at h
  have hlast := hnanos.resolve_left (by omega)
  exact hlast.2

theorem secondOfDay_of_isLeap (h : t.isLeap = true) : t.secondOfDay % 60 = 59 := by
  have hlast := t.seconds_of_isLeap h
  unfold secondOfDay
  omega

/-- **Every moment has a clock that can show it.** -/
theorem isReal_clock : t.clock.isReal = true :=
  Clock.isReal_ofSeconds t.secondOfDay_lt

theorem seconds_clock : t.clock.seconds = t.secondOfDay :=
  Clock.seconds_ofSeconds t.secondOfDay_of_isLeap

/-- The nanoseconds are those since the last whole second, and the leap second is one, on every
clock that has it after the last second of a minute. -/
theorem nanos_ofSeconds {s : Nat} (hs : t.isLeap = true → s % 60 = 59) :
    (Clock.ofSeconds s t.isLeap).nanos (Rfc3339.fractionOf t) = t.nanos := by
  have hsecond : (Clock.ofSeconds s t.isLeap).second = 60 ↔ nanosPerSecond ≤ t.nanos :=
    (Clock.second_ofSeconds hs).trans decide_eq_true_iff
  obtain ⟨-, -, hnanos⟩ := t.valid
  simp only [Clock.nanos, hsecond, Rfc3339.fractionOf]
  unfold nanosPerSecond at *
  split <;> omega

theorem nanos_clock : t.clock.nanos (Rfc3339.fractionOf t) = t.nanos :=
  t.nanos_ofSeconds t.secondOfDay_of_isLeap

/-- **Date, clock and fraction give the moment back.** -/
theorem instantAt?_self : instantAt? t.date t.clock (Rfc3339.fractionOf t) 0 = some t := by
  have hseconds : dayOf t.date * 86400 + t.secondOfDay - 0 = t.seconds := by
    rw [date, dayOf_dateOf, secondOfDay]
    omega
  rw [instantAt?, seconds_clock, nanos_clock, hseconds, ofCounts?_counts]

end Instant

end LogWeave.Time

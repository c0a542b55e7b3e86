/-! The proleptic Gregorian calendar.

Days are counted from 1970-01-01. `dayOf` numbers the days of a calendar date and `dateOf` finds
the date of a day; both work inside the 400-year cycle of 146097 days, with years that begin on
the first of March, so that a leap day is the last day of its year. -/
namespace LogWeave.Time

structure Date where
  year : Int
  month : Nat
  day : Nat
  deriving DecidableEq, Repr

def isLeapYear (year : Int) : Bool :=
  year % 4 == 0 && (year % 100 != 0 || year % 400 == 0)

def daysInMonth (year : Int) (month : Nat) : Nat :=
  match month with
  | 2 => if isLeapYear year then 29 else 28
  | 4 | 6 | 9 | 11 => 30
  | _ => 31

/-- A date of the calendar. -/
def Date.isReal (d : Date) : Bool :=
  1 ≤ d.month && d.month ≤ 12 && 1 ≤ d.day && d.day ≤ daysInMonth d.year d.month

/-- Days from the first of March to the first of the month `m` months later. -/
def daysBeforeMonth (m : Int) : Int := (153 * m + 2) / 5

/-- Days from the first of March of year 0 to the first of March of `year`. -/
def daysBeforeYear (year : Int) : Int :=
  365 * year + year / 4 - year / 100 + year / 400

/-- Days from 0000-03-01 to 1970-01-01. -/
def epochDay : Int := 719468

/-- The number of a date's day, counted from 1970-01-01. -/
def dayOf (d : Date) : Int :=
  let year := if d.month ≤ 2 then d.year - 1 else d.year
  let month : Int := if d.month ≤ 2 then d.month + 9 else d.month - 3
  daysBeforeYear year + daysBeforeMonth month + (d.day - 1) - epochDay

/-- The year, begun in March, that holds the `n`-th day after 0000-03-01. A cycle's last century
and a century's last four years may be a day longer, hence the two minima. -/
def yearOf (n : Int) : Int :=
  let cycle := n / 146097
  let inCycle := n % 146097
  let century := min 3 (inCycle / 36524)
  let inCentury := inCycle - 36524 * century
  let leap := inCentury / 1461
  let inLeap := inCentury % 1461
  400 * cycle + 100 * century + 4 * leap + min 3 (inLeap / 365)

/-- The date of the `n`-th day of a year begun in March. -/
def dateWithin (year : Int) (n : Int) : Date :=
  let month := (5 * n + 2) / 153
  { year := if month < 10 then year else year + 1
    month := (if month < 10 then month + 3 else month - 9).toNat
    day := (n - daysBeforeMonth month + 1).toNat }

/-- The date of a day counted from 1970-01-01. -/
def dateOf (day : Int) : Date :=
  let n := day + epochDay
  dateWithin (yearOf n) (n - daysBeforeYear (yearOf n))

/-- The days of a March year come after those of the years before it. -/
theorem daysBeforeYear_succ (year : Int) :
    daysBeforeYear year + 365 ≤ daysBeforeYear (year + 1) ∧
      daysBeforeYear (year + 1) ≤ daysBeforeYear year + 366 := by
  unfold daysBeforeYear
  omega

theorem daysBeforeYear_mono {a b : Int} (h : a ≤ b) : daysBeforeYear a ≤ daysBeforeYear b := by
  unfold daysBeforeYear
  omega

/-- The days before a year, by its place in the cycle, the century and the four years. -/
theorem daysBeforeYear_parts (cycle century leap rest : Int) (hc : 0 ≤ century ∧ century ≤ 3)
    (hl : 0 ≤ leap ∧ leap ≤ 24) (hr : 0 ≤ rest ∧ rest ≤ 3) :
    daysBeforeYear (400 * cycle + 100 * century + 4 * leap + rest) =
      146097 * cycle + 36524 * century + 1461 * leap + 365 * rest := by
  unfold daysBeforeYear
  omega

/-- The days before the year after it: a day more where a leap year has ended. -/
theorem daysBeforeYear_parts_succ (cycle century leap rest : Int)
    (hc : 0 ≤ century ∧ century ≤ 3) (hl : 0 ≤ leap ∧ leap ≤ 24) (hr : 0 ≤ rest ∧ rest ≤ 3) :
    daysBeforeYear (400 * cycle + 100 * century + 4 * leap + rest + 1) =
      146097 * cycle + 36524 * century + 1461 * leap + 365 * (rest + 1) +
        (if rest = 3 ∧ (leap < 24 ∨ century = 3) then 1 else 0) := by
  unfold daysBeforeYear
  split <;> omega

/-- The year found for a day holds it. -/
theorem yearOf_holds (n : Int) :
    daysBeforeYear (yearOf n) ≤ n ∧ n < daysBeforeYear (yearOf n + 1) := by
  have hcentury : 0 ≤ min 3 (n % 146097 / 36524) ∧ min 3 (n % 146097 / 36524) ≤ 3 := by omega
  simp only [yearOf]
  generalize hc : min 3 (n % 146097 / 36524) = century at *
  have hleap : 0 ≤ (n % 146097 - 36524 * century) / 1461 ∧
      (n % 146097 - 36524 * century) / 1461 ≤ 24 := by omega
  have hrest : 0 ≤ min 3 ((n % 146097 - 36524 * century) % 1461 / 365) ∧
      min 3 ((n % 146097 - 36524 * century) % 1461 / 365) ≤ 3 := by omega
  rw [daysBeforeYear_parts _ _ _ _ hcentury hleap hrest,
    daysBeforeYear_parts_succ _ _ _ _ hcentury hleap hrest]
  generalize hl : (n % 146097 - 36524 * century) / 1461 = leap at *
  generalize hr : min 3 ((n % 146097 - 36524 * century) % 1461 / 365) = rest at *
  split <;> omega

/-- The date found for a day within a March year is the date of that day. -/
theorem dayOf_dateWithin (year n : Int) (h : 0 ≤ n ∧ n ≤ 365) :
    dayOf (dateWithin year n) = daysBeforeYear year + n - epochDay := by
  simp only [dateWithin, dayOf, daysBeforeMonth]
  by_cases hm : (5 * n + 2) / 153 < 10
  · have hmonth : ¬ ((5 * n + 2) / 153 + 3).toNat ≤ 2 := by omega
    simp only [hm, hmonth, if_true, if_false]
    omega
  · have hmonth : ((5 * n + 2) / 153 - 9).toNat ≤ 2 := by omega
    simp only [hm, hmonth, if_true, if_false, show year + 1 - 1 = year by omega]
    omega

/-- Every day is the day of its date. -/
theorem dayOf_dateOf (day : Int) : dayOf (dateOf day) = day := by
  obtain ⟨hlow, hhigh⟩ := yearOf_holds (day + epochDay)
  have hnext := (daysBeforeYear_succ (yearOf (day + epochDay))).2
  rw [dateOf, dayOf_dateWithin _ _ (by omega)]
  omega

end LogWeave.Time

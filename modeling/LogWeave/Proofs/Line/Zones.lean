import LogWeave.Proofs.Line.Writing

/-! Times as the clocks of a zone show them.

A zone's clocks are ahead of universal time or behind it by hours and minutes. What they show at a
moment may be of another day and another year, and a leap second is one in every zone. With the zone
behind it, it is read as that moment (`Zone.read_text`), also where the year of universal time has
no four digits. -/
namespace LogWeave.Time

/-- Hours and minutes ahead of universal time, or behind it. -/
structure Zone where
  behind : Bool
  hours : Nat
  minutes : Nat
  hours_lt : hours < 24
  minutes_lt : minutes < 60

namespace Zone

open Rfc3339 Reader

variable (z : Zone) (t : Instant)

/-- Seconds between its clocks and universal time. -/
def span : Nat := z.hours * 3600 + z.minutes * 60

/-- Seconds by which its clocks are ahead. -/
def offset : Int := if z.behind then -z.span else z.span

/-- The sign, the hours and the minutes, with a sign also if there are none. -/
def chars : List Char :=
  (if z.behind then '-' else '+') :: (fixed 2 z.hours ++ ':' :: fixed 2 z.minutes)

/-- Seconds since 1970 by its clocks. -/
def seconds : Int := t.seconds + z.offset

def date : Date := dateOf (z.seconds t / 86400)

def clock : Clock := .ofSeconds (z.seconds t % 86400).toNat t.isLeap

/-- What its clocks show has a year of four digits. -/
def Shows : Prop := 0 ≤ (z.date t).year ∧ (z.date t).year ≤ 9999

instance : Decidable (z.Shows t) := inferInstanceAs (Decidable (_ ∧ _))

/-- What its clocks show, with nine digits of the second and the zone. -/
def text : String :=
  String.ofList
    (dateChars (z.date t) ++ 'T' :: (clockChars (z.clock t) (fractionOf t) ++ z.chars))

/-! ### The zones -/

theorem span_lt : z.span < 86400 := by
  have hhours := z.hours_lt
  have hminutes := z.minutes_lt
  unfold span
  omega

theorem natAbs_offset : z.offset.natAbs = z.span := by
  unfold offset
  split <;> omega

theorem offset_minutes : z.offset % 60 = 0 := by
  unfold offset span
  split <;> omega

/-- **There is a zone for every number of whole minutes below a day**, ahead and behind. -/
theorem exists_offset_eq {o : Int} (hlow : -86400 < o) (hhigh : o < 86400) (hminutes : o % 60 = 0) :
    ∃ z : Zone, z.offset = o := by
  refine ⟨⟨decide (o < 0), o.natAbs / 3600, o.natAbs / 60 % 60, by omega, by omega⟩, ?_⟩
  simp only [offset, span, decide_eq_true_eq]
  split <;> omega

/-! ### Reading -/

theorem seconds_of_isLeap (h : t.isLeap = true) : (z.seconds t % 86400).toNat % 60 = 59 := by
  have hlast := t.seconds_of_isLeap h
  have hminutes := z.offset_minutes
  unfold seconds
  omega

theorem offset_chars : Reader.offset colon z.chars = .ok (z.offset, []) := by
  have hhours : z.span / 3600 = z.hours := by
    have hminutes := z.minutes_lt
    unfold span
    omega
  have hminutes : z.span / 60 % 60 = z.minutes := by
    have hminutes := z.minutes_lt
    unfold span
    omega
  have hwhole : z.span % 60 = 0 := by unfold span; omega
  unfold chars offset
  cases z.behind with
  | false =>
    have hsigned := offset_signed (c := '+') (s := 1) (by decide) (fun _ => rfl) z.span_lt hwhole
    rwa [hhours, hminutes, Int.one_mul] at hsigned
  | true =>
    have hsigned := offset_signed (c := '-') (s := -1) (by decide) (fun _ => rfl) z.span_lt hwhole
    rwa [hhours, hminutes, Int.neg_one_mul] at hsigned

variable {z t}

/-- What the zone's clocks show, as a written time. -/
def writing (h : z.Shows t) : Writing where
  date := z.date t
  clock := z.clock t
  fraction := fractionOf t
  offset := z.offset
  isReal := ⟨isReal_dateOf _, Clock.isReal_ofSeconds (by omega)⟩
  year := h
  fraction_lt := Nat.mod_lt _ (by decide)
  offset_lt := z.natAbs_offset ▸ z.span_lt
  offset_minutes := z.offset_minutes

/-- **The moment at which the zone's clocks show what they show** is the moment itself. -/
theorem moment?_writing (h : z.Shows t) : (writing h).moment? = some t := by
  have hclock : (z.clock t).seconds = (z.seconds t % 86400).toNat :=
    Clock.seconds_ofSeconds (z.seconds_of_isLeap t)
  have hseconds : dayOf (z.date t) * 86400 + (z.clock t).seconds - z.offset = t.seconds := by
    rw [hclock, date, dayOf_dateOf, seconds]
    omega
  have hnanos : (z.clock t).nanos (fractionOf t) = t.nanos :=
    t.nanos_ofSeconds (z.seconds_of_isLeap t)
  show instantAt? (z.date t) (z.clock t) (fractionOf t) z.offset = some t
  rw [instantAt?, hseconds, hnanos, t.ofCounts?_counts]

/-- **What a zone's clocks show is read as the moment at which they show it.** -/
theorem read_text (h : z.Shows t) : Stamp.read (z.text t) = .ok t := by
  have hsign : (if z.behind then '-' else '+').isDigit = false := by split <;> rfl
  have hread : Rfc3339.read (dateChars (z.date t) ++
      'T' :: (clockChars (z.clock t) (fractionOf t) ++ z.chars)) = .ok t :=
    ((writing h).read_followed hsign z.offset_chars).trans (by rw [moment?_writing])
  rw [Stamp.read, text, String.toList_ofList, hread]

theorem blank_notMem_text : ' ' ∉ (z.text t).toList := by
  have hfixed (width n : Nat) : ' ' ∉ fixed width n := blank_notMem_of_digits (isDigit_fixed _ _)
  have hsign : ' ' ≠ if z.behind then '-' else '+' := by split <;> decide
  simp [text, dateChars, clockChars, chars, hfixed, hsign]

end Zone

end LogWeave.Time

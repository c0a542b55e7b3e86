import LogWeave.Text.Bytes
import LogWeave.Time.Instant
import LogWeave.Time.Reading

/-! The written form of a time at the front of a log line.

`render` writes universal time with nine digits of the second; `read` accepts any fraction and any
offset of whole minutes below a day. A year outside 0 to 9999 is written with a sign, which `read`
refuses. -/
namespace LogWeave.Time

/-- The hours, minutes and seconds of a clock. Second 60 is a leap second. -/
structure Clock where
  hour : Nat
  minute : Nat
  second : Nat
  deriving DecidableEq, Repr

namespace Clock

def isReal (c : Clock) : Bool := c.hour < 24 && c.minute < 60 && c.second ≤ 60

/-- Seconds since midnight; a leap second shares those of the second before it. -/
def seconds (c : Clock) : Nat := c.hour * 3600 + c.minute * 60 + min c.second 59

/-- Nanoseconds since the second before a leap second, or since the second itself. -/
def nanos (c : Clock) (fraction : Nat) : Nat :=
  if c.second = 60 then nanosPerSecond + fraction else fraction

/-- The clock at a moment of the day. -/
def ofSeconds (s : Nat) (leap : Bool) : Clock :=
  ⟨s / 3600, s / 60 % 60, if leap then s % 60 + 1 else s % 60⟩

end Clock

/-- The moment at which clocks of an offset show a date and a time. -/
def instantAt? (date : Date) (clock : Clock) (fraction : Nat) (offset : Int) : Option Instant :=
  Instant.ofCounts? (dayOf date * 86400 + clock.seconds - offset) (clock.nanos fraction)

namespace Rfc3339

/-- Bytes of a date and a time without fraction and offset. -/
def shortest : Nat := 19

def isSeparator (c : Char) : Bool := c == 'T' || c == 't' || c == ' '

def date : Reader Date := do
  let year ← Reader.digits 4
  let _ ← Reader.only '-'
  let month ← Reader.digits 2
  let _ ← Reader.only '-'
  let day ← Reader.digits 2
  let date : Date := ⟨year, month, day⟩
  Reader.require date.isReal
  pure date

def clock : Reader (Clock × Nat) := do
  let hour ← Reader.digits 2
  let _ ← Reader.only ':'
  let minute ← Reader.digits 2
  let _ ← Reader.only ':'
  let second ← Reader.digits 2
  let fraction ← Reader.fraction
  let clock : Clock := ⟨hour, minute, second⟩
  Reader.require clock.isReal
  pure (clock, fraction)

def colon : Reader Unit := do
  let _ ← Reader.only ':'

def finish : Reader Unit := fun cs =>
  if cs.isEmpty then .ok ((), cs) else .error .trailing

def time : Reader Instant := do
  let date ← date
  let _ ← Reader.char isSeparator
  let (clock, fraction) ← clock
  let offset ← Reader.offset colon
  finish
  Reader.requireOffset offset
  match instantAt? date clock fraction offset with
  | some t => pure t
  | none => throw .outOfRange

/-- The time a whole text spells. -/
def read (text : List Char) : Except Fault Instant :=
  if Text.byteLength text < shortest then .error .tooShort else time.run text

/-- The year: four digits, or a sign and at least four. -/
def yearText (year : Int) : List Char :=
  if 0 ≤ year ∧ year ≤ 9999 then fixed 4 year.toNat
  else
    let digits := Nat.toDigits 10 year.natAbs
    (if year < 0 then '-' else '+') :: List.leftpad 4 '0' digits

/-- Date and time to the second. -/
def toSecond (t : Instant) : List Char :=
  let date := t.date
  let clock := Clock.ofSeconds t.secondOfDay t.isLeap
  yearText date.year ++ '-' :: fixed 2 date.month ++ '-' :: fixed 2 date.day ++
    'T' :: fixed 2 clock.hour ++ ':' :: fixed 2 clock.minute ++ ':' :: fixed 2 clock.second

/-- Nanoseconds since the last whole second, a leap second counted as one. -/
def fractionOf (t : Instant) : Nat := t.nanos % nanosPerSecond

/-- With nine digits of the second. -/
def renderChars (t : Instant) : List Char :=
  toSecond t ++ '.' :: fixed 9 (fractionOf t) ++ ['Z']

def render (t : Instant) : String := String.ofList (renderChars t)

/-- The fraction in as many groups of three digits as it needs. -/
def briefFraction (n : Nat) : List Char :=
  if n = 0 then []
  else if n % 1000000 = 0 then '.' :: fixed 3 (n / 1000000)
  else if n % 1000 = 0 then '.' :: fixed 6 (n / 1000)
  else '.' :: fixed 9 n

/-- With no more groups of digits than needed. -/
def brief (t : Instant) : String :=
  String.ofList (toSecond t ++ briefFraction (fractionOf t) ++ ['Z'])

end Rfc3339

end LogWeave.Time

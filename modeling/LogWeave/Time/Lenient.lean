import LogWeave.Text.Blank
import LogWeave.Time.Rfc3339

/-! Times as stored documents may spell them.

Beside the strict form this reader takes one-digit months, days and clock fields, blanks before
the fields and after the last, signed years of any length, `UTC` for the offset, and offsets with
blanks or without minutes' colon. -/
namespace LogWeave.Time.Lenient

/-- Years that a calendar field can hold. -/
def yearBound : Int := 0x80000000

/-- The years the calendar counts. -/
def firstYear : Int := -262143

def lastYear : Int := 262142

/-- Digits at the front of any count, as the number they spell; beyond 64 bits it is refused. -/
def longNumber : Reader Nat := fun cs =>
  match cs with
  | [] => .error .tooShort
  | c :: _ =>
    if !c.isDigit then .error .invalid
    else
      let n := numberOf (cs.takeWhile Char.isDigit)
      if n < 0x8000000000000000 then .ok (n, cs.dropWhile Char.isDigit) else .error .outOfRange

def shortNumber (width : Nat) : Reader Nat := do
  pure (numberOf (← Reader.someDigits width))

def blanks : Reader Unit := Reader.skip Text.isBlank

/-- A year: up to four digits, or a sign and any number of them. -/
def year : Reader Int := do
  blanks
  let n ← (fun cs =>
    match cs with
    | '+' :: rest => (do let n ← longNumber; pure (n : Int)) rest
    | '-' :: rest => (do let n ← longNumber; pure (-(n : Int))) rest
    | _ => (do let n ← shortNumber 4; pure (n : Int)) cs : Reader Int)
  Reader.require (-yearBound ≤ n && n < yearBound)
  pure n

/-- A field of one or two digits with its bounds. -/
def field (least most : Nat) : Reader Nat := do
  blanks
  let n ← shortNumber 2
  Reader.require (least ≤ n && n ≤ most)
  pure n

def separator (c : Char) : Reader Unit := do
  blanks
  let _ ← Reader.only c

def dateTimeSeparator : Reader Unit := do
  let _ ← Reader.char Rfc3339.isSeparator

/-- Colons and blanks between the hours and the minutes of an offset. -/
def offsetSeparator : Reader Unit := Reader.skip fun c => c == ':' || Text.isBlank c

/-- Universal time by name, or an offset. -/
def offset : Reader Int := fun cs =>
  match cs with
  | u :: t :: c :: rest =>
    if [u, t, c].map Char.toLower == ['u', 't', 'c'] then .ok (0, rest)
    else Reader.offset offsetSeparator cs
  | _ => Reader.offset offsetSeparator cs

def finish : Reader Unit := fun cs =>
  if cs.all Text.isBlank then .ok ((), []) else .error .trailing

def time : Reader Instant := do
  let year ← year
  separator '-'
  let month ← field 1 12
  separator '-'
  let day ← field 1 31
  dateTimeSeparator
  let hour ← field 0 23
  separator ':'
  let minute ← field 0 59
  separator ':'
  let second ← field 0 60
  let fraction ← Reader.fraction
  blanks
  let offset ← offset
  finish
  let date : Date := ⟨year, month, day⟩
  Reader.require (firstYear ≤ year && year ≤ lastYear && date.isReal)
  Reader.requireOffset offset
  match instantAt? date ⟨hour, minute, second⟩ fraction offset with
  | some t => pure t
  | none => throw .impossible

/-- The time a whole text spells. -/
def read (text : List Char) : Except Fault Instant := time.run text

end LogWeave.Time.Lenient

import LogWeave.Json.Text

/-! Numbers and words of a document, and values that are passed over.

A whole number that fits 64 bits is kept; any other becomes a binary fraction, and one beyond the
largest is refused. -/
namespace LogWeave.Json

namespace Scalar

def numberOf (digits : List Char) (n : Nat) : Nat :=
  digits.foldl (fun n c => n * 10 + (c.toNat - '0'.toNat)) n

/-- The digits that a 64-bit number takes after `n`, and how many are left over. -/
def fitting : List Char → Nat → Nat × Nat
  | [], n => (n, 0)
  | c :: rest, n =>
    let next := n * 10 + (c.toNat - '0'.toNat)
    if next < UInt64.size then fitting rest next else (n, rest.length + 1)

/-- Exponents that are counted; beyond, a number is zero or out of range. -/
def greatestExponent : Nat := 0x7FFFFFFF

def fractionOf (negative : Bool) (significand : Nat) (exponent : Int) : Reader Number :=
  match Decimal.Binary.ofDecimal significand exponent with
  | some size => pure (.fraction negative size)
  | none => Reader.fail .numberOutOfRange

/-- A digit that must stand at the front. -/
def oneDigit (ended : Complaint) : Reader Char := do
  match ← Reader.peek with
  | none => Reader.fail ended
  | some c => if c.isDigit then do Reader.advance; pure c else Reader.failAhead .invalidNumber

/-- The exponents read so far, digit by digit; `none` once they are not counted any more. -/
def countExponent : List Char → Nat → Option Nat
  | [], n => some n
  | c :: rest, n =>
    let next := n * 10 + (c.toNat - '0'.toNat)
    if next ≤ greatestExponent then countExponent rest next else none

/-- Digits up to the one at which an exponent is not counted any more. -/
def counted : List Char → Nat → Nat
  | [], _ => 0
  | c :: rest, n =>
    let next := n * 10 + (c.toNat - '0'.toNat)
    if next ≤ greatestExponent then counted rest next + 1 else 1

/-- The exponent, its letter at the front. -/
def exponent (negative : Bool) (significand : Nat) (start : Int) : Reader Number := do
  Reader.advance
  let minus ← (do
    match ← Reader.peek with
    | some '+' => do Reader.advance; pure false
    | some '-' => do Reader.advance; pure true
    | _ => pure false)
  let first ← oneDigit .unfinishedValue
  let more := (← get).rest.takeWhile Char.isDigit
  match countExponent (first :: more) 0 with
  | some e => do
    let _ ← Reader.digits
    fractionOf negative significand (if minus then start - e else start + e)
  | none => do
    if significand ≠ 0 && !minus then do
      modify fun s => s.advanceBy (counted (first :: more) 0 - 1)
      Reader.fail .numberOutOfRange
    else do
      let _ ← Reader.digits
      pure (.fraction negative Decimal.Binary.zero)

/-- The decimal places, their point at the front. -/
def decimals (negative : Bool) (significand : Nat) (start : Int) : Reader Number := do
  Reader.advance
  let ds ← Reader.digits
  if ds.isEmpty then do
    match ← Reader.peek with
    | some _ => Reader.failAhead .invalidNumber
    | none => Reader.fail .unfinishedValue
  else do
    let (significand, dropped) := fitting ds significand
    let start := start - (ds.length - dropped : Nat)
    match ← Reader.peek with
    | some 'e' | some 'E' => exponent negative significand start
    | _ => fractionOf negative significand start

/-- A number without decimal places and exponent. -/
def wholeOf (negative : Bool) (significand : Nat) : Number :=
  if !negative then .whole significand
  else if 0 < significand && significand ≤ 0x8000000000000000 then .whole (-(significand : Int))
  else .fraction true ((Decimal.Binary.ofNat significand).getD Decimal.Binary.zero)

/-- A number from its first digit on. -/
def unsigned (negative : Bool) : Reader Number := do
  let first ← oneDigit .unfinishedValue
  let ds ← (do
    if first = '0' then do
      match ← Reader.peek with
      | some c => if c.isDigit then Reader.failAhead .invalidNumber else pure []
      | none => pure []
    else Reader.digits)
  let (significand, dropped) := fitting (first :: ds) 0
  match ← Reader.peek with
  | some '.' => decimals negative significand dropped
  | some 'e' | some 'E' => exponent negative significand dropped
  | _ =>
    if dropped = 0 then pure (wholeOf negative significand)
    else fractionOf negative significand dropped

/-- A number with or without a sign. -/
def number : Reader Number := do
  match ← Reader.peek with
  | some '-' => do
    Reader.advance
    unsigned true
  | _ => unsigned false

/-- A number passed over. -/
def skipNumber : Reader Unit := do
  if (← Reader.peek) = some '-' then Reader.advance
  let first ← oneDigit .invalidNumber
  if first = '0' then do
    match ← Reader.peek with
    | some c => if c.isDigit then Reader.failAhead .invalidNumber
    | none => pure ()
  else let _ ← Reader.digits
  if (← Reader.peek) = some '.' then do
    Reader.advance
    if (← Reader.digits).isEmpty then Reader.failAhead .invalidNumber
  match ← Reader.peek with
  | some 'e' | some 'E' => do
    Reader.advance
    match ← Reader.peek with
    | some '+' | some '-' => Reader.advance
    | _ => pure ()
    let _ ← oneDigit .invalidNumber
    let _ ← Reader.digits
  | _ => pure ()

/-- A word whose first letter is at the front. -/
def word (letters : String) : Reader Unit := do
  Reader.advance
  Reader.word (letters.toList.drop 1)

/-- Complains of the value that stands where another was expected. A scalar is read first. -/
def mismatch (expected : String) : Reader α := Reader.settle do
  match ← Reader.peek with
  | some 'n' => do word "null"; Reader.object (.mismatch .null expected)
  | some 't' => do word "true"; Reader.object (.mismatch (.bool true) expected)
  | some 'f' => do word "false"; Reader.object (.mismatch (.bool false) expected)
  | some '"' => do Reader.object (.mismatch (.text (← Text.body)) expected)
  | some '[' => Reader.object (.mismatch .list expected)
  | some '{' => Reader.object (.mismatch .object expected)
  | some c =>
    if c = '-' || c.isDigit then do Reader.object (.mismatch (.number (← number)) expected)
    else Reader.failAhead .expectedValue
  | none => Reader.failAhead .expectedValue

/-- A value wherever one must stand: `read` is told its first character. -/
def solid (read : Char → Reader α) : Reader α := do
  match ← Reader.peekSolid with
  | some c => read c
  | none => Reader.failAhead .unfinishedValue

/-- A whole number within bounds, which the expectation names. -/
def integer (least most : Int) (expected : String) : Reader Int := solid fun c =>
  if c = '-' || c.isDigit then do
    match ← number with
    | .whole n =>
      if least ≤ n ∧ n ≤ most then pure n
      else Reader.fail (.outOfBounds (.number (.whole n)) expected)
    | n => Reader.fail (.mismatch (.number n) expected)
  else mismatch expected

/-- A text. -/
def text (expected : String) : Reader String := solid fun c =>
  if c = '"' then Text.body else mismatch expected

def flag : Reader Bool := solid fun c =>
  match c with
  | 't' => do word "true"; pure true
  | 'f' => do word "false"; pure false
  | _ => mismatch "a boolean"

/-- A value or `null`. -/
def optional (read : Reader α) : Reader (Option α) := do
  match ← Reader.peekSolid with
  | some 'n' => do
    word "null"
    pure none
  | _ => some <$> read

def unsigned64 : Reader Nat := Int.toNat <$> integer 0 0xFFFFFFFFFFFFFFFF "u64"

def size : Reader Nat := Int.toNat <$> integer 0 0xFFFFFFFFFFFFFFFF "usize"

def unsigned32 : Reader Nat := Int.toNat <$> integer 0 0xFFFFFFFF "u32"

def unsigned16 : Reader Nat := Int.toNat <$> integer 0 0xFFFF "u16"

def signed32 : Reader Int := integer (-0x80000000) 0x7FFFFFFF "i32"

def signed64 : Reader Int := integer (-0x8000000000000000) 0x7FFFFFFFFFFFFFFF "i64"

def anyText : Reader String := text "a string"

end Scalar

namespace Skip

/-- The list and object brackets that are still open, the innermost first. -/
abbrev Open := List Bool

def unclosed (object : Bool) : Complaint :=
  if object then .unfinishedObject else .unfinishedList

def goesOn (object : Bool) : Complaint :=
  if object then .expectedObjectEnd else .expectedListEnd

/-- A key passed over, with its colon. -/
def key : Reader Unit := do
  match ← Reader.peekSolid with
  | some '"' => Text.skip
  | some _ => Reader.failAhead .expectedKey
  | none => Reader.failAhead .unfinishedObject
  Reader.colon

/-- Closes what can be closed after a value, or after an opening bracket if `fresh`. The answer
holds the brackets of the value that follows, or nothing once all are closed. -/
def close : (most : Nat) → (fresh : Bool) → Open → Reader (Option Open)
  | 0, _, _ => pure none
  | _, _, [] => pure none
  | most + 1, fresh, object :: outer => do
    match ← Reader.peekSolid with
    | none => Reader.failAhead (unclosed object)
    | some c =>
      if c = (if object then '}' else ']') then do
        Reader.advance
        close most false outer
      else if fresh then pure (some (object :: outer))
      else if c = ',' then do
        Reader.advance
        pure (some (object :: outer))
      else Reader.failAhead (goesOn object)

/-- One scalar, or an opening bracket. -/
def front (inside : Open) : Reader (Bool × Open) := Scalar.solid fun c =>
  match c with
  | 'n' => do Scalar.word "null"; pure (false, inside)
  | 't' => do Scalar.word "true"; pure (false, inside)
  | 'f' => do Scalar.word "false"; pure (false, inside)
  | '"' => do Text.skip; pure (false, inside)
  | '[' => do Reader.advance; pure (true, false :: inside)
  | '{' => do Reader.advance; pure (true, true :: inside)
  | c =>
    if c = '-' || c.isDigit then do
      Scalar.skipNumber
      pure (false, inside)
    else Reader.failAhead .expectedValue

/-- Passes over values until all brackets are closed. -/
def values : (most : Nat) → Open → Reader Unit
  | 0, _ => pure ()
  | most + 1, inside => do
    let (fresh, inside) ← front inside
    match ← close (← Reader.bound) fresh inside with
    | none => pure ()
    | some inside => do
      if inside.head? = some true then key
      values most inside

/-- Passes over one value, however deep. -/
def value : Reader Unit := do
  values (← Reader.bound) []

end Skip

end LogWeave.Json

import LogWeave.Decimal.Binary

/-! The fewest decimal digits that tell a binary fraction from its neighbours.

`shortest` tries one digit, then two, and so on: the first decimal grid with a point that rounds
to the number wins, of two points the nearer, of two as near the even one. `text` writes the
digits out, with a point from 5 places after it to 16 before it and with an exponent elsewhere. -/
namespace LogWeave.Decimal

/-- A number of decimal digits times a power of ten. -/
structure Digits where
  digits : Nat
  exponent : Int
  deriving DecidableEq, Repr

namespace Shortest

/-- Ratios with a common denominator: the number, and the ends of what rounds to it. -/
structure Span where
  low : Nat
  middle : Nat
  high : Nat
  den : Nat
  /-- The ends round to the number as well. -/
  closed : Bool

/-- A mantissa at the low end of its power has a nearer neighbour below. -/
def spanOf (x : Binary) : Span :=
  let (n, d) := Binary.ratio 1 x.exponent
  let edge := x.mantissa == Binary.leastNormal && Binary.leastExponent < x.exponent
  ⟨(4 * x.mantissa - (if edge then 1 else 2)) * n, 4 * x.mantissa * n, (4 * x.mantissa + 2) * n,
    4 * d, x.mantissa % 2 == 0⟩

/-- The decimal `d * 10 ^ e` over the denominator of the span, as a ratio. -/
def Span.point (s : Span) (d : Nat) (e : Int) : Nat × Nat :=
  (d * Nat.pow 10 e.toNat * s.den, Nat.pow 10 (-e).toNat)

def Span.holds (s : Span) (d : Nat) (e : Int) : Bool :=
  let (n, q) := s.point d e
  if s.closed then s.low * q ≤ n && n ≤ s.high * q else s.low * q < n && n < s.high * q

/-- The distance of a point from the middle, over `q` times the denominator. -/
def Span.distance (s : Span) (d : Nat) (e : Int) : Nat :=
  let (n, q) := s.point d e
  if n ≤ s.middle * q then s.middle * q - n else n - s.middle * q

/-- The nearer neighbour of the middle on the grid of `10 ^ e` that lies in the span. Halfway
between two it is the even one. -/
def Span.onGrid (s : Span) (e : Int) : Option Digits :=
  let below := s.middle * Nat.pow 10 (-e).toNat / (s.den * Nat.pow 10 e.toNat)
  match s.holds below e && 0 < below, s.holds (below + 1) e with
  | true, true =>
    let down := s.distance below e
    let up := s.distance (below + 1) e
    if down < up || (down == up && below % 2 == 0) then some ⟨below, e⟩ else some ⟨below + 1, e⟩
  | true, false => some ⟨below, e⟩
  | false, true => some ⟨below + 1, e⟩
  | false, false => none

/-- The first grid with a hit, from `10 ^ e` down to ever finer ones. -/
def Span.search (s : Span) : (tries : Nat) → Int → Option Digits
  | 0, _ => none
  | tries + 1, e =>
    match s.onGrid e with
    | some found => some found
    | none => s.search tries (e - 1)

/-- A power of ten above the number: its digits in binary are more than those in decimal. -/
def start (x : Binary) : Int :=
  ((Nat.log2 x.mantissa : Int) + x.exponent) * 30103 / 100000 + 1

end Shortest

/-- Trailing zeros moved into the exponent. -/
def Digits.trimmed : (places : Nat) → Digits → Digits
  | 0, d => d
  | places + 1, d =>
    if d.digits % 10 == 0 then trimmed places ⟨d.digits / 10, d.exponent + 1⟩ else d

def shortest (x : Binary) : Digits :=
  if x.isZero then ⟨0, 0⟩
  else (((Shortest.spanOf x).search 20 (Shortest.start x)).getD ⟨0, 0⟩).trimmed 20

/-- The digits written out: a point within 5 places after it and 16 before it, else an exponent
with its sign. -/
def Digits.text (d : Digits) : String :=
  let ds := Nat.toDigits 10 d.digits
  let places := (ds.length : Int) + d.exponent
  let zeros (n : Int) := List.replicate n.toNat '0'
  if d.digits = 0 then "0.0"
  else if 0 ≤ d.exponent && places ≤ 16 then String.ofList (ds ++ zeros d.exponent ++ ['.', '0'])
  else if 0 < places && places ≤ 16 then
    String.ofList (ds.take places.toNat ++ '.' :: ds.drop places.toNat)
  else if -5 < places && places ≤ 0 then String.ofList ('0' :: '.' :: zeros (-places) ++ ds)
  else
    let power := places - 1
    let fraction := if ds.length = 1 then [] else '.' :: ds.drop 1
    let sign := if power < 0 then '-' else '+'
    String.ofList
      (ds.take 1 ++ fraction ++ 'e' :: sign :: Nat.toDigits 10 power.natAbs)

end LogWeave.Decimal

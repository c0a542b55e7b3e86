/-! Binary fractions of 53 bits.

A `Binary` is a mantissa times a power of two. `nearest` rounds a ratio to the nearest one, ties
to the even mantissa, and has no answer beyond the largest. -/
namespace LogWeave.Decimal

structure Binary where
  mantissa : Nat
  exponent : Int
  deriving DecidableEq, Repr

namespace Binary

def zero : Binary := ⟨0, 0⟩

def isZero (x : Binary) : Bool := x.mantissa == 0

/-- The least power of two a mantissa is scaled by. -/
def leastExponent : Int := -1074

/-- The greatest power of two a mantissa is scaled by. -/
def greatestExponent : Int := 971

/-- The least mantissa of 53 bits. -/
def leastNormal : Nat := 0x10000000000000

/-- `a * 2 ^ e` as a ratio, for a power that may be negative. -/
def ratio (a : Nat) (e : Int) : Nat × Nat :=
  (a * Nat.pow 2 e.toNat, Nat.pow 2 (-e).toNat)

/-- A quotient rounded to the nearest number, a half to the even one. -/
def roundQuotient (num den : Nat) : Nat :=
  let q := num / den
  let twice := 2 * (num % den)
  if twice < den || (twice == den && q % 2 == 0) then q else q + 1

/-- `num / den` in units of `2 ^ e`. -/
def inUnits (num den : Nat) (e : Int) : Nat × Nat :=
  (num * Nat.pow 2 (-e).toNat, den * Nat.pow 2 e.toNat)

/-- The power of two at which `num / den` has 53 bits, or the least there is. -/
def scale (num den : Nat) : Int :=
  let guess : Int := (Nat.log2 num : Int) - Nat.log2 den - 52
  let (n, d) := inUnits num den guess
  max leastExponent (if n / d < leastNormal then guess - 1 else guess)

def nearest (num den : Nat) : Option Binary :=
  if num = 0 then some zero
  else
    let e := scale num den
    let (n, d) := inUnits num den e
    let m := roundQuotient n d
    let (m, e) := if m = 2 * leastNormal then (leastNormal, e + 1) else (m, e)
    if greatestExponent < e then none else some ⟨m, e⟩

def ofNat (n : Nat) : Option Binary := nearest n 1

def mul (x y : Binary) : Option Binary :=
  let (n, d) := ratio (x.mantissa * y.mantissa) (x.exponent + y.exponent)
  nearest n d

/-- The quotient by a number that is not zero. -/
def div (x y : Binary) : Option Binary :=
  let (n, d) := ratio x.mantissa (x.exponent - y.exponent)
  nearest n (d * y.mantissa)

/-- The greatest power of ten that is used in one step. -/
def greatestPower : Nat := 308

/-- `x * 10 ^ e`, rounded after each step. A power too small for one step is taken in several; two
of them bring any 64-bit number to zero. -/
def timesPowerOfTen : (steps : Nat) → Binary → Int → Option Binary
  | 0, _, _ => some zero
  | steps + 1, x, e => do
    if e.natAbs ≤ greatestPower then
      let power ← ofNat (Nat.pow 10 e.natAbs)
      if 0 ≤ e then x.mul power else x.div power
    else if x.isZero then some zero
    else if 0 ≤ e then none
    else
      let power ← ofNat (Nat.pow 10 greatestPower)
      timesPowerOfTen steps (← x.div power) (e + greatestPower)

/-- A number of `e` decimal places before its end, each step rounded. -/
def ofDecimal (digits : Nat) (e : Int) : Option Binary := do
  timesPowerOfTen 4 (← ofNat digits) e

end Binary

end LogWeave.Decimal

/-! Reading a written time from the front of a text.

A `Reader` takes characters off a text and says why where it cannot. A field of a fixed width is
read back as the number written in it (`digits_fixed`). -/
namespace LogWeave.Time

/-- Why a text is no time. -/
inductive Fault where
  | invalid
  | tooShort
  | outOfRange
  | trailing
  | impossible
  deriving DecidableEq, Repr

def Fault.message : Fault → String
  | invalid => "input contains invalid characters"
  | tooShort => "premature end of input"
  | outOfRange => "input is out of range"
  | trailing => "trailing input"
  | impossible => "no possible date and time matching input"

abbrev Reader := StateT (List Char) (Except Fault)

def digitValue (c : Char) : Nat := c.toNat - '0'.toNat

/-- The number that decimal digits spell. -/
def numberOf (digits : List Char) : Nat := digits.foldl (fun n c => n * 10 + digitValue c) 0

/-- The last `width` decimal digits of a number. -/
def fixed : Nat → Nat → List Char
  | 0, _ => []
  | width + 1, n => fixed width (n / 10) ++ [Nat.digitChar (n % 10)]

theorem digitChar_spec (d : Nat) (h : d < 10) :
    (Nat.digitChar d).isDigit = true ∧ digitValue (Nat.digitChar d) = d := by
  have : ∀ d : Fin 10, (Nat.digitChar d).isDigit = true ∧ digitValue (Nat.digitChar d) = d := by
    decide
  exact this ⟨d, h⟩

@[simp] theorem length_fixed (width n : Nat) : (fixed width n).length = width := by
  induction width generalizing n with
  | zero => rfl
  | succ width ih => simp [fixed, ih]

theorem isDigit_fixed (width n : Nat) : ∀ c ∈ fixed width n, c.isDigit = true := by
  induction width generalizing n with
  | zero => simp [fixed]
  | succ width ih =>
    intro c hc
    simp only [fixed, List.mem_append, List.mem_singleton] at hc
    rcases hc with hc | rfl
    · exact ih _ c hc
    · exact (digitChar_spec _ (Nat.mod_lt _ (by omega))).1

theorem numberOf_fixed (width n : Nat) : numberOf (fixed width n) = n % Nat.pow 10 width := by
  induction width generalizing n with
  | zero => simp [fixed, numberOf, Nat.mod_one]
  | succ width ih =>
    have hd := (digitChar_spec (n % 10) (Nat.mod_lt _ (by omega))).2
    have := ih (n / 10)
    simp only [numberOf] at this
    simp only [fixed, numberOf, List.foldl_append, List.foldl_cons, List.foldl_nil, this, hd]
    have hpow : Nat.pow 10 (width + 1) = 10 * Nat.pow 10 width := Nat.mul_comm ..
    rw [hpow, Nat.mod_mul]
    omega

namespace Reader

/-- The next character, if it is an accepted one. -/
def char (accept : Char → Bool) : Reader Char
  | [] => .error .tooShort
  | c :: rest => if accept c then .ok (c, rest) else .error .invalid

def only (c : Char) : Reader Char := char (· == c)

/-- Digits of a field, read after those of `sofar`. -/
def digitsAfter (sofar : Nat) : Nat → Reader Nat
  | 0 => pure sofar
  | width + 1 => do
    let c ← char Char.isDigit
    digitsAfter (sofar * 10 + digitValue c) width

/-- A field of exactly so many digits. -/
def digits (width : Nat) : Reader Nat := digitsAfter 0 width

/-- The digits that stand at the front, at most so many. -/
def someDigits (most : Nat) : Reader (List Char) := fun cs =>
  let ds := (cs.take most).takeWhile Char.isDigit
  match cs, ds with
  | [], _ => .error .tooShort
  | _, [] => .error .invalid
  | _, _ => .ok (ds, cs.drop ds.length)

def skip (drop : Char → Bool) : Reader Unit := fun cs => .ok ((), cs.dropWhile drop)

/-- A condition on what was read. -/
def require (holds : Bool) : Reader Unit :=
  if holds then pure () else throw .outOfRange

/-- Nanoseconds from the digits after a point: those after the ninth are dropped. -/
def nanos : Reader Nat := do
  let ds ← someDigits 9
  skip Char.isDigit
  pure (numberOf (ds.rightpad 9 '0'))

/-- A fraction of a second, if one stands at the front. -/
def fraction : Reader Nat := fun cs =>
  match cs with
  | '.' :: rest => nanos rest
  | _ => .ok (0, cs)

/-- The sign in front of an offset: a plus, a hyphen or a minus sign. -/
def sign : Reader Int := fun cs =>
  match cs with
  | [] => .error .tooShort
  | '+' :: rest => .ok (1, rest)
  | '-' :: rest | '\u2212' :: rest => .ok (-1, rest)
  | _ => .error .invalid

/-- Two digits; a text that ends before their last byte is too short. -/
def pair : Reader (Nat × Nat) := fun cs =>
  match cs with
  | a :: b :: rest =>
    if a.isDigit && b.isDigit then .ok ((digitValue a, digitValue b), rest) else .error .invalid
  | [a] => if a.utf8Size < 2 then .error .tooShort else .error .invalid
  | [] => .error .tooShort

/-- The offset from universal time in seconds: `Z`, or hours and minutes with a sign.
`separator` reads what stands between them. -/
def offset (separator : Reader Unit) : Reader Int := fun cs =>
  match cs with
  | 'Z' :: rest | 'z' :: rest => .ok (0, rest)
  | _ => (do
    let sign ← sign
    let (h₁, h₂) ← pair
    separator
    let (m₁, m₂) ← pair
    require (m₁ < 6)
    pure (sign * ((h₁ * 10 + h₂) * 3600 + (m₁ * 10 + m₂) * 60 : Nat))) cs

/-- An offset of less than a day. -/
def requireOffset (offset : Int) : Reader Unit :=
  require (-86400 < offset && offset < 86400)

/-- Runs a reader on a whole text. -/
def run (reader : Reader α) (text : List Char) : Except Fault α :=
  (reader text).map Prod.fst

end Reader

/-- Digits written with a fixed width are read back as their number. -/
theorem digitsAfter_append (ds rest : List Char) (h : ∀ c ∈ ds, c.isDigit = true) (sofar : Nat) :
    Reader.digitsAfter sofar ds.length (ds ++ rest) =
      .ok (ds.foldl (fun n c => n * 10 + digitValue c) sofar, rest) := by
  induction ds generalizing sofar with
  | nil => rfl
  | cons c ds ih =>
    have hc : c.isDigit = true := h c (List.mem_cons_self ..)
    have ih := ih (fun d hd => h d (List.mem_cons_of_mem c hd)) (sofar * 10 + digitValue c)
    simp only [List.length_cons, Reader.digitsAfter, List.cons_append, List.foldl_cons, ← ih]
    simp [bind, StateT.bind, Reader.char, hc, Except.bind]

theorem digits_fixed (width n : Nat) (rest : List Char) (h : n < Nat.pow 10 width) :
    Reader.digits width (fixed width n ++ rest) = .ok (n, rest) := by
  have := digitsAfter_append (fixed width n) rest (isDigit_fixed width n) 0
  rw [length_fixed] at this
  rw [Reader.digits, this]
  have hn := numberOf_fixed width n
  rw [numberOf, Nat.mod_eq_of_lt h] at hn
  rw [hn]

end LogWeave.Time

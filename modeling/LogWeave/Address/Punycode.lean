import LogWeave.Address.Spelling

/-! Names that are spelt in letters, digits and hyphens only.

The plain characters of a name stand in front of its last hyphen, the others behind it, in the order
of their numbers: each is told by how far it is from the one before, counted along all places where
a character may be put in. -/
namespace LogWeave.Address.Punycode

/-- What has been read of the part behind the hyphen. -/
structure Draft where
  text : List Char
  /-- The number of the character put in last. -/
  character : Nat
  /-- The place behind the character put in last. -/
  place : Nat
  bias : Nat
  /-- The distance to the next character, as far as its digits have been read. -/
  distance : Nat
  weight : Nat
  /-- The place of the next digit in its number, in steps of the base. -/
  step : Nat

namespace Draft

/-- Nothing read yet behind these plain characters. -/
def new (plain : List Char) : Draft := ⟨plain, 128, 0, 72, 0, 1, 36⟩

/-- A digit below this is the last of its number. -/
def threshold (d : Draft) : Nat := max 1 (min 26 (d.step - d.bias))

/-- Divides until the distance is small, counting the steps. -/
def shrink (distance steps : Nat) : Nat × Nat :=
  if 455 < distance then shrink (distance / 35) (steps + 36) else (distance, steps)
termination_by distance
decreasing_by omega

/-- The bias for the next number. -/
def adapt (distance length : Nat) (first : Bool) : Nat :=
  let distance := if first then distance / 700 else distance / 2
  let (distance, steps) := shrink (distance + distance / length) 0
  steps + 36 * distance / (distance + 38)

/-- Puts in the character at the distance that has been read. -/
def put? (d : Draft) : Option Draft :=
  let length := d.text.length + 1
  let reached := d.place + d.distance
  let character := d.character + reached / length
  let place := reached % length
  if character.isValidChar then
    some {
      text := d.text.take place ++ Char.ofNat character :: d.text.drop place
      character
      place := place + 1
      bias := adapt d.distance length (d.place == 0)
      distance := 0
      weight := 1
      step := 36 }
  else none

/-- Reads a digit. -/
def read? (d : Draft) (c : Char) : Option Draft := do
  let value ← if c.isDigit then pure (c.toNat - '0'.toNat + 26)
    else (digit? 36 c).map (· - 10)
  let read := { d with distance := d.distance + value * d.weight }
  if value < d.threshold then read.put?
  else pure { read with weight := d.weight * (36 - d.threshold), step := d.step + 36 }

end Draft

/-- The plain characters in front of the last hyphen, and what stands behind it. A hyphen with
nothing in front divides nothing. -/
def split (name : List Char) : List Char × List Char :=
  match parts '-' name with
  | [[], _] => ([], name)
  | parts => (['-'].intercalate parts.dropLast, parts.getLastD [])

/-- The name that is spelt, if there is a character in it that is not plain. -/
def decode? (name : List Char) : Option (List Char) := do
  let (plain, rest) := split name
  if rest.isEmpty then none
  else
    let d ← rest.foldlM Draft.read? (Draft.new plain)
    if d.step = 36 then pure d.text else none

end LogWeave.Address.Punycode

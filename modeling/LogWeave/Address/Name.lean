import LogWeave.Address.Name.Meaning
import LogWeave.Address.Punycode
import LogWeave.Text.Composition
import LogWeave.Text.Direction

/-! Names of hosts.

A name is read as it is meant (`meaning?`), in composed form. Its labels stand between dots, and a
label may be spelt in plain characters behind `xn--`. -/
namespace LogWeave.Address.Name

open Text

/-- Plain characters that no name has. -/
def isBarred (c : Char) : Bool :=
  c.toNat ≤ 0x20 || c.toNat == 0x7F || ['#', '%', '/', ':', '<', '>', '?', '@', '[', '\\', ']',
    '^', '|'].contains c

def isPlain (c : Char) : Bool := c.toNat < 0x80

/-- The most characters of a label that is not plain. -/
def longest : Nat := 1000

/-- The most characters in which a label may be spelt. -/
def longestSpelling : Nat := 2000

/-- A label that stands by itself: it does not begin with a mark, and its joiners are felt. -/
def isSound (label : List Char) : Bool :=
  !label.head?.any isMark && areJoinersFelt [] label &&
    (label.all isPlain || label.length ≤ longest)

/-- The beginning of a label that is spelt. -/
def spelling : List Char := "xn--".toList

/-- Whether a label is as it is meant. -/
def isMeant (label : List Char) : Bool :=
  (label.all fun c => meaning? c == some [c]) && composed label == label &&
    !spelling.isPrefixOf label

/-- The label that is spelt. -/
def spelt? (text : List Char) : Option (List Char) := do
  let label ← if text.all isPlain && text.length ≤ longestSpelling then Punycode.decode? text
    else none
  if isMeant label then pure label else none

def label? (label : List Char) : Option (List Char) := do
  let label ←
    if spelling.isPrefixOf label then spelt? (label.drop spelling.length) else pure label
  if isSound label then pure label else none

/-- A name as it is meant. If there is something in it that is written from right to left, each
label keeps to one direction. -/
def read? (text : List Char) : Option (List Char) := do
  let name := composed (← text.mapM meaning?).flatten
  let labels ← if name.any isBarred then none else (parts '.' name).mapM label?
  if (labels.any fun label => label.any fun c => (Direction.of c).turns) &&
      !labels.all Direction.isKept then none
  else pure (['.'].intercalate labels)

end LogWeave.Address.Name

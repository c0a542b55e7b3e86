import LogWeave.Text.Bytes

/-! The color of a name.

Names are spread over a palette by a hash of their bytes, so that a name keeps its color from run
to run. -/
namespace LogWeave

inductive Color where
  | blue
  | cyan
  | green
  | magenta
  | red
  | yellow
  deriving DecidableEq, Repr

namespace Color

/-- The colors that names are spread over. -/
def palette : List Color := [blue, cyan, green, magenta, red, yellow]

/-- The place of a color in the palette. -/
def index (c : Color) : Nat := palette.findIdx (· == c)

/-- The number of a color among a terminal's bright colors. -/
def code : Color → Nat
  | red => 9
  | green => 10
  | yellow => 11
  | blue => 12
  | magenta => 13
  | cyan => 14

/-- The sequence that sets the foreground color. -/
def opening (c : Color) : String := "\x1b[38;5;" ++ Nat.repr c.code ++ "m"

/-- The sequence that takes the foreground color back. -/
def closing : String := "\x1b[39m"

/-- A text in a color. -/
def paint (c : Color) (text : String) : String := c.opening ++ text ++ closing

/-- The 32-bit FNV-1 hash: multiply, then mix the byte in. -/
def hash (bytes : Text.Bytes) : UInt32 :=
  bytes.foldl (fun h b => h * 0x01000193 ^^^ b.toUInt32) 0x811c9dc5

def of (name : String) : Color :=
  match (hash (Text.utf8 name)).toNat % 6 with
  | 0 => blue
  | 1 => cyan
  | 2 => green
  | 3 => magenta
  | 4 => red
  | _ => yellow

/-- The color of a name is the one at its hash in the palette. -/
theorem palette_of (name : String) :
    palette[(hash (Text.utf8 name)).toNat % 6]? = some (of name) := by
  have h : (hash (Text.utf8 name)).toNat % 6 < 6 := Nat.mod_lt _ (by decide)
  unfold of
  generalize (hash (Text.utf8 name)).toNat % 6 = place at h
  match place, h with
  | 0, _ | 1, _ | 2, _ | 3, _ | 4, _ | 5, _ => rfl

end Color

/-- A name in its own color. -/
def colored (name : String) : String := (Color.of name).paint name

/-- A text after the colored name of its source. -/
def attributed (source text : String) : String := colored source ++ " › " ++ text

end LogWeave

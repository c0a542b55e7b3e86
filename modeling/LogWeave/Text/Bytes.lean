/-! Text as UTF-8, and bytes that may or may not be text.

`utf8` writes a text as bytes, each character as its one to four bytes in order. `decode` reads a
whole byte sequence back, or says where it stops being UTF-8 and how long the offending part
is. -/
namespace LogWeave.Text

abbrev Bytes := List UInt8

/-- The UTF-8 bytes of one text. -/
def utf8 (s : String) : Bytes := s.toList.flatMap String.utf8EncodeChar

/-- How many bytes the characters take in UTF-8. -/
def byteLength : List Char → Nat
  | [] => 0
  | c :: cs => c.utf8Size + byteLength cs

/-- Where a byte sequence stops being UTF-8. Without `size` the sequence ends inside a
character. -/
structure Utf8Fault where
  offset : Nat
  size : Option Nat
  deriving DecidableEq, Repr

def Utf8Fault.message : Utf8Fault → String
  | ⟨offset, some size⟩ => s!"invalid utf-8 sequence of {size} bytes from index {offset}"
  | ⟨offset, none⟩ => s!"incomplete utf-8 byte sequence from index {offset}"

/-- How many bytes a character takes, read off its first byte, and the range of the second. -/
def lead (b : UInt8) : Option (Nat × UInt8 × UInt8) :=
  if b < 0x80 then some (1, 0x80, 0xBF)
  else if 0xC2 ≤ b && b ≤ 0xDF then some (2, 0x80, 0xBF)
  else if b == 0xE0 then some (3, 0xA0, 0xBF)
  else if b == 0xED then some (3, 0x80, 0x9F)
  else if 0xE1 ≤ b && b ≤ 0xEF then some (3, 0x80, 0xBF)
  else if b == 0xF0 then some (4, 0x90, 0xBF)
  else if b == 0xF4 then some (4, 0x80, 0x8F)
  else if 0xF1 ≤ b && b ≤ 0xF3 then some (4, 0x80, 0xBF)
  else none

/-- The character number spelt by a first byte and its tails. -/
def scalar (size : Nat) (b : UInt8) (tails : Bytes) : Nat :=
  let top := if size == 1 then b.toNat else b.toNat % Nat.pow 2 (7 - size)
  tails.foldl (fun n t => n * 64 + t.toNat % 64) top

/-- What stands at the front of a byte sequence. -/
inductive Front where
  | char (c : Char) (size : Nat)
  | invalid (size : Nat)
  | cut
  deriving DecidableEq, Repr

/-- Reads the tails of a character one by one: the second byte has a range of its own. -/
def tails : (owed : Nat) → (low high : UInt8) → (seen : Bytes) → Bytes → Except (Option Nat) Bytes
  | 0, _, _, seen, _ => .ok seen
  | _ + 1, _, _, _, [] => .error none
  | n + 1, low, high, seen, b :: rest =>
    if low ≤ b && b ≤ high then tails n 0x80 0xBF (seen ++ [b]) rest
    else .error (some (seen.length + 1))

def front (b : UInt8) (rest : Bytes) : Front :=
  match lead b with
  | none => .invalid 1
  | some (size, low, high) =>
    match tails (size - 1) low high [] rest with
    | .ok ts => .char (Char.ofNat (scalar size b ts)) size
    | .error (some n) => .invalid n
    | .error none => .cut

/-- Reads characters from `bytes`, of which `skip` belong to the character read last. -/
def decodeFrom (offset skip : Nat) : Bytes → Except Utf8Fault (List Char)
  | [] => .ok []
  | b :: rest =>
    match skip with
    | k + 1 => decodeFrom (offset + 1) k rest
    | 0 =>
      match front b rest with
      | .char c size => (decodeFrom (offset + 1) (size - 1) rest).map (c :: ·)
      | .invalid size => .error ⟨offset, some size⟩
      | .cut => .error ⟨offset, none⟩

/-- The text a byte sequence spells. -/
def decode (bytes : Bytes) : Except Utf8Fault String :=
  (decodeFrom 0 0 bytes).map String.ofList

@[simp] theorem decode_nil : decode [] = .ok "" := rfl

end LogWeave.Text

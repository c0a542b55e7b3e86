import LogWeave.Text.Bytes

/-! How addresses are spelt: characters that do not count, parts between separators, and bytes
spelt by a percent sign and two digits. -/
namespace LogWeave.Address

open Text (Bytes)

/-- Characters that are dropped from an address wherever they stand. -/
def isDropped (c : Char) : Bool := c == '\t' || c == '\n' || c == '\r'

/-- Characters that end a host. -/
def endsHost (c : Char) : Bool := c == '/' || c == '\\' || c == '?' || c == '#'

/-- Characters that end a path. -/
def endsPath (c : Char) : Bool := c == '?' || c == '#'

/-- The parts of a text between the separators: one more than there are separators. -/
def parts (separator : Char) : List Char → List (List Char)
  | [] => [[]]
  | c :: cs =>
    if c = separator then [] :: parts separator cs
    else
      match parts separator cs with
      | p :: ps => (c :: p) :: ps
      | [] => [[c]]

/-- The value of a digit below a base of at most 36. Letters follow the ten digits. -/
def digit? (base : Nat) (c : Char) : Option Nat :=
  let value :=
    if c.isDigit then c.toNat - '0'.toNat
    else if c.isLower then c.toNat - 'a'.toNat + 10
    else if c.isUpper then c.toNat - 'A'.toNat + 10
    else base
  if value < base then some value else none

/-- A number in a base, the highest digit first. -/
def number? (base : Nat) (digits : List Char) : Option Nat :=
  digits.foldlM (fun n c => (digit? base c).map (n * base + ·)) 0

/-- Whether a path part stands for the one it is in. A dot may be spelt as a byte. -/
def isHere (part : List Char) : Bool := (undotted part) == ['.']
where
  /-- The dots of a part that are spelt as bytes, spelt as dots. -/
  undotted : List Char → List Char
    | '%' :: '2' :: 'e' :: rest => '.' :: undotted rest
    | '%' :: '2' :: 'E' :: rest => '.' :: undotted rest
    | c :: rest => c :: undotted rest
    | [] => []

/-- Whether a path part stands for the one before it. -/
def isBack (part : List Char) : Bool := isHere.undotted part == ['.', '.']

/-- Goes along the parts of a path, those gone in the first argument, the last one first. A path
that ends with a step of another kind ends with an empty part. -/
def walk : List (List Char) → List (List Char) → List (List Char)
  | gone, [] => gone.reverse
  | gone, part :: rest =>
    let stay (gone : List (List Char)) : List (List Char) :=
      walk (if rest.isEmpty then [] :: gone else gone) rest
    if isBack part then stay (gone.drop 1)
    else if isHere part then stay gone
    else walk (part :: gone) rest

/-- The byte that is spelt by a percent sign and the two digits behind it. -/
def escaped? (b : UInt8) (rest : Bytes) : Option UInt8 :=
  match b == 0x25, rest with
  | true, high :: low :: _ =>
    (number? 16 [Char.ofNat high.toNat, Char.ofNat low.toNat]).map UInt8.ofNat
  | _, _ => none

/-- The bytes that a text spells, of which `skip` belong to the byte spelt last. A percent sign
without two digits stands for itself. -/
def bytesFrom (skip : Nat) : Bytes → Bytes
  | [] => []
  | b :: rest =>
    match skip with
    | k + 1 => bytesFrom k rest
    | 0 =>
      match escaped? b rest with
      | some c => c :: bytesFrom 2 rest
      | none => b :: bytesFrom 0 rest

/-- The text that a text spells, if its bytes are one. -/
def spelt? (text : List Char) : Option String :=
  (Text.decode (bytesFrom 0 (Text.utf8 (String.ofList text)))).toOption

end LogWeave.Address

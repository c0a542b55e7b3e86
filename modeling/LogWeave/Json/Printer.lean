import LogWeave.Decimal.Shortest
import LogWeave.Json.Value

/-! Documents written as text, on one line or spread over lines.

Quotes, backslashes and control characters of a text are escaped, all else stands as it is. -/
namespace LogWeave.Json.Printer

/-- A control character without a short escape: its code in four digits. -/
def numbered (c : Char) : List Char :=
  ['\\', 'u'] ++ List.leftpad 4 '0' (Nat.toDigits 16 c.toNat)

def escapeChar (c : Char) : List Char :=
  match c with
  | '"' => ['\\', '"']
  | '\\' => ['\\', '\\']
  | '\x08' => ['\\', 'b']
  | '\x0c' => ['\\', 'f']
  | '\n' => ['\\', 'n']
  | '\r' => ['\\', 'r']
  | '\t' => ['\\', 't']
  | _ => if c.toNat < 0x20 then numbered c else [c]

def text (s : String) : List Char := '"' :: s.toList.flatMap escapeChar ++ ['"']

def number : Number → List Char
  | .whole n => (toString n).toList
  | .fraction negative size =>
    (if negative then ['-'] else []) ++ (Decimal.shortest size).text.toList

/-- Line breaks and marks between the parts of a list or an object. -/
structure Layout where
  /-- What stands in front of a part at a depth. -/
  newline : Nat → List Char
  colon : List Char

/-- All on one line. -/
def compact : Layout := ⟨fun _ => [], [':']⟩

/-- A line for each part, two spaces further in at each depth. -/
def spread : Layout := ⟨fun depth => '\n' :: List.replicate (2 * depth) ' ', [':', ' ']⟩

/-- Parts between brackets, with commas between them. Without parts nothing stands within. -/
def enclose (l : Layout) (depth : Nat) (opening closing : Char) (parts : List (List Char)) :
    List Char :=
  if parts.isEmpty then [opening, closing]
  else opening :: [','].intercalate (parts.map (l.newline (depth + 1) ++ ·)) ++
    l.newline depth ++ [closing]

mutual

def value (l : Layout) (depth : Nat) : Value → List Char
  | .null => "null".toList
  | .bool b => (if b then "true" else "false").toList
  | .number n => number n
  | .text s => text s
  | .list vs => enclose l depth '[' ']' (items l (depth + 1) vs)
  | .object ms => enclose l depth '\x7b' '\x7d' (members l (depth + 1) ms)

def items (l : Layout) (depth : Nat) : List Value → List (List Char)
  | [] => []
  | v :: rest => value l depth v :: items l depth rest

def members (l : Layout) (depth : Nat) : List (String × Value) → List (List Char)
  | [] => []
  | (k, v) :: rest => (text k ++ l.colon ++ value l depth v) :: members l depth rest

end

/-- A document on one line. -/
def line (v : Value) : String := String.ofList (value compact 0 v)

/-- A document spread over lines. -/
def lines (v : Value) : String := String.ofList (value spread 0 v)

end LogWeave.Json.Printer

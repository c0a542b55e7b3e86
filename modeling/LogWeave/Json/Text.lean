import LogWeave.Json.Cursor
import LogWeave.Text.Bytes

/-! Texts of a document: characters between quotes, some of them escaped.

A character beyond 16 bits is escaped as a pair of surrogates. -/
namespace LogWeave.Json

namespace Text

/-- The value of a hexadecimal digit. -/
def hexValue? (c : Char) : Option Nat :=
  if '0' ≤ c ∧ c ≤ '9' then some (c.toNat - '0'.toNat)
  else if 'a' ≤ c ∧ c ≤ 'f' then some (c.toNat - 'a'.toNat + 10)
  else if 'A' ≤ c ∧ c ≤ 'F' then some (c.toNat - 'A'.toNat + 10)
  else none

/-- The bytes left, as far as four are concerned. -/
def bytesLeft (cs : List Char) : Nat := LogWeave.Text.byteLength (cs.take 4)

/-- The place so many bytes further on. -/
def placeAfter : List Char → (bytes : Nat) → Place → Place
  | _, 0, p => p
  | [], _, p => p
  | c :: rest, bytes, p =>
    if c.utf8Size ≤ bytes then placeAfter rest (bytes - c.utf8Size) (p.after c)
    else ⟨p.line, p.column + bytes⟩

/-- The end of the text. -/
def atEnd (s : Cursor) : Cursor := s.advanceBy s.rest.length

/-- Four hexadecimal digits. -/
def unit : Reader Nat := fun s =>
  match s.rest with
  | a :: b :: c :: d :: _ =>
    match hexValue? a, hexValue? b, hexValue? c, hexValue? d with
    | some a, some b, some c, some d =>
      .ok (((a * 16 + b) * 16 + c) * 16 + d, s.advanceBy 4)
    | _, _, _, _ => .error (.fault ⟨.invalidEscape, placeAfter s.rest 4 s.place⟩)
  | cs =>
    if bytesLeft cs < 4 then .error (.fault ⟨.unfinishedText, (atEnd s).place⟩)
    else .error (.fault ⟨.invalidEscape, placeAfter s.rest 4 s.place⟩)

def isLeading (n : Nat) : Bool := 0xD800 ≤ n && n ≤ 0xDBFF

def isTrailing (n : Nat) : Bool := 0xDC00 ≤ n && n ≤ 0xDFFF

/-- The second half of a pair of surrogates, with its escape. -/
def expect (c : Char) : Reader Unit := do
  match ← Reader.peek with
  | none => Reader.fail .unfinishedText
  | some d => if d = c then Reader.advance else Reader.failAhead .unfinishedSurrogate

/-- The character of an escape by number. -/
def numbered : Reader Char := do
  let n ← unit
  if isTrailing n then Reader.fail .loneSurrogate
  else if isLeading n then do
    expect '\\'
    expect 'u'
    let m ← unit
    if isTrailing m then pure (Char.ofNat ((n - 0xD800) * 0x400 + (m - 0xDC00) + 0x10000))
    else Reader.fail .loneSurrogate
  else pure (Char.ofNat n)

/-- The characters with an escape of their own. -/
def short? : Char → Option Char
  | '"' => some '"'
  | '\\' => some '\\'
  | '/' => some '/'
  | 'b' => some '\x08'
  | 'f' => some '\x0c'
  | 'n' => some '\n'
  | 'r' => some '\r'
  | 't' => some '\t'
  | _ => none

/-- The character of an escape, after its backslash. -/
def escaped : Reader Char := do
  match ← Reader.peek with
  | none => Reader.fail .unfinishedText
  | some 'u' => do
    Reader.advance
    numbered
  | some c =>
    match short? c with
    | some d => do
      Reader.advance
      pure d
    | none => Reader.failAhead .invalidEscape

def isControl (c : Char) : Bool := c.toNat < 0x20

/-- The characters up to the closing quote, at most `most`. -/
def upToQuote : (most : Nat) → Reader (List Char)
  | 0 => Reader.fail .unfinishedText
  | most + 1 => do
    match ← Reader.peek with
    | none => Reader.fail .unfinishedText
    | some '"' => do
      Reader.advance
      pure []
    | some '\\' => do
      Reader.advance
      let c ← escaped
      pure (c :: (← upToQuote most))
    | some c =>
      if isControl c then Reader.failAhead .controlCharacter
      else do
        Reader.advance
        pure (c :: (← upToQuote most))

/-- A text whose opening quote stands at the front. -/
def body : Reader String := do
  Reader.advance
  pure (String.ofList (← upToQuote (← Reader.bound)))

/-- An escape passed over: a numbered one may be any number. -/
def skipEscaped : Reader Unit := do
  match ← Reader.peek with
  | none => Reader.fail .unfinishedText
  | some 'u' => do
    Reader.advance
    let _ ← unit
  | some c => if (short? c).isSome then Reader.advance else Reader.failAhead .invalidEscape

def skipToQuote : (most : Nat) → Reader Unit
  | 0 => Reader.fail .unfinishedText
  | most + 1 => do
    match ← Reader.peek with
    | none => Reader.fail .unfinishedText
    | some '"' => Reader.advance
    | some '\\' => do
      Reader.advance
      skipEscaped
      skipToQuote most
    | some c =>
      if isControl c then Reader.fail .controlCharacter
      else do
        Reader.advance
        skipToQuote most

/-- Passes over a text whose opening quote stands at the front. -/
def skip : Reader Unit := do
  Reader.advance
  skipToQuote (← Reader.bound)

end Text

end LogWeave.Json

import LogWeave.Json.Fault

/-! Reading a document from its front.

A `Cursor` is what is left of a text and the place it starts at; a `Reader` takes something off
it. A reader fails at a place, or leaves the place open: the place of an open complaint is where
the list or object around it has been closed. -/
namespace LogWeave.Json

structure Cursor where
  rest : List Char
  place : Place
  deriving DecidableEq, Repr

/-- Why a reader stops: a complaint at its place, or one whose place is still open. -/
inductive Stop where
  | fault (f : Fault)
  | unplaced (complaint : Complaint) (cursor : Cursor)
  deriving DecidableEq, Repr

abbrev Reader := StateT Cursor (Except Stop)

/-- The place after a character. -/
def Place.after (p : Place) (c : Char) : Place :=
  if c = '\n' then ⟨p.line + 1, 0⟩ else ⟨p.line, p.column + c.utf8Size⟩

/-- The place after the first byte of a character. -/
def Place.into (p : Place) (c : Char) : Place :=
  if c = '\n' then ⟨p.line + 1, 0⟩ else ⟨p.line, p.column + 1⟩

namespace Cursor

def start (text : String) : Cursor := ⟨text.toList, ⟨1, 0⟩⟩

def advance (s : Cursor) : Cursor :=
  match s.rest with
  | [] => s
  | c :: rest => ⟨rest, s.place.after c⟩

def advanceBy : Nat → Cursor → Cursor
  | 0, s => s
  | n + 1, s => advanceBy n s.advance

/-- The place after the next byte, or the end. -/
def ahead (s : Cursor) : Place :=
  match s.rest with
  | [] => s.place
  | c :: _ => s.place.into c

def isBlank (c : Char) : Bool := c == ' ' || c == '\n' || c == '\t' || c == '\r'

def skipFrom : List Char → Place → Cursor
  | [], p => ⟨[], p⟩
  | c :: rest, p => if isBlank c then skipFrom rest (p.after c) else ⟨c :: rest, p⟩

def skipBlanks (s : Cursor) : Cursor := skipFrom s.rest s.place

end Cursor

namespace Reader

/-- Fails behind what has been read. -/
def fail (complaint : Complaint) : Reader α := fun s => .error (.fault ⟨complaint, s.place⟩)

/-- Fails at the next byte. -/
def failAhead (complaint : Complaint) : Reader α := fun s => .error (.fault ⟨complaint, s.ahead⟩)

/-- Fails with a text, behind what has been read, unless the text itself ends with the message of a
place. Lines are counted from 1, so a place on line 0 is none, and gives way. -/
def complain (text : String) : Reader α :=
  match Place.named? text with
  | none => fail (.unreadable text)
  | some (text, ⟨0, _⟩) => fail (.unreadable text)
  | some (text, place) => fun _ => .error (.fault ⟨.unreadable text, place⟩)

/-- Fails with the place left open. -/
def object (complaint : Complaint) : Reader α := fun s => .error (.unplaced complaint s)

/-- Settles an open complaint where it arose. -/
def settle (reader : Reader α) : Reader α := fun s =>
  match reader s with
  | .error (.unplaced complaint t) => .error (.fault ⟨complaint, t.place⟩)
  | result => result

def peek : Reader (Option Char) := fun s => .ok (s.rest.head?, s)

def advance : Reader Unit := fun s => .ok ((), s.advance)

def skipBlanks : Reader Unit := fun s => .ok ((), s.skipBlanks)

/-- The next character that is not blank. -/
def peekSolid : Reader (Option Char) := do
  skipBlanks
  peek

/-- The letters of a word, one by one. -/
def word : List Char → Reader Unit
  | [] => pure ()
  | c :: cs => do
    match ← peek with
    | none => fail .unfinishedValue
    | some d => if d = c then do advance; word cs else failAhead .expectedWord

/-- The digits at the front. -/
def digits : Reader (List Char) := fun s =>
  let ds := s.rest.takeWhile Char.isDigit
  .ok (ds, s.advanceBy ds.length)

end Reader

/-- The outcome of closing a list or an object: how far it got, and what stood in its way. -/
abbrev Closing := Cursor → Cursor × Option Fault

def closeList : Closing := fun s =>
  let s := s.skipBlanks
  match s.rest with
  | ']' :: _ => (s.advance, none)
  | ',' :: _ =>
    let s := s.advance.skipBlanks
    let complaint := if s.rest.head? = some ']' then .trailingComma else .trailingCharacters
    (s, some ⟨complaint, s.ahead⟩)
  | [] => (s, some ⟨.unfinishedList, s.ahead⟩)
  | _ => (s, some ⟨.trailingCharacters, s.ahead⟩)

def closeObject : Closing := fun s =>
  let s := s.skipBlanks
  match s.rest with
  | '}' :: _ => (s.advance, none)
  | ',' :: _ => (s, some ⟨.trailingComma, s.ahead⟩)
  | [] => (s, some ⟨.unfinishedObject, s.ahead⟩)
  | _ => (s, some ⟨.trailingCharacters, s.ahead⟩)

namespace Reader

/-- What stands within brackets, and the closing one. A complaint left open by the body is settled
where the closing got to. -/
def enclosed (close : Closing) (body : Reader α) : Reader α := fun s =>
  match body s with
  | .ok (a, s) =>
    match close s with
    | (s, none) => .ok (a, s)
    | (_, some fault) => .error (.fault fault)
  | .error (.unplaced complaint s) => .error (.fault ⟨complaint, (close s).1.place⟩)
  | .error stop => .error stop

/-- Whether a list goes on, up to its next element. -/
def nextElement (first : Bool) : Reader Bool := do
  match ← peekSolid with
  | none => failAhead .unfinishedList
  | some ']' => pure false
  | some c =>
    if first then pure true
    else if c = ',' then do
      advance
      match ← peekSolid with
      | some ']' => failAhead .trailingComma
      | some _ => pure true
      | none => failAhead .unfinishedValue
    else failAhead .expectedListEnd

/-- Whether an object goes on, up to the quote of its next key. -/
def nextKey (first : Bool) : Reader Bool := do
  match ← peekSolid with
  | none => failAhead .unfinishedObject
  | some '}' => pure false
  | some c =>
    if first then if c = '"' then pure true else failAhead .expectedKey
    else if c = ',' then do
      advance
      match ← peekSolid with
      | some '"' => pure true
      | some '}' => failAhead .trailingComma
      | some _ => failAhead .expectedKey
      | none => failAhead .unfinishedValue
    else failAhead .expectedObjectEnd

def colon : Reader Unit := do
  match ← peekSolid with
  | some ':' => advance
  | some _ => failAhead .expectedColon
  | none => failAhead .unfinishedObject

/-- Takes the elements of a list one after the other, at most `most`. -/
def foldElements (step : β → Reader β) : (most : Nat) → (first : Bool) → β → Reader β
  | 0, _, b => pure b
  | most + 1, first, b => do
    if ← nextElement first then foldElements step most false (← step b) else pure b

/-- How many characters are left: no list or object has more parts. -/
def bound : Reader Nat := fun s => .ok (s.rest.length + 1, s)

end Reader

end LogWeave.Json

import LogWeave.Decimal.Shortest
import LogWeave.Json.Value
import LogWeave.Text.Quoted

/-! What can be wrong with a document, and how it is told. -/
namespace LogWeave.Json

/-- A place in a text: its line and the bytes before it on that line. -/
structure Place where
  line : Nat
  column : Nat
  deriving DecidableEq, Repr

namespace Place

def message (p : Place) : String :=
  " at line " ++ toString p.line ++ " column " ++ toString p.column

/-- The number that a text ends with, where `word` stands in front of it, and what is left of the
text. Both texts run backwards, and a number has at most 64 bits. -/
def numberBehind? (word : String) (backwards : List Char) : Option (Nat × List Char) := do
  let digits := backwards.takeWhile Char.isDigit
  let front := backwards.drop digits.length
  let number ← (String.ofList digits.reverse).toNat?
  let word := word.toList.reverse
  if number < UInt64.size && word.isPrefixOf front then pure (number, front.drop word.length)
  else none

/-- A text that ends with the message of a place: what stands before it, and the place. -/
def named? (text : String) : Option (String × Place) := do
  let (column, front) ← numberBehind? " column " text.toList.reverse
  let (line, front) ← numberBehind? " at line " front
  pure (String.ofList front.reverse, ⟨line, column⟩)

end Place

/-- What stands where something else was expected. -/
inductive Found where
  | null
  | bool (b : Bool)
  | number (n : Number)
  | text (s : String)
  | list
  | object
  deriving DecidableEq, Repr

inductive Complaint where
  | unfinishedValue
  | unfinishedText
  | unfinishedList
  | unfinishedObject
  | expectedValue
  | expectedWord
  | expectedColon
  | expectedListEnd
  | expectedObjectEnd
  | expectedKey
  | trailingComma
  | trailingCharacters
  | invalidNumber
  | numberOutOfRange
  | invalidEscape
  | controlCharacter
  | loneSurrogate
  | unfinishedSurrogate
  | tooDeep
  | mismatch (found : Found) (expected : String)
  | outOfBounds (found : Found) (expected : String)
  | wrongLength (length : Nat) (expected : String) (fields : Nat)
  | missingField (name : String)
  | duplicateField (name : String)
  | unknownVariant (name : String) (known : List String)
  | unreadable (text : String)
  deriving DecidableEq, Repr

def Number.message : Number → String
  | .whole n => "integer `" ++ toString n ++ "`"
  | .fraction negative size =>
    "floating point `" ++ (if negative then "-" else "") ++ (Decimal.shortest size).text ++ "`"

def Found.message : Found → String
  | null => "null"
  | bool b => "boolean `" ++ toString b ++ "`"
  | number n => n.message
  | text s => "string " ++ Text.quoted s
  | list => "sequence"
  | object => "map"

def Complaint.message : Complaint → String
  | unfinishedValue => "EOF while parsing a value"
  | unfinishedText => "EOF while parsing a string"
  | unfinishedList => "EOF while parsing a list"
  | unfinishedObject => "EOF while parsing an object"
  | expectedValue => "expected value"
  | expectedWord => "expected ident"
  | expectedColon => "expected `:`"
  | expectedListEnd => "expected `,` or `]`"
  | expectedObjectEnd => "expected `,` or `\x7d`"
  | expectedKey => "key must be a string"
  | trailingComma => "trailing comma"
  | trailingCharacters => "trailing characters"
  | invalidNumber => "invalid number"
  | numberOutOfRange => "number out of range"
  | invalidEscape => "invalid escape"
  | controlCharacter => "control character (\\u0000-\\u001F) found while parsing a string"
  | loneSurrogate => "lone leading surrogate in hex escape"
  | unfinishedSurrogate => "unexpected end of hex escape"
  | tooDeep => "recursion limit exceeded"
  | mismatch found expected => "invalid type: " ++ found.message ++ ", expected " ++ expected
  | outOfBounds found expected => "invalid value: " ++ found.message ++ ", expected " ++ expected
  | wrongLength length expected fields =>
    "invalid length " ++ toString length ++ ", expected " ++ expected ++ " with " ++
      toString fields ++ (if fields = 1 then " element" else " elements")
  | missingField name => "missing field `" ++ name ++ "`"
  | duplicateField name => "duplicate field `" ++ name ++ "`"
  | unknownVariant name known =>
    "unknown variant `" ++ name ++ "`, expected one of " ++
      ", ".intercalate (known.map fun k => "`" ++ k ++ "`")
  | unreadable text => text

/-- The text has nothing wrong in it but its end, which comes too early. -/
def Complaint.isUnfinished : Complaint → Bool
  | unfinishedValue | unfinishedText | unfinishedList | unfinishedObject => true
  | _ => false

/-- A complaint with its place. -/
structure Fault where
  complaint : Complaint
  place : Place
  deriving DecidableEq, Repr

def Fault.message (f : Fault) : String :=
  f.complaint.message ++ f.place.message

end LogWeave.Json

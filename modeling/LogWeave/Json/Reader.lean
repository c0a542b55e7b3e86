import LogWeave.Json.Scalar

/-! Documents read from a text.

`value` reads any document; lists and objects may stand within each other to a depth of 127. A
`Record` is an object of known members, which may also be written as a list of their values in
order. -/
namespace LogWeave.Json

/-- How deep lists and objects may stand within each other. -/
def deepest : Nat := 127

/-- The members of an object, one after the other; `step` is given the key and reads on from
behind it. -/
def Reader.foldMembers (step : β → String → Reader β) :
    (most : Nat) → (first : Bool) → β → Reader β
  | 0, _, b => pure b
  | most + 1, first, b => do
    if ← Reader.nextKey first then do
      let key ← Text.body
      foldMembers step most false (← step b key)
    else pure b

/-- The elements of a list, in order. -/
def Reader.elements (read : Reader α) (most : Nat) : Reader (List α) :=
  List.reverse <$> Reader.foldElements (fun vs => do pure ((← read) :: vs)) most true []

/-- A list or an object from its opening bracket on. -/
def Reader.bracketed (close : Closing) (body : (most : Nat) → Reader α) : Reader α := do
  Reader.advance
  Reader.enclosed close (body (← Reader.bound))

/-- Any value, with so many more lists and objects allowed within each other. -/
def value : (depth : Nat) → Reader Value
  | 0 => Scalar.solid fun c =>
    if c = '[' || c = '{' then Reader.failAhead .tooDeep else scalar c
  | depth + 1 => Scalar.solid fun c =>
    match c with
    | '[' => .list <$> Reader.bracketed closeList (Reader.elements (value depth))
    | '{' => .object <$> Reader.bracketed closeObject fun most =>
      Reader.foldMembers (fun ms key => do
        Reader.colon
        pure (Value.put key (← value depth) ms)) most true []
    | c => scalar c
where
  /-- A value that is neither a list nor an object. -/
  scalar (c : Char) : Reader Value :=
    match c with
    | 'n' => do Scalar.word "null"; pure .null
    | 't' => do Scalar.word "true"; pure (.bool true)
    | 'f' => do Scalar.word "false"; pure (.bool false)
    | '"' => do pure (.text (← Text.body))
    | c =>
      if c = '-' || c.isDigit then do pure (.number (← Scalar.number))
      else Reader.failAhead .expectedValue

/-- Any value. -/
def Reader.value : Reader Value := Json.value deepest

/-- Values between brackets. -/
def Reader.listOf (read : Reader α) : Reader (List α) := Scalar.solid fun c =>
  if c = '[' then Reader.bracketed closeList (Reader.elements read)
  else Scalar.mismatch "a sequence"

/-- An object of any keys, each of them kept once with its last value. -/
def Reader.mapOf (read : Reader α) : Reader (List (String × α)) := Scalar.solid fun c =>
  if c = '{' then
    Reader.bracketed closeObject fun most =>
      Reader.foldMembers (fun ms key => do
        Reader.colon
        let v ← read
        pure (ms.filter (·.1 != key) ++ [(key, v)])) most true []
  else Scalar.mismatch "a map"

/-- One of some known names, as a text or as an object whose only key it is and whose value is
`null`. -/
def Reader.choice (known : List (String × α)) : Reader α := do
  match ← Reader.peekSolid with
  | some '"' => named
  | some '{' => do
    Reader.advance
    unless ← Reader.nextKey true do Reader.failAhead .expectedValue
    let choice ← named
    Reader.colon
    Scalar.solid fun c => if c = 'n' then Scalar.word "null" else Scalar.mismatch "unit"
    match ← Reader.peekSolid with
    | some '}' => do
      Reader.advance
      pure choice
    | some _ => Reader.fail .expectedValue
    | none => Reader.fail .unfinishedObject
  | some _ => Reader.failAhead .expectedValue
  | none => Reader.failAhead .unfinishedValue
where
  /-- A name, its quote at the front. -/
  named : Reader α := do
    let name ← Text.body
    match known.find? (·.1 == name) with
    | some (_, choice) => pure choice
    | none => Reader.fail (.unknownVariant name (known.map Prod.fst))

/-- A member of a record. -/
structure Field (ρ : Type) where
  name : String
  /-- An object without it is refused. -/
  needed : Bool
  /-- A list that ends before it is refused. -/
  listed : Bool
  read : ρ → Reader ρ

/-- An object of known members. -/
structure Record (ρ : Type) where
  name : String
  blank : ρ
  fields : List (Field ρ)

namespace Record

/-- What has been read of a record. -/
structure Draft (ρ : Type) where
  seen : List String
  value : ρ

variable {ρ : Type} (r : Record ρ)

/-- A member by its key: unknown ones are passed over. -/
def readMember (d : Draft ρ) (key : String) : Reader (Draft ρ) :=
  match r.fields.find? (·.name == key) with
  | none => do
    Reader.colon
    Skip.value
    pure d
  | some field =>
    if d.seen.contains key then Reader.object (.duplicateField key)
    else do
      Reader.colon
      pure ⟨key :: d.seen, ← field.read d.value⟩

/-- The first needed member that was not seen. -/
def absent? (d : Draft ρ) : Option (Field ρ) :=
  r.fields.find? fun field => field.needed && !d.seen.contains field.name

def readObject (most : Nat) : Reader ρ := do
  let d ← Reader.foldMembers r.readMember most true ⟨[], r.blank⟩
  match r.absent? d with
  | some field => Reader.object (.missingField field.name)
  | none => pure d.value

/-- The fields in order; those behind the end of the list keep their blank value. -/
def readList (count : Nat) : List (Field ρ) → (read : Nat) → ρ → Reader ρ
  | [], _, value => pure value
  | field :: rest, read, value => do
    if ← Reader.nextElement (read == 0) then do
      readList count rest (read + 1) (← field.read value)
    else if field.listed then Reader.object (.wrongLength read r.name count)
    else readList count rest (read + 1) value

def reader : Reader ρ := Reader.settle <| Scalar.solid fun c =>
  match c with
  | '[' => Reader.bracketed closeList fun _ => r.readList r.fields.length r.fields 0 r.blank
  | '{' => Reader.bracketed closeObject r.readObject
  | _ => Scalar.mismatch r.name

end Record

/-- A whole text read as one document. -/
def read (reader : Reader α) (text : String) : Except Fault α :=
  let whole : Reader α := do
    let a ← reader
    match ← Reader.peekSolid with
    | some _ => Reader.failAhead .trailingCharacters
    | none => pure a
  match whole (Cursor.start text) with
  | .ok (a, _) => .ok a
  | .error (.fault fault) => .error fault
  | .error (.unplaced complaint s) => .error ⟨complaint, s.place⟩

end LogWeave.Json

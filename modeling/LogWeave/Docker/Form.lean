import LogWeave.Json.Reader

/-! The forms of an engine's documents.

A document has to be of the right form all through: a member that is not kept is read all the same,
and a wrong one makes the whole document unreadable. Members that no form is known for are passed
over. -/
namespace LogWeave.Docker.Form

/-- A member that may be `null` or missing. -/
def field (name : String) (read : Json.Reader α) (keep : ρ → Option α → ρ) : Json.Field ρ :=
  ⟨name, false, true, fun r => do pure (keep r (← Json.Scalar.optional read))⟩

/-- A member that is read and not kept. -/
def looked (name : String) (read : Json.Reader α) : Json.Field ρ := field name read fun r _ => r

/-- A member that is read and not kept, and that a list may leave out. -/
def spared (name : String) (read : Json.Reader α) : Json.Field ρ :=
  { looked name read with listed := false }

/-- A member that has to be there. -/
def needed (name : String) (read : Json.Reader α) : Json.Field ρ :=
  ⟨name, true, true, fun r => do
    let _ ← read
    pure r⟩

/-- An object of which nothing is kept. -/
def object (name : String) (fields : List (Json.Field Unit)) : Json.Reader Unit :=
  Json.Record.reader ⟨"struct " ++ name, (), fields⟩

def text : Json.Reader String := Json.Scalar.anyText

def flag : Json.Reader Bool := Json.Scalar.flag

def whole : Json.Reader Int := Json.Scalar.signed64

def texts : Json.Reader (List String) := Json.Reader.listOf text

/-- Texts by their names. -/
def textsByName : Json.Reader (List (String × String)) := Json.Reader.mapOf text

/-- One of some names that means nothing here. A name may always be empty. -/
def word (known : List String) : Json.Reader Unit :=
  Json.Reader.choice (("" :: known).map fun name => (name, ()))

/-- An object without members. -/
def empty : Json.Reader Unit := Json.Scalar.solid fun c =>
  if c = '{' then
    Json.Reader.bracketed Json.closeObject fun _ => do
      if ← Json.Reader.nextKey true then
        Json.Reader.object (.mismatch (.text (← Json.Text.body)) "unit")
  else Json.Scalar.mismatch "a map"

/-- Names by themselves, as the keys of empty objects. -/
def names : Json.Reader (List (String × Unit)) := Json.Reader.mapOf empty

end LogWeave.Docker.Form

import LogWeave.Docker.Engine
import LogWeave.Json.Printer
import LogWeave.Json.Reader

/-! An answer of an engine as it arrives. -/
namespace LogWeave.Docker

/-- A status code and a text. -/
structure Response where
  code : Nat
  text : String
  deriving DecidableEq, Repr

namespace Response

/-- An answer that is given. -/
def giving (text : String) : Response := ⟨200, text⟩

/-- An answer that is a document. -/
def document (v : Json.Value) : Response := giving (Json.Printer.line v)

/-- An answer that is refused, with an explanation. -/
def refusing (code : Nat) (explanation : Json.Value) : Response :=
  ⟨code, Json.Printer.line (.object [("message", explanation)])⟩

/-- The answer has been given. -/
def isGiven (r : Response) : Bool :=
  200 ≤ r.code && r.code < 300 || r.code == 304 || r.code == 101

/-- With some codes no text arrives. -/
def body (r : Response) : String := if r.code == 204 || r.code == 304 then "" else r.text

/-- The explanation of a refusal: its document, unless that holds a message. -/
def explanation (r : Response) : String :=
  match Json.read Json.Reader.value r.text with
  | .ok (.object members) =>
    match Json.Value.get? members "message" with
    | some (.text message) => message
    | _ => r.text
  | _ => r.text

/-- The text of an answer that is given. -/
def accept (r : Response) : Except Refusal String :=
  if r.isGiven then .ok r.body else .error (.status r.code r.explanation)

/-- What is read in an answer that is given. -/
def read {α : Type} (read : String → Except Json.Fault α) (r : Response) : Except Refusal α :=
  r.accept.bind fun text => (read text).mapError .unreadable

end Response

end LogWeave.Docker

import LogWeave.Failure
import LogWeave.Json.Printer
import LogWeave.Json.Reader
import LogWeave.Status.Basic
import LogWeave.Time.Lenient

/-! The status of a service as a document. -/
namespace LogWeave

namespace Phase

/-- All phases, in the order in which they are named to a reader. -/
def all : List Phase := [unknown, pending, running, exited]

def reader : Json.Reader Phase := Json.Reader.choice (all.map fun phase => (phase.name, phase))

end Phase

namespace ServiceStatus

/-- A time in any of the spellings that a document may use. -/
def timeReader : Json.Reader Time.Instant := do
  let text ← Json.Scalar.text "an RFC 3339 formatted date and time string"
  match Time.Lenient.read text.toList with
  | .ok t => pure t
  | .error fault => Json.Reader.fail (.unreadable fault.message)

def record : Json.Record ServiceStatus where
  name := "struct ServiceStatus"
  blank := unheard
  fields := [
    ⟨"phase", true, true, fun s => do pure { s with phase := ← Phase.reader }⟩,
    ⟨"started_at", false, true, fun s => do
      pure { s with startedAt := ← Json.Scalar.optional timeReader }⟩,
    ⟨"exit_code", false, true, fun s => do
      let code ← Json.Scalar.optional Json.Scalar.signed64
      pure { s with exitCode := code.map Int64.ofInt }⟩,
    ⟨"message", false, true, fun s => do
      pure { s with detail := ← Json.Scalar.optional Json.Scalar.anyText }⟩]

/-- The status that a document spells. -/
def read (text : String) : Except Failure ServiceStatus :=
  (Json.read record.reader text).mapError fun e => .json e.message

def document (s : ServiceStatus) : Json.Value :=
  .object [("phase", .text s.phase.name),
    ("started_at", .text? (s.startedAt.map Time.Rfc3339.brief)),
    ("exit_code", (s.exitCode.map fun code => Json.Value.whole code.toInt).getD .null),
    ("message", .text? s.detail)]

/-- The document on one line. -/
def line (s : ServiceStatus) : String := Json.Printer.line s.document

end ServiceStatus

end LogWeave

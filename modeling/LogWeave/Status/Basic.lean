import LogWeave.Color
import LogWeave.Time.Instant

/-! What is known of a service: its phase, its instance and how it ended.

An instance of a service is told by the time it started; a service that starts again is a new
instance. -/
namespace LogWeave

inductive Phase where
  | unknown
  | pending
  | running
  | exited
  deriving DecidableEq, Repr

def Phase.name : Phase → String
  | unknown => "Unknown"
  | pending => "Pending"
  | running => "Running"
  | exited => "Exited"

def Phase.ofName? : String → Option Phase
  | "Unknown" => some .unknown
  | "Pending" => some .pending
  | "Running" => some .running
  | "Exited" => some .exited
  | _ => none

theorem Phase.ofName?_name (p : Phase) : ofName? p.name = some p := by
  cases p <;> rfl

def Phase.color : Phase → Color
  | running => .green
  | exited => .red
  | _ => .yellow

structure ServiceStatus where
  phase : Phase
  startedAt : Option Time.Instant
  exitCode : Option Int64
  detail : Option String
  deriving DecidableEq, Repr

namespace ServiceStatus

/-- What is known before anything was heard of a service. -/
def unheard : ServiceStatus := ⟨.unknown, none, none, none⟩

def isExited (s : ServiceStatus) : Bool := s.phase == .exited

/-- Running as an instance other than `known`. -/
def isAnother (s : ServiceStatus) (known : Option Time.Instant) : Bool :=
  s.phase == .running && s.startedAt != known

/-- The exit code, told only of a service that exited. -/
def codeText (s : ServiceStatus) : String :=
  match s.phase, s.exitCode with
  | .exited, some code => " (" ++ toString code.toInt ++ ")"
  | _, _ => ""

def detailText (s : ServiceStatus) : String :=
  match s.detail with
  | some detail => if detail.isEmpty then "" else ": " ++ detail
  | none => ""

/-- Phase, exit code and detail on one line. -/
def describe (s : ServiceStatus) : String := s.phase.name ++ s.codeText ++ s.detailText

end ServiceStatus

end LogWeave

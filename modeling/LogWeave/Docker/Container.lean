import LogWeave.Line.Stamp
import LogWeave.Status.Basic

/-! Containers as the engine tells of them, and the status of a service read off one. -/
namespace LogWeave.Docker

/-- What a container is doing. -/
inductive Condition where
  | created
  | running
  | paused
  | restarting
  | removing
  | exited
  | dead
  deriving DecidableEq, Repr

namespace Condition

def ofName? : String → Option Condition
  | "created" => some created
  | "running" => some running
  | "paused" => some paused
  | "restarting" => some restarting
  | "removing" => some removing
  | "exited" => some exited
  | "dead" => some dead
  | _ => none

/-- The phase a condition tells; being removed tells none. -/
def phase? : Condition → Option Phase
  | running | paused => some .running
  | exited | dead => some .exited
  | created | restarting => some .pending
  | removing => none

end Condition

/-- The state in a container's inspection. -/
structure State where
  condition : Option Condition
  running : Bool
  killedForMemory : Bool
  exitCode : Option Int64
  error : Option String
  startedAt : Option String
  deriving DecidableEq, Repr

/-- An inspected container. -/
structure Inspection where
  id : Option String
  state : Option State
  deriving DecidableEq, Repr

/-- A container in a list. -/
structure Summary where
  id : Option String
  labels : List (String × String)
  condition : Option Condition
  /-- What the engine says of the container in words. -/
  words : Option String
  deriving DecidableEq, Repr

/-- When a container was started. One that never was is said to have started in year 1. -/
def startTime? (text : String) : Option Time.Instant :=
  match Stamp.read text with
  | .ok t => if 1 < t.date.year then some t else none
  | .error _ => none

namespace State

def phase (s : State) : Phase :=
  match s.condition.bind Condition.phase? with
  | some phase => phase
  | none => if s.running then .running else .unknown

def detail (s : State) : Option String :=
  if s.killedForMemory then some "OOMKilled" else s.error.filter (!·.isEmpty)

/-- The status of the service. The exit code counts only once it has exited. -/
def status (s : State) : ServiceStatus where
  phase := s.phase
  startedAt := s.startedAt.bind startTime?
  exitCode := if s.phase = .exited then s.exitCode else none
  detail := s.detail

end State

namespace Summary

/-- The label that names the service of a container. -/
def serviceLabel : String := "com.docker.compose.service"

/-- The label that names the project of a container. -/
def projectLabel : String := "com.docker.compose.project"

def label? (s : Summary) (name : String) : Option String :=
  (s.labels.find? (·.1 == name)).map Prod.snd

def service? (s : Summary) : Option String := s.label? serviceLabel

/-- The status of the service, as far as a list tells. -/
def status (s : Summary) : ServiceStatus :=
  { ServiceStatus.unheard with
    phase := (s.condition.bind Condition.phase?).getD .unknown
    detail := s.words }

end Summary

end LogWeave.Docker

import LogWeave.Docker.Engine
import LogWeave.LogQuery

/-! Services found through an engine.

A service is a container that carries the label of the service and, if a project is set, the label
of the project. Without such a container it is the container of that name. -/
namespace LogWeave.Docker

/-- A question that may fail, put to an engine in a state. -/
abbrev Asking (ε : Type) (α : Type) := ExceptT Failure (StateM ε) α

/-- Puts a question; a refusal is a failure while doing something. -/
def Asking.of {ε α : Type} (doing : String) (ask : ε → Except Refusal α × ε) : Asking ε α :=
  fun e =>
    let (answer, e) := ask e
    (answer.mapError fun r => .during doing r.message, e)

structure Client (ε : Type) where
  engine : Engine ε
  project : Option String

namespace Client

/-- What this way to logs is called. -/
def name : String := "docker"

variable {ε : Type} (c : Client ε)

/-- The labels to look for: those of a service, or of any. -/
def labels (service : Option String) : List String :=
  let wanted := match service with
    | some service => Summary.serviceLabel ++ "=" ++ service
    | none => Summary.serviceLabel
  wanted :: (c.project.map fun project => Summary.projectLabel ++ "=" ++ project).toList

def ping : Asking ε Unit := .of "ping sandbox" c.engine.ping

def list (service : Option String) : Asking ε (List Summary) :=
  .of "list containers" fun e => c.engine.list e (c.labels service)

/-- The container of a service. -/
def resolve (service : String) : Asking ε String := do
  match (← c.list (some service)).findSome? Summary.id with
  | some id => pure id
  | none =>
    match (← (fun e => let (a, e) := c.engine.inspect e service; (.ok a, e) :
        Asking ε (Except Refusal Inspection))) with
    | .ok found => pure (found.id.getD service)
    | .error refusal =>
      if refusal.isMissing then throw (.serviceNotFound service)
      else throw (.during ("inspect " ++ service) refusal.message)

/-- The status of a service. -/
def inspect (service : String) : Asking ε ServiceStatus := do
  let container ← c.resolve service
  let found ← .of ("inspect " ++ service) fun e => c.engine.inspect e container
  pure ((found.state.map State.status).getD .unheard)

/-- The status of a service that has started at least once. -/
def inspectStarted (service : String) : Asking ε ServiceStatus := do
  let status ← c.inspect service
  if status.startedAt.isNone && status.phase != .running then throw (.serviceNotStarted service)
  pure status

/-- The services among containers, by name; equal names keep their order. -/
def servicesOf (containers : List Summary) : List (String × ServiceStatus) :=
  (containers.filterMap fun s => s.service?.map (·, s.status)).mergeSort fun a b => a.1 ≤ b.1

/-- All services with their statuses. -/
def services : Asking ε (List (String × ServiceStatus)) := do
  pure (servicesOf (← c.list none))

/-- The items of a log stream: its lines, up to what breaks it. -/
def streamOf (service : String) (body : LogBody) : List Run.StreamItem :=
  let broken (text : String) : List Run.StreamItem :=
    [.fail (.during ("log stream of " ++ service) text)]
  let bytes := body.frames.flatMap Frame.encode
  let (pieces, leftOver) := Body.pieces bytes
  let output := pieces.flatten
  let (lines, last) := Body.splitLines (output.length + 1) output
  let rec read (ending : List Run.StreamItem) : List Text.Bytes → List Run.StreamItem
    | [] => ending
    | line :: rest =>
      match Body.lineText line with
      | .ok text => .line text :: read ending rest
      | .error fault => broken fault.message
  if body.hangs then read [.hang] lines
  else if leftOver then read (broken "bytes remaining on stream") lines
  else read [] (if last.isEmpty then lines else lines ++ [last])

/-- How a log is asked for. The log of the instance before the present one ends where that
started. -/
def logsQuery (q : LogQuery) (started : Option Time.Instant) : LogsQuery where
  follow := q.follow
  stamped := q.stamped
  since := (q.since.map Time.Instant.seconds).getD 0
  untilSecond := (started.map Time.Instant.seconds).getD 0

/-- Opens the log of a service. A refusal to send it is the first item of the stream. -/
def openLog (service : String) (q : LogQuery) : Asking ε (List Run.StreamItem) := do
  let container ← c.resolve service
  let started ← (do
    if q.previous then
      match (← c.inspect service).startedAt with
      | some t => pure (some t)
      | none => throw (.serviceNotStarted service)
    else pure none)
  fun e =>
    match c.engine.logs e container (logsQuery q started) with
    | (.ok body, e) => (.ok (streamOf service body), e)
    | (.error refusal, e) =>
      (.ok [.fail (.during ("log stream of " ++ service) refusal.message)], e)

end Client

end LogWeave.Docker

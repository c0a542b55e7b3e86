import LogWeave.Address.Endpoint
import LogWeave.Docker.Container
import LogWeave.Docker.Frame
import LogWeave.Docker.Route
import LogWeave.Failure
import LogWeave.Json.Fault

/-! What can be asked of an engine, and what it may answer. -/
namespace LogWeave.Docker

/-- How a log is to be sent. -/
structure LogsQuery where
  follow : Bool
  stamped : Bool
  /-- The first second of lines to send. -/
  since : Int
  /-- The last second of lines to send; with 0 there is none. -/
  untilSecond : Int
  deriving DecidableEq, Repr

namespace LogsQuery

def flagText (b : Bool) : String := if b then "true" else "false"

/-- The fields of the query: all lines of output and errors within the times. -/
def fields (q : LogsQuery) : List (String × String) :=
  [("follow", flagText q.follow), ("stdout", "true"), ("stderr", "true"),
    ("since", toString q.since)] ++
    (if q.untilSecond = 0 then [] else [("until", toString q.untilSecond)]) ++
    [("timestamps", flagText q.stamped), ("tail", "all")]

end LogsQuery

/-- A question to the engine. -/
inductive Question where
  | ping
  /-- The containers, running or not, that have all these labels. -/
  | list (labels : List String)
  /-- Containers, without a word on which. -/
  | listAny
  | inspect (container : String)
  | logs (container : String) (query : LogsQuery)
  deriving DecidableEq, Repr

/-- Why there is no answer. -/
inductive Refusal where
  | status (code : Nat) (text : String)
  /-- The answer cannot be read. One that was cut off is told from one that is wrong. -/
  | unreadable (fault : Json.Fault)
  /-- The place where the engine listens cannot be told. -/
  | misplaced (fault : Address.Fault)
  /-- Nobody listens. -/
  | unreachable
  deriving DecidableEq, Repr

namespace Refusal

def message : Refusal → String
  | status code text =>
    "Docker responded with status code " ++ toString code ++ ": " ++ text
  | unreadable fault =>
    (if fault.complaint.isUnfinished then "" else "Failed to deserialize JSON: ") ++ fault.message
  | misplaced fault => fault.message
  | unreachable => "Error in the hyper legacy client: client error (Connect)"

/-- There is no such container. -/
def isMissing : Refusal → Bool
  | status 404 _ => true
  | _ => false

end Refusal

/-- The body of a log: frames, after which it ends, or never does. -/
structure LogBody where
  frames : List Frame
  hangs : Bool
  deriving DecidableEq, Repr

/-- An engine, whose state is an `ε`. -/
structure Engine (ε : Type) where
  ping : ε → Except Refusal Unit × ε
  list : ε → List String → Except Refusal (List Summary) × ε
  inspect : ε → String → Except Refusal Inspection × ε
  logs : ε → String → LogsQuery → Except Refusal LogBody × ε

/-- An engine that is not met. -/
def Engine.missed {ε : Type} (why : Refusal) : Engine ε where
  ping e := (.error why, e)
  list e _ := (.error why, e)
  inspect e _ := (.error why, e)
  logs e _ _ := (.error why, e)

/-- The engine at a host on which nobody listens. -/
def Engine.absent {ε : Type} (host : String) : Engine ε :=
  match Address.Endpoint.read ("/" ++ Route.version ++ "/") host with
  | .ok _ => missed .unreachable
  | .error fault => missed (.misplaced fault)

end LogWeave.Docker

import LogWeave.Docker.Document
import LogWeave.Docker.Response

/-! An engine that answers from a record.

For each container the answers are written down in order, and the last one is given again and
again. The questions are kept. Answers are documents, which are read when they are given. -/
namespace LogWeave.Docker

/-- The answers to one question, and how often it has been asked. -/
structure Replies (α : Type) where
  first : α
  later : List α
  asked : Nat
  deriving DecidableEq, Repr

namespace Replies

variable {α : Type}

/-- The next answer, if one is left. -/
def next? (r : Replies α) : Option α := ((r.first :: r.later).drop r.asked).head?

/-- The next answer: the last one is given again. -/
def next (r : Replies α) : α := r.next?.getD (r.later.getLastD r.first)

/-- Counts a question. -/
def advance (r : Replies α) : Replies α := { r with asked := r.asked + 1 }

/-- More has been asked than there are answers. -/
def isOverdrawn (r : Replies α) : Bool := r.later.length + 1 < r.asked

end Replies

/-- The answer to a question for containers. -/
inductive ListReply where
  /-- Those with the labels asked for, out of these. -/
  | containers (all : List Json.Value)
  /-- One answer, whatever was asked for. -/
  | response (r : Response)
  deriving Repr

/-- The answer to a question for a log. -/
inductive LogReply where
  | body (b : LogBody)
  | response (r : Response)
  deriving Repr

/-- The log in an answer. A text that is no log is taken for one that ends within a line. -/
def LogReply.accept : LogReply → Except Refusal LogBody
  | body b => .ok b
  | response r => r.accept.map fun text => ⟨[⟨none, Text.utf8 text⟩], false⟩

structure Recording where
  ping : Response
  list : ListReply
  inspections : List (String × Replies Response)
  logs : List (String × Replies LogReply)
  asked : List Question
  /-- Whether the last answer is given again, or the engine refuses once the answers have run
  out. -/
  repeats : Bool

namespace Recording

def noContainer (id : String) : Refusal := .status 404 ("No such container: " ++ id)

/-- What is answered where there is nothing to ask for. -/
def noPage : Refusal := .status 404 "page not found"

/-- The answer for a container, and the record without it. -/
def reply {α : Type} (r : Recording) (id : String) :
    List (String × Replies α) → Except Refusal α × List (String × Replies α)
  | [] => (.error (noContainer id), [])
  | (name, replies) :: rest =>
    if name = id then
      let answer := if r.repeats then some replies.next else replies.next?
      (match answer with
        | some a => .ok a
        | none => .error .unreachable, (name, replies.advance) :: rest)
    else
      let (answer, rest) := reply r id rest
      (answer, (name, replies) :: rest)

/-- The labels of a container. -/
def labelsOf : Json.Value → List (String × Json.Value)
  | .object members =>
    match Json.Value.get? members "Labels" with
    | some (.object labels) => labels
    | _ => []
  | _ => []

/-- A label that is asked for: its name, and its value behind the first equals sign. -/
def labelOf (wanted : String) : String × Option String :=
  match Address.parts '=' wanted.toList with
  | name :: part :: rest =>
    (String.ofList name, some (String.ofList (['='].intercalate (part :: rest))))
  | _ => (wanted, none)

/-- The container has a label that was asked for: by its name alone, or with its value. -/
def meets (container : Json.Value) (wanted : String) : Bool :=
  match labelOf wanted with
  | (name, none) => (labelsOf container).any (·.1 == name)
  | (name, some value) =>
    match Json.Value.get? (labelsOf container) name with
    | some (.text found) => found == value
    | _ => false

/-- The answer with the containers that have all the labels. -/
def listReply (r : Recording) (labels : List String) : Response :=
  match r.list with
  | .containers all =>
    .document (.list (all.filter fun container => labels.all (meets container)))
  | .response answer => answer

def ask (r : Recording) (q : Question) : Recording := { r with asked := r.asked ++ [q] }

/-- Some container has been inspected more often than there are answers. -/
def isOverdrawn (r : Recording) : Bool := r.inspections.any fun (_, replies) => replies.isOverdrawn

/-- Asks for a container by its name. -/
def inspect (r : Recording) (name : String) : Except Refusal Inspection × Recording :=
  match Route.ofName "json" name with
  | .container id =>
    let (answer, inspections) := r.reply id r.inspections
    (answer.bind (Response.read Inspection.read), { r with inspections }.ask (.inspect id))
  | .list => (Response.read Inspection.read (r.listReply []), r.ask .listAny)
  | .elsewhere => (.error noPage, r)

/-- Asks for the log of a container. -/
def log (r : Recording) (name : String) (query : LogsQuery) : Except Refusal LogBody × Recording :=
  match Route.ofName "logs" name with
  | .container id =>
    let (answer, logs) := r.reply id r.logs
    (answer.bind LogReply.accept, { r with logs }.ask (.logs id query))
  | _ => (.error noPage, r)

def engine : Engine Recording where
  ping r := (r.ping.accept.map fun _ => (), r.ask .ping)
  list r labels := (Response.read Summary.readList (r.listReply labels), r.ask (.list labels))
  inspect := inspect
  logs := log

end Recording

end LogWeave.Docker

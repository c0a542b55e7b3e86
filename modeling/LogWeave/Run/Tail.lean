import LogWeave.Line.Source
import LogWeave.Request
import LogWeave.Run.Floor

/-! The reader of one service's log.

A reader opens the log and passes its lines on. When it follows, it opens the log again after a
while if the stream is over or could not be opened, until the service has exited; then it lies
dormant until the service runs again. Lines that an earlier stream has brought are dropped. Before
anything else a reader looks whether the run is halted. -/
namespace LogWeave.Run

/-- What a reader does once its line has been sent. -/
inductive Next where
  | read (items : List StreamItem)
  | reconnect
  | finish
  | exit
  | restart
  deriving DecidableEq, Repr

inductive Stage where
  /-- About to open the log. -/
  | starting
  | opening (readyAt : Nat) (outcome : Except Failure (List StreamItem))
  /-- Reading a stream, the next item of which may come only at a time. -/
  | reading (items : List StreamItem) (resumeAt : Option Nat)
  | sending (a : Arrival) (next : Next)
  | pausing (resumeAt : Nat)
  /-- About to leave, for good or until the service is restarted. -/
  | leaving (exited : Bool)
  | dormant
  | done

structure Tail where
  /-- The reader's number among the senders. -/
  number : Nat
  source : Source
  follow : Bool
  previous : Bool
  reconnectDelay : Nat
  retryDelay : Nat
  /-- Notices name the source. -/
  shared : Bool
  watch : Watch
  /-- Lines of this time or earlier have been passed on. -/
  since : Option Time.Instant
  /-- How often the log has been opened. -/
  attempts : Nat
  stage : Stage

/-- A service has stopped. -/
def exitedNotice : String := "The container exited."

/-- A stream that broke will be opened again. -/
def reconnectingNotice : String := "Disconnected from logs, reconnecting.."

/-- A service that had stopped runs again. -/
def restartedNotice : String := "The container restarted, streaming logs.."

/-- The text of a stream that could not be opened. -/
def refusalText (why : Failure) : String := "start logs stream: " ++ why.message

namespace Tail

variable {σ : Type}

def new (s : Streaming) (shared : Bool) (bulletin : Bulletin) (number : Nat) (service : String) :
    Tail where
  number
  source := .new service
  follow := s.follows
  previous := s.previous
  reconnectDelay := s.reconnectDelay
  retryDelay := s.retryDelay
  shared
  watch := .new bulletin service
  since := none
  attempts := 0
  stage := .starting

def service (t : Tail) : String := t.source.name

def isDone (t : Tail) : Bool :=
  match t.stage with
  | .done => true
  | _ => false

/-- The reader may still send lines. -/
def isActive (t : Tail) : Bool :=
  match t.stage with
  | .dormant | .done => false
  | _ => true

/-- A notice about the source, as it is printed. -/
def noticeText (t : Tail) (notice : String) : String :=
  if t.shared then attributed t.service notice else notice

def query (t : Tail) : LogQuery := (LogQuery.all t.follow t.previous).starting t.since

/-- The next attempt starts where the earlier ones came to. -/
def attempt (t : Tail) : Tail :=
  { t with
    since := if t.attempts = 0 then t.since else t.source.lastSeen
    attempts := t.attempts + 1 }

/-- A line that has been passed on before. A line without a time is never known. -/
def knows (t : Tail) (line : String) : Bool :=
  match Stamp.of? line, t.since with
  | some stamp, some since => stamp ≤ since
  | _, _ => false

/-- Takes note of the time of a line. -/
def observe (t : Tail) (line : String) : Tail :=
  match Stamp.of? line with
  | some stamp => { t with source := t.source.observe stamp }
  | none => t

/-- Goes on to send a line, which is received now. -/
def send (w : World σ) (f : Floor σ) (t : Tail) (line : Time.Instant → Arrival) (next : Next) :
    Floor σ × Tail :=
  ({ f with receipts := f.receipts + 1 },
    { t with stage := .sending (line (w.clock f.receipts)) next })

/-- Opens the log. -/
def start (w : World σ) (f : Floor σ) (t : Tail) : Floor σ × Tail :=
  let t := t.attempt
  let (opening, world) := w.openLog f.world t.service t.query
  ({ f with world }.note t.service (.opened t.query),
    { t with stage := .opening (f.now + opening.delay) opening.outcome })

/-- The log could not be opened: try again later, or give up. -/
def refuse (w : World σ) (f : Floor σ) (t : Tail) (why : Failure) : Floor σ × Tail :=
  let f := f.note t.service .refused
  if t.follow then (f, { t with stage := .pausing (f.now + t.retryDelay) })
  else t.send w f (.ending t.service (.broken (refusalText why)) none) .finish

/-- The stream is over: tell so, then open the log again later, or finish. -/
def conclude (w : World σ) (f : Floor σ) (t : Tail) (how : StreamEnd) : Floor σ × Tail :=
  let f := f.note t.service (.ended how)
  let notice := match how with
    | .broken _ => if t.follow then some (t.noticeText reconnectingNotice) else none
    | .finished => none
  t.send w f (.ending t.service how notice) (if t.follow then .reconnect else .finish)

/-- Takes the next item of the stream, if it has come. -/
def read (w : World σ) (f : Floor σ) (t : Tail) (items : List StreamItem)
    (resumeAt : Option Nat) : Option (Floor σ × Tail) :=
  match items with
  | [] => some (t.conclude w f .finished)
  | .line line :: rest =>
    if t.knows line then some (f, { t with stage := .reading rest none })
    else some ((t.observe line).send w f (.line t.service line) (.read rest))
  | .fail why :: _ => some (t.conclude w f (.broken why.message))
  | .hang :: _ => none
  | .pause time :: rest =>
    match resumeAt with
    | none => some (f, { t with stage := .reading items (some (f.now + time)) })
    | some due =>
      if due ≤ f.now then some (f, { t with stage := .reading rest none }) else none

/-- Goes on after a line has been sent. -/
def proceed (f : Floor σ) (t : Tail) : Next → Stage
  | .read items => .reading items none
  | .reconnect => .pausing (f.now + t.reconnectDelay)
  | .finish => .leaving false
  | .exit => .leaving true
  | .restart => .starting

/-- Puts a line into the channel; in line first, if there is no room. -/
def deliver (f : Floor σ) (t : Tail) (a : Arrival) (next : Next) : Option (Floor σ × Tail) :=
  let queued := f.channel.join t.number
  match queued.put? t.number a with
  | some channel =>
    let f := { f with channel }.note t.service (.sent a)
    some (f, { t with stage := t.proceed f next })
  | none =>
    if f.channel.line.contains t.number then none
    else some ({ f with channel := queued }, t)

/-- Comes to an end without having sent its line. -/
def giveUp (f : Floor σ) (t : Tail) : Floor σ × Tail :=
  ({ f with channel := f.channel.stepOut t.number }, { t with stage := .leaving false })

/-- Waits until the next attempt, unless the service is seen to exit. -/
def pause (w : World σ) (f : Floor σ) (t : Tail) (resumeAt : Nat) : Option (Floor σ × Tail) :=
  match t.watch.exited? f.bulletin with
  | some watch =>
    let f := f.note t.service (.exited watch.instance?)
    some ({ t with watch }.send w f (.notify t.service (t.noticeText exitedNotice)) .exit)
  | none => if resumeAt ≤ f.now then some (f, { t with stage := .starting }) else none

/-- Returns: sends nothing more. -/
def retire (f : Floor σ) (t : Tail) : Floor σ × Tail :=
  ({ f with channel := f.channel.retire }.note t.service .returned, { t with stage := .done })

/-- Is counted no longer; lies dormant if the service may come back. -/
def leave (f : Floor σ) (t : Tail) (exited : Bool) : Floor σ × Tail :=
  let f := { f with headcount := f.headcount.leave }
  if exited && t.follow then (f, { t with stage := .dormant }) else t.retire f

/-- Waits until the service runs again. -/
def sleep (w : World σ) (f : Floor σ) (t : Tail) : Option (Floor σ × Tail) :=
  if f.isHalted then some (t.retire f)
  else
    match t.watch.restarted? f.bulletin with
    | some watch =>
      let f := { f with headcount := f.headcount.enter }.note t.service
        (.restarted watch.instance?)
      some ({ t with watch }.send w f (.notify t.service (t.noticeText restartedNotice)) .restart)
    | none => none

/-- What a reader does next, unless it has to wait. -/
def step (w : World σ) (f : Floor σ) (t : Tail) : Option (Floor σ × Tail) :=
  match t.stage with
  | .done => none
  | .dormant => t.sleep w f
  | .leaving exited => some (t.leave f exited)
  | stage =>
    if f.isHalted then some (t.giveUp f)
    else
      match stage with
      | .starting => some (t.start w f)
      | .opening readyAt outcome =>
        if readyAt ≤ f.now then
          match outcome with
          | .ok items => some (f, { t with stage := .reading items none })
          | .error why => some (t.refuse w f why)
        else none
      | .reading items resumeAt => t.read w f items resumeAt
      | .sending a next => if f.channel.isClosed then some (t.giveUp f) else t.deliver f a next
      | .pausing resumeAt => t.pause w f resumeAt
      | _ => none

/-- When the reader may go on by itself. -/
def timer? (t : Tail) : Option Nat :=
  match t.stage with
  | .opening readyAt _ => some readyAt
  | .reading _ resumeAt => resumeAt
  | .pausing resumeAt => some resumeAt
  | _ => none

end Tail

end LogWeave.Run

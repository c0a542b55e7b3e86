import LogWeave.Color
import LogWeave.Line.Stamp

/-! Lines as they arrive, and as they are printed.

An `Arrival` is one line of a source, one of the reader's own notices, or the end of a stream. Its
`entry` carries the time to sort by: the time in front of the line if there is one, else the time
of receipt. `collate` puts the entries of a batch in order; entries of one time keep the order of
their arrival. -/
namespace LogWeave

/-- How a stream ended. -/
inductive StreamEnd where
  | finished
  | broken (text : String)
  deriving DecidableEq, Repr

def StreamEnd.message : StreamEnd → String
  | finished => "end of stream"
  | broken text => text

structure Arrival where
  source : String
  text : String
  receivedAt : Time.Instant
  ended : Option StreamEnd
  /-- A notice, printed as it stands in place of the text. -/
  notice : Option String
  deriving DecidableEq, Repr

/-- A line ready to be put in order. -/
structure Entry where
  source : String
  text : String
  loggedAt : Time.Instant
  notice : Option String
  deriving DecidableEq, Repr

namespace Arrival

/-- A line of the source's log. -/
def line (source text : String) (receivedAt : Time.Instant) : Arrival :=
  ⟨source, text, receivedAt, none, none⟩

/-- The end of a stream, told by a notice if there is one. -/
def ending (source : String) (how : StreamEnd) (notice : Option String)
    (receivedAt : Time.Instant) : Arrival :=
  ⟨source, "", receivedAt, some how, notice⟩

/-- A notice about the source. -/
def notify (source notice : String) (receivedAt : Time.Instant) : Arrival :=
  ⟨source, "", receivedAt, none, some notice⟩

/-- Nothing to print: a stream that came to its end. -/
def isSilent (a : Arrival) : Bool := a.notice.isNone && a.ended == some .finished

/-- The text of a broken stream that no notice tells. -/
def fault? (a : Arrival) : Option String :=
  match a.ended, a.notice with
  | some (.broken text), none => some text
  | _, _ => none

def entry (a : Arrival) : Entry :=
  match a.notice with
  | some notice => ⟨a.source, "", a.receivedAt, some notice⟩
  | none =>
    match Stamp.readLine a.text with
    | .ok (message, stamp) => ⟨a.source, message, stamp, none⟩
    | .error _ => ⟨a.source, a.text, a.receivedAt, none⟩

end Arrival

namespace Entry

/-- Logged at the same time or earlier. -/
def before (a b : Entry) : Bool := decide (a.loggedAt ≤ b.loggedAt)

/-- The printed text: a notice as it stands, else the message, after its source's name if the
output is shared. -/
def printed (e : Entry) (shared : Bool) : String :=
  match e.notice with
  | some notice => notice
  | none => if shared then attributed e.source e.text else e.text

/-- The portions in which the line is handed over: names, texts and the newline by themselves. -/
def portions (e : Entry) (shared : Bool) : List String :=
  match e.notice with
  | some notice => [notice, "\n"]
  | none =>
    if shared then
      [(Color.of e.source).opening ++ e.source, Color.closing ++ " › " ++ e.text, "\n"]
    else [e.text, "\n"]

/-- The portions are the printed text and a newline. -/
theorem join_portions (e : Entry) (shared : Bool) :
    String.join (e.portions shared) = e.printed shared ++ "\n" := by
  unfold portions printed
  split
  · simp [String.join]
  · cases shared
    · simp [String.join]
    · simp [String.join, attributed, colored, Color.paint, String.append_assoc]

theorem before_trans (a b c : Entry) (hab : a.before b = true) (hbc : b.before c = true) :
    a.before c = true := by
  simp only [before, decide_eq_true_eq] at *
  exact Time.Instant.le_trans hab hbc

theorem before_total (a b : Entry) : (a.before b || b.before a) = true := by
  simpa [before] using Time.Instant.le_total a.loggedAt b.loggedAt

end Entry

/-- A batch in the order of its times. -/
def collate (batch : List Arrival) : List Entry :=
  (batch.map Arrival.entry).mergeSort Entry.before

/-- Nothing is lost or added by putting a batch in order. -/
theorem collate_perm (batch : List Arrival) : (collate batch).Perm (batch.map Arrival.entry) :=
  List.mergeSort_perm _ _

theorem collate_sorted (batch : List Arrival) :
    (collate batch).Pairwise fun a b => a.before b = true :=
  List.pairwise_mergeSort Entry.before_trans Entry.before_total _

end LogWeave

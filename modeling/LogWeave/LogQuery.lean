import LogWeave.Failure
import LogWeave.Time.Instant

/-! What is asked of a service's log, and what comes of it. -/
namespace LogWeave

structure LogQuery where
  /-- Keep the stream open for lines to come. -/
  follow : Bool
  /-- The log of the instance before the present one. -/
  previous : Bool
  /-- A time stamp in front of every line. -/
  stamped : Bool
  /-- Only lines of this time or later, to the second. -/
  since : Option Time.Instant
  deriving DecidableEq, Repr

namespace LogQuery

/-- Everything there is, with time stamps. -/
def all (follow previous : Bool) : LogQuery := ⟨follow, previous, true, none⟩

def starting (q : LogQuery) (since : Option Time.Instant) : LogQuery := { q with since }

end LogQuery

namespace Run

/-- One item of a log stream. -/
inductive StreamItem where
  | line (text : String)
  /-- Nothing comes for a while. -/
  | pause (time : Nat)
  | fail (why : Failure)
  /-- Nothing will ever come. -/
  | hang
  deriving DecidableEq, Repr

/-- What comes of opening a log, and after which time. A stream ends after its last item. -/
structure Opening where
  delay : Nat
  outcome : Except Failure (List StreamItem)

/-- A stream that is open at once. -/
def Opening.stream (items : List StreamItem) : Opening := ⟨0, .ok items⟩

end Run

end LogWeave

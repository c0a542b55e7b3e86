import LogWeave.Failure
import LogWeave.Json.Printer
import LogWeave.Json.Reader

/-! How the weaving of logs is tuned.

All times are in milliseconds. A `Tuning.Overlay` holds the values that one settings file gives;
laid over a tuning it replaces just those. -/
namespace LogWeave

structure Tuning where
  /-- How long lines are held back to be put in order. -/
  window : UInt64
  /-- The delay before a stream that ended is opened again. -/
  reconnectDelay : UInt64
  /-- The delay before a stream that failed to open is tried again. -/
  retryDelay : UInt64
  /-- Lines that each source may have on their way. -/
  linesPerSource : UInt64
  /-- The time from one look at the services to the next. -/
  pollInterval : UInt64
  deriving DecidableEq, Repr

namespace Tuning

def standard : Tuning := ⟨100, 500, 5000, 32, 1000⟩

/-- The values one settings file gives. -/
structure Overlay where
  window : Option UInt64
  reconnectDelay : Option UInt64
  retryDelay : Option UInt64
  linesPerSource : Option UInt64
  pollInterval : Option UInt64
  deriving DecidableEq, Repr

/-- Nothing given. -/
def Overlay.none : Overlay := ⟨.none, .none, .none, .none, .none⟩

/-- A tuning with the values of an overlay in place of its own. -/
def overlaid (base : Tuning) (o : Overlay) : Tuning where
  window := o.window.getD base.window
  reconnectDelay := o.reconnectDelay.getD base.reconnectDelay
  retryDelay := o.retryDelay.getD base.retryDelay
  linesPerSource := o.linesPerSource.getD base.linesPerSource
  pollInterval := o.pollInterval.getD base.pollInterval

@[simp] theorem overlaid_none (base : Tuning) : base.overlaid .none = base := rfl

/-- Refuses a window, a channel or an interval of nothing. -/
def check (t : Tuning) : Except Failure Unit := do
  if t.window = 0 then .error (.config "logs.windowMs must be > 0")
  if t.linesPerSource = 0 then .error (.config "logs.channelCapacityPerSource must be > 0")
  if t.pollInterval = 0 then .error (.config "logs.statusPollIntervalMs must be > 0")

/-- The keys of the five values. -/
def keys : List String :=
  ["windowMs", "reconnectDelayMs", "openRetryDelayMs", "channelCapacityPerSource",
    "statusPollIntervalMs"]

def amount : Json.Reader UInt64 := UInt64.ofNat <$> Json.Scalar.unsigned64

def count : Json.Reader UInt64 := UInt64.ofNat <$> Json.Scalar.size

/-- A field that may be missing anywhere. -/
def field (name : String) (read : ρ → Json.Reader ρ) : Json.Field ρ := ⟨name, false, false, read⟩

def record : Json.Record Tuning where
  name := "struct LogsConfig"
  blank := standard
  fields := [
    field "windowMs" fun t => do pure { t with window := ← amount },
    field "reconnectDelayMs" fun t => do pure { t with reconnectDelay := ← amount },
    field "openRetryDelayMs" fun t => do pure { t with retryDelay := ← amount },
    field "channelCapacityPerSource" fun t => do pure { t with linesPerSource := ← count },
    field "statusPollIntervalMs" fun t => do pure { t with pollInterval := ← amount }]

def Overlay.record : Json.Record Overlay where
  name := "struct LogsOverrides"
  blank := .none
  fields := [
    field "windowMs" fun o => do pure { o with window := ← Json.Scalar.optional amount },
    field "reconnectDelayMs" fun o => do
      pure { o with reconnectDelay := ← Json.Scalar.optional amount },
    field "openRetryDelayMs" fun o => do
      pure { o with retryDelay := ← Json.Scalar.optional amount },
    field "channelCapacityPerSource" fun o => do
      pure { o with linesPerSource := ← Json.Scalar.optional count },
    field "statusPollIntervalMs" fun o => do
      pure { o with pollInterval := ← Json.Scalar.optional amount }]

def read (text : String) : Except Failure Tuning :=
  (Json.read record.reader text).mapError fun e => .json e.message

def Overlay.read (text : String) : Except Failure Overlay :=
  (Json.read record.reader text).mapError fun e => .json e.message

def values (t : Tuning) : List UInt64 :=
  [t.window, t.reconnectDelay, t.retryDelay, t.linesPerSource, t.pollInterval]

def document (t : Tuning) : Json.Value :=
  .object (keys.zip (t.values.map fun n => Json.Value.whole n.toNat))

end Tuning

end LogWeave

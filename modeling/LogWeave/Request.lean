import LogWeave.Settings.Tuning

/-! A request for the logs of some services, and how they are to be streamed. -/
namespace LogWeave

/-- How logs are streamed. All times are in milliseconds. -/
structure Streaming where
  /-- Asked to go on when a stream ends. -/
  follow : Bool
  /-- The logs of the instances before the present ones. -/
  previous : Bool
  window : Nat
  reconnectDelay : Nat
  retryDelay : Nat
  linesPerSource : Nat
  deriving DecidableEq, Repr

namespace Streaming

/-- A source has room for one line at least. -/
def ofTuning (t : Tuning) (follow previous : Bool) : Streaming where
  follow
  previous
  window := t.window.toNat
  reconnectDelay := t.reconnectDelay.toNat
  retryDelay := t.retryDelay.toNat
  linesPerSource := max 1 t.linesPerSource.toNat

/-- The log of an instance that is over is complete: it is never followed. -/
def follows (s : Streaming) : Bool := s.follow && !s.previous

def following (s : Streaming) (follow : Bool) : Streaming := { s with follow }

theorem linesPerSource_ofTuning (t : Tuning) (follow previous : Bool) :
    1 ≤ (ofTuning t follow previous).linesPerSource :=
  Nat.le_max_left _ _

end Streaming

/-- Each name once, where it is met first. -/
def distinct : List String → List String
  | [] => []
  | name :: rest => name :: (distinct rest).filter (· != name)

theorem mem_distinct {name : String} {names : List String} :
    name ∈ distinct names ↔ name ∈ names := by
  induction names with
  | nil => simp [distinct]
  | cons first rest ih =>
    simp only [distinct, List.mem_cons, List.mem_filter, ih, bne_iff_ne]
    by_cases h : name = first <;> simp [h]

theorem nodup_distinct (names : List String) : (distinct names).Nodup := by
  induction names with
  | nil => simp [distinct]
  | cons first rest ih =>
    refine List.nodup_cons.2 ⟨?_, ih.sublist List.filter_sublist⟩
    simp

theorem distinct_eq_nil {names : List String} : distinct names = [] ↔ names = [] := by
  cases names with
  | nil => simp [distinct]
  | cons first rest => simp [distinct]

/-- A request names one service at least, and none twice. -/
structure Request where
  services : List String
  streaming : Streaming
  nonempty : services ≠ []
  nodup : services.Nodup

namespace Request

def new (services : List String) (streaming : Streaming) : Except Failure Request :=
  if h : distinct services = [] then
    .error (.invalidInput "at least one service is required")
  else .ok ⟨distinct services, streaming, h, nodup_distinct services⟩

theorem new_eq_ok {names : List String} {s : Streaming} {r : Request} :
    new names s = .ok r ↔ r.services = distinct names ∧ r.streaming = s := by
  obtain ⟨services, streaming, hne, hnodup⟩ := r
  unfold new
  split
  · rename_i hnil
    simp only [reduceCtorEq, false_iff, not_and]
    rintro rfl
    exact absurd hnil hne
  · simp only [Except.ok.injEq, Request.mk.injEq]
    exact ⟨fun ⟨h, h'⟩ => ⟨h.symm, h'.symm⟩, fun ⟨h, h'⟩ => ⟨h.symm, h'.symm⟩⟩

/-- A request without names is refused, and no other. -/
theorem new_eq_error {names : List String} {s : Streaming} {why : Failure} :
    new names s = .error why ↔
      names = [] ∧ why = .invalidInput "at least one service is required" := by
  unfold new
  split
  · rename_i hnil
    simp [distinct_eq_nil.1 hnil, eq_comm]
  · rename_i hne
    simp [mt distinct_eq_nil.2 hne]

/-- Whoever names a service has a request. -/
theorem exists_new {names : List String} (h : names ≠ []) (s : Streaming) :
    ∃ r, new names s = .ok r ∧ r.services = distinct names ∧ r.streaming = s :=
  ⟨⟨distinct names, s, mt distinct_eq_nil.1 h, nodup_distinct names⟩,
    new_eq_ok.2 ⟨rfl, rfl⟩, rfl, rfl⟩

/-- Printed lines name their source if there are several. -/
def isShared (r : Request) : Bool := 1 < r.services.length

/-- Lines that may be on their way at a time, if there is a channel for so many. -/
def capacity (r : Request) : Nat := r.services.length * r.streaming.linesPerSource

end Request

end LogWeave

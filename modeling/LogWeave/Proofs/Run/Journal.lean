import LogWeave.Run.Floor
import Mathlib.Data.List.Basic

/-! What the journal of a run tells of its sources.

All that is told of a source is what it did itself (`eventsOf`): the lines it has put into the
channel (`sentBy`), how often its log has been opened (`opensOf`). The lines of all sources together
are those of each of them (`sentAll_perm`). -/
namespace LogWeave.Run

/-- The lines that a stream brings before it fails or falls silent. -/
def linesOf : List StreamItem → List String
  | [] | .fail _ :: _ | .hang :: _ => []
  | .line text :: rest => text :: linesOf rest
  | .pause _ :: rest => linesOf rest

theorem linesOf_lines (lines : List String) : linesOf (lines.map .line) = lines := by
  induction lines with
  | nil => rfl
  | cons line rest ih => rw [List.map_cons, linesOf, ih]

/-- The lines that come of opening a log. -/
def linesIn : Except Failure (List StreamItem) → List String
  | .ok items => linesOf items
  | .error _ => []

/-- What has happened to a source, in order. -/
def eventsOf (service : String) (journal : List Happening) : List Event :=
  (journal.filter fun h => h.source = service).map Happening.event

/-- What has happened to a source and when, in order. -/
def happeningsOf (service : String) (journal : List Happening) : List Happening :=
  journal.filter fun h => h.source = service

theorem map_event_happeningsOf (service : String) (journal : List Happening) :
    (happeningsOf service journal).map Happening.event = eventsOf service journal := rfl

def Event.sent? : Event → Option Arrival
  | .sent a => some a
  | _ => none

/-- The lines of a source that have been put into the channel, in order. -/
def sentBy (service : String) (journal : List Happening) : List Arrival :=
  (eventsOf service journal).filterMap Event.sent?

def Event.isOpening : Event → Bool
  | .opened _ => true
  | _ => false

/-- How often the log of a source has been opened. -/
def opensOf (service : String) (journal : List Happening) : Nat :=
  (eventsOf service journal).countP Event.isOpening

section Journal

variable (service : String) (journal later : List Happening)

@[simp] theorem happeningsOf_append : happeningsOf service (journal ++ later) =
    happeningsOf service journal ++ happeningsOf service later := List.filter_append ..

@[simp] theorem eventsOf_append :
    eventsOf service (journal ++ later) = eventsOf service journal ++ eventsOf service later := by
  simp [eventsOf]

theorem eventsOf_self (time : Nat) (event : Event) :
    eventsOf service [⟨time, service, event⟩] = [event] := by
  simp [eventsOf]

theorem eventsOf_other {h : Happening} (hs : h.source ≠ service) : eventsOf service [h] = [] := by
  simp [eventsOf, hs]

@[simp] theorem sentBy_append :
    sentBy service (journal ++ later) = sentBy service journal ++ sentBy service later := by
  simp [sentBy]

/-- What is written down of a source adds to its lines if it is a line. -/
theorem sentBy_note {σ : Type} (f : Floor σ) (event : Event) :
    sentBy service (f.note service event).journal =
      sentBy service f.journal ++ event.sent?.toList := by
  rw [Floor.note, sentBy_append]
  congr 1
  simp only [sentBy, eventsOf_self, List.filterMap_cons, List.filterMap_nil]
  cases event.sent? <;> rfl

/-- What is no line adds to none. -/
theorem sentBy_note_none {σ : Type} (f : Floor σ) {event : Event} (h : event.sent? = none) :
    sentBy service (f.note service event).journal = sentBy service f.journal := by
  rw [sentBy_note, h, Option.toList_none, List.append_nil]

/-- What is written down of a source is the last thing that has happened to it. -/
theorem eventsOf_note {σ : Type} (f : Floor σ) (event : Event) :
    eventsOf service (f.note service event).journal = eventsOf service f.journal ++ [event] := by
  rw [Floor.note, eventsOf_append, eventsOf_self]

theorem opensOf_note {σ : Type} (f : Floor σ) (event : Event) :
    opensOf service (f.note service event).journal =
      opensOf service f.journal + if event.isOpening then 1 else 0 := by
  rw [opensOf, eventsOf_note, List.countP_append, List.countP_singleton, ← opensOf]

theorem happeningsOf_note {σ : Type} (f : Floor σ) (event : Event) :
    happeningsOf service (f.note service event).journal =
      happeningsOf service f.journal ++ [⟨f.now, service, event⟩] := by
  simp [Floor.note, happeningsOf]

end Journal

/-- The lines of all sources that have been put into the channel, in order. -/
def sentAll (journal : List Happening) : List Arrival := journal.filterMap fun h => h.event.sent?

@[simp] theorem sentAll_append (journal later : List Happening) :
    sentAll (journal ++ later) = sentAll journal ++ sentAll later :=
  List.filterMap_append

theorem mem_sentAll {a : Arrival} {journal : List Happening} :
    a ∈ sentAll journal ↔ ∃ h ∈ journal, h.event.sent? = some a :=
  List.mem_filterMap

theorem sentBy_eq (service : String) (journal : List Happening) :
    sentBy service journal = sentAll (journal.filter fun h => h.source = service) := by
  rw [sentBy, eventsOf, List.filterMap_map]
  rfl

/-- Of one source there is nothing but its own lines. -/
theorem sentBy_of_source {service : String} {journal : List Happening}
    (h : ∀ e ∈ journal, e.source = service) : sentBy service journal = sentAll journal := by
  rw [sentBy_eq, List.filter_eq_self.2 (by simpa using h)]

theorem sentBy_subset {service : String} {journal : List Happening} :
    sentBy service journal ⊆ sentAll journal := by
  rw [sentBy_eq]
  exact List.filterMap_subset _ (List.filter_subset_self _)

/-- The lines of a source are those that name it, if all lines name the source they are of. -/
theorem sentBy_eq_filter {journal : List Happening}
    (h : ∀ e ∈ journal, ∀ a, e.event.sent? = some a → a.source = e.source) (service : String) :
    sentBy service journal = (sentAll journal).filter fun a => a.source = service := by
  rw [sentBy_eq, sentAll, sentAll, List.filter_filterMap, List.filterMap_filter]
  refine List.filterMap_congr fun e he => ?_
  cases hsent : e.event.sent? with
  | none => simp
  | some a => simp [h e he a hsent, Option.filter]

/-- What is sorted by key is what it was, for the keys at hand. -/
theorem flatMap_filter_perm {α : Type} (key : α → String) {keys : List String} (h : keys.Nodup)
    (l : List α) :
    (keys.flatMap fun k => l.filter fun x => key x = k).Perm
      (l.filter fun x => decide (key x ∈ keys)) := by
  induction keys generalizing l with
  | nil => simp
  | cons k rest ih =>
    obtain ⟨hk, hrest⟩ := List.nodup_cons.1 h
    rw [List.flatMap_cons]
    have hparts := List.filter_append_perm (fun x => decide (key x = k))
      (l.filter fun x => decide (key x ∈ k :: rest))
    refine List.Perm.trans (List.Perm.append ?_ ((ih hrest l).trans ?_)) hparts
    · rw [List.filter_filter]
      refine .of_eq (List.filter_congr fun x _ => ?_)
      by_cases hx : key x = k <;> simp [hx]
    · rw [List.filter_filter]
      refine .of_eq (List.filter_congr fun x _ => ?_)
      by_cases hx : key x = k
      · simp [hx, hk]
      · simp [hx]

/-- The lines of all sources are those of one after the other. -/
theorem sentAll_perm {services : List String} (hn : services.Nodup) {journal : List Happening}
    (hs : ∀ h ∈ journal, h.event.sent?.isSome = true → h.source ∈ services) :
    (services.flatMap fun service => sentBy service journal).Perm (sentAll journal) := by
  have hperm := (flatMap_filter_perm Happening.source hn journal).filterMap
    fun h => h.event.sent?
  rw [List.filterMap_flatMap] at hperm
  have hall : (journal.filter fun h => decide (h.source ∈ services)).filterMap
      (fun h => h.event.sent?) = sentAll journal := by
    rw [List.filterMap_filter, sentAll]
    refine List.filterMap_congr fun h hmem => ?_
    cases hsent : h.event.sent? with
    | none => simp
    | some a => simp [hs h hmem (by simp [hsent])]
  rw [hall] at hperm
  simpa only [sentBy_eq, sentAll] using hperm

/-- What the world does leaves the channel, the headcount and the clock as they are. -/
theorem Floor.apply_eq {σ : Type} (f : Floor σ) (act : Act) :
    (f.apply act).channel = f.channel ∧ (f.apply act).headcount = f.headcount ∧
      (f.apply act).now = f.now ∧ (f.apply act).stopped = f.stopped ∧
      (f.apply act).receipts = f.receipts := by
  cases act <;> exact ⟨rfl, rfl, rfl, rfl, rfl⟩

/-- All that the world writes down is what it posts. -/
theorem Floor.journal_apply {σ : Type} (f : Floor σ) (act : Act) :
    ∃ posts, (f.apply act).journal = f.journal ++ posts ∧
      ∀ h ∈ posts, ∃ status, h.event = .posted status := by
  cases act with
  | post source status => exact ⟨_, rfl, by simp⟩
  | cancel | nothing => exact ⟨[], (List.append_nil _).symm, by simp⟩

/-- What the world does puts no line into the channel. -/
theorem Floor.sentAll_apply {σ : Type} (f : Floor σ) (act : Act) :
    sentAll (f.apply act).journal = sentAll f.journal := by
  obtain ⟨posts, hj, hposts⟩ := f.journal_apply act
  have hnone : sentAll posts = [] := by
    refine List.filterMap_eq_nil_iff.2 fun e he => ?_
    obtain ⟨status, hs⟩ := hposts e he
    rw [hs]
    rfl
  rw [hj, sentAll_append, hnone, List.append_nil]

/-- What the world writes down of a source is what it posts. -/
theorem Floor.happeningsOf_apply {σ : Type} (service : String) (f : Floor σ) (act : Act) :
    ∃ posts, happeningsOf service (f.apply act).journal = happeningsOf service f.journal ++ posts ∧
      ∀ x ∈ posts, ∃ status, x.event = .posted status := by
  obtain ⟨posts, hj, hposts⟩ := f.journal_apply act
  exact ⟨happeningsOf service posts, by rw [hj, happeningsOf_append],
    fun x hx => hposts x (List.mem_filter.1 hx).1⟩

theorem Floor.eventsOf_apply {σ : Type} (service : String) (f : Floor σ) (act : Act) :
    ∃ posted : List ServiceStatus, eventsOf service (f.apply act).journal =
      eventsOf service f.journal ++ posted.map .posted := by
  cases act with
  | post source status =>
    by_cases hs : source = service
    · subst hs
      exact ⟨[status], eventsOf_note source _ _⟩
    · refine ⟨[], ?_⟩
      rw [Floor.apply, Floor.note, eventsOf_append]
      congr 1
      exact LogWeave.Run.eventsOf_other service hs
  | cancel | nothing => exact ⟨[], (List.append_nil _).symm⟩

/-- What is posted is no opening. -/
theorem Floor.opensOf_apply {σ : Type} (service : String) (f : Floor σ) (act : Act) :
    opensOf service (f.apply act).journal = opensOf service f.journal := by
  obtain ⟨posted, hp⟩ := f.eventsOf_apply service act
  rw [opensOf, hp, List.countP_append, ← opensOf]
  simp [List.countP_eq_zero, Event.isOpening]

/-- What is posted is no line sent. -/
theorem sentBy_posted {service : String} {journal journal' : List Happening}
    {posted : List ServiceStatus}
    (h : eventsOf service journal' = eventsOf service journal ++ posted.map .posted) :
    sentBy service journal' = sentBy service journal := by
  rw [sentBy, h, List.filterMap_append, List.filterMap_map]
  simp [sentBy, Function.comp_def, Event.sent?]

theorem Floor.sentBy_apply {σ : Type} (service : String) (f : Floor σ) (act : Act) :
    sentBy service (f.apply act).journal = sentBy service f.journal :=
  have ⟨_, hp⟩ := f.eventsOf_apply service act
  sentBy_posted hp

end LogWeave.Run

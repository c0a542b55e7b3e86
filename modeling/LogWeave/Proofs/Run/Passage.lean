import LogWeave.Proofs.Run.Errand

/-! A reader that passes one clean stream on.

A stream is calm if it brings its lines and ends by itself. Of such a stream a reader that does not
follow sends its script: each line, and then that the stream is over. On its errand over a calm
stream a reader has opened its log once, and what it has sent and what is left to send make up the
script (`Errand.passage`). -/
namespace LogWeave.Run

/-- Neither breaks off nor falls silent. -/
def StreamItem.isCalm : StreamItem → Bool
  | .line _ | .pause _ => true
  | .fail _ | .hang => false

/-- All that a reader sends of a stream that ends by itself, times of receipt aside. -/
def script (service : String) (items : List StreamItem) : List Arrival :=
  (linesOf items).map (.line service · .epoch) ++ [.ending service .finished none .epoch]

/-- The calm streams are those that end by themselves. -/
theorem endOf_eq_finished {items : List StreamItem} :
    endOf items = some .finished ↔ ∀ item ∈ items, item.isCalm = true := by
  induction items with
  | nil => simp [endOf]
  | cons item rest ih => cases item <;> simp [endOf, StreamItem.isCalm, ih]

/-- The script is the tale of a calm stream. -/
theorem tale_of_finished (service : String) {items : List StreamItem}
    (h : endOf items = some .finished) : tale service (.ok items) = script service items := by
  simp only [tale, endIn, h]
  rfl

/-- Of a script the lines are printed, and that the stream is over is not. -/
theorem printed_script (shared : Bool) (service : String) (items : List StreamItem) :
    ((script service items).filter fun a => !a.isSilent).map (Arrival.printed shared) =
      (linesOf items).map (printedLine shared service) := by
  have hend : ([Arrival.ending service .finished none .epoch].filter fun a => !a.isSilent) = [] :=
    rfl
  rw [script, List.filter_append, hend, List.append_nil]
  exact printed_linesFrom shared service (.ok items)

/-- A script tells of no fault. -/
theorem fault?_script {service : String} {items : List StreamItem} {a : Arrival}
    (ha : a ∈ script service items) : a.fault? = none := by
  rcases List.mem_append.1 ha with ha | ha
  · have hline : a ∈ linesFrom service (.ok items) := ha
    exact fault?_linesFrom hline
  · rw [List.mem_singleton.1 ha]
    rfl

namespace Tail

variable {items : List StreamItem} {t : Tail} {journal : List Happening}

/-- What a reader has still to send. -/
def remaining (items : List StreamItem) (t : Tail) : List Arrival :=
  match t.stage with
  | .starting | .opening _ _ => script t.service items
  | .reading rest _ => script t.service rest
  | .sending a (.read rest) => a.untimed :: script t.service rest
  | .sending a _ => [a.untimed]
  | _ => []

/-- How far a reader has come with its only stream. -/
def Position (journal : List Happening) (t : Tail) : Prop :=
  match t.stage with
  | .starting => t.attempts = 0 ∧ opensOf t.service journal = 0
  | .opening _ _ => opensOf t.service journal = 1
  | .reading rest _ | .sending _ (.read rest) =>
    opensOf t.service journal = 1 ∧ ∀ item ∈ rest, item.isCalm = true
  | .sending _ .finish | .leaving false | .done =>
    opensOf t.service journal = 1 ∧ Event.ended .finished ∈ eventsOf t.service journal
  | _ => False

/-- The state of a reader that does not follow and whose stream is calm. -/
structure Passage (items : List StreamItem) (journal : List Happening) (t : Tail) : Prop where
  follow : t.follow = false
  /-- No line has been seen before. -/
  since : t.since = none
  position : t.Position journal
  sends : (sentBy t.service journal).map Arrival.untimed ++ t.remaining items =
    script t.service items

/-- Whatever comes of opening the log is this stream. -/
def Opens (items : List StreamItem) (t : Tail) : Prop :=
  ∀ readyAt outcome, t.stage = .opening readyAt outcome → outcome = .ok items

namespace Errand

variable (h : t.Errand (.ok items) (eventsOf t.service journal))
  (hcalm : ∀ item ∈ items, item.isCalm = true)

include h hcalm

theorem position : t.Position journal := by
  have hp := h.reached
  have hopens : opensOf t.service journal = t.tries := h.opens
  have hend : endIn (.ok items) = some .finished := endOf_eq_finished.2 hcalm
  unfold Position
  split <;> rename_i hs <;> simp only [Reached, tries, hs, hend] at hp hopens
  · exact ⟨hp, hopens⟩
  · exact hopens
  · exact ⟨hopens, endOf_eq_finished.1 hp⟩
  · exact ⟨hopens, endOf_eq_finished.1 hp⟩
  all_goals
    obtain ⟨how, hhow, hended⟩ := hp
    exact ⟨hopens, hended (Option.some.inj hhow).symm⟩

/-- What is left of the tale is what is left of the script. -/
theorem untold_eq : t.untold (.ok items) = t.remaining items := by
  have hp := h.reached
  have hend : endOf items = some .finished := endOf_eq_finished.2 hcalm
  unfold untold remaining
  split <;> rename_i hs <;> simp only [Reached, hs, endIn, hend] at hp ⊢
  · exact tale_of_finished _ hend
  · exact tale_of_finished _ hend
  · exact tale_of_finished _ hp
  · rw [tale_of_finished _ hp]

/-- **On an errand over a calm stream a reader passes the stream on.** -/
theorem passage (hf : t.follow = false) : t.Passage items journal where
  follow := hf
  since := h.since
  position := h.position hcalm
  sends := by
    rw [← h.untold_eq hcalm, ← tale_of_finished _ (endOf_eq_finished.2 hcalm)]
    exact h.told

end Errand

end Tail

end LogWeave.Run

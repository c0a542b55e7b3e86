import LogWeave.Proofs.Output.Rows
import LogWeave.Proofs.Run.Labour

/-! A reader that does not follow, whatever comes of opening its log.

The log may not open, and a stream may end, break off or fall silent. In each case it is known
beforehand what the reader sends: the lines that come, and then how it ended, if it does
(`tale`). What a reader has sent and what it has still to send make up that tale at every moment, as
long as nobody tells it to give up (`Tail.Errand`). -/
namespace LogWeave.Run

/-- How a stream ends, unless it falls silent. -/
def endOf : List StreamItem → Option StreamEnd
  | [] => some .finished
  | .line _ :: rest | .pause _ :: rest => endOf rest
  | .fail why :: _ => some (.broken why.message)
  | .hang :: _ => none

/-- How it ends with what comes of opening a log. -/
def endIn : Except Failure (List StreamItem) → Option StreamEnd
  | .ok items => endOf items
  | .error why => some (.broken (refusalText why))

/-- The lines of a source, times of receipt aside. -/
def linesFrom (service : String) (came : Except Failure (List StreamItem)) : List Arrival :=
  (linesIn came).map (.line service · .epoch)

/-- All that a reader sends of what comes of opening its log, times of receipt aside. -/
def tale (service : String) (came : Except Failure (List StreamItem)) : List Arrival :=
  linesFrom service came ++ (endIn came).toList.map (.ending service · none .epoch)

section Tale

variable {service : String} {came : Except Failure (List StreamItem)} {a : Arrival}

theorem fault?_linesFrom (h : a ∈ linesFrom service came) : a.fault? = none := by
  obtain ⟨text, -, rfl⟩ := List.mem_map.1 h
  rfl

/-- The lines of a source are printed as they are. -/
theorem printed_linesFrom (shared : Bool) (service : String)
    (came : Except Failure (List StreamItem)) :
    ((linesFrom service came).filter fun a => !a.isSilent).map (Arrival.printed shared) =
      (linesIn came).map (printedLine shared service) := by
  have hlines : ∀ a ∈ linesFrom service came, (!a.isSilent) = true := by
    intro a ha
    obtain ⟨text, -, rfl⟩ := List.mem_map.1 ha
    rfl
  rw [List.filter_eq_self.2 hlines, linesFrom, List.map_map]
  exact List.map_congr_left fun text _ => Arrival.printed_line shared service text .epoch

theorem source_tale (h : a ∈ tale service came) : a.source = service := by
  rcases List.mem_append.1 h with h | h
  · obtain ⟨text, -, rfl⟩ := List.mem_map.1 h
    rfl
  · obtain ⟨how, -, rfl⟩ := List.mem_map.1 h
    rfl

/-- A fault in a tale is how it ends. -/
theorem endIn_of_fault {text : String} (h : a ∈ tale service came) (hf : a.fault? = some text) :
    endIn came = some (.broken text) := by
  rcases List.mem_append.1 h with h | h
  · rw [fault?_linesFrom h] at hf
    cases hf
  · obtain ⟨how, hhow, rfl⟩ := List.mem_map.1 h
    rw [Option.mem_toList] at hhow
    cases how with
    | finished => cases hf
    | broken text' =>
      cases hf
      exact hhow

/-- A tale that ends in a failure tells of it. -/
theorem mem_tale_of_broken (service : String) {text : String}
    (h : endIn came = some (.broken text)) :
    Arrival.ending service (.broken text) none .epoch ∈ tale service came := by
  simp [tale, h]

end Tale

namespace Tail

variable {σ : Type} {w : World σ} {f : Floor σ} {came : Except Failure (List StreamItem)} {t : Tail}
  {r : Floor σ × Tail} {events : List Event}

theorem knows_of_since {line : String} (h : t.since = none) : t.knows line = false := by
  unfold knows
  rw [h]
  cases Stamp.of? line <;> rfl

/-- The reader is told to give up: the run is halted, or nobody takes its line any more. -/
def GivesUp (f : Floor σ) (t : Tail) : Prop :=
  t.isBusy = true ∧
    (f.isHalted = true ∨ f.channel.isClosed = true ∧ ∃ a next, t.stage = .sending a next)

theorem not_givesUp (hh : f.isHalted = false) (hc : f.channel.isClosed = false) :
    ¬ t.GivesUp f := by
  rintro ⟨-, hg | ⟨hg, -⟩⟩
  · simp [hh] at hg
  · simp [hc] at hg

/-- Then that is what it does. -/
theorem GivesUp.turn_eq (h : t.GivesUp f) (hx : Turn w f t r) : r = t.giveUp f :=
  Option.some.inj ((step_of_turn hx).symm.trans (step_of_turn (.giveUp h.1 h.2)))

/-- What a reader has still to send. -/
def untold (came : Except Failure (List StreamItem)) (t : Tail) : List Arrival :=
  match t.stage with
  | .starting | .opening _ _ => tale t.service came
  | .reading rest _ => tale t.service (.ok rest)
  | .sending a (.read rest) => a.untimed :: tale t.service (.ok rest)
  | .sending a _ => [a.untimed]
  | _ => []

/-- How often it has opened its log. -/
def tries (t : Tail) : Nat :=
  match t.stage with
  | .starting => 0
  | _ => 1

/-- How far a reader has come, when this has happened to its source. -/
def Reached (came : Except Failure (List StreamItem)) (events : List Event) (t : Tail) : Prop :=
  match t.stage with
  | .starting => t.attempts = 0
  | .opening _ _ => True
  | .reading rest _ | .sending _ (.read rest) => endOf rest = endIn came
  | .sending _ .finish | .leaving false | .done =>
    ∃ how, endIn came = some how ∧ (how = .finished → Event.ended .finished ∈ events)
  | _ => False

/-- What has happened stays so. -/
theorem Reached.append (h : t.Reached came events) (later : List Event) :
    t.Reached came (events ++ later) := by
  have told {how : StreamEnd}
      (hend : endIn came = some how ∧ (how = .finished → Event.ended .finished ∈ events)) :
      ∃ how, endIn came = some how ∧ (how = .finished → Event.ended .finished ∈ events ++ later) :=
    ⟨how, hend.1, fun hhow => List.mem_append_left _ (hend.2 hhow)⟩
  unfold Reached at h ⊢
  split <;> rename_i hs <;> simp only [hs] at h
  all_goals first | exact h | exact h.elim fun _ hend => told hend

/-- The state of a reader that does not follow and has not been told to give up. -/
structure Errand (came : Except Failure (List StreamItem)) (events : List Event) (t : Tail) :
    Prop where
  /-- No line has been seen before. -/
  since : t.since = none
  reached : t.Reached came events
  opens : events.countP Event.isOpening = t.tries
  told : (events.filterMap Event.sent?).map Arrival.untimed ++ t.untold came =
    tale t.service came

theorem errand_new (s : Streaming) (shared : Bool) (bulletin : Bulletin) (number : Nat)
    (service : String) : (new s shared bulletin number service).Errand came [] :=
  ⟨rfl, rfl, rfl, rfl⟩

namespace Errand

/-- What has been sent is the beginning of the tale. -/
theorem prefix_tale (h : t.Errand came events) :
    (events.filterMap Event.sent?).map Arrival.untimed <+: tale t.service came :=
  ⟨_, h.told⟩

/-- A reader whose errand ends by itself does not wait for a silent stream. -/
theorem isHung_eq (h : t.Errand came events) (hend : endIn came ≠ none) : t.isHung = false := by
  have hp := h.reached
  unfold isHung
  split
  · rename_i hs
    simp only [Reached, hs, endOf] at hp
    exact absurd hp.symm hend
  · rfl

/-- A reader that has returned has told the whole tale. -/
theorem of_isDone (h : t.Errand came events) (hd : t.isDone = true) :
    (events.filterMap Event.sent?).map Arrival.untimed = tale t.service came ∧
      ∃ how, endIn came = some how ∧ (how = .finished → Event.ended .finished ∈ events) := by
  have hp := h.reached
  have htold := h.told
  unfold isDone at hd
  split at hd
  · rename_i hs
    simp only [Reached, hs] at hp
    simp only [untold, hs, List.append_nil] at htold
    exact ⟨htold, hp⟩
  · cases hd

/-- A reader that is not active has returned. -/
theorem isDone_of_idle (h : t.Errand came events) (ha : t.isActive = false) : t.isDone = true := by
  have hp := h.reached
  unfold isActive at ha
  split at ha
  · rename_i hs
    simp [Reached, hs] at hp
  · rename_i hs
    simp [isDone, hs]
  · cases ha

/-- What is sent meanwhile is what need not be sent any more. -/
theorem append (h : t.Errand came events) {u : Tail} {later : List Event}
    (hservice : u.service = t.service) (hsince : u.since = none)
    (hreached : u.Reached came (events ++ later))
    (hopens : t.tries + later.countP Event.isOpening = u.tries)
    (htold : (later.filterMap Event.sent?).map Arrival.untimed ++ u.untold came =
      t.untold came) : u.Errand came (events ++ later) := by
  refine ⟨hsince, hreached, ?_, ?_⟩
  · rw [List.countP_append, h.opens, hopens]
  · rw [List.filterMap_append, List.map_append, List.append_assoc, htold, h.told, hservice]

/-- Posts tell of no line. -/
theorem posted (h : t.Errand came events) (posted : List ServiceStatus) :
    t.Errand came (events ++ posted.map .posted) := by
  refine h.append rfl h.since (h.reached.append _) ?_ ?_
  · simp [List.countP_eq_zero, Event.isOpening]
  · simp [List.filterMap_map, Function.comp_def, Event.sent?]

/-- **A turn passes on what is next of the tale**, unless the reader gives up. -/
theorem turn (h : t.Errand came (eventsOf t.service f.journal)) (hx : Turn w f t r)
    (hstay : ¬ t.GivesUp f) (hf : t.follow = false) (hm : t.Meets came) :
    r.2.Errand came (eventsOf t.service r.1.journal) := by
  have hsince := h.since
  have hp := h.reached
  have noted (f : Floor σ) (event : Event) := eventsOf_note t.service f event
  have unnoted : eventsOf t.service f.journal = eventsOf t.service f.journal ++ [] :=
    (List.append_nil _).symm
  cases hx with
  | start hs =>
    simp only [Reached, hs] at hp
    have hattempt : t.attempt.since = none := by simpa [attempt, hp] using hsince
    refine (noted _ _).symm ▸ h.append rfl hattempt trivial ?_ ?_ <;>
      simp only [tries, untold, hs] <;> rfl
  | connect hs =>
    obtain rfl := hm _ _ hs
    refine unnoted.symm ▸ h.append rfl hsince rfl ?_ ?_ <;>
      simp only [tries, untold, hs] <;> rfl
  | refuse hs =>
    obtain rfl := hm _ _ hs
    refine (noted _ _).symm ▸ h.append rfl hsince ⟨_, rfl, by simp⟩ ?_ ?_ <;>
      simp only [tries, untold, hs] <;> rfl
  | finish hs =>
    simp only [Reached, hs] at hp
    simp only [conclude, hf]
    refine (noted _ _).symm ▸ h.append rfl hsince ⟨_, hp.symm, by simp⟩ ?_ ?_ <;>
      simp only [tries, untold, hs] <;> rfl
  | fail hs =>
    simp only [Reached, hs] at hp
    simp only [conclude, hf]
    refine (noted _ _).symm ▸ h.append rfl hsince ⟨_, hp.symm, by simp⟩ ?_ ?_ <;>
      simp only [tries, untold, hs] <;> rfl
  | skip hs _ hk => simp [knows_of_since hsince] at hk
  | @take line rest _ hs =>
    simp only [Reached, hs] at hp
    have hservice : ((t.observe line).send w f (.line t.service line) (.read rest)).2.service =
        t.service := service_observe t line
    refine unnoted.symm ▸ h.append hservice ((since_observe t line).trans hsince) hp ?_ ?_ <;>
      simp only [tries, untold, hs]
    · rfl
    show Arrival.line t.service line .epoch :: tale (Tail.service _) (.ok rest) = _
    rw [hservice]
    rfl
  | hold hs =>
    simp only [Reached, hs] at hp
    refine unnoted.symm ▸ h.append rfl hsince hp ?_ ?_ <;>
      simp only [tries, untold, hs] <;> rfl
  | resume hs =>
    simp only [Reached, hs] at hp
    refine unnoted.symm ▸ h.append rfl hsince hp ?_ ?_ <;>
      simp only [tries, untold, hs] <;> rfl
  | @deliver a next channel hs =>
    cases next with
    | read rest =>
      simp only [Reached, hs] at hp
      refine (noted { f with channel } _).symm ▸ h.append rfl hsince hp ?_ ?_ <;>
        simp only [tries, untold, hs] <;> rfl
    | finish =>
      have hp := hp.append [.sent a]
      simp only [Reached, hs] at hp
      refine (noted { f with channel } _).symm ▸ h.append rfl hsince hp ?_ ?_ <;>
        simp only [tries, untold, hs] <;> rfl
    | reconnect | exit | restart => simp [Reached, hs] at hp
  | queue hs => exact h
  | giveUp hb hg => exact absurd ⟨hb, hg⟩ hstay
  | @leave exited hs =>
    cases exited with
    | true => simp [Reached, hs] at hp
    | false =>
      have hp := hp.append [.returned]
      simp only [Reached, hs] at hp
      let left : Floor σ := { f with headcount := f.headcount.leave, channel := f.channel.retire }
      refine (noted left _).symm ▸ h.append rfl hsince hp ?_ ?_ <;>
        simp only [tries, untold, hs] <;> rfl
  | exit hs | retry hs | retire hs | wake hs => simp [Reached, hs] at hp
  | postpone _ _ _ hfollow | rest _ hfollow => simp [hf] at hfollow

end Errand

end Tail

end LogWeave.Run

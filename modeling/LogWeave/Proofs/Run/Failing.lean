import LogWeave.Proofs.Run.Dispatch
import LogWeave.Proofs.Run.Halting
import LogWeave.Proofs.Run.Progress

/-! How a run that does not follow comes to tell of a failure.

As long as some source is yet to fail there is somebody that can move (`Errands.ready`); hence a
failure is always told, also when other streams fall silent (`reports`). -/
namespace LogWeave.Run.Weave

variable {σ : Type} {w : World σ} {r : Request} {plan : String → Except Failure (List StreamItem)}
  {v v' : Weave σ}

/-- How a run over these logs ends. -/
structure Reported (r : Request) (plan : String → Except Failure (List StreamItem)) (v : Weave σ)
    (outcome : Except Failure Unit) : Prop where
  /-- If sources fail, with the failure of one of them. -/
  failure : (∃ service ∈ r.services, ∃ text, endIn (plan service) = some (.broken text)) →
    ∃ failure service text, outcome = .error failure ∧ Failed r plan v failure service text
  /-- If none fails, well, and with all streams read to their ends. -/
  success : (∀ service ∈ r.services, ∀ text, endIn (plan service) ≠ some (.broken text)) →
    outcome = .ok () ∧
      ∀ service ∈ r.services, Event.ended .finished ∈ eventsOf service v.floor.journal
  /-- Nothing is written that has not been shown. -/
  pending : v.collator.sink.pending = ""

namespace Errands

theorem pending (h : Errands r plan v) : v.collator.sink.pending = "" := by
  obtain ⟨taken, -, haccount⟩ := h.wired.account
  obtain ⟨batches, hl⟩ := haccount.ledger
  exact hl.pending

theorem reported (h : Errands r plan v) {outcome : Except Failure Unit}
    (ho : v.collator.outcome = some outcome) : Reported r plan v outcome := by
  cases outcome with
  | ok =>
    refine ⟨fun ⟨service, hs, text, hbroken⟩ => ?_, fun _ => ⟨rfl, fun service hs => ?_⟩, h.pending⟩
    · rw [(h.succeeded ho hs).1] at hbroken
      cases hbroken
    · exact (h.succeeded ho hs).2
  | error failure =>
    obtain ⟨service, text, hfailed⟩ := h.failed ho
    exact ⟨fun _ => ⟨failure, service, text, rfl, hfailed⟩,
      fun hnone => absurd hfailed.broken (hnone service hfailed.mem text), h.pending⟩

/-! ### It does end when a source fails -/

/-- A failure that has been told and taken has ended the printing. -/
theorem isDone_eq (h : Errands r plan v) (hh : v.floor.isHalted = false)
    (hq : v.floor.channel.queue = []) {t : Tail} (ht : t ∈ v.tails) {text : String}
    (hbroken : endIn (plan t.service) = some (.broken text)) : t.isDone = false := by
  cases hd : t.isDone with
  | false => rfl
  | true =>
    have hmem := mem_tale_of_broken t.service hbroken
    rw [← ((h.errand hh t ht).of_isDone hd).1] at hmem
    obtain ⟨a, ha, huntimed⟩ := List.mem_map.1 hmem
    obtain ⟨taken, hall, haccount⟩ := h.wired.account
    obtain ⟨batches, hl⟩ := haccount.ledger
    rw [hq, List.append_nil] at hall
    have hnone : v.collator.outcome = none := by
      cases ho : v.collator.outcome with
      | none => rfl
      | some outcome =>
        rw [h.wired.halted (by rw [ho, Option.isSome_some])] at hh
        cases hh
    have hsound := hl.sound hnone a (hall ▸ sentBy_subset ha)
    rw [← Arrival.fault?_untimed, huntimed] at hsound
    cases hsound

/-- **Until a failure has been told somebody can move**, once enough time has passed. -/
theorem ready (w : World σ) (h : Errands r plan v) (hh : v.floor.isHalted = false)
    (hfail : ∃ service ∈ r.services, ∃ text, endIn (plan service) = some (.broken text)) :
    ∃ k time, ∀ u, Wired r ⟨none, none⟩ u → u.Meets plan → Still v u → time ≤ u.floor.now →
      Lowers w (fun service => itemsIn (plan service)) u k := by
  obtain ⟨service, hs, text, hbroken⟩ := hfail
  obtain ⟨t, ht, rfl⟩ := h.wired.woven.reader hs
  exact h.wired.ready w plan h.follows h.capacity hh fun hq =>
    ⟨t, ht, (h.errand hh t ht).isHung_eq (by simp [hbroken]), h.isDone_eq hh hq ht hbroken⟩

/-- If no stream falls silent somebody can move until the run is halted, and be it the watcher. -/
theorem ready_of_ends (w : World σ) (h : Errands r plan v) (hh : v.floor.isHalted = false)
    (hend : ∀ service ∈ r.services, endIn (plan service) ≠ none) :
    ∃ k time, ∀ u, Errands r plan u → u.Meets plan → Still v u → time ≤ u.floor.now →
      Lowers w (fun service => itemsIn (plan service)) u k := by
  by_cases hidle : v.floor.channel.queue = [] ∧ ∀ t ∈ v.tails, t.isDone = true
  · refine ⟨v.tails.length + 1, 0, fun u hu _ hstill _ => ?_⟩
    rw [← hstill.tails]
    refine hu.wired.lowers_watcher w hu.follows (hstill.halted.trans hh) ?_
    rw [hstill.tails]
    exact hidle.2
  · have hnext (hq : v.floor.channel.queue = []) :
        ∃ t ∈ v.tails, t.isHung = false ∧ t.isDone = false := by
      obtain ⟨t, ht, hdone⟩ : ∃ t ∈ v.tails, t.isDone = false := by
        simpa using fun hall => hidle ⟨hq, hall⟩
      have hservice := h.wired.woven.service_mem ht
      exact ⟨t, ht, (h.errand hh t ht).isHung_eq (hend t.service hservice), hdone⟩
    obtain ⟨k, time, hready⟩ := h.wired.ready w plan h.follows h.capacity hh hnext
    exact ⟨k, time, fun u hu hm hstill hnow => hready u hu.wired hm hstill hnow⟩

end Errands

variable {bulletin : Bulletin} {world : σ}

/-- A run that always has somebody who can move is halted some day. -/
theorem halts_of_ready (hf : r.streaming.follows = false)
    (hroom : 1 ≤ r.streaming.linesPerSource) (hw : w.NeverCancels)
    (c : (schedule w).Course (new r bulletin .endless false world))
    (hm : ∀ n, (c.state n).Meets plan)
    (hready : ∀ v, Errands r plan v → v.floor.isHalted = false →
      ∃ k time, ∀ u, Errands r plan u → u.Meets plan → Still v u → time ≤ u.floor.now →
        Lowers w (fun service => itemsIn (plan service)) u k) :
    ∃ n, (c.state n).floor.isHalted = true := by
  by_contra hnone
  have hrun (n : Nat) : (c.state n).floor.isHalted = false := by
    simpa using fun hh => hnone ⟨n, hh⟩
  refine hnone (c.reaches (clocked w)
    (fun v => Errands r plan v ∧ v.Meets plan ∧ v.floor.isHalted = false)
    (fun v => v.floor.isHalted = true) (effort fun service => itemsIn (plan service)) Still
    Still.refl (fun _ _ _ => Still.trans)
    (fun n => ⟨errands_course hf hroom hw c hm n, hm n, hrun n⟩) ?_ ?_)
  · intro v v' ⟨h, hmeets, hh⟩ hd
    exact (move_of_drift hd).lowers hw h.cancelled fun _ _ _ hi hx =>
      h.wired.turn_lowers h.follows hmeets hh hi hx
  · intro v ⟨h, _, hh⟩ _
    obtain ⟨k, time, hready⟩ := hready v h hh
    exact ⟨k, time, fun u ⟨hu, hum, _⟩ hstill hnow => hready u hu hum hstill hnow⟩

/-- A run none of whose streams falls silent is halted some day. -/
theorem halts_of_ends (hf : r.streaming.follows = false)
    (hroom : 1 ≤ r.streaming.linesPerSource) (hw : w.NeverCancels)
    (c : (schedule w).Course (new r bulletin .endless false world))
    (hm : ∀ n, (c.state n).Meets plan)
    (hend : ∀ service ∈ r.services, endIn (plan service) ≠ none) :
    ∃ n, (c.state n).floor.isHalted = true :=
  halts_of_ready hf hroom hw c hm fun _ h hh => h.ready_of_ends w hh hend

/-- A run one of whose sources fails is halted some day. -/
theorem halts_of_failure (hf : r.streaming.follows = false)
    (hroom : 1 ≤ r.streaming.linesPerSource) (hw : w.NeverCancels)
    (c : (schedule w).Course (new r bulletin .endless false world))
    (hm : ∀ n, (c.state n).Meets plan)
    (hfail : ∃ service ∈ r.services, ∃ text, endIn (plan service) = some (.broken text)) :
    ∃ n, (c.state n).floor.isHalted = true :=
  halts_of_ready hf hroom hw c hm fun _ h hh => by
    obtain ⟨k, time, hready⟩ := h.ready w hh hfail
    exact ⟨k, time, fun u hu => hready u hu.wired⟩

/-- **A failure is told, and it is that of a source that has failed.** Whoever asks for the logs of
some services without following them, whatever comes of opening them, with room for one line of each
at least and for no more than a channel has: the run begins, and if a log cannot be opened or its
stream breaks off, it is over some day, whatever becomes of the other streams. A run that is over
has ended with the failure of a source that failed, with all lines printed that this source had
brought; or, if none has failed, it has ended well, and not before every stream had. -/
theorem reports {services : List String} (hs : services ≠ []) {s : Streaming}
    (hf : s.follows = false) (hroom : 1 ≤ s.linesPerSource)
    (hmost : (distinct services).length * s.linesPerSource ≤ Channel.most) (hw : w.NeverCancels)
    (plan : String → Except Failure (List StreamItem)) (bulletin : Bulletin) (world : σ) :
    ∃ (r : Request) (start : Weave σ), Request.new services s = .ok r ∧
      r.services = distinct services ∧ start? r bulletin .endless false world = some start ∧
      ∀ c : (schedule w).Course start, (∀ n, (c.state n).Meets plan) →
        ((∃ service ∈ services, ∃ text, endIn (plan service) = some (.broken text)) →
          ∃ n, (c.state n).isDone = true) ∧
        ∀ n outcome, (c.state n).collator.outcome = some outcome →
          Reported r plan (c.state n) outcome := by
  obtain ⟨r, hr, hservices, rfl⟩ := Request.exists_new hs s
  rw [← hservices] at hmost
  refine ⟨r, _, hr, hservices, starts hroom hmost bulletin .endless false world,
    fun c hm => ⟨?_, ?_⟩⟩
  · rintro ⟨service, hmem, hbroken⟩
    have hmem : service ∈ r.services := hservices ▸ mem_distinct.2 hmem
    obtain ⟨n, hn⟩ := halts_of_failure hf hroom hw c hm ⟨service, hmem, hbroken⟩
    exact returns_of_course c hn
  · intro n outcome ho
    exact (errands_course hf hroom hw c hm n).reported ho

/-- A world whose logs open as planned, that does nothing else. -/
def planned (plan : String → Except Failure (List StreamItem)) : World Unit where
  openLog _ service _ := (⟨0, plan service⟩, ())
  act _ _ _ := none
  due _ := none
  clock _ := .epoch

/-- One stream breaks off while another has fallen silent, in the history in which the tasks go
round. -/
theorem reports_planned :
    let plan (service : String) : Except Failure (List StreamItem) :=
      if service = "web" then .ok [.line "ready", .hang]
      else .ok [.line "open", .pause 5, .fail (.transport "reset")]
    ∃ (r : Request) (start : Weave Unit) (n : Nat) (failure : Failure) (service text : String),
      Request.new ["web", "db"] ⟨false, false, 100, 500, 1000, 1⟩ = .ok r ∧
      start? r .new .endless false () = some start ∧
      let v := (Schedule.Course.round (clocked (planned plan)) start).state n
      v.isDone = true ∧ v.collator.outcome = some (.error failure) ∧
        Failed r plan v failure service text := by
  intro plan
  obtain ⟨r, start, hr, hservices, hstart, h⟩ := reports (w := planned plan)
    (s := ⟨false, false, 100, 500, 1000, 1⟩) (show ["web", "db"] ≠ [] by decide) rfl (by decide)
    (by decide) (fun _ _ _ _ hact => by cases hact) plan .new ()
  obtain rfl := (start?_eq_some.1 hstart).2
  let c := Schedule.Course.round (clocked (planned plan)) (new r .new .endless false ())
  obtain ⟨hreturns, hreported⟩ := h c fun n => meets_of_world plan (fun _ _ _ => rfl) (c.drifts n)
  have hbroken : endIn (plan "db") = some (.broken (Failure.transport "reset").message) := rfl
  obtain ⟨n, hn⟩ := hreturns ⟨"db", by simp, _, hbroken⟩
  obtain ⟨outcome, ho⟩ : ∃ outcome, (c.state n).collator.outcome = some outcome := by
    simp only [isDone, Bool.and_eq_true] at hn
    exact Option.isSome_iff_exists.1 hn.1
  have hdb : "db" ∈ r.services := by rw [hservices, mem_distinct]; simp
  obtain ⟨failure, service, text, rfl, hfailed⟩ :=
    (hreported n outcome ho).failure ⟨"db", hdb, _, hbroken⟩
  exact ⟨r, _, n, failure, service, text, hr, hstart, hn, ho, hfailed⟩

end LogWeave.Run.Weave

import LogWeave.Proofs.Run.Completion
import LogWeave.Proofs.Run.Progress

/-! How a run over calm streams comes to its end.

A calm stream never falls silent, so short of the end there is always a task that has something to
do once enough time has passed (`Underway.ready`). So the run is over some day, with every line
printed (`completes`). -/
namespace LogWeave.Run.Weave

variable {σ : Type} {w : World σ} {r : Request} {streams : String → List StreamItem}
  {v v' : Weave σ}

namespace Underway

theorem turn_lowers (h : Underway r streams v) (ho : v.Opens streams) {i : Nat} {t : Tail}
    {x : Floor σ × Tail} (hi : v.tails[i]? = some t) (hx : Tail.Turn w v.floor t x) :
    effort streams { v with floor := x.1, tails := v.tails.set i x.2 } < effort streams v := by
  have hmeets : v.Meets fun service => .ok (streams service) := ho
  exact h.wired.turn_lowers h.follows hmeets (h.running_of_turn hi hx) hi hx

/-- Over a calm stream a reader never waits in vain. -/
theorem isHung_eq (h : Underway r streams v) {t : Tail} (ht : t ∈ v.tails) : t.isHung = false := by
  have hp := (h.passage t ht).position
  unfold Tail.isHung
  split
  · rename_i hs
    simp [Tail.Position, hs, StreamItem.isCalm] at hp
  · rfl

/-- **Short of the end somebody can move**, once enough time has passed. -/
theorem ready (h : Underway r streams v) (hd : v.isDone = false) :
    ∃ k time, ∀ u, Underway r streams u → u.Opens streams → Still v u → time ≤ u.floor.now →
      Lowers w streams u k := by
  cases hh : v.floor.isHalted with
  | true =>
    -- All readers have returned: the collator is left.
    have hall : v.tails.all Tail.isDone = true := List.all_eq_true.2 (h.halted hh)
    have hnone : v.collator.outcome = none := by simpa [isDone, hall] using hd
    refine ⟨v.tails.length + 2, 0, fun u _ _ hu _ => ?_⟩
    rw [← hu.tails]
    exact lowers_collator w (by rwa [hu.collator]) (.inl (by rwa [hu.halted]))
  | false =>
    by_cases hidle : v.floor.channel.queue = [] ∧ ∀ t ∈ v.tails, t.isDone = true
    · -- Nobody is left: the watcher stops the run.
      refine ⟨v.tails.length + 1, 0, fun u hu _ hstill _ => ?_⟩
      rw [← hstill.tails]
      refine hu.wired.lowers_watcher w hu.follows (hstill.halted.trans hh) ?_
      rw [hstill.tails]
      exact hidle.2
    · have hnext (hq : v.floor.channel.queue = []) :
          ∃ t ∈ v.tails, t.isHung = false ∧ t.isDone = false := by
        obtain ⟨t, ht, hdone⟩ : ∃ t ∈ v.tails, t.isDone = false := by
          simpa using fun hall => hidle ⟨hq, hall⟩
        exact ⟨t, ht, h.isHung_eq ht, hdone⟩
      obtain ⟨k, time, hready⟩ := h.wired.ready w (fun service => .ok (streams service)) h.follows
        h.capacity hh hnext
      exact ⟨k, time, fun u hu ho hstill hnow => hready u hu.wired ho hstill hnow⟩

end Underway

/-! ### The end -/

variable {bulletin : Bulletin} {world : σ}

/-- All along its history a run over calm streams loses nothing. -/
theorem underway_course (hf : r.streaming.follows = false)
    (hroom : 1 ≤ r.streaming.linesPerSource) (hw : w.NeverCancels)
    (hcalm : ∀ service ∈ r.services, ∀ item ∈ streams service, item.isCalm = true)
    (c : (schedule w).Course (new r bulletin .endless false world))
    (ho : ∀ n, (c.state n).Opens streams) (n : Nat) : Underway r streams (c.state n) := by
  have hmeets (n : Nat) : (c.state n).Meets fun service => .ok (streams service) := ho n
  exact (errands_course hf hroom hw c hmeets n).underway hcalm

/-- **Every line is printed once, and the run returns.** Whoever asks for the logs of some services
without following them, over streams that bring their lines and end by themselves, with room for one
line of each at least and for no more than a channel has: the run begins, and however the tasks take
their turns, it is over some day. Then it has succeeded, each service's log has been opened once and
read to its end, and there is one row for each line of each stream in what has been shown. -/
theorem completes {services : List String} (hs : services ≠ []) {s : Streaming}
    (hf : s.follows = false) (hroom : 1 ≤ s.linesPerSource)
    (hmost : (distinct services).length * s.linesPerSource ≤ Channel.most) (hw : w.NeverCancels)
    (hcalm : ∀ service ∈ services, ∀ item ∈ streams service, item.isCalm = true)
    (bulletin : Bulletin) (world : σ) :
    ∃ (r : Request) (start : Weave σ), Request.new services s = .ok r ∧
      r.services = distinct services ∧ start? r bulletin .endless false world = some start ∧
      ∀ c : (schedule w).Course start, (∀ n, (c.state n).Opens streams) →
        (∃ n, (c.state n).isDone = true) ∧
          ∀ n, (c.state n).isDone = true → Completed r streams (c.state n) := by
  obtain ⟨r, hr, hservices, rfl⟩ := Request.exists_new hs s
  rw [← hservices] at hmost
  refine ⟨r, _, hr, hservices, starts hroom hmost bulletin .endless false world, fun c ho => ?_⟩
  have hunderway := underway_course hf hroom hw
    (fun service hservice => hcalm service (mem_distinct.1 (hservices ▸ hservice))) c ho
  refine ⟨?_, fun n hd => (hunderway n).completed hd⟩
  refine c.reaches (clocked w) (fun v => Underway r streams v ∧ v.Opens streams)
    (fun v => v.isDone = true) (effort streams) Still Still.refl (fun _ _ _ => Still.trans)
    (fun n => ⟨hunderway n, ho n⟩) ?_ ?_
  · intro v v' ⟨h, hopens⟩ hd
    exact (move_of_drift hd).lowers hw h.cancelled fun _ _ _ hi hx => h.turn_lowers hopens hi hx
  · intro v ⟨h, _⟩ hd
    obtain ⟨k, time, hready⟩ := h.ready (w := w) (by simpa using hd)
    exact ⟨k, time, fun u ⟨hu, huo⟩ hstill hnow => hready u hu huo hstill hnow⟩

/-- A world that has a stream for each service opens no other. -/
theorem opens_of_world
    (hw : ∀ state service query, (w.openLog state service query).1.outcome = .ok (streams service))
    {sink : Sink} {cancelled : Bool}
    (h : (schedule w).Drifts (new r bulletin sink cancelled world) v) : v.Opens streams :=
  meets_of_world (fun service => .ok (streams service)) hw h

/-- A world with these streams, that does nothing else. -/
def provider (streams : String → List StreamItem) : World Unit where
  openLog _ service _ := (.stream (streams service), ())
  act _ _ _ := none
  due _ := none
  clock _ := .epoch

/-- Two services, one of them named twice, in the history in which the tasks go round. -/
theorem completes_provider :
    let streams (service : String) : List StreamItem :=
      if service = "web" then [.line "ready", .pause 5, .line "late"] else [.line "open"]
    ∃ (r : Request) (start : Weave Unit) (n : Nat),
      Request.new ["web", "db", "web"] ⟨false, false, 100, 500, 1000, 1⟩ = .ok r ∧
      start? r .new .endless false () = some start ∧
      Completed r streams
        ((Schedule.Course.round (clocked (provider streams)) start).state n) := by
  intro streams
  have hcalm : ∀ service ∈ ["web", "db", "web"], ∀ item ∈ streams service,
      item.isCalm = true := by
    decide
  obtain ⟨r, start, hr, -, hstart, h⟩ := completes (w := provider streams)
    (s := ⟨false, false, 100, 500, 1000, 1⟩) (by decide) rfl (by decide) (by decide)
    (fun _ _ _ _ hact => by cases hact) hcalm .new ()
  obtain rfl := (start?_eq_some.1 hstart).2
  let c := Schedule.Course.round (clocked (provider streams)) (new r .new .endless false ())
  obtain ⟨⟨n, hn⟩, hcompleted⟩ := h c fun n => opens_of_world (fun _ _ _ => rfl) (c.drifts n)
  exact ⟨r, _, n, hr, hstart, hcompleted n hn⟩

end LogWeave.Run.Weave

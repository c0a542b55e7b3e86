import LogWeave.Proofs.Run.Dispatch
import LogWeave.Proofs.Run.Passage

/-! A run that does not follow, over calm streams.

Whatever the order of the turns, nobody is told to give up before each reader has returned
(`Underway.halted`): over calm streams no failure can end the printing (`Errands.underway`). So
every line gets from its stream into the channel and from there into the output, and when the run is
over nothing is left on the way (`Underway.completed`). -/
namespace LogWeave.Run.Weave

variable {σ : Type}

/-- Each stream that is opened is the one that its service has. -/
def Opens (streams : String → List StreamItem) (v : Weave σ) : Prop :=
  ∀ t ∈ v.tails, t.Opens (streams t.service)

/-- The state of a run whose services have these streams. -/
structure Underway (r : Request) (streams : String → List StreamItem) (v : Weave σ) : Prop where
  woven : Woven r v
  counted : Counted v
  cancelled : v.floor.cancelled = false
  follows : v.follows = false
  passage : ∀ t ∈ v.tails, t.Passage (streams t.service) v.floor.journal
  senders : v.floor.channel.senders = v.tails.countP fun t => !t.isDone
  capacity : 0 < v.floor.channel.capacity
  /-- Whoever stands in line has a line to send. -/
  line : ∀ n ∈ v.floor.channel.line, ∃ t a next, v.tails[n]? = some t ∧ t.stage = .sending a next
  halted : v.floor.isHalted = true → ∀ t ∈ v.tails, t.isDone = true
  ledger : ∃ taken batches, sentAll v.floor.journal = taken ++ v.floor.channel.queue ∧
    v.collator.Ledger r.isShared taken batches
  ended : v.collator.outcome.isSome = true →
    v.floor.isHalted = true ∧ v.floor.channel.queue = []
  sources : ∀ h ∈ v.floor.journal, h.source ∈ r.services ∨ ∃ status, h.event = .posted status

variable {w : World σ} {r : Request} {streams : String → List StreamItem} {v v' : Weave σ}

/-- Over calm streams no source fails. -/
theorem not_broken_of_calm (hcalm : ∀ service ∈ r.services, ∀ item ∈ streams service,
    item.isCalm = true) {service : String} (hs : service ∈ r.services) (text : String) :
    endIn (.ok (streams service)) ≠ some (.broken text) := by
  rw [show endIn (.ok (streams service)) = some .finished from endOf_eq_finished.2 (hcalm _ hs)]
  simp

/-- **On their errands over calm streams the readers pass every stream on**, and nobody is told to
give up before all have returned. -/
theorem Errands.underway (h : Errands r (fun service => .ok (streams service)) v)
    (hcalm : ∀ service ∈ r.services, ∀ item ∈ streams service, item.isCalm = true) :
    Underway r streams v := by
  have hwell {failure : Failure} (ho : v.collator.outcome = some (.error failure)) : False := by
    obtain ⟨service, text, hfailed⟩ := h.failed ho
    exact not_broken_of_calm hcalm hfailed.mem text hfailed.broken
  have hhalted (hh : v.floor.isHalted = true) :=
    (h.halted hh).resolve_right fun ⟨_, ho⟩ => hwell ho
  have herrand : OnErrands (fun service => .ok (streams service)) v.tails v.floor.journal := by
    cases hh : v.floor.isHalted with
    | false => exact h.errand hh
    | true => exact (hhalted hh).2
  obtain ⟨taken, hall, haccount⟩ := h.wired.account
  obtain ⟨batches, hledger⟩ := haccount.ledger
  exact {
    woven := h.wired.woven
    counted := h.wired.counted
    cancelled := h.cancelled
    follows := h.follows
    passage := fun t ht => (herrand t ht).passage (hcalm _ (h.wired.woven.service_mem ht))
      (h.wired.woven.follow_eq h.follows ht)
    senders := h.wired.senders
    capacity := h.capacity
    line := h.wired.line
    halted := fun hh => (hhalted hh).1
    ledger := ⟨taken, batches, hall, hledger⟩
    ended := fun hend => by
      refine ⟨h.wired.halted hend, ?_⟩
      match ho : v.collator.outcome with
      | some (.ok ()) => exact h.wired.emptied ho
      | some (.error failure) => exact (hwell ho).elim
      | none => simp [ho] at hend
    sources := h.wired.sources }

namespace Underway

theorem wired (h : Underway r streams v) : Wired r ⟨none, none⟩ v where
  woven := h.woven
  counted := h.counted
  senders := h.senders
  line := h.line
  sources := h.sources
  account :=
    have ⟨taken, batches, hall, hl⟩ := h.ledger
    ⟨taken, hall, .inl ⟨batches, hl.account⟩⟩
  halted hend := (h.ended hend).1
  emptied hok := (h.ended (by rw [hok, Option.isSome_some])).2

/-- Nobody is left to take a turn once the run is halted. -/
theorem running_of_turn (h : Underway r streams v) {i : Nat} {t : Tail} {x : Floor σ × Tail}
    (hi : v.tails[i]? = some t) (hx : Tail.Turn w v.floor t x) : v.floor.isHalted = false := by
  cases hh : v.floor.isHalted with
  | false => rfl
  | true =>
    have hdone := h.halted hh t (List.mem_of_getElem? hi)
    rw [hx.senders_eq.1] at hdone
    cases hdone

/-- Each line that has been sent is one of a script, and no script tells of a fault. -/
theorem sound (h : Underway r streams v) : ∀ a ∈ sentAll v.floor.journal, a.fault? = none := by
  intro a ha
  obtain ⟨e, he, hsent⟩ := mem_sentAll.1 ha
  obtain ⟨t, ht, -, hmem⟩ := h.wired.sender he hsent
  have hscript : a.untimed ∈ script t.service (streams t.service) := by
    rw [← (h.passage t ht).sends]
    exact List.mem_append_left _ (List.mem_map_of_mem hmem)
  rw [← Arrival.fault?_untimed]
  exact fault?_script hscript

end Underway

/-! ### When the run is over -/

/-- What a run over these streams has come to. -/
structure Completed (r : Request) (streams : String → List StreamItem) (v : Weave σ) : Prop where
  outcome : v.collator.outcome = some (.ok ())
  /-- A row for each line of each stream, and no other. -/
  rows : ∃ rows : List String,
    rows.Perm (r.services.flatMap fun service =>
      (linesOf (streams service)).map (printedLine r.isShared service)) ∧
    String.join (v.collator.sink.flushes.map Flush.text) = String.join (rows.map (· ++ "\n"))
  /-- Nothing is written that has not been shown. -/
  pending : v.collator.sink.pending = ""
  opens : ∀ service, opensOf service v.floor.journal = if service ∈ r.services then 1 else 0
  ended : ∀ service ∈ r.services, Event.ended .finished ∈ eventsOf service v.floor.journal
  cancelled : v.floor.cancelled = false

/-- Only the streams of the services asked for matter. -/
theorem Completed.congr {streams' : String → List StreamItem} (h : Completed r streams v)
    (hs : ∀ service ∈ r.services, streams service = streams' service) : Completed r streams' v where
  outcome := h.outcome
  rows := by
    have hsame : (r.services.flatMap fun service =>
        (linesOf (streams' service)).map (printedLine r.isShared service)) =
          r.services.flatMap fun service =>
            (linesOf (streams service)).map (printedLine r.isShared service) :=
      List.flatMap_congr fun service hservice => by rw [hs service hservice]
    rw [hsame]
    exact h.rows
  pending := h.pending
  opens := h.opens
  ended := h.ended
  cancelled := h.cancelled

namespace Underway

/-- A reader that has returned has sent its script. -/
theorem sentBy_of_isDone (h : Underway r streams v) {t : Tail} (ht : t ∈ v.tails)
    (hd : t.isDone = true) :
    (sentBy t.service v.floor.journal).map Arrival.untimed = script t.service (streams t.service) ∧
      opensOf t.service v.floor.journal = 1 ∧
      Event.ended .finished ∈ eventsOf t.service v.floor.journal := by
  have hpassage := h.passage t ht
  have hp := hpassage.position
  have hsends := hpassage.sends
  unfold Tail.isDone at hd
  split at hd
  · rename_i hs
    simp only [Tail.Position, hs] at hp
    simp only [Tail.remaining, hs, List.append_nil] at hsends
    exact ⟨hsends, hp⟩
  · cases hd

/-- **A run that is over has printed every line once.** -/
theorem completed (h : Underway r streams v) (hd : v.isDone = true) : Completed r streams v := by
  simp only [isDone, Bool.and_eq_true, List.all_eq_true] at hd
  obtain ⟨hend, hdone⟩ := hd
  obtain ⟨taken, batches, hall, hl⟩ := h.ledger
  rw [(h.ended hend).2, List.append_nil] at hall
  have hsound : ∀ a ∈ taken, a.fault? = none := fun a ha => h.sound a (hall ▸ ha)
  obtain ⟨outcome, houtcome⟩ := Option.isSome_iff_exists.1 hend
  obtain ⟨hbatch, hverdict⟩ := hl.ended outcome houtcome
  have hreader {service : String} (hs : service ∈ r.services) :
      (sentBy service v.floor.journal).map Arrival.untimed = script service (streams service) ∧
        opensOf service v.floor.journal = 1 ∧
        Event.ended .finished ∈ eventsOf service v.floor.journal := by
    obtain ⟨t, ht, rfl⟩ := h.woven.reader hs
    exact h.sentBy_of_isDone ht (hdone t ht)
  refine ⟨?_, ?_, hl.pending, ?_, fun service hs => (hreader hs).2.2, h.cancelled⟩
  · rw [houtcome, hverdict, verdict_sound hsound]
  · obtain ⟨rows, hrows, htext⟩ := hl.rows hsound hbatch
    refine ⟨rows, hrows.trans ?_, htext⟩
    have hsources : ∀ e ∈ v.floor.journal, e.event.sent?.isSome = true →
        e.source ∈ r.services := by
      intro e he hsent
      rcases h.sources e he with hs | ⟨status, hs⟩
      · exact hs
      · rw [hs] at hsent
        cases hsent
    have hperm := sentAll_perm r.nodup hsources
    rw [hall] at hperm
    refine (((hperm.filter _).map _).symm.trans (.of_eq ?_))
    rw [List.filter_flatMap, List.map_flatMap]
    refine List.flatMap_congr fun service hs => ?_
    rw [← Arrival.printed_map_untimed, (hreader hs).1, printed_script]
  · intro service
    by_cases hs : service ∈ r.services
    · rw [if_pos hs, (hreader hs).2.1]
    · rw [if_neg hs, opensOf, List.countP_eq_zero]
      intro event hevent
      obtain ⟨e, he, rfl⟩ := List.mem_map.1 hevent
      obtain ⟨he, hsource⟩ := List.mem_filter.1 he
      rcases h.sources e he with hmem | ⟨status, hposted⟩
      · rw [of_decide_eq_true hsource] at hmem
        exact absurd hmem hs
      · rw [hposted]
        exact Bool.false_ne_true

end Underway

end LogWeave.Run.Weave

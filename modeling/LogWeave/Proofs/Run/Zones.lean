import LogWeave.Proofs.Line.Zones
import LogWeave.Proofs.Output.Collating
import LogWeave.Proofs.Run.Law
import LogWeave.Proofs.Run.Sifting

/-! Lines of one moment in several zones.

In front of a line stands what the clocks of some zone show (`IsDated`). Whatever the zone, the line
has the time of the moment: in a batch, lines of one moment stay as they came (`sublist_collate`),
and a reader that has passed one of them on in an earlier attempt drops the others
(`Run.Tail.Zoneless`). -/
namespace LogWeave

open Time (Instant Zone)

/-- In front of the line stands what the clocks of some zone show at a moment. -/
def IsDated (line : String) (moment : Instant) : Prop :=
  ∃ (z : Zone) (message : String), z.Shows moment ∧ line = z.text moment ++ " " ++ message

namespace IsDated

variable {line : String} {moment : Instant}

theorem exists_message (h : IsDated line moment) :
    ∃ message, Stamp.readLine line = .ok (message, moment) := by
  obtain ⟨z, message, hz, rfl⟩ := h
  exact ⟨message, Stamp.readLine_eq_ok.2 ⟨_, rfl, Zone.blank_notMem_text, Zone.read_text hz⟩⟩

theorem of?_eq (h : IsDated line moment) : Stamp.of? line = some moment := by
  obtain ⟨message, hline⟩ := h.exists_message
  rw [Stamp.of?, hline]
  rfl

end IsDated

/-- A line is put in order by its moment, not by what the clocks of its zone show. -/
theorem Arrival.loggedAt_of_isDated {a : Arrival} {moment : Instant} (ha : a.notice = none)
    (h : IsDated a.text moment) : a.entry.loggedAt = moment := by
  obtain ⟨message, hline⟩ := h.exists_message
  simp only [Arrival.entry, ha, hline]

/-- **Lines of one moment stay as they came**, whatever else is in the batch. -/
theorem sublist_collate {batch lines : List Arrival} {moment : Instant}
    (hlines : ∀ a ∈ lines, a.notice = none ∧ IsDated a.text moment) (h : lines.Sublist batch) :
    (lines.map Arrival.entry).Sublist (collate batch) := by
  have htied : (lines.map Arrival.entry).Pairwise fun a b => a.before b = true := by
    refine List.pairwise_map.2 (List.pairwise_of_forall_mem_list fun a ha b hb => ?_)
    obtain ⟨hnotice, hdated⟩ := hlines a ha
    obtain ⟨hnotice', hdated'⟩ := hlines b hb
    rw [Entry.before, Arrival.loggedAt_of_isDated hnotice hdated,
      Arrival.loggedAt_of_isDated hnotice' hdated']
    exact decide_eq_true (Instant.le_refl moment)
  exact List.sublist_mergeSort Entry.before_trans Entry.before_total htied (h.map Arrival.entry)

namespace Run

variable {σ : Type} {w : World σ} {f : Floor σ} {t : Tail}

/-- Once an attempt has passed on a line of a moment, later ones pass on no other line of it. -/
structure Tail.Zoneless (w : World σ) (f : Floor σ) (t : Tail) : Prop where
  /-- When the reader comes to another one, it drops it. -/
  dropped : ∀ before query after moment line other rest resumeAt,
    Attempt (eventsOf t.service f.journal) before query after →
    IsDated line moment → IsDated other moment → line ∈ loggedIn before →
    t.stage = .reading (.line other :: rest) resumeAt → f.isHalted = false →
    t.step w f = some (f, { t with stage := .reading rest none })
  /-- None of them is passed on. -/
  once : ∀ before query after moment line other,
    eventsOf t.service f.journal = before ++ .opened query :: after →
    IsDated line moment → IsDated other moment → line ∈ loggedIn before → other ∉ loggedIn after

/-- A time is the same in all zones, so what is dropped for its time is dropped in all. -/
theorem Tail.Strict.zoneless (h : t.Strict w f) : t.Zoneless w f where
  dropped := by
    intro before query after moment line other rest resumeAt ha hline hother hmem hs hh
    obtain ⟨newestTime, hnewest, hle⟩ := le_newest hmem hline.of?_eq
    have hsince := h.since before query after ha.1
    exact (h.dropped before query after other rest resumeAt ha hs hh).1
      ⟨moment, newestTime, hother.of?_eq, hsince.trans hnewest, hle⟩
  once := by
    intro before query after moment line other hevents hline hother hmem hagain
    exact lt_irrefl moment
      (h.later before query after hevents line hmem other hagain _ _ hline.of?_eq hother.of?_eq)

/-- What readers let through is a law. -/
theorem Tail.sifting_law (w : World σ) :
    Law w fun f t => t.Sifting w t.service (eventsOf t.service f.journal) where
  turn h hx := by
    have hsifting := h.turn hx
    rwa [← hx.tail_eq.2.1] at hsifting
  other h hx hne := by rwa [hx.eventsOf_other hne]
  world {f t} act world h := by
    obtain ⟨posted, hposted⟩ := Floor.eventsOf_apply t.service { f with world } act
    rw [hposted]
    exact h.posted posted
  beside _ _ h := h
  elapse h _ := h

/-- **One moment is one time, whatever zone it is written in.** There is a zone for every offset of
whole minutes below a day, and what its clocks show at a moment is read as that moment, if four
digits write the year. So lines of one moment have one time, in a batch they stay as they came, and
of those that come after one has been passed on in an earlier attempt, none is passed on. -/
theorem Tail.zoneless_of_drifts (w : World σ) :
    (∀ offset : Int, -86400 < offset → offset < 86400 → offset % 60 = 0 →
      ∃ z : Zone, z.offset = offset) ∧
    (∀ (z : Zone) (moment : Instant), z.Shows moment →
      Stamp.read (z.text moment) = .ok moment) ∧
    (∀ (moment : Instant) (lines batch : List Arrival),
      (∀ a ∈ lines, a.notice = none ∧ IsDated a.text moment) → lines.Sublist batch →
      (∀ a ∈ lines, a.entry.loggedAt = moment) ∧
        (lines.map Arrival.entry).Sublist (collate batch)) ∧
    (∀ (s : Streaming) (shared : Bool) (service : String) (capacity : Nat)
      (rest most : Option Nat) (bulletin : Bulletin) (cancelled : Bool) (world : σ)
      (v : Observation σ), (Observation.schedule w).Drifts
        (.new s shared service capacity rest most bulletin cancelled world) v →
      v.tail.Zoneless w v.floor) ∧
    (∀ (r : Request) (bulletin : Bulletin) (sink : Sink) (cancelled : Bool) (world : σ)
      (v : Weave σ), (Weave.schedule w).Drifts (.new r bulletin sink cancelled world) v →
      ∀ t ∈ v.tails, t.Zoneless w v.floor) := by
  obtain ⟨hobservation, hweave⟩ := (Tail.sifting_law w).everywhere
  refine ⟨fun offset => Zone.exists_offset_eq, fun z moment => Zone.read_text, ?_, ?_, ?_⟩
  · intro moment lines batch hlines hsub
    refine ⟨fun a ha => ?_, sublist_collate hlines hsub⟩
    exact Arrival.loggedAt_of_isDated (hlines a ha).1 (hlines a ha).2
  · intro s shared service capacity rest most bulletin cancelled world v h
    exact (hobservation h (.new s shared bulletin 0)).strict.zoneless
  · intro r bulletin sink cancelled world v h t ht
    have hsifting := hweave h (fun number _ => .new r.streaming r.isShared bulletin number) t ht
    exact hsifting.strict.zoneless

/-- A world whose streams tell of one leap second in two zones, in different years. -/
def abroad : World Nat where
  openLog n _ _ :=
    let first := ["2017-01-01T08:59:60.500000000+09:00 east"]
    let later := ["2016-12-31T19:59:60.500000000-04:00 west", "2017-01-01T00:00:00Z new year"]
    (.stream ((if n = 0 then first else later).map .line), n + 1)
  act _ _ _ := none
  due _ := none
  clock _ := .epoch

/-- The leap second is passed on once, and the year 10000 is read where clocks still show 9999. -/
theorem Tail.zoneless_of_drifts_abroad :
    let west : Zone := ⟨true, 23, 59, by decide, by decide⟩
    let late : Instant := ⟨253402300800, 999999999, by decide⟩
    (west.text late = "9999-12-31T00:01:00.999999999-23:59" ∧ late.date.year = 10000 ∧
      Stamp.read (west.text late) = .ok late) ∧
    ∃ v : Observation Nat, (Observation.schedule abroad).Drifts
        (.new ⟨true, false, 100, 500, 1000, 2⟩ false "web" 16 none none .new false 0) v ∧
      v.tail.Zoneless abroad v.floor ∧ v.tail.attempts = 2 ∧
      loggedIn (eventsOf "web" v.floor.journal) =
        ["2017-01-01T08:59:60.500000000+09:00 east", "2017-01-01T00:00:00Z new year"] :=
  let west : Zone := ⟨true, 23, 59, by decide, by decide⟩
  let late : Instant := ⟨253402300800, 999999999, by decide⟩
  let start : Observation Nat :=
    .new ⟨true, false, 100, 500, 1000, 2⟩ false "web" 16 none none .new false 0
  let m := Observation.schedule abroad
  let v := m.runFrom 1000 20 0 start
  have h : m.Drifts start v := (m.reachable_runFrom 1000 20 0 .start).drifts
  ⟨⟨by decide +kernel, by decide +kernel,
      (Tail.zoneless_of_drifts abroad).2.1 west late (by decide +kernel)⟩,
    v, h, (Tail.zoneless_of_drifts abroad).2.2.2.1 ⟨true, false, 100, 500, 1000, 2⟩ false "web" 16
      none none .new false 0 v h, by decide +kernel, by decide +kernel⟩

end Run

end LogWeave

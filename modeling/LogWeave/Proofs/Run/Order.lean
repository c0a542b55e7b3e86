import LogWeave.Proofs.Output.Sorting
import LogWeave.Proofs.Run.Lasting

/-! The order of one service's lines in the whole output.

A stream may be in order by itself (`World.Orderly`). Each attempt passes on later lines than those
before it, so the lines of all attempts are in order too (`Weave.Rises`). A batch that is put in the
order of its times leaves lines that are in order as they are, and batches are printed as the lines
were sent; so the log is printed as its reader has sent it (`Weave.prints_in_order`). -/
namespace LogWeave

/-- Lines that carry times, none of them earlier than one before it. -/
structure Timely (lines : List String) : Prop where
  stamped : ∀ line ∈ lines, (Stamp.of? line).isSome = true
  rising : (lines.filterMap Stamp.of?).Pairwise (· ≤ ·)

namespace Timely

variable {lines more : List String}

theorem nil : Timely [] := ⟨by simp, List.Pairwise.nil⟩

theorem sublist (h : Timely lines) (hs : more.Sublist lines) : Timely more :=
  ⟨fun line hl => h.stamped line (hs.subset hl), h.rising.sublist (hs.filterMap _)⟩

/-- Later lines may follow. -/
theorem append (h : Timely lines) (h' : Timely more)
    (hlater : ∀ x ∈ lines, ∀ y ∈ more, ∀ s t, Stamp.of? x = some s → Stamp.of? y = some t → s < t) :
    Timely (lines ++ more) := by
  refine ⟨fun line hl => (List.mem_append.1 hl).elim (h.stamped line) (h'.stamped line), ?_⟩
  rw [List.filterMap_append]
  refine List.pairwise_append.2 ⟨h.rising, h'.rising, fun s hs t ht => ?_⟩
  obtain ⟨x, hx, hsx⟩ := List.mem_filterMap.1 hs
  obtain ⟨y, hy, hty⟩ := List.mem_filterMap.1 ht
  exact le_of_lt (hlater x hx y hy s t hsx hty)

end Timely

/-- A line of the log is put where its time belongs. -/
theorem Arrival.loggedAt_entry {a : Arrival} (ha : a.isLogged = true) {t : Time.Instant}
    (ht : Stamp.of? a.text = some t) : a.entry.loggedAt = t := by
  simp only [isLogged, Bool.and_eq_true, Option.isNone_iff_eq_none] at ha
  unfold entry
  rw [ha.2]
  unfold Stamp.of? at ht
  cases hread : Stamp.readLine a.text with
  | error failure => simp [hread, Except.toOption] at ht
  | ok line => simpa [hread, Except.toOption] using ht

/-- Lines in the order of their times are entries in that order. -/
theorem Timely.entries {as : List Arrival} (hlogged : ∀ a ∈ as, a.isLogged = true)
    (h : Timely (as.map Arrival.text)) :
    (as.map Arrival.entry).Pairwise fun a b => a.loggedAt ≤ b.loggedAt := by
  have hrising := h.rising
  rw [List.filterMap_map, List.pairwise_filterMap] at hrising
  refine List.pairwise_map.2 (hrising.imp_of_mem fun {a b} ha hb hab => ?_)
  obtain ⟨s, hs⟩ := Option.isSome_iff_exists.1 (h.stamped _ (List.mem_map_of_mem ha))
  obtain ⟨t, ht⟩ := Option.isSome_iff_exists.1 (h.stamped _ (List.mem_map_of_mem hb))
  rw [Arrival.loggedAt_entry (hlogged a ha) hs, Arrival.loggedAt_entry (hlogged b hb) ht]
  exact hab s hs t ht

namespace Run

variable {σ : Type} {w : World σ} {r : Request} {limits : SinkLimits} {service : String}

/-- Each stream of a service brings lines in the order of their times. -/
def World.Orderly (w : World σ) (service : String) : Prop :=
  ∀ state query, Timely (linesIn (w.openLog state service query).1.outcome)

/-- **What a reader has passed on is in order**, over all attempts, if each stream is. -/
theorem Tail.Sifting.timely {t u : Tail} {events later : List Event} (hsift : Sift w t later u)
    (hu : u.Sifting w service (events ++ later)) (hw : w.Orderly service)
    (h : Timely (loggedIn events)) : Timely (loggedIn (events ++ later)) := by
  have unpassed (hnone : loggedIn later = []) : Timely (loggedIn (events ++ later)) := by
    rwa [loggedIn_append, hnone, List.append_nil]
  cases hsift with
  | attempt | drop | take => exact unpassed rfl
  | beside hplain => exact unpassed (loggedIn_plain hplain)
  | @pass a rest hs =>
    obtain ⟨before, query, after, ha, hsieve⟩ := hu.tried (by simp [isUntried])
    obtain ⟨state, read, left, hread, hafter, -⟩ := hsieve.lines
    have hbefore : Timely (loggedIn before) := by
      rcases concat_eq_append_cons ha.1 with ⟨hopened, -, -⟩ | ⟨between, -, rfl⟩
      · cases hopened
      · exact h.sublist (by rw [loggedIn_append]; exact List.sublist_append_left ..)
    have hstream : Timely (loggedIn after) := by
      refine (hw state query).sublist ?_
      rw [hafter, ← hread]
      exact List.filter_sublist.trans (List.sublist_append_left ..)
    rw [ha.1, loggedIn_append, ← List.singleton_append, loggedIn_append]
    exact hbefore.append hstream (hu.ascending.later _ _ _ ha.1)

namespace Weave

variable {v v' : Weave σ}

/-- The lines of a service that have been passed on are in order. -/
def Rises (service : String) (v : Weave σ) : Prop :=
  Timely (loggedIn (eventsOf service v.floor.journal))

theorem Rises.move (h : v.Rises service) (hs : v.Sifts w) (hw : w.Orderly service)
    (hm : Move w v v') : v'.Rises service := by
  cases hm with
  | @world act world _ =>
    obtain ⟨posted, hposted⟩ := Floor.eventsOf_apply service { v.floor with world } act
    have hplain : loggedIn (posted.map Event.posted) = [] :=
      loggedIn_plain (by simp [Event.isPlain, Event.isOpening, loggedIn, Event.sent?])
    rw [Rises, hposted, loggedIn_append, hplain, List.append_nil]
    exact h
  | @turn i t x hi hx =>
    by_cases hservice : service = t.service
    · subst hservice
      have ht := hs t (List.mem_of_getElem? hi)
      obtain ⟨later, hevents, hsift⟩ := hx.sift ht.labelled
      have hu := ht.turn hx
      rw [hevents] at hu
      rw [Rises, hevents]
      exact hu.timely hsift hw h
    · rw [Rises, hx.eventsOf_other hservice]
      exact h
  | stop | print | elapse => exact h

end Weave

end Run

/-! ### In the whole output -/

theorem Arrival.source_entry (a : Arrival) : a.entry.source = a.source := by
  unfold entry
  split
  · rfl
  · split <;> rfl

theorem Arrival.notice_entry (a : Arrival) : a.entry.notice = a.notice := by
  unfold entry
  split
  · exact Eq.symm ‹_›
  · split <;> exact Eq.symm ‹_›

/-- A line of the log of a service. -/
def Entry.isLogOf (service : String) (e : Entry) : Bool := e.source == service && e.notice.isNone

/-- Of the lines that are to be printed those of a log are all of it before the first fault. -/
theorem filter_printable (service : String) (as : List Arrival) :
    ((printable as).map Arrival.entry).filter (Entry.isLogOf service) =
      (((as.takeWhile fun a => a.fault?.isNone).filter fun a => a.source = service).filter
        Arrival.isLogged).map Arrival.entry := by
  rw [printable, List.filter_map, List.filter_filter, List.filter_filter]
  refine congrArg (List.map Arrival.entry) (List.filter_congr fun a ha => ?_)
  have hsound := List.mem_takeWhile_imp ha
  simp only [Function.comp_apply, Entry.isLogOf, Arrival.source_entry, Arrival.notice_entry]
  -- Without a notice it is a line of the log, a silent line or a fault.
  cases hnotice : a.notice with
  | some => simp [Arrival.isLogged, hnotice]
  | none =>
    cases hended : a.ended with
    | none => simp [Arrival.isLogged, Arrival.isSilent, hnotice, hended, Bool.beq_eq_decide_eq]
    | some how =>
      cases how with
      | finished => simp [Arrival.isLogged, Arrival.isSilent, hnotice, hended]
      | broken text => simp [Arrival.fault?, hnotice, hended] at hsound

namespace Run.Weave

variable {σ : Type} {w : World σ} {r : Request} {limits : SinkLimits} {service : String}
  {v : Weave σ}

/-- The entries of a service's log, in batches as they are printed. -/
def logEntries (service : String) (batches : List (List Arrival)) : List Entry :=
  (batches.flatMap collate).filter (Entry.isLogOf service)

/-- The entries of a service's log, as its reader has sent the lines. -/
def logSent (service : String) (journal : List Happening) : List Entry :=
  ((sentBy service journal).filter Arrival.isLogged).map Arrival.entry

/-- What has been printed: batches, one a flush, and of the last one that the sink has refused the
beginning. In them the lines of a service's log are in order. -/
structure InOrder (r : Request) (service : String) (v : Weave σ) (batches : List (List Arrival))
    (torn : List Arrival) : Prop where
  /-- The batches hold what is to be printed of all lines sent, from the first on. -/
  printed : v.collator.Printed r.isShared (sentAll v.floor.journal) batches torn
  /-- The log is printed as the reader of the service has sent it, from the first line on, -/
  sent : logEntries service (batches ++ [torn]) <+: logSent service v.floor.journal
  /-- to the last, when the printing has ended well, -/
  whole : v.collator.outcome = some (.ok ()) →
    logEntries service (batches ++ [torn]) = logSent service v.floor.journal
  /-- and no line of it is of an earlier time than one before it. -/
  rising : (logEntries service (batches ++ [torn])).Pairwise fun a b => a.loggedAt ≤ b.loggedAt

/-- If the lines of a service have been passed on in order, so they are printed. -/
theorem Wired.inOrder (h : Wired r limits v) (ht : Told v) (hr : v.Rises service) :
    ∃ batches torn, InOrder r service v batches torn := by
  obtain ⟨batches, torn, hprinted⟩ := h.printed
  have hlog : (logSent service v.floor.journal).Pairwise fun a b => a.loggedAt ≤ b.loggedAt :=
    Timely.entries (fun a ha => (List.mem_filter.1 ha).2) hr
  -- What is printed of the log comes of a beginning of what was sent.
  have hprintable : ((printable (sentAll v.floor.journal)).map Arrival.entry).filter
      (Entry.isLogOf service) <+: logSent service v.floor.journal := by
    rw [filter_printable, logSent, ht.sentBy_eq service]
    exact (((List.takeWhile_prefix _).filter _).filter _).map _
  have hlines : ((batches ++ [torn]).flatten.map Arrival.entry).filter (Entry.isLogOf service) <+:
      logSent service v.floor.journal := by
    refine List.IsPrefix.trans ?_ hprintable
    rw [List.flatten_append, List.flatten_singleton]
    exact (hprinted.lines.map _).filter _
  have hcollate : logEntries service (batches ++ [torn]) =
      ((batches ++ [torn]).flatten.map Arrival.entry).filter (Entry.isLogOf service) :=
    filter_flatMap_collate (hlog.sublist hlines.sublist)
  refine ⟨batches, torn, hprinted, hcollate ▸ hlines, fun hok => ?_, ?_⟩
  · have hsound : ∀ a ∈ sentAll v.floor.journal, a.fault? = none := by
      rcases h.account_of_ended hok with ⟨-, hverdict, -⟩ | hspoilt
      · exact sound_of_verdict hverdict.symm
      · obtain ⟨why, hwhy⟩ := hspoilt.outcome
        rw [hok] at hwhy
        cases hwhy
    rw [hcollate, List.flatten_append, List.flatten_singleton, hprinted.whole hok, filter_printable,
      List.takeWhile_eq_self_iff.2 (by simpa using hsound), ← ht.sentBy_eq service, logSent]
  · rw [hcollate]
    exact hlog.sublist hlines.sublist

/-- **A log that comes in order is printed in order.** Whatever is asked for, whatever the sink
puts up with and whatever the other sources bring: if each stream of a service is in the order of
its times, then its lines are printed as its reader has sent them, in the order of their times over
the whole output. -/
theorem prints_in_order (hw : w.Orderly service) (r : Request) (limits : SinkLimits)
    (bulletin : Bulletin) (cancelled : Bool) (world : σ)
    (h : (schedule w).Drifts (new r bulletin (.new limits) cancelled world) v) :
    ∃ batches torn, InOrder r service v batches torn := by
  have hrises : v.Sifts w ∧ v.Rises service :=
    Woven.keep (P := fun v => v.Sifts w ∧ v.Rises service) h
      (fun _ _ hwoven hv hm => ⟨hv.1.move hwoven hm, hv.2.move hv.1 hw hm⟩)
      ⟨sifts_new w r bulletin _ cancelled world, .nil⟩
  exact Wired.inOrder (.drifts h) (.drifts h) hrises.2

/-- A world in which two services bring lines of the same minute; the stream of one breaks off. -/
def punctual : World Nat where
  openLog n service _ :=
    if service = "db" then
      (.stream [.line "2024-03-01T10:00:01Z open", .pause 300, .line "2024-03-01T10:00:04Z ready",
        .hang], n)
    else
      (.stream (if n = 0 then [.line "2024-03-01T10:00:02Z first", .fail (.transport "reset")]
        else [.line "2024-03-01T10:00:02Z first", .line "2024-03-01T10:00:03Z second", .hang]),
        n + 1)
  act now _ n := if n = 2 ∧ 5000 ≤ now then some (.cancel, 3) else none
  due n := if n = 2 then some 5000 else none
  clock _ := .epoch

theorem orderly_punctual : punctual.Orderly "web" := by
  have first : Timely ["2024-03-01T10:00:02Z first"] := ⟨by decide +kernel, by decide +kernel⟩
  have both : Timely ["2024-03-01T10:00:02Z first", "2024-03-01T10:00:03Z second"] :=
    ⟨by decide +kernel, by decide +kernel⟩
  intro n query
  cases n with
  | zero => exact first
  | succ n => exact both

/-- Lines from before and after a reconnect, with those of another service; the run ends well. -/
theorem prints_in_order_punctual :
    ∃ (r : Request) (v : Weave Nat), punctual.Orderly "web" ∧
      (schedule punctual).Drifts (new r .new .endless false 0) v ∧
      v.collator.outcome = some (.ok ()) ∧ ∃ batches torn, InOrder r "web" v batches torn :=
  let r : Request := ⟨["web", "db"], ⟨true, false, 100000, 500, 1000, 2⟩, by decide, by decide⟩
  let m := schedule punctual
  let u := m.runFrom 6000 32 0 (new r .new .endless false 0)
  have hu := (m.reachable_runFrom 6000 32 0 .start).drifts
  let c := Schedule.Lockstep.round (clocked punctual) u
  have ⟨n, hdone, _⟩ := returns_of_lockstep c (by decide +kernel)
  have hv : m.Drifts (new r .new .endless false 0) (c.state n) := hu.trans (c.drifts n)
  have henduring : Enduring r (c.state n) :=
    hv.keep (fun _ _ h hd => h.move (move_of_drift hd)) (enduring_new r rfl .new false 0)
  have ⟨_, ho⟩ := Option.isSome_iff_exists.1 (Bool.and_eq_true_iff.1 hdone).1
  have hok := henduring.wired.ok_of_outcome (henduring.told.sound henduring.follows) ho
  ⟨r, c.state n, orderly_punctual, hv, hok ▸ ho,
    prints_in_order orderly_punctual r ⟨none, none⟩ .new false 0 hv⟩

end Run.Weave

end LogWeave

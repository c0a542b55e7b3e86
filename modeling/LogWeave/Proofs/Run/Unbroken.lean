import LogWeave.Proofs.Run.Errand
import LogWeave.Proofs.Run.Law
import LogWeave.Proofs.Run.Wiring

/-! Streams that do not break.

A reader tells of a disconnection only when a stream has brought it a failure. So where no stream
does, no run tells of any, whatever else comes of opening the logs (`Weave.breaks_of_drifts`). And
where streams fall silent after their lines, as those of a log that is followed do, no log is opened
a second time (`Weave.opensOf_le_one`). -/
namespace LogWeave.Run

/-- A stream has broken, or that is told. -/
def Event.breaks : Event → Bool
  | .ended (.broken _) => true
  | .sent a =>
    match a.ended, a.notice with
    | some (.broken _), some _ => true
    | _, _ => false
  | _ => false

/-- No stream that is opened breaks. -/
def World.Unbroken {σ : Type} (w : World σ) : Prop :=
  ∀ state service query items, (w.openLog state service query).1.outcome = .ok items →
    ∀ text, endOf items ≠ some (.broken text)

/-- All logs open, and no stream ever ends. -/
def World.Lasting {σ : Type} (w : World σ) : Prop :=
  ∀ state service query, ∃ items, (w.openLog state service query).1.outcome = .ok items ∧
    endOf items = none

namespace Tail

variable {σ : Type} {w : World σ} {f : Floor σ} {t : Tail} {r : Floor σ × Tail}

/-- Nothing that a reader has before it breaks its stream, and nothing it has in hand tells so. -/
def Smooth (t : Tail) : Prop :=
  match t.stage with
  | .opening _ (.ok items) | .reading items _ => ∀ text, endOf items ≠ some (.broken text)
  | .sending a (.read items) =>
    (Event.sent a).breaks = false ∧ ∀ text, endOf items ≠ some (.broken text)
  | .sending a _ => (Event.sent a).breaks = false
  | _ => True

/-- No stream of a reader has broken or will. -/
structure Unbroken (f : Floor σ) (t : Tail) : Prop where
  events : ∀ event ∈ eventsOf t.service f.journal, event.breaks = false
  smooth : t.Smooth

theorem Smooth.of_sending {a : Arrival} {next : Next} (h : t.Smooth)
    (hs : t.stage = .sending a next) : (Event.sent a).breaks = false := by
  cases next <;> simp only [Smooth, hs] at h
  · exact h.1
  all_goals exact h

theorem Unbroken.turn (hw : w.Unbroken) (h : t.Unbroken f) (hx : Turn w f t r) :
    r.2.Unbroken r.1 := by
  have noted {event : Event} (g : Floor σ) (hg : g.journal = f.journal)
      (hevent : event.breaks = false) :
      ∀ e ∈ eventsOf t.service (g.note t.service event).journal, e.breaks = false := by
    rw [eventsOf_note, hg]
    exact List.forall_mem_append.2 ⟨h.events, List.forall_mem_singleton.2 hevent⟩
  have hsmooth := h.smooth
  cases hx with
  | start hs =>
    refine ⟨noted _ rfl rfl, ?_⟩
    have hopen := hw f.world t.attempt.service t.attempt.query
    cases houtcome : (w.openLog f.world t.attempt.service t.attempt.query).1.outcome with
    | ok items => simpa only [Smooth, start, houtcome] using hopen items houtcome
    | error => simp only [Smooth, start, houtcome]
  | connect hs =>
    simp only [Smooth, hs] at hsmooth
    exact ⟨h.events, hsmooth⟩
  | postpone => exact ⟨noted f rfl rfl, trivial⟩
  | refuse => exact ⟨noted f rfl rfl, rfl⟩
  | finish hs =>
    refine ⟨noted f rfl rfl, ?_⟩
    cases hfollow : t.follow <;> simp only [Smooth, conclude, send, hfollow] <;> rfl
  | fail hs =>
    simp only [Smooth, hs] at hsmooth
    exact absurd rfl (hsmooth _)
  | skip hs | resume hs =>
    simp only [Smooth, hs] at hsmooth
    exact ⟨h.events, hsmooth⟩
  | @take line rest _ hs =>
    simp only [Smooth, hs] at hsmooth
    have hservice := service_observe t line
    exact ⟨by
      show ∀ event ∈ eventsOf (t.observe line).service f.journal, _
      rw [hservice]
      exact h.events, rfl, hsmooth⟩
  | hold hs =>
    simp only [Smooth, hs] at hsmooth
    exact ⟨h.events, hsmooth⟩
  | @deliver a next channel hs =>
    refine ⟨noted { f with channel } rfl (hsmooth.of_sending hs), ?_⟩
    cases next with
    | read items =>
      simp only [Smooth, hs] at hsmooth
      exact hsmooth.2
    | reconnect | finish | exit | restart => trivial
  | queue => exact ⟨h.events, hsmooth⟩
  | exit => exact ⟨noted f rfl rfl, rfl⟩
  | retry | giveUp | rest => exact ⟨h.events, trivial⟩
  | leave => exact ⟨noted _ rfl rfl, trivial⟩
  | retire => exact ⟨noted _ rfl rfl, trivial⟩
  | wake => exact ⟨noted _ rfl rfl, rfl⟩

/-- Other events do not matter. -/
theorem Unbroken.congr {g : Floor σ} (h : t.Unbroken f)
    (hevents : eventsOf t.service g.journal = eventsOf t.service f.journal) : t.Unbroken g :=
  ⟨hevents ▸ h.events, h.smooth⟩

theorem Unbroken.world (h : t.Unbroken f) (act : Act) (world : σ) :
    t.Unbroken ({ f with world }.apply act) := by
  obtain ⟨posted, hposted⟩ := Floor.eventsOf_apply t.service { f with world } act
  refine ⟨?_, h.smooth⟩
  rw [hposted]
  refine List.forall_mem_append.2 ⟨h.events, ?_⟩
  simp [Event.breaks]

/-- Where no stream breaks, none is told to have broken. -/
theorem unbroken_law (hw : w.Unbroken) : Law w Unbroken where
  turn h hx := h.turn hw hx
  other h hx hne := h.congr (hx.eventsOf_other hne)
  world act world h := h.world act world
  beside _ _ h := h.congr rfl
  elapse h _ := h.congr rfl

/-- How often a reader has opened its log, if no stream ends. -/
def Once (opens : Nat) (t : Tail) : Prop :=
  match t.stage with
  | .starting => opens = 0
  | .opening _ (.ok items) | .reading items _ | .sending _ (.read items) =>
    opens = 1 ∧ endOf items = none
  | .leaving false | .done => opens ≤ 1
  | _ => False

theorem Once.le_one {opens : Nat} (h : t.Once opens) : opens ≤ 1 := by
  unfold Once at h
  split at h
  · omega
  all_goals first | exact h.1.le | exact h | exact h.elim

theorem Once.turn (hw : w.Lasting) (h : t.Once (opensOf t.service f.journal)) (hx : Turn w f t r) :
    r.2.Once (opensOf r.2.service r.1.journal) := by
  have hle := h.le_one
  have noted (g : Floor σ) (event : Event) := opensOf_note t.service g event
  rw [hx.tail_eq.2.1]
  cases hx with
  | start hs =>
    obtain ⟨items, houtcome, hend⟩ := hw f.world t.attempt.service t.attempt.query
    simp only [Once, hs] at h
    simp only [Once, start, houtcome]
    refine ⟨(noted _ (.opened _)).trans ?_, hend⟩
    simp only [h]
    rfl
  | connect hs | hold hs | skip hs | resume hs =>
    simp only [Once, hs] at h
    exact h
  | postpone hs | refuse hs | exit hs | retry hs | rest hs | retire hs | wake hs =>
    simp only [Once, hs] at h
  | finish hs | fail hs => simp [Once, hs, endOf] at h
  | take hs =>
    simp only [Once, hs] at h
    exact h
  | @deliver a next channel hs =>
    cases next with
    | read items =>
      simp only [Once, hs] at h
      refine ⟨(noted { f with channel } (.sent a)).trans ?_, h.2⟩
      simp only [h.1]
      rfl
    | reconnect | finish | exit | restart => simp only [Once, hs] at h
  | queue => exact h
  | giveUp => exact hle
  | @leave exited hs =>
    exact (noted _ .returned).trans_le hle

/-- Where no stream ends, a reader opens its log once. -/
theorem once_law (hw : w.Lasting) :
    Law w fun f (t : Tail) => t.Once (opensOf t.service f.journal) where
  turn h hx := h.turn hw hx
  other h hx hne := by
    rw [opensOf, hx.eventsOf_other hne]
    exact h
  world act world h := by
    rw [Floor.opensOf_apply]
    exact h
  beside _ _ h := h
  elapse h _ := h

end Tail

namespace Weave

variable {σ : Type} {w : World σ} {r : Request} {v : Weave σ} {bulletin : Bulletin}
  {limits : SinkLimits} {cancelled : Bool} {world : σ}

/-- **A run over streams that do not break tells of no disconnection.** -/
theorem breaks_of_drifts (hw : w.Unbroken)
    (h : (schedule w).Drifts (new r bulletin (.new limits) cancelled world) v) :
    ∀ e ∈ v.floor.journal, e.event.breaks = false := by
  have hwired : Wired r limits v := .drifts h
  have htails := (Tail.unbroken_law hw).everywhere.2 h fun number service =>
    ⟨by simp [Floor.new, eventsOf], trivial⟩
  intro e he
  rcases hwired.sources e he with hmem | ⟨status, hposted⟩
  · obtain ⟨t, ht, hservice⟩ := hwired.woven.reader hmem
    refine (htails t ht).events _ ?_
    rw [hservice]
    exact List.mem_map.2 ⟨e, List.mem_filter.2 ⟨he, by simp⟩, rfl⟩
  · rw [hposted]
    rfl

/-- **Where no stream ends, no log is opened a second time.** -/
theorem opensOf_le_one (hw : w.Lasting)
    (h : (schedule w).Drifts (new r bulletin (.new limits) cancelled world) v) (service : String) :
    opensOf service v.floor.journal ≤ 1 := by
  have hwired : Wired r limits v := .drifts h
  have htails := (Tail.once_law hw).everywhere.2 h fun number service => rfl
  by_cases hmem : service ∈ r.services
  · obtain ⟨t, ht, rfl⟩ := hwired.woven.reader hmem
    exact (htails t ht).le_one
  · -- Only statuses are told of a source that nobody reads.
    refine (List.countP_eq_zero.2 fun event hevent => ?_).le.trans (Nat.zero_le 1)
    obtain ⟨e, he, rfl⟩ := List.mem_map.1 hevent
    obtain ⟨he, hsource⟩ := List.mem_filter.1 he
    rcases hwired.sources e he with hread | ⟨status, hposted⟩
    · rw [of_decide_eq_true hsource] at hread
      exact absurd hread hmem
    · rw [hposted]
      exact Bool.false_ne_true

end Weave

end LogWeave.Run

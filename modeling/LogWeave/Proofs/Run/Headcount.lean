import LogWeave.Proofs.Run.Move
import LogWeave.Run.Rehearsal

/-! Who is counted.

A reader is active from the start and from each restart, until its instance ends. The headcount of a
run is the number of active readers (`Counted`), so a run that is stopped for want of readers is
stopped after the last line of each: of a reader that does not follow, what is left to send is known
from its stage (`Tail.Straight`). -/
namespace LogWeave

/-- A stream is over for good: nobody will open it again. -/
def Arrival.isFinal (a : Arrival) : Bool := a.ended.isSome && a.notice.isNone

namespace Run

namespace Tail

variable {σ : Type}

/-- The last line sent is that of a stream that is over for good. -/
def EndsFinal (sent : List Arrival) : Prop := ∃ a, sent.getLast? = some a ∧ a.isFinal = true

/-- Where a reader can be that does not follow, when it has sent these lines and nobody has told it
to give up: it reads one stream, tells of its end and leaves. -/
def Straight (sent : List Arrival) (t : Tail) : Prop :=
  match t.stage with
  | .starting | .opening _ _ | .reading _ _ | .sending _ (.read _) => True
  | .sending a .finish => a.isFinal = true
  | .sending _ _ | .pausing _ | .dormant => False
  | .leaving exited => exited = false ∧ EndsFinal sent
  | .done => EndsFinal sent

theorem isActive_new (s : Streaming) (shared : Bool) (bulletin : Bulletin) (number : Nat)
    (service : String) : (new s shared bulletin number service).isActive = true := rfl

theorem isActive_of_leaving {t : Tail} {exited : Bool} (h : t.stage = .leaving exited) :
    t.isActive = true := by
  simp [isActive, h]

/-- A reader that has returned is not active. -/
theorem isActive_of_isDone {t : Tail} (h : t.isDone = true) : t.isActive = false := by
  unfold isDone at h
  split at h
  · rename_i hs
    simp [isActive, hs]
  · cases h

/-- An idle reader that does not follow is one that has returned. -/
theorem Straight.endsFinal {sent : List Arrival} {t : Tail} (h : t.Straight sent)
    (ha : t.isActive = false) : EndsFinal sent := by
  unfold Straight at h
  unfold isActive at ha
  split at ha
  · rename_i hs
    simp [hs] at h
  · rename_i hs
    simpa [hs] using h
  · cases ha

/-- A reader that does not follow keeps to its one stream as long as nobody halts it. -/
theorem Turn.straight {w : World σ} {f : Floor σ} {t : Tail} {r : Floor σ × Tail}
    (h : Turn w f t r) (hh : f.isHalted = false) (hc : f.channel.isClosed = false)
    (hf : t.follow = false) (ht : t.Straight (sentBy t.service f.journal)) :
    r.2.Straight (sentBy t.service r.1.journal) := by
  cases h with
  | start | connect | skip | take | hold | resume => simp [Straight, Tail.start, send]
  | refuse => simp [Straight, send, Arrival.isFinal, Arrival.ending]
  | finish | fail => simp [Straight, conclude, hf, send, Arrival.isFinal, Arrival.ending]
  | @deliver a next _ hs =>
    rw [sentBy_note]
    cases next with
    | read => simp [Straight, proceed]
    | finish => simpa [Straight, proceed, EndsFinal, Event.sent?, hs] using ht
    | reconnect | exit | restart => simp [Straight, hs] at ht
  | queue hs => exact ht
  | exit hs | retry hs => simp [Straight, hs] at ht
  | giveUp _ hg =>
    rcases hg with hg | ⟨hg, -⟩
    · simp [hh] at hg
    · simp [hc] at hg
  | @leave exited hs =>
    obtain ⟨-, hend⟩ : exited = false ∧ EndsFinal _ := by simpa [Straight, hs] using ht
    rw [sentBy_retire]
    exact hend
  | postpone _ _ _ hfollow | rest _ hfollow => simp [hf] at hfollow
  | retire _ hh' => simp [hh] at hh'
  | wake hs => simp [Straight, hs] at ht

end Tail

namespace Weave

variable {σ : Type}

/-- The headcount is the number of active readers. -/
structure Counted (v : Weave σ) : Prop where
  running : v.floor.headcount.running = v.tails.countP Tail.isActive
  isOpen : v.floor.channel.isClosed = false
  straight : v.follows = false → v.floor.isHalted = false →
    ∀ t ∈ v.tails, t.Straight (sentBy t.service v.floor.journal)

theorem counted_new (r : Request) (bulletin : Bulletin) (sink : Sink) (cancelled : Bool)
    (world : σ) : Counted (new r bulletin sink cancelled world) where
  running := by
    have hall : ∀ t ∈ (new r bulletin sink cancelled world).tails, t.isActive = true :=
      forall_tails_new _ _ _ _ _ fun _ _ => Tail.isActive_new ..
    rw [List.countP_eq_length.2 hall]
    simp [new, Floor.new, Headcount.new]
  isOpen := rfl
  straight _ _ := forall_tails_new _ _ _ _ _ fun _ _ => trivial

variable {w : World σ} {v v' : Weave σ} {r : Request}

/-- The count goes with the reader that takes its turn. -/
theorem countP_turn {i : Nat} {t : Tail} {x : Floor σ × Tail}
    (h : v.floor.headcount.running = v.tails.countP Tail.isActive) (hi : v.tails[i]? = some t)
    (ht : Tail.Turn w v.floor t x) :
    x.1.headcount.running = (v.tails.set i x.2).countP Tail.isActive := by
  obtain ⟨before, after, htails, -, hset⟩ := split_of_getElem? hi
  rw [hset, List.countP_append, List.countP_cons]
  rw [htails, List.countP_append, List.countP_cons] at h
  rcases ht.headcount_eq with ⟨ha, hc⟩ | ⟨ha, ha', hc⟩ | ⟨ha, ha', hc⟩
  · rw [hc, ha, h]
  · simp only [ha, ha', hc, Headcount.running_leave, if_true, if_false, Bool.false_eq_true] at h ⊢
    omega
  · simp only [ha, ha', hc, Headcount.running_enter, if_true, if_false, Bool.false_eq_true] at h ⊢
    omega

/-- What the other readers are left to send does not depend on the one that takes its turn. -/
theorem straight_turn (hw : Woven r v) {i : Nat} {t : Tail} {x : Floor σ × Tail}
    (hi : v.tails[i]? = some t) (ht : Tail.Turn w v.floor t x) (hf : v.follows = false)
    (hh : v.floor.isHalted = false) (hc : v.floor.channel.isClosed = false)
    (hall : ∀ t ∈ v.tails, t.Straight (sentBy t.service v.floor.journal)) :
    ∀ u ∈ v.tails.set i x.2, u.Straight (sentBy u.service x.1.journal) := by
  refine hw.forall_turn (P := fun u events => u.Straight (events.filterMap Event.sent?)) hi ht hall ?_
  have hmem := List.mem_of_getElem? hi
  exact ht.straight hh hc (hw.follow_eq hf hmem) (hall t hmem)

theorem Counted.move (h : Counted v) (hw : Woven r v) (hm : Move w v v') : Counted v' := by
  -- What has been halted stays so, and a halted run owes no last lines.
  have straight (hf : v'.follows = false → v.follows = false)
      (hrun : v.floor.isHalted = false →
        ∀ t ∈ v'.tails, v.follows = false → t.Straight (sentBy t.service v'.floor.journal)) :
      v'.follows = false → v'.floor.isHalted = false →
        ∀ t ∈ v'.tails, t.Straight (sentBy t.service v'.floor.journal) := by
    intro hf' hh' t ht
    cases hh : v.floor.isHalted with
    | true =>
      rw [hm.isHalted hh] at hh'
      cases hh'
    | false => exact hrun hh t ht (hf hf')
  cases hm with
  | @world act world hact =>
    obtain ⟨hchannel, hcount, -⟩ := Floor.apply_eq { v.floor with world } act
    refine ⟨?_, ?_, straight id ?_⟩
    · rw [hcount]
      exact h.running
    · rw [hchannel]
      exact h.isOpen
    · intro hh t ht hf
      rw [Floor.sentBy_apply]
      exact h.straight hf hh t ht
  | @turn i t x hi ht =>
    refine ⟨countP_turn h.running hi ht, ht.delivers.isClosed.trans h.isOpen, straight id ?_⟩
    intro hh u hu hf
    exact straight_turn hw hi ht hf hh h.isOpen (h.straight hf hh) u hu
  | stop => exact ⟨h.running, h.isOpen, straight id fun hh t ht hf => h.straight hf hh t ht⟩
  | @print c channel hc =>
    obtain ⟨-, -, hchannel⟩ := Collator.step_channel hc
    refine ⟨h.running, ?_, straight id fun hh t ht hf => h.straight hf hh t ht⟩
    rw [hchannel]
    exact h.isOpen
  | elapse => exact ⟨h.running, h.isOpen, straight id fun hh t ht hf => h.straight hf hh t ht⟩

/-- What the headcount tells at a moment of a run, and what the next step does to it. -/
structure Tally (w : World σ) (r : Request) (v : Weave σ) : Prop where
  readers : v.tails.length = r.services.length
  running : v.floor.headcount.running = v.tails.countP Tail.isActive
  bounded : v.floor.headcount.running ≤ r.services.length
  returned : ∀ t ∈ v.tails, t.isDone = true → t.isActive = false
  /-- Somebody is counted as long as somebody is yet to leave. -/
  leaving : ∀ t ∈ v.tails, ∀ exited, t.stage = .leaving exited → 0 < v.floor.headcount.running
  /-- The count falls when the instance of an active reader ends, rises when that of an idle one
  begins, and does not change by anything else. -/
  steps : ∀ k v', (schedule w).step v k = some v' →
    (v'.floor.headcount.running = v.floor.headcount.running ∧
      v'.tails.map Tail.isActive = v.tails.map Tail.isActive) ∨
    ∃ i t u, k = i + 1 ∧ v.tails[i]? = some t ∧ v'.tails = v.tails.set i u ∧
      ((t.isActive = true ∧ u.isActive = false ∧
          v.floor.headcount.running = v'.floor.headcount.running + 1) ∨
        (t.isActive = false ∧ u.isActive = true ∧
          v'.floor.headcount.running = v.floor.headcount.running + 1))
  /-- Whoever puts a line into the channel is counted. -/
  sends : ∀ k v' a, (schedule w).step v k = some v' →
    v'.floor.channel.queue = v.floor.channel.queue ++ [a] →
    ∃ i t, k = i + 1 ∧ v.tails[i]? = some t ∧ t.isActive = true ∧
      sentBy t.service v'.floor.journal = sentBy t.service v.floor.journal ++ [a]
  /-- A run is stopped for want of readers after the last line of each. -/
  stops : ∀ v', v.watchStep = some v' → r.streaming.follows = false ∧ v.floor.cancelled = false ∧
    ∀ service ∈ r.services, Tail.EndsFinal (sentBy service v.floor.journal)

/-- A task is a reader, or it leaves readers and headcount as they are and puts nothing into the
channel. -/
theorem turn_or_other {k : Nat} (h : (schedule w).step v k = some v') :
    (∃ i t x, k = i + 1 ∧ v.tails[i]? = some t ∧ Tail.Turn w v.floor t x ∧
      v' = { v with floor := x.1, tails := v.tails.set i x.2 }) ∨
    (v'.tails = v.tails ∧ v'.floor.headcount = v.floor.headcount ∧
      ∃ more, v.floor.channel.queue = more ++ v'.floor.channel.queue) := by
  simp only [schedule] at h
  split at h
  · simp only [worldStep, Floor.worldStep, Option.map_map, Option.map_eq_some_iff] at h
    obtain ⟨⟨act, world⟩, -, rfl⟩ := h
    obtain ⟨hchannel, hcount, -⟩ := Floor.apply_eq { v.floor with world } act
    exact .inr ⟨rfl, hcount, [], congrArg Channel.queue hchannel.symm⟩
  rename_i hk
  split at h
  · obtain ⟨t, x, hi, ht, rfl⟩ := tailStep_eq_some h
    exact .inl ⟨k - 1, t, x, by omega, hi, ht, rfl⟩
  split at h
  · obtain ⟨-, -, -, rfl⟩ := watchStep_eq_some h
    exact .inr ⟨rfl, rfl, [], rfl⟩
  · obtain ⟨⟨c, channel⟩, hc, rfl⟩ := Option.map_eq_some_iff.1 h
    obtain ⟨more, hq, -⟩ := Collator.step_channel hc
    exact .inr ⟨rfl, rfl, more, hq⟩

theorem Counted.drifts {bulletin : Bulletin} {sink : Sink} {cancelled : Bool} {world : σ}
    (h : (schedule w).Drifts (new r bulletin sink cancelled world) v) :
    Counted v ∧ Woven r v := by
  refine h.keep (P := fun v => Counted v ∧ Woven r v) ?_ ⟨counted_new .., woven_new ..⟩
  intro v v' ⟨hc, hw⟩ hd
  exact ⟨hc.move hw (move_of_drift hd), hw.move (move_of_drift hd)⟩

/-- Nobody is active when the count is zero, and then each reader has sent its last line. -/
theorem Counted.stops (h : Counted v) (hw : Woven r v) (hs : v.watchStep = some v') :
    r.streaming.follows = false ∧ v.floor.cancelled = false ∧
      ∀ service ∈ r.services, Tail.EndsFinal (sentBy service v.floor.journal) := by
  obtain ⟨hf, hh, hzero, -⟩ := watchStep_eq_some hs
  have hrun : v.floor.cancelled = false := by
    simp only [Floor.isHalted, Bool.or_eq_false_iff] at hh
    exact hh.1
  refine ⟨hw.follows ▸ hf, hrun, ?_⟩
  intro service hservice
  obtain ⟨t, ht, rfl⟩ := hw.reader hservice
  have hidle : t.isActive = false := by
    have hnone := List.countP_eq_zero.1 (h.running ▸ hzero) t ht
    simpa using hnone
  exact (h.straight hf hh t ht).endsFinal hidle

/-- **The headcount is the number of active readers.** All are active at the start. Whatever the
world does, wherever the lines go and in whatever order the tasks take their turns: readers enter
and leave the count one at a time as their instances begin and end, only those counted send lines,
and nobody stops the run for want of readers before each has sent its last line. -/
theorem tally_of_drifts (r : Request) (bulletin : Bulletin) (sink : Sink) (cancelled : Bool)
    (world : σ) (h : (schedule w).Drifts (new r bulletin sink cancelled world) v) :
    (∀ t ∈ (new r bulletin sink cancelled world).tails, t.isActive = true) ∧ Tally w r v := by
  obtain ⟨hc, hw⟩ := Counted.drifts h
  refine ⟨?_, hw.length, hc.running, ?_, ?_, ?_, ?_, ?_, fun _ => hc.stops hw⟩
  · intro t ht
    simp only [new, List.mem_mapIdx] at ht
    obtain ⟨i, hi, rfl⟩ := ht
    exact Tail.isActive_new ..
  · rw [hc.running, ← hw.length]
    exact List.countP_le_length
  · exact fun t _ => Tail.isActive_of_isDone
  · intro t ht exited hs
    rw [hc.running]
    exact List.countP_pos_iff.2 ⟨t, ht, Tail.isActive_of_leaving hs⟩
  · intro k v' hs
    rcases turn_or_other hs with ⟨i, t, x, hk, hi, ht, rfl⟩ | ⟨htails, hcount, -⟩
    · rcases ht.headcount_eq with ⟨ha, hsame⟩ | ⟨ha, ha', hleave⟩ | ⟨ha, ha', henter⟩
      · refine .inl ⟨by simp only [hsame], ?_⟩
        obtain ⟨before, after, hv, -, hset⟩ := split_of_getElem? hi
        simp only [hset, List.map_append, List.map_cons, ha]
        rw [hv, List.map_append, List.map_cons]
      · refine .inr ⟨i, t, x.2, hk, hi, rfl, .inl ⟨ha, ha', ?_⟩⟩
        have hpos : 0 < v.floor.headcount.running := by
          rw [hc.running]
          exact List.countP_pos_iff.2 ⟨t, List.mem_of_getElem? hi, ha⟩
        simp only [hleave, Headcount.running_leave]
        omega
      · exact .inr ⟨i, t, x.2, hk, hi, rfl, .inr ⟨ha, ha', by simp only [henter,
          Headcount.running_enter]⟩⟩
    · exact .inl ⟨by rw [hcount], by rw [htails]⟩
  · intro k v' a hs hq
    rcases turn_or_other hs with ⟨i, t, x, hk, hi, ht, rfl⟩ | ⟨-, -, more, hmore⟩
    · obtain ⟨-, -, sent, hsent, hj, hactive⟩ := ht.delivers
      have heq : sent = [a] := List.append_cancel_left (hsent.symm.trans hq)
      subst heq
      exact ⟨i, t, hk, hi, hactive (by simp), hj⟩
    · have hlength := congrArg List.length hmore
      simp only [hq, List.length_append, List.length_cons, List.length_nil] at hlength
      omega

/-- Two readers, both at their ends: the watcher is about to stop the run. -/
theorem tally_of_drifts_empty :
    ∃ (r : Request) (world : Rehearsal) (v : Weave Rehearsal), r.services = ["web", "db"] ∧
      (schedule Rehearsal.world).Drifts (new r .new .endless false world) v ∧
      Tally Rehearsal.world r v ∧ v.floor.headcount.running = 0 ∧ v.watchStep.isSome = true :=
  let r : Request :=
    ⟨["web", "db"], ⟨false, false, 100, 500, 1000, 2⟩, by decide, by decide⟩
  let world : Rehearsal := .ofActs
    [("web", [.stream [.line "ready", .line "late"]]), ("db", [.stream [.line "open"]])] []
  have h : (schedule Rehearsal.world).Drifts (new r .new .endless false world) _ :=
    ((schedule Rehearsal.world).reachable_runFrom 1000 21 0 .start).drifts
  ⟨r, world, _, rfl, h, (tally_of_drifts r .new .endless false world h).2, by decide +kernel,
    by decide +kernel⟩

end Weave

end Run

end LogWeave

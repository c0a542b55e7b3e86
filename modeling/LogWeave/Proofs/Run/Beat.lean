import LogWeave.Proofs.Run.Law

/-! A run as one reader lives through it.

A `Beat` is a step of a run for one reader: it takes its turn, something happens beside it, or time
passes. Time that passes on a clock that waits for the tasks passes only while the reader can do
nothing, and not past its timer (`Tail.Bides`). So what a reader keeps from beat to beat it keeps in
every run, by itself (`Observation.keep_of_drifts`, `Observation.keep_on_path`) or in a weave
(`Weave.keep_of_drifts`, `Weave.keep_on_path`), whatever the others do and however slowly its lines
are taken. -/
namespace LogWeave.Run

variable {σ : Type}

/-! ### What a reader has done -/

/-- A post is the world's doing. -/
def Event.isPost : Event → Bool
  | .posted _ => true
  | _ => false

/-- What the reader of a source has done and when, in order. -/
def deedsOf (service : String) (journal : List Happening) : List Happening :=
  (happeningsOf service journal).filter fun x => !x.event.isPost

theorem deedsOf_note (service : String) (f : Floor σ) {event : Event}
    (h : event.isPost = false) :
    deedsOf service (f.note service event).journal =
      deedsOf service f.journal ++ [⟨f.now, service, event⟩] := by
  simp [deedsOf, happeningsOf_note, h]

/-- What the world does is no deed. -/
theorem Floor.deedsOf_apply (service : String) (f : Floor σ) (act : Act) :
    deedsOf service (f.apply act).journal = deedsOf service f.journal := by
  obtain ⟨posts, hj, hposts⟩ := f.happeningsOf_apply service act
  have hnone : posts.filter (fun x => !x.event.isPost) = [] := by
    refine List.filter_eq_nil_iff.2 fun x hx => ?_
    obtain ⟨status, hs⟩ := hposts x hx
    simp [hs, Event.isPost]
  rw [deedsOf, hj, List.filter_append, hnone, List.append_nil, ← deedsOf]

/-- Opening a log is a deed. -/
theorem opensOf_eq (service : String) (journal : List Happening) :
    opensOf service journal = (deedsOf service journal).countP fun x => x.event.isOpening := by
  rw [opensOf, ← map_event_happeningsOf, List.countP_map, deedsOf, List.countP_filter]
  refine List.countP_congr fun x _ => ?_
  cases h : x.event <;> simp [h, Event.isOpening, Event.isPost]

namespace Tail

/-- A reader has a line in hand, and the channel has no room for it. -/
def IsHeldUp (f : Floor σ) (t : Tail) : Prop :=
  (∃ a next, t.stage = .sending a next) ∧ (f.channel.join t.number).hasRoom t.number = false

/-- Only for want of room a reader waits with a line in hand. -/
theorem isHeldUp_of_waits {w : World σ} {f : Floor σ} {t : Tail} {a : Arrival} {next : Next}
    (h : t.step w f = none) (hs : t.stage = .sending a next) : t.IsHeldUp f := by
  refine ⟨⟨a, next, hs⟩, ?_⟩
  by_contra hroom
  rw [Bool.not_eq_false] at hroom
  simp only [step, hs] at h
  split at h
  · cases h
  split at h
  · cases h
  · simp [deliver, Channel.put?, hroom] at h

/-- A reader waits on a clock that waits for it; if it is held up, this is one of the times. -/
structure Bides (w : World σ) (held : Nat → Prop) (f : Floor σ) (t : Tail) (time : Nat) : Prop where
  step : t.step w f = none
  timer : ∀ due, t.timer? = some due → f.now < due → time ≤ due
  held : t.IsHeldUp f → held f.now

/-- A step of a run for one reader, on a clock that may wait for the tasks. -/
inductive Beat (w : World σ) (waits : Prop) (held : Nat → Prop) :
    Floor σ × Tail → Floor σ × Tail → Prop
  | turn {f : Floor σ} {t : Tail} {r : Floor σ × Tail} (h : Turn w f t r) :
    Beat w waits held (f, t) r
  | beside {f g : Floor σ} {t : Tail} (hnow : g.now = f.now)
    (hdeeds : deedsOf t.service g.journal = deedsOf t.service f.journal)
    (hhalted : f.isHalted = true → g.isHalted = true)
    (hclosed : f.channel.isClosed = true → g.channel.isClosed = true) :
    Beat w waits held (f, t) (g, t)
  | elapse {f : Floor σ} {t : Tail} {time : Nat} (hle : f.now ≤ time)
    (h : waits → f.now < time → t.Bides w held f time) :
    Beat w waits held (f, t) ({ f with now := time }, t)

/-- What another reader does is no deed of this one. -/
theorem Turn.deedsOf_other {w : World σ} {f : Floor σ} {t : Tail} {r : Floor σ × Tail}
    (h : Turn w f t r) {service : String} (hs : service ≠ t.service) :
    deedsOf service r.1.journal = deedsOf service f.journal := by
  rw [deedsOf, h.happeningsOf_other hs, deedsOf]

/-- The world takes its turn. -/
theorem Beat.world {w : World σ} {waits : Prop} {held : Nat → Prop} (f : Floor σ) (t : Tail)
    (act : Act) (world : σ) :
    Beat w waits held (f, t) ({ f with world }.apply act, t) := by
  obtain ⟨hchannel, -, hnow, -, -⟩ := Floor.apply_eq { f with world } act
  refine .beside hnow (Floor.deedsOf_apply ..) (fun h => ?_) (fun h => by rwa [hchannel])
  simp only [Floor.isHalted, Bool.or_eq_true] at h ⊢
  cases act with
  | cancel => exact .inl rfl
  | post | nothing => exact h

end Tail

/-! ### A reader by itself -/

namespace Observation

variable {w : World σ} {waits : Prop} {held : Nat → Prop} {v v' : Observation σ}

theorem beat_of_move (hm : Move w v v') (h : waits → v.floor.now < v'.floor.now →
    v.tail.Bides w held v.floor v'.floor.now) :
    Tail.Beat w waits held (v.floor, v.tail) (v'.floor, v'.tail) := by
  cases hm with
  | @world act world _ => exact .world ..
  | turn hx => exact .turn hx
  | observe hclosed => exact .beside rfl rfl id hclosed
  | elapse hle => exact .elapse hle h

theorem now_of_observe (h : v.observeStep = some v') : v'.floor.now = v.floor.now := by
  unfold observeStep at h
  split at h
  · cases h
    unfold decideStep
    dsimp only
    split <;> rfl
  · split at h
    · cases h
      rfl
    · cases h
  · unfold takeStep at h
    dsimp only at h
    split at h
    · cases h
      rfl
    · split at h
      · cases h
        rfl
      · cases h
  · cases h

/-- Tasks take no time. -/
theorem now_of_step {k : Nat} (h : (schedule w).step v k = some v') :
    v'.floor.now = v.floor.now := by
  match k, h with
  | 0, h =>
    simp only [schedule, worldStep, Floor.worldStep, Option.map_map, Option.map_eq_some_iff] at h
    obtain ⟨⟨act, world⟩, -, rfl⟩ := h
    exact (Floor.apply_eq { v.floor with world } act).2.2.1
  | 1, h =>
    obtain ⟨x, hx, rfl⟩ := Option.map_eq_some_iff.1 h
    exact (Tail.turn_of_step hx).floor_eq.1
  | _ + 2, h => exact now_of_observe h

/-- The clock waits for the reader. -/
theorem beat_of_step (hs : (schedule w).Step v v')
    (hheld : v.tail.IsHeldUp v.floor → held v.floor.now) :
    Tail.Beat w True held (v.floor, v.tail) (v'.floor, v'.tail) := by
  refine beat_of_move (move_of_drift hs.drift) fun _ hlt => ?_
  cases hs with
  | move k _ hk => exact absurd (now_of_step hk) hlt.ne'
  | wait hidle ht =>
    refine ⟨Option.map_eq_none_iff.1 (hidle 1 (show 1 < 3 by decide)), fun due hdue hlt => ?_, hheld⟩
    refine (schedule w).next?_le ht ?_ hlt
    show due ∈ (w.due v.floor.world).toList ++ v.tail.timer?.toList ++ (timer? v.observer).toList
    simp [hdue]

/-- What a reader keeps from beat to beat holds of it in every run. -/
theorem keep_of_drifts {P : Floor σ → Tail → Prop} {start : Observation σ}
    (hd : (schedule w).Drifts start v)
    (hP : ∀ p q, P p.1 p.2 → Tail.Beat w False held p q → P q.1 q.2)
    (h0 : P start.floor start.tail) : P v.floor v.tail :=
  hd.keep (P := fun v => P v.floor v.tail)
    (fun _ _ hv hd => hP _ _ hv (beat_of_move (move_of_drift hd) False.elim)) h0

/-- The times of a run at which the reader was held up. -/
def heldUpIn (run : Nat → Observation σ) (n time : Nat) : Prop :=
  ∃ k ≤ n, (run k).floor.now = time ∧ (run k).tail.IsHeldUp (run k).floor

/-- So it does on a clock that waits, and then all states of the run count. -/
theorem keep_on_path {P : Floor σ → Tail → Prop} {run : Nat → Observation σ} {n : Nat}
    (hrun : ∀ k < n, (schedule w).Step (run k) (run (k + 1)))
    (hP : ∀ p q, P p.1 p.2 → Tail.Beat w True (heldUpIn run n) p q → P q.1 q.2)
    (h0 : P (run 0).floor (run 0).tail) : P (run n).floor (run n).tail := by
  suffices h : ∀ k ≤ n, P (run k).floor (run k).tail from h n le_rfl
  intro k hk
  induction k with
  | zero => exact h0
  | succ k ih =>
    exact hP _ _ (ih (Nat.le_of_succ_le hk))
      (beat_of_step (hrun k hk) fun hheld => ⟨k, Nat.le_of_succ_le hk, rfl, hheld⟩)

end Observation

/-! ### A reader in a weave -/

namespace Weave

variable {w : World σ} {waits : Prop} {held : Nat → Prop} {r : Request} {v v' : Weave σ} {i : Nat}

/-- Each reader goes on from where it was. -/
theorem beat_of_move (hw : Woven r v) (hm : Move w v v') {u : Tail} (hu : v'.tails[i]? = some u)
    (h : ∀ t, v.tails[i]? = some t → waits → v.floor.now < v'.floor.now →
      t.Bides w held v.floor v'.floor.now) :
    ∃ t, v.tails[i]? = some t ∧ Tail.Beat w waits held (v.floor, t) (v'.floor, u) := by
  cases hm with
  | @world act world _ => exact ⟨u, hu, .world ..⟩
  | @turn j t x hj hx =>
    rcases getElem?_set_turn hu with ⟨rfl, rfl⟩ | ⟨hne, hi⟩
    · exact ⟨t, hj, .turn hx⟩
    · refine ⟨u, hi, .beside hx.floor_eq.1 (hx.deedsOf_other (hw.service_ne hj hi hne)) ?_ ?_⟩
      · rw [hx.isHalted_eq]
        exact id
      · rw [hx.delivers.isClosed]
        exact id
  | stop => exact ⟨u, hu, .beside rfl rfl (fun _ => by simp [Floor.isHalted]) id⟩
  | @print c channel hc =>
    refine ⟨u, hu, .beside rfl rfl (fun hh => ?_) fun hclosed => ?_⟩
    · simp only [Floor.isHalted, Bool.or_eq_true] at hh ⊢
      exact hh.imp_right .inl
    · obtain ⟨-, -, hchannel⟩ := Collator.step_channel hc
      show channel.isClosed = true
      rw [hchannel]
      exact hclosed
  | elapse hle => exact ⟨u, hu, .elapse hle (h u hu)⟩

/-- The clock waits for every reader. -/
theorem beat_of_step (hw : Woven r v) (hs : (schedule w).Step v v') {u : Tail}
    (hu : v'.tails[i]? = some u)
    (hheld : ∀ t, v.tails[i]? = some t → t.IsHeldUp v.floor → held v.floor.now) :
    ∃ t, v.tails[i]? = some t ∧ Tail.Beat w True held (v.floor, t) (v'.floor, u) := by
  refine beat_of_move hw (move_of_drift hs.drift) hu fun t ht _ hlt => ?_
  cases hs with
  | move k _ hk => exact absurd (now_of_step hk).1 hlt.ne'
  | wait hidle htime =>
    have hi : i < v.tails.length := (List.getElem?_eq_some_iff.1 ht).1
    refine ⟨?_, fun due hdue hlt => (schedule w).next?_le htime ?_ hlt, hheld t ht⟩
    · by_contra hmoves
      obtain ⟨x, hx⟩ := Option.ne_none_iff_exists'.1 hmoves
      have hidle := hidle (i + 1) (show i + 1 < v.tails.length + 3 by omega)
      rw [step_reader ht (Tail.turn_of_step hx)] at hidle
      cases hidle
    · have hmem : due ∈ v.tails.filterMap Tail.timer? :=
        List.mem_filterMap.2 ⟨t, List.mem_of_getElem? ht, hdue⟩
      show due ∈ (w.due v.floor.world).toList ++ v.tails.filterMap Tail.timer? ++
        v.collator.flushAt.toList
      simp [hmem]

/-- What the readers keep from beat to beat holds of each of them in every run. -/
theorem keep_of_drifts {P : Floor σ → Tail → Prop} {start : Weave σ} (hstart : Woven r start)
    (hd : (schedule w).Drifts start v)
    (hP : ∀ p q, P p.1 p.2 → Tail.Beat w False held p q → P q.1 q.2)
    (h0 : ∀ t ∈ start.tails, P start.floor t) : ∀ t ∈ v.tails, P v.floor t := by
  have hall : Woven r v ∧ ∀ t ∈ v.tails, P v.floor t := by
    refine hd.keep (P := fun v => Woven r v ∧ ∀ t ∈ v.tails, P v.floor t) ?_ ⟨hstart, h0⟩
    intro a b ⟨hw, ha⟩ hd
    have hm := move_of_drift hd
    refine ⟨hw.move hm, fun u hu => ?_⟩
    obtain ⟨i, hi⟩ := List.mem_iff_getElem?.1 hu
    obtain ⟨t, ht, hbeat⟩ := beat_of_move hw hm hi fun _ _ => False.elim
    exact hP _ _ (ha t (List.mem_of_getElem? ht)) hbeat
  exact hall.2

/-- The times of a run at which one of the readers was held up. -/
def heldUpIn (run : Nat → Weave σ) (n i time : Nat) : Prop :=
  ∃ k ≤ n, ∃ t, (run k).tails[i]? = some t ∧ (run k).floor.now = time ∧ t.IsHeldUp (run k).floor

theorem keep_on_path {P : Floor σ → Tail → Prop} {run : Nat → Weave σ} {n : Nat}
    (hstart : Woven r (run 0)) (hrun : ∀ k < n, (schedule w).Step (run k) (run (k + 1)))
    (hP : ∀ p q, P p.1 p.2 → Tail.Beat w True (heldUpIn run n i) p q → P q.1 q.2)
    (h0 : ∀ t ∈ (run 0).tails, P (run 0).floor t) :
    ∀ t, (run n).tails[i]? = some t → P (run n).floor t := by
  have hall : ∀ k ≤ n, Woven r (run k) ∧
      ∀ t : Tail, (run k).tails[i]? = some t → P (run k).floor t := by
    intro k hk
    induction k with
    | zero => exact ⟨hstart, fun t ht => h0 t (List.mem_of_getElem? ht)⟩
    | succ k ih =>
      obtain ⟨hw, hone⟩ := ih (Nat.le_of_succ_le hk)
      refine ⟨hw.move (move_of_drift (hrun k hk).drift), fun u hu => ?_⟩
      have hheld : ∀ t : Tail, (run k).tails[i]? = some t → t.IsHeldUp (run k).floor →
          heldUpIn run n i (run k).floor.now := fun t ht h =>
        ⟨k, Nat.le_of_succ_le hk, t, ht, rfl, h⟩
      obtain ⟨t, ht, hbeat⟩ := beat_of_step hw (hrun k hk) hu hheld
      exact hP _ _ (hone t ht) hbeat
  exact (hall n le_rfl).2

end Weave

end LogWeave.Run

import LogWeave.Proofs.Run.Sighting

/-! How far apart the attempts of a reader are.

Unless a restart has been told in between, an attempt comes the retry delay after the last one was
refused, or the reconnect delay after its stream was over (`Tail.paced_of_drifts`). So with delays
of their own there are only so many attempts in so much time, whatever the sources do
(`Tail.apart_of_drifts`). The check of a tuning does not look at these two delays, and without them a
reader may try again and again while no time passes (`Observation.spins`). -/
namespace LogWeave.Run

/-- Neither an attempt nor a notice that the source runs again. -/
def Event.isMinor (service : String) (shared : Bool) (e : Event) : Bool :=
  !e.isOpening && !e.isRestart service shared

section Rested

variable (s : Streaming) (service : String) (shared : Bool)

/-- The attempt that was refused or whose stream was over then may be followed by another at this
time. -/
def Eases (time : Nat) (x : Happening) : Prop :=
  (x.event = .refused ∧ x.time + s.retryDelay ≤ time) ∨
    ∃ how, x.event = .ended how ∧ x.time + s.reconnectDelay ≤ time

/-- The last attempt may be followed by another at this time, unless a restart was told since. -/
def Rested (time : Nat) (past : List Happening) : Prop :=
  ∀ before h between, past = before ++ h :: between → h.event.isOpening = true →
    (∀ x ∈ between, x.event.isMinor service shared = true) → ∃ x ∈ between, Eases s time x

/-- So is it with every attempt. -/
def Spaced (past : List Happening) : Prop :=
  ∀ before h after, past = before ++ h :: after → h.event.isOpening = true →
    Rested s service shared h.time before

end Rested

section Lemmas

variable {s : Streaming} {service : String} {shared : Bool} {time time' : Nat}
  {past : List Happening} {x : Happening}

theorem Event.isMinor_iff {e : Event} : e.isMinor service shared = true ↔
    e.isOpening = false ∧ e.isRestart service shared = false := by
  simp [isMinor]

theorem Eases.mono (h : Eases s time x) (hle : time ≤ time') : Eases s time' x :=
  h.imp (fun ⟨he, ht⟩ => ⟨he, ht.trans hle⟩) fun ⟨how, he, ht⟩ => ⟨how, he, ht.trans hle⟩

namespace Rested

theorem nil : Rested s service shared time [] := by simp [Rested]

theorem mono (h : Rested s service shared time past) (hle : time ≤ time') :
    Rested s service shared time' past := by
  intro before g between heq hg hminor
  obtain ⟨x, hx, heases⟩ := h before g between heq hg hminor
  exact ⟨x, hx, heases.mono hle⟩

/-- What is no attempt comes after all that has eased the last one, or eases it, or tells of a
restart. -/
theorem concat (hno : x.event.isOpening = false)
    (h : x.event.isMinor service shared = true →
      Rested s service shared time past ∨ Eases s time x) :
    Rested s service shared time (past ++ [x]) := by
  intro before g between heq hg hminor
  rcases concat_eq_append_cons heq with ⟨rfl, -, -⟩ | ⟨rest, rfl, hpast⟩
  · rw [hg] at hno
    cases hno
  · rcases h (hminor x (by simp)) with hrested | heases
    · obtain ⟨y, hy, heases⟩ := hrested before g rest hpast hg fun y hy => hminor y (by simp [hy])
      exact ⟨y, by simp [hy], heases⟩
    · exact ⟨x, by simp, heases⟩

theorem minor (h : Rested s service shared time past) (hno : x.event.isOpening = false) :
    Rested s service shared time (past ++ [x]) := concat hno fun _ => .inl h

theorem eased (hno : x.event.isOpening = false) (h : Eases s time x) :
    Rested s service shared time (past ++ [x]) := concat hno fun _ => .inr h

/-- After a restart nothing has to be waited for. -/
theorem restart (h : x.event.isRestart service shared = true) :
    Rested s service shared time (past ++ [x]) := by
  have hno : x.event.isOpening = false := by
    cases he : x.event with
    | opened => simp [he, Event.isRestart] at h
    | _ => rfl
  exact concat hno fun hminor => by simp [Event.isMinor, h] at hminor

end Rested

namespace Spaced

theorem nil : Spaced s service shared [] := by simp [Spaced]

theorem concat (h : Spaced s service shared past)
    (hx : x.event.isOpening = true → Rested s service shared x.time past) :
    Spaced s service shared (past ++ [x]) := by
  intro before g after heq hg
  rcases concat_eq_append_cons heq with ⟨rfl, rfl, -⟩ | ⟨rest, -, hpast⟩
  · exact hx hg
  · exact h before g rest hpast hg

theorem minor (h : Spaced s service shared past) (hno : x.event.isOpening = false) :
    Spaced s service shared (past ++ [x]) :=
  h.concat fun hx => by
    rw [hx] at hno
    cases hno

end Spaced

end Lemmas

/-! ### How many attempts there are -/

/-- The attempts from a time on. -/
def opensSince (since : Nat) (past : List Happening) : Nat :=
  past.countP fun x => x.event.isOpening && since ≤ x.time

/-- The restarts that are told from a time on. -/
def restartsSince (service : String) (shared : Bool) (since : Nat) (past : List Happening) : Nat :=
  past.countP fun x => x.event.isRestart service shared && since ≤ x.time

section Counting

variable {s : Streaming} {service : String} {shared : Bool} {since : Nat}
  {past front later after : List Happening} {g : Happening}

theorem opensSince_append : opensSince since (past ++ later) =
    opensSince since past + opensSince since later := List.countP_append

theorem restartsSince_append : restartsSince service shared since (past ++ later) =
    restartsSince service shared since past + restartsSince service shared since later :=
  List.countP_append

theorem opensSince_eq_zero (h : ∀ x ∈ past, x.event.isOpening = true → x.time < since) :
    opensSince since past = 0 := by
  refine List.countP_eq_zero.2 fun x hx => ?_
  cases ho : x.event.isOpening with
  | false => simp
  | true => simpa using h x hx ho

/-- The last attempt, if there has been one. -/
theorem last_attempt (past : List Happening) :
    (∀ x ∈ past, x.event.isOpening = false) ∨
      ∃ before h between, past = before ++ h :: between ∧ h.event.isOpening = true ∧
        ∀ x ∈ between, x.event.isOpening = false := by
  induction past using List.reverseRecOn with
  | nil => exact .inl (by simp)
  | append_singleton past x ih =>
    cases hx : x.event.isOpening with
    | true => exact .inr ⟨past, x, [], rfl, hx, by simp⟩
    | false =>
      rcases ih with hnone | ⟨before, h, between, rfl, hh, hbetween⟩
      · exact .inl (by simpa [or_imp, forall_and, hx] using hnone)
      · exact .inr ⟨before, h, between ++ [x], by simp, hh,
          by simpa [or_imp, forall_and, hx] using hbetween⟩

/-- If the last attempt was made before a time, all were. -/
theorem opensSince_last {before between : List Happening} {h : Happening}
    (hsorted : (before ++ h :: between).Pairwise fun x y => x.time ≤ y.time)
    (hh : h.event.isOpening = true) (hbetween : ∀ x ∈ between, x.event.isOpening = false) :
    opensSince since (before ++ h :: between) =
      if since ≤ h.time then opensSince since before + 1 else 0 := by
  have hnone : opensSince since between = 0 :=
    opensSince_eq_zero fun x hx ho => by simp [hbetween x hx] at ho
  rw [← List.singleton_append, opensSince_append, opensSince_append, hnone]
  split
  · rename_i hsince
    have hone : opensSince since [h] = 1 := by simp [opensSince, hh, hsince]
    rw [hone]
  · rename_i hsince
    have hearlier : opensSince since before = 0 := opensSince_eq_zero fun x hx _ => by
      have hle : x.time ≤ h.time := (List.pairwise_append.1 hsorted).2.2 x hx h (by simp)
      omega
    have hzero : opensSince since [h] = 0 := by simp [opensSince, hsince]
    rw [hearlier, hzero]

/-- Between two attempts a restart is told, or the shorter of the two delays goes by. -/
theorem Spaced.gap {before between : List Happening} {h : Happening}
    (hspaced : Spaced s service shared past) (hpast : past = before ++ h :: between ++ g :: after)
    (htimes : ∀ x ∈ between, h.time ≤ x.time) (hh : h.event.isOpening = true)
    (hg : g.event.isOpening = true) (hbetween : ∀ x ∈ between, x.event.isOpening = false) :
    (∃ x ∈ between, x.event.isRestart service shared = true) ∨
      h.time + min s.retryDelay s.reconnectDelay ≤ g.time := by
  by_cases hrestart : ∃ x ∈ between, x.event.isRestart service shared = true
  · exact .inl hrestart
  · have hminor : ∀ x ∈ between, x.event.isMinor service shared = true := fun x hx =>
      Event.isMinor_iff.2 ⟨hbetween x hx, by simpa using fun hr => hrestart ⟨x, hx, hr⟩⟩
    obtain ⟨x, hx, heases⟩ := hspaced _ g after hpast hg before h between rfl hh hminor
    have hle := htimes x hx
    rcases heases with ⟨-, hdelay⟩ | ⟨how, -, hdelay⟩
    · exact .inr (by omega)
    · exact .inr (by omega)

/-- Before an attempt there are so many others as restarts that were told, and delays that have gone
by. -/
theorem Spaced.opensSince_le (hspaced : Spaced s service shared past)
    (hsorted : past.Pairwise fun x y => x.time ≤ y.time) (hpast : past = front ++ g :: after)
    (hg : g.event.isOpening = true) (hsince : since ≤ g.time) :
    min s.retryDelay s.reconnectDelay * opensSince since front ≤
      min s.retryDelay s.reconnectDelay * restartsSince service shared since front +
        (g.time - since) := by
  generalize hd : min s.retryDelay s.reconnectDelay = d
  induction hn : front.length using Nat.strong_induction_on generalizing front g after with
  | h n ih =>
    rcases last_attempt front with hnone | ⟨before, h, between, rfl, hh, hbetween⟩
    · rw [opensSince_eq_zero fun x hx ho => by simp [hnone x hx] at ho]
      exact Nat.zero_le _
    obtain ⟨hfront, -, hacross⟩ := List.pairwise_append.1 (hpast ▸ hsorted)
    rw [opensSince_last hfront hh hbetween]
    split
    · rename_i hlate
      have hle : h.time ≤ g.time := hacross h (by simp) g (by simp)
      have htimes : ∀ x ∈ between, h.time ≤ x.time :=
        (List.pairwise_cons.1 (List.pairwise_append.1 hfront).2.1).1
      have hfirst : d * opensSince since before ≤
          d * restartsSince service shared since before + (h.time - since) :=
        ih before.length (by simp [← hn]) (by rw [hpast, List.append_assoc, List.cons_append]) hh
          hlate rfl
      rw [restartsSince_append, Nat.mul_add, Nat.mul_add, Nat.mul_one]
      rcases hspaced.gap hpast htimes hh hg hbetween with ⟨x, hx, hrestart⟩ | hgap
      · have hsome : 0 < restartsSince service shared since (h :: between) := by
          refine List.countP_pos_iff.2 ⟨x, List.mem_cons_of_mem _ hx, ?_⟩
          simpa [hrestart] using hlate.trans (htimes x hx)
        have hcost : d ≤ d * restartsSince service shared since (h :: between) :=
          Nat.le_mul_of_pos_right d hsome
        omega
      · rw [hd] at hgap
        omega
    · exact Nat.zero_le _

/-- **So many attempts take so much time**: each one after the first costs the shorter delay or a
restart. -/
theorem Spaced.attempts_le (hspaced : Spaced s service shared past)
    (hsorted : past.Pairwise fun x y => x.time ≤ y.time) {now : Nat}
    (hnow : ∀ x ∈ past, x.time ≤ now) :
    min s.retryDelay s.reconnectDelay * opensSince since past ≤
      min s.retryDelay s.reconnectDelay * (1 + restartsSince service shared since past) +
        (now - since) := by
  rcases last_attempt past with hnone | ⟨before, h, between, rfl, hh, hbetween⟩
  · rw [opensSince_eq_zero fun x hx ho => by simp [hnone x hx] at ho]
    exact Nat.zero_le _
  rw [opensSince_last hsorted hh hbetween]
  split
  · rename_i hlate
    have hfirst := hspaced.opensSince_le hsorted rfl hh hlate
    have hle : h.time ≤ now := hnow h (by simp)
    simp only [restartsSince_append, Nat.mul_add, Nat.mul_one] at hfirst ⊢
    omega
  · exact Nat.zero_le _

end Counting

/-! ### Readers take their time -/

namespace Tail

variable {σ : Type} {w : World σ} {f : Floor σ} {t : Tail} {r : Floor σ × Tail} {s : Streaming}
  {now : Nat} {past : List Happening}

/-- When a reader may make another attempt, where it stands. -/
def Rests (s : Streaming) (now : Nat) (past : List Happening) (t : Tail) : Prop :=
  match t.stage with
  | .starting => Rested s t.service t.shared now past
  | .pausing resumeAt => Rested s t.service t.shared resumeAt past
  | .sending _ .reconnect => Rested s t.service t.shared (now + s.reconnectDelay) past
  | _ => True

/-- A reader stays where it is, time passes, and what happens beside is no attempt. -/
theorem Rests.keep (h : t.Rests s now past) {now' : Nat} {past' : List Happening}
    (hnow : now ≤ now') (hpast : ∀ time, Rested s t.service t.shared time past →
      Rested s t.service t.shared time past') : t.Rests s now' past' := by
  unfold Rests at h ⊢
  split at h
  · exact hpast _ (h.mono hnow)
  · exact hpast _ h
  · exact hpast _ (h.mono (Nat.add_le_add_right hnow _))
  · trivial

/-- A reader that has taken its time between its attempts. -/
structure Unhurried (s : Streaming) (now : Nat) (past : List Happening) (t : Tail) : Prop where
  retryDelay : t.retryDelay = s.retryDelay
  reconnectDelay : t.reconnectDelay = s.reconnectDelay
  apt : t.Apt
  spaced : Spaced s t.service t.shared past
  rests : t.Rests s now past

/-- The delays of a reader are its own all along. -/
theorem Turn.delays_eq (h : Turn w f t r) :
    r.2.retryDelay = t.retryDelay ∧ r.2.reconnectDelay = t.reconnectDelay := by
  cases h with
  | take => unfold observe; split <;> exact ⟨rfl, rfl⟩
  | _ => exact ⟨rfl, rfl⟩

/-- An attempt is made when its time has come. -/
theorem Turn.spaced (h : Turn w f t r)
    (ht : t.Unhurried s f.now (happeningsOf t.service f.journal)) :
    Spaced s t.service t.shared (happeningsOf t.service r.1.journal) := by
  have noted (f : Floor σ) (event : Event) := happeningsOf_note t.service f event
  have minor {x : Happening} (hno : x.event.isOpening = false) := ht.spaced.minor hno
  have hrests := ht.rests
  cases h with
  | start hs =>
    simp only [Rests, hs] at hrests
    exact (noted _ (.opened _)).symm ▸ ht.spaced.concat fun _ => hrests
  | postpone | refuse => exact (noted f .refused).symm ▸ minor rfl
  | finish | fail => exact (noted f (.ended _)).symm ▸ minor rfl
  | @deliver _ _ channel => exact (noted { f with channel } (.sent _)).symm ▸ minor rfl
  | exit => exact (noted f (.exited _)).symm ▸ minor rfl
  | wake => exact (noted _ (.restarted _)).symm ▸ minor rfl
  | leave | retire => exact (noted _ .returned).symm ▸ minor rfl
  | _ => exact ht.spaced

/-- Where a reader goes next it has taken its time. -/
theorem Turn.rests (h : Turn w f t r)
    (ht : t.Unhurried s f.now (happeningsOf t.service f.journal)) :
    r.2.Rests s r.1.now (happeningsOf t.service r.1.journal) := by
  have noted (f : Floor σ) (event : Event) := happeningsOf_note t.service f event
  have hrests := ht.rests
  have concluded (how : StreamEnd) : (t.conclude w f how).2.Rests s f.now
      (happeningsOf t.service (t.conclude w f how).1.journal) := by
    have heases : Eases s (f.now + s.reconnectDelay) ⟨f.now, t.service, .ended how⟩ :=
      .inr ⟨how, rfl, le_rfl⟩
    cases hf : t.follow with
    | false => simp [conclude, send, Rests, hf]
    | true =>
      simp only [conclude, send, Rests, hf, if_true]
      exact (noted f (.ended how)).symm ▸ Rested.eased rfl heases
  cases h with
  | postpone =>
    have heases : Eases s (f.now + t.retryDelay) ⟨f.now, t.service, .refused⟩ :=
      .inl ⟨rfl, by rw [ht.retryDelay]⟩
    exact (noted f .refused).symm ▸ Rested.eased rfl heases
  | finish => exact concluded .finished
  | @fail why => exact concluded (.broken why.message)
  | @deliver a next channel hs =>
    rw [noted { f with channel }]
    cases ht.apt.tells hs with
    | finished | broken =>
      simp only [Rests, hs] at hrests
      simp only [Rests, proceed, ht.reconnectDelay]
      exact hrests.minor rfl
    | restarted => exact Rested.restart (by simp [Event.isRestart]; rfl)
    | line | last | exited => trivial
  | retry hs hh hw hr =>
    simp only [Rests, hs] at hrests
    exact hrests.mono hr
  | queue => exact hrests
  | take => unfold observe; split <;> trivial
  | _ => trivial

namespace Unhurried

theorem new (s : Streaming) (shared : Bool) (bulletin : Bulletin) (number now : Nat)
    (service : String) : (Tail.new s shared bulletin number service).Unhurried s now [] :=
  ⟨rfl, rfl, apt_new .., .nil, .nil⟩

theorem turn (h : t.Unhurried s f.now (happeningsOf t.service f.journal)) (hx : Turn w f t r) :
    r.2.Unhurried s r.1.now (happeningsOf t.service r.1.journal) := by
  obtain ⟨-, hservice, -, -, hshared⟩ := hx.tail_eq
  obtain ⟨hretry, hreconnect⟩ := hx.delays_eq
  refine ⟨hretry.trans h.retryDelay, hreconnect.trans h.reconnectDelay, hx.apt h.apt, ?_,
    hx.rests h⟩
  rw [hservice, hshared]
  exact hx.spaced h

/-- Time passes. -/
theorem later (h : t.Unhurried s now past) {time : Nat} (hle : now ≤ time) :
    t.Unhurried s time past :=
  ⟨h.retryDelay, h.reconnectDelay, h.apt, h.spaced, h.rests.keep hle fun _ => id⟩

/-- What is posted is no attempt. -/
theorem posted (h : t.Unhurried s now past) {posts : List Happening}
    (hposts : ∀ x ∈ posts, ∃ status, x.event = .posted status) :
    t.Unhurried s now (past ++ posts) := by
  induction posts generalizing past with
  | nil => rwa [List.append_nil]
  | cons x rest ih =>
    obtain ⟨⟨status, hx⟩, hrest⟩ := List.forall_mem_cons.1 hposts
    have hno : x.event.isOpening = false := by rw [hx]; rfl
    rw [List.append_cons]
    exact ih ⟨h.retryDelay, h.reconnectDelay, h.apt, h.spaced.minor hno,
      h.rests.keep le_rfl fun _ hrested => hrested.minor hno⟩ hrest

end Unhurried

end Tail

/-! ### In every run -/

/-- What has happened is written down in order. -/
structure Floor.Chronological {σ : Type} (f : Floor σ) : Prop where
  sorted : f.journal.Pairwise fun x y => x.time ≤ y.time
  past : ∀ x ∈ f.journal, x.time ≤ f.now

namespace Floor.Chronological

variable {σ : Type} {w : World σ} {f g : Floor σ} {t : Tail} {r : Floor σ × Tail}

theorem append (h : f.Chronological) {later : List Happening} (hnow : g.now = f.now)
    (hj : g.journal = f.journal ++ later) (hlater : ∀ x ∈ later, x.time = f.now) :
    g.Chronological := by
  refine ⟨?_, fun x hx => ?_⟩
  · rw [hj]
    refine List.pairwise_append.2 ⟨h.sorted, ?_, fun x hx y hy => ?_⟩
    · exact List.pairwise_of_forall_mem_list fun x hx y hy => by rw [hlater x hx, hlater y hy]
    · exact (h.past x hx).trans (hlater y hy).ge
  · rw [hj] at hx
    rw [hnow]
    exact (List.mem_append.1 hx).elim (h.past x) fun hx => (hlater x hx).le

theorem turn (h : f.Chronological) (hx : Tail.Turn w f t r) : r.1.Chronological := by
  obtain ⟨later, hj, hlater⟩ := hx.writes
  exact h.append hx.floor_eq.1 hj fun x hx => (hlater x hx).2.1

theorem apply (h : f.Chronological) (act : Act) : (f.apply act).Chronological := by
  cases act with
  | post source status => exact h.append rfl rfl (by simp)
  | cancel | nothing => exact ⟨h.sorted, h.past⟩

theorem happeningsOf (h : f.Chronological) (service : String) :
    (Run.happeningsOf service f.journal).Pairwise (fun x y => x.time ≤ y.time) ∧
      ∀ x ∈ Run.happeningsOf service f.journal, x.time ≤ f.now :=
  ⟨h.sorted.filter _, fun x hx => h.past x (List.mem_filter.1 hx).1⟩

end Floor.Chronological

/-- A reader takes its time, on a floor where all is written down in order. -/
structure Tail.Timed {σ : Type} (s : Streaming) (f : Floor σ) (t : Tail) : Prop where
  chronological : f.Chronological
  unhurried : t.Unhurried s f.now (happeningsOf t.service f.journal)

theorem Tail.timed_new {σ : Type} (s : Streaming) (shared : Bool) (bulletin : Bulletin)
    (number : Nat) (service : String) (capacity tails : Nat) (cancelled : Bool) (world : σ) :
    (Tail.new s shared bulletin number service).Timed s
      (.new capacity tails bulletin cancelled world) where
  chronological := ⟨.nil, by simp [Floor.new]⟩
  unhurried := .new ..

theorem Tail.timed_law {σ : Type} (w : World σ) (s : Streaming) : Law w (Tail.Timed s) where
  turn h hx := by
    refine ⟨h.chronological.turn hx, ?_⟩
    rw [hx.tail_eq.2.1]
    exact h.unhurried.turn hx
  other h hx hne := by
    refine ⟨h.chronological.turn hx, ?_⟩
    rw [hx.floor_eq.1, hx.happeningsOf_other hne]
    exact h.unhurried
  world {f} {t} act world h := by
    have hordered : Floor.Chronological { f with world } :=
      ⟨h.chronological.sorted, h.chronological.past⟩
    obtain ⟨posts, hj, hposts⟩ := Floor.happeningsOf_apply t.service { f with world } act
    have hnow : ({ f with world }.apply act).now = f.now := (Floor.apply_eq _ _).2.2.1
    refine ⟨hordered.apply act, ?_⟩
    rw [hnow, hj]
    exact h.unhurried.posted hposts
  beside _ _ h := ⟨⟨h.chronological.sorted, h.chronological.past⟩, h.unhurried⟩
  elapse h hle := ⟨⟨h.chronological.sorted, fun x hx => (h.chronological.past x hx).trans hle⟩,
    h.unhurried.later hle⟩

/-- How far apart the attempts of a reader are. -/
structure Tail.Paced {σ : Type} (s : Streaming) (f : Floor σ) (t : Tail) : Prop where
  /-- Unless a restart is told in between, the next attempt waits for the delay after the refusal or
  the end of the last one. -/
  rested : ∀ before h between g after, happeningsOf t.service f.journal =
      before ++ h :: between ++ g :: after →
    h.event.isOpening = true → g.event.isOpening = true →
    (∀ x ∈ between, x.event.isMinor t.service t.shared = true) →
    ∃ x ∈ between, h.time ≤ x.time ∧ Eases s g.time x
  /-- From any time on each attempt after the first costs a restart, or the shorter delay. -/
  attempts : ∀ since, min s.retryDelay s.reconnectDelay *
      opensSince since (happeningsOf t.service f.journal) ≤
    min s.retryDelay s.reconnectDelay *
      (1 + restartsSince t.service t.shared since (happeningsOf t.service f.journal)) +
        (f.now - since)

theorem Tail.Timed.paced {σ : Type} {s : Streaming} {f : Floor σ} {t : Tail} (h : t.Timed s f) :
    t.Paced s f := by
  obtain ⟨hsorted, hpast⟩ := h.chronological.happeningsOf t.service
  refine ⟨fun before g between g' after heq hg hg' hminor => ?_, fun since => ?_⟩
  · obtain ⟨x, hx, heases⟩ := h.unhurried.spaced _ g' after heq hg' before g between rfl hg hminor
    rw [heq] at hsorted
    have hfront := (List.pairwise_append.1 (List.pairwise_append.1 hsorted).1).2.1
    exact ⟨x, hx, (List.pairwise_cons.1 hfront).1 x hx, heases⟩
  · exact h.unhurried.spaced.attempts_le hsorted hpast

/-- **Readers take their time**, whatever the world opens and posts and whenever it cancels, by
themselves and among others. -/
theorem Tail.paced_of_drifts {σ : Type} (w : World σ) :
    (∀ (s : Streaming) (shared : Bool) (service : String) (capacity : Nat)
      (rest most : Option Nat) (bulletin : Bulletin) (cancelled : Bool) (world : σ)
      (v : Observation σ), (Observation.schedule w).Drifts
        (.new s shared service capacity rest most bulletin cancelled world) v →
      v.tail.Paced s v.floor) ∧
    (∀ (r : Request) (bulletin : Bulletin) (sink : Sink) (cancelled : Bool) (world : σ)
      (v : Weave σ), (Weave.schedule w).Drifts (.new r bulletin sink cancelled world) v →
      ∀ t ∈ v.tails, t.Paced r.streaming v.floor) := by
  have h (s : Streaming) := (Tail.timed_law w s).everywhere
  exact ⟨fun _ _ _ _ _ _ _ _ _ _ hd => ((h _).1 hd (timed_new ..)).paced,
    fun _ _ _ _ _ _ hd t ht => ((h _).2 hd (fun _ _ => timed_new ..) t ht).paced⟩

/-! ### What the tuning has to do with it -/

/-- Time passes between the attempts of a reader. -/
structure Tail.Apart {σ : Type} (delay : Nat) (f : Floor σ) (t : Tail) : Prop where
  /-- Two attempts in a row are not made at the same time, unless a restart is told in between. -/
  strictly : ∀ before h between g after, happeningsOf t.service f.journal =
      before ++ h :: between ++ g :: after →
    h.event.isOpening = true → g.event.isOpening = true →
    (∀ x ∈ between, x.event.isMinor t.service t.shared = true) → h.time < g.time
  /-- In so much time there are only so many attempts. -/
  attempts : ∀ since, opensSince since (happeningsOf t.service f.journal) ≤
    1 + restartsSince t.service t.shared since (happeningsOf t.service f.journal) +
      (f.now - since) / delay

theorem Tail.Paced.apart {σ : Type} {s : Streaming} {f : Floor σ} {t : Tail} (h : t.Paced s f)
    (hretry : 0 < s.retryDelay) (hreconnect : 0 < s.reconnectDelay) :
    t.Apart (min s.retryDelay s.reconnectDelay) f := by
  refine ⟨fun before g between g' after heq hg hg' hminor => ?_, fun since => ?_⟩
  · obtain ⟨x, -, hle, heases⟩ := h.rested before g between g' after heq hg hg' hminor
    rcases heases with ⟨-, hdelay⟩ | ⟨how, -, hdelay⟩ <;> omega
  · have hdelay : 0 < min s.retryDelay s.reconnectDelay := lt_min hretry hreconnect
    have hle := h.attempts since
    generalize min s.retryDelay s.reconnectDelay = d at hle hdelay
    rw [← Nat.sub_le_iff_le_add', Nat.le_div_iff_mul_le hdelay, Nat.mul_comm, Nat.mul_sub]
    omega

/-- **With delays between the attempts no reader spins.** For every tuning that the check accepts,
and that has a delay after a refusal and one after the end of a stream. -/
theorem Tail.apart_of_drifts {σ : Type} (w : World σ) (tuning : Tuning) (follow previous : Bool) :
    tuning.check = .ok () → tuning.retryDelay ≠ 0 → tuning.reconnectDelay ≠ 0 →
    (∀ (shared : Bool) (service : String) (capacity : Nat) (rest most : Option Nat)
      (bulletin : Bulletin) (cancelled : Bool) (world : σ) (v : Observation σ),
      (Observation.schedule w).Drifts (.new (.ofTuning tuning follow previous) shared service
        capacity rest most bulletin cancelled world) v →
      v.tail.Apart (min tuning.retryDelay.toNat tuning.reconnectDelay.toNat) v.floor) ∧
    (∀ (r : Request) (bulletin : Bulletin) (sink : Sink) (cancelled : Bool) (world : σ)
      (v : Weave σ), r.streaming = .ofTuning tuning follow previous →
      (Weave.schedule w).Drifts (.new r bulletin sink cancelled world) v →
      ∀ t ∈ v.tails, t.Apart (min tuning.retryDelay.toNat tuning.reconnectDelay.toNat)
        v.floor) := by
  intro _ hretry hreconnect
  have pos {n : UInt64} (hn : n ≠ 0) : 0 < n.toNat :=
    Nat.pos_of_ne_zero fun h0 => hn (UInt64.toNat_inj.1 h0)
  refine ⟨fun shared service capacity rest most bulletin cancelled world v h => ?_,
    fun r bulletin sink cancelled world v hr h t ht => ?_⟩
  · exact ((Tail.paced_of_drifts w).1 _ _ _ _ _ _ _ _ _ v h).apart (pos hretry) (pos hreconnect)
  · have hpaced := (Tail.paced_of_drifts w).2 r bulletin sink cancelled world v h t ht
    rw [hr] at hpaced
    exact hpaced.apart (pos hretry) (pos hreconnect)

/-- A service whose log does not open at first, breaks off and ends, and that exits and comes back.
The window is wide, so that nothing is printed before the end. -/
theorem Tail.apart_of_drifts_troubled :
    ∃ tuning : Tuning, tuning.check = .ok () ∧ tuning.retryDelay ≠ 0 ∧ tuning.reconnectDelay ≠ 0 ∧
    (∃ v : Observation (Nat × Nat), (Observation.schedule Weave.troubled).Drifts
        (.new (.ofTuning tuning true false) false "web" 16 none none .new false (0, 0)) v ∧
      v.tail.Apart 500 v.floor ∧ opensOf "web" v.floor.journal = 4) ∧
    ∃ (r : Request) (v : Weave (Nat × Nat)), r.streaming = .ofTuning tuning true false ∧
      (Weave.schedule Weave.troubled).Drifts (.new r .new .endless false (0, 0)) v ∧
      (∀ t ∈ v.tails, t.Apart 500 v.floor) ∧ opensOf "web" v.floor.journal = 4 :=
  let tuning : Tuning := { Tuning.standard with window := 100000 }
  let r : Request := ⟨["web", "db"], .ofTuning tuning true false, by decide, by decide⟩
  let m := Observation.schedule Weave.troubled
  let m' := Weave.schedule Weave.troubled
  let u := m.runFrom 5500 200 0
    (.new (.ofTuning tuning true false) false "web" 16 none none .new false (0, 0))
  let v := m'.runFrom 5500 200 0 (.new r .new .endless false (0, 0))
  have hu := (m.reachable_runFrom 5500 200 0 .start).drifts
  have hv := (m'.reachable_runFrom 5500 200 0 .start).drifts
  have apart := Tail.apart_of_drifts Weave.troubled tuning true false rfl (by decide) (by decide)
  ⟨tuning, rfl, by decide, by decide, ⟨u, hu, apart.1 _ _ _ _ _ _ _ _ u hu, by decide +kernel⟩,
    r, v, rfl, hv, apart.2 r _ _ _ _ v rfl hv, by decide +kernel⟩

namespace Observation

/-- A world in which no log can be opened. -/
def refusing : World Unit where
  openLog s _ _ := (⟨0, .error (.transport "refused")⟩, s)
  act _ _ _ := none
  due _ := none
  clock _ := .epoch

/-- A world in which every stream ends at once. -/
def fleeting : World Unit := { refusing with openLog := fun s _ _ => (.stream [], s) }

/-- A reader about to open its log again, after so many attempts, all at the time zero. -/
structure Spinning (n : Nat) (v : Observation Unit) : Prop where
  stage : v.tail.stage = .starting
  follow : v.tail.follow = true
  retryDelay : v.tail.retryDelay = 0
  isHalted : v.floor.isHalted = false
  exited : v.tail.watch.exited? v.floor.bulletin = none
  now : v.floor.now = 0
  journal : ∀ x ∈ v.floor.journal, x.time = 0 ∧ x.event.sent? = none
  opens : opensOf v.tail.service v.floor.journal = n

theorem drift_of_turn {σ : Type} {w : World σ} {v : Observation σ} {x : Floor σ × Tail}
    (h : Tail.Turn w v.floor v.tail x) :
    (schedule w).Drift v { v with floor := x.1, tail := x.2 } :=
  .move 1 (by simp [schedule]) (by simp [schedule, tailStep, Tail.step_of_turn h])

/-- Another attempt is refused, and no time has passed. -/
theorem Spinning.next {n : Nat} {v : Observation Unit} (h : Spinning n v) :
    ∃ v', (schedule refusing).Drifts v v' ∧ v'.tail.service = v.tail.service ∧
      Spinning (n + 1) v' := by
  have hstart := Tail.Turn.start (w := refusing) h.stage h.isHalted
  let opened : Observation Unit :=
    { v with floor := (v.tail.start refusing v.floor).1, tail := (v.tail.start refusing v.floor).2 }
  have hpostpone : Tail.Turn refusing opened.floor opened.tail _ :=
    .postpone rfl h.isHalted (Nat.le_refl _) h.follow
  let paused : Observation Unit := { opened with
    floor := opened.floor.note opened.tail.service .refused
    tail := { opened.tail with stage := .pausing (opened.floor.now + opened.tail.retryDelay) } }
  have hnow : paused.floor.now + v.tail.retryDelay ≤ paused.floor.now := by rw [h.retryDelay]; rfl
  have hretry : Tail.Turn refusing paused.floor paused.tail _ :=
    .retry rfl h.isHalted h.exited hnow
  have hj : paused.floor.journal = v.floor.journal ++
      [⟨v.floor.now, v.tail.service, .opened v.tail.attempt.query⟩] ++
      [⟨v.floor.now, v.tail.service, .refused⟩] := rfl
  refine ⟨{ paused with tail := { paused.tail with stage := .starting } },
    .tail (.tail (.single (drift_of_turn hstart)) (drift_of_turn hpostpone)) (drift_of_turn hretry),
    rfl, rfl, h.follow, h.retryDelay, h.isHalted, h.exited, h.now, fun x hx => ?_, ?_⟩
  · simp only [hj, List.mem_append, List.mem_singleton] at hx
    rcases hx with (hx | rfl) | rfl
    · exact h.journal x hx
    · exact ⟨h.now, rfl⟩
    · exact ⟨h.now, rfl⟩
  · show opensOf v.tail.service paused.floor.journal = n + 1
    rw [hj, ← h.opens]
    simp only [opensOf, eventsOf_append, eventsOf_self, List.countP_append]
    rfl

/-- **The check of a tuning lets through one with which a reader spins.** A reader whose log cannot
be opened tries as often as one likes, and one whose streams end at once tries again, all at one time
and with no restart told. -/
theorem spins : ∃ tuning : Tuning, tuning.check = .ok () ∧
    (∀ n, ∃ v : Observation Unit, (schedule refusing).Drifts
        (.new (.ofTuning tuning true false) false "web" 16 none none .new false ()) v ∧
      opensOf "web" v.floor.journal = n ∧
      ∀ x ∈ v.floor.journal, x.time = 0 ∧ x.event.sent? = none) ∧
    ∃ v : Observation Unit, (schedule fleeting).Drifts
        (.new (.ofTuning tuning true false) false "web" 16 none none .new false ()) v ∧
      opensOf "web" v.floor.journal = 3 ∧ restartsSince "web" false 0 v.floor.journal = 0 ∧
      ∀ x ∈ v.floor.journal, x.time = 0 := by
  refine ⟨{ Tuning.standard with retryDelay := 0, reconnectDelay := 0 }, rfl, fun n => ?_, ?_⟩
  · suffices h : ∃ v : Observation Unit, (schedule refusing).Drifts
        (.new (.ofTuning { Tuning.standard with retryDelay := 0, reconnectDelay := 0 } true false)
          false "web" 16 none none .new false ()) v ∧ v.tail.service = "web" ∧ Spinning n v by
      obtain ⟨v, hv, hservice, hspins⟩ := h
      exact ⟨v, hv, hservice ▸ hspins.opens, hspins.journal⟩
    induction n with
    | zero => exact ⟨_, .refl, rfl, rfl, rfl, rfl, rfl, rfl, rfl, by simp [new, Floor.new], rfl⟩
    | succ n ih =>
      obtain ⟨v, hv, hservice, hspins⟩ := ih
      obtain ⟨v', hv', hsame, hspins'⟩ := hspins.next
      exact ⟨v', hv.trans hv', hsame.trans hservice, hspins'⟩
  · let m := schedule fleeting
    refine ⟨m.runFrom 0 12 0 (.new _ false "web" 16 none none .new false ()),
      (m.reachable_runFrom 0 12 0 .start).drifts, ?_⟩
    decide +kernel

end Observation

end LogWeave.Run

import LogWeave.Proofs.Run.Beat
import LogWeave.Proofs.Run.Pacing

/-! When a reader opens its log again.

A reader that follows makes its next attempt when it is due (`Due`): the retry delay after the last
one was refused, or the reconnect delay after it was told that its stream is over. There is one
other reason for an attempt: it was told that the source has exited, and then that it runs again
(`CameBack`). No attempt comes early, whatever the clock does (`Tail.Retries`), and on a clock that
waits for the tasks none comes late, unless the channel has no room for the line that tells how the
stream ended (`Tail.RetriesOnTime`). A reader that does not follow makes one attempt. -/
namespace LogWeave.Run

/-- A notice that the source has exited. -/
def Event.isExit (service : String) (shared : Bool) : Event → Bool
  | .sent a => a.notice = some (Grammar.noticeText service shared exitedNotice)
  | _ => false

/-- When the next attempt is due, after what was done last. -/
inductive Due (s : Streaming) (deeds : List Happening) : Nat → Prop
  | refused {front : List Happening} {x : Happening} (h : deeds = front ++ [x])
    (hx : x.event = .refused) : Due s deeds (x.time + s.retryDelay)
  | told {front : List Happening} {e x : Happening} {how : StreamEnd} {a : Arrival}
    (h : deeds = front ++ [e, x]) (he : e.event = .ended how) (hx : x.event = .sent a) :
    Due s deeds (x.time + s.reconnectDelay)

/-- It was told last that the source has exited and that it runs again. -/
def CameBack (service : String) (shared : Bool) (deeds : List Happening) : Prop :=
  ∃ front x y z startedAt, deeds = front ++ [x, y, z] ∧ x.event.isExit service shared = true ∧
    y.event = .restarted startedAt ∧ z.event.isRestart service shared = true

section Deeds

variable (s : Streaming) (waits : Prop) (held : Nat → Prop) (service : String) (shared : Bool)

/-- What calls for an attempt at a time: it is the first, or the next is due, or the source came
back. -/
def CallsAt (time : Nat) (deeds : List Happening) : Prop :=
  (∀ x ∈ deeds, x.event.isOpening = false) ∨
    (∃ due, Due s deeds due ∧ due ≤ time ∧ (waits → time = due)) ∨ CameBack service shared deeds

/-- What is done after all that was done before. -/
structure Follows (before : List Happening) (x : Happening) : Prop where
  opened : x.event.isOpening = true → CallsAt s waits service shared x.time before
  /-- The end of a stream is told at once, unless the reader is held up. -/
  told : ∀ front e how a, before = front ++ [e] → e.event = .ended how → x.event = .sent a →
    e.time ≤ x.time ∧ (waits → x.time = e.time ∨ held e.time)

/-- Each deed follows those before it. -/
def InTurn (deeds : List Happening) : Prop :=
  ∀ before x after, deeds = before ++ x :: after →
    Follows s waits held service shared before x

end Deeds

section Lemmas

variable {s : Streaming} {waits : Prop} {held : Nat → Prop} {service : String} {shared : Bool}
  {deeds : List Happening} {x : Happening} {due : Nat}

theorem InTurn.nil : InTurn s waits held service shared [] := by simp [InTurn]

theorem InTurn.concat (h : InTurn s waits held service shared deeds)
    (hx : Follows s waits held service shared deeds x) :
    InTurn s waits held service shared (deeds ++ [x]) := by
  intro before y after heq
  rcases concat_eq_append_cons heq with ⟨rfl, rfl, -⟩ | ⟨rest, -, hdeeds⟩
  · exact hx
  · exact h before y rest hdeeds

/-- What is neither an attempt nor a line may follow anything. -/
theorem Follows.of_silent (hno : x.event.isOpening = false) (hsent : x.event.sent? = none) :
    Follows s waits held service shared deeds x := by
  refine ⟨fun h => ?_, fun _ _ _ a _ _ h => ?_⟩
  · rw [hno] at h
    cases h
  · rw [h] at hsent
    cases hsent

/-- The last deed says when the next attempt is due. -/
theorem Due.of_concat (h : Due s (deeds ++ [x]) due) :
    (x.event = .refused ∧ due = x.time + s.retryDelay) ∨
      ((∃ a, x.event = .sent a) ∧ due = x.time + s.reconnectDelay ∧
        ∃ front e how, deeds = front ++ [e] ∧ e.event = .ended how) := by
  cases h with
  | @refused front y hdeeds hy =>
    obtain ⟨-, hlast⟩ := List.append_inj' hdeeds rfl
    obtain rfl := List.singleton_inj.1 hlast
    exact .inl ⟨hy, rfl⟩
  | @told front e y how a hdeeds he hy =>
    have hsplit : deeds ++ [x] = (front ++ [e]) ++ [y] := by rw [hdeeds, ← List.append_cons]
    obtain ⟨hfront, hlast⟩ := List.append_inj' hsplit rfl
    obtain rfl := List.singleton_inj.1 hlast
    exact .inr ⟨⟨a, hy⟩, rfl, front, e, how, hfront, he⟩

/-- After any other deed no attempt is due. -/
theorem not_due_of_silent (hno : x.event ≠ .refused) (hsent : x.event.sent? = none) :
    ¬ Due s (deeds ++ [x]) due := by
  intro h
  rcases h.of_concat with ⟨hx, -⟩ | ⟨⟨a, ha⟩, -⟩
  · exact hno hx
  · rw [ha] at hsent
    cases hsent

end Lemmas

namespace Tail

variable {σ : Type} {w : World σ} {f : Floor σ} {t : Tail} {r : Floor σ × Tail} {s : Streaming}
  {waits : Prop} {held : Nat → Prop} {now : Nat} {deeds : List Happening}

theorem isExit_notice (t : Tail) (receivedAt : Time.Instant) : Event.isExit t.service t.shared
    (.sent (.notify t.service (t.noticeText exitedNotice) receivedAt)) = true := by
  simp only [Event.isExit, decide_eq_true_eq]
  rfl

theorem isRestart_notice (t : Tail) (receivedAt : Time.Instant) : Event.isRestart t.service t.shared
    (.sent (.notify t.service (t.noticeText restartedNotice) receivedAt)) = true := by
  simp only [Event.isRestart, decide_eq_true_eq]
  rfl

/-- What a reader has done where it stands. -/
def Poised (s : Streaming) (waits : Prop) (held : Nat → Prop) (now : Nat) (deeds : List Happening)
    (t : Tail) : Prop :=
  match t.stage with
  | .starting => CallsAt s waits t.service t.shared now deeds
  | .pausing due => Due s deeds due ∧ (waits → now ≤ due)
  | .sending _ .reconnect => ∃ front e how, deeds = front ++ [e] ∧ e.event = .ended how ∧
    e.time ≤ now ∧ (waits → now = e.time ∨ held e.time)
  | .leaving true | .dormant => ∃ front x, deeds = front ++ [x] ∧
    x.event.isExit t.service t.shared = true
  | .sending _ .restart => ∃ front x y startedAt, deeds = front ++ [x, y] ∧
    x.event.isExit t.service t.shared = true ∧ y.event = .restarted startedAt
  | _ => True

/-- Where a reader stands that is to make another attempt. -/
structure Ready (s : Streaming) (waits : Prop) (now : Nat) (deeds : List Happening) (t : Tail) :
    Prop where
  due : ∀ due, Due s deeds due →
    t.stage = .pausing due ∨ t.stage = .starting ∧ (waits → now ≤ due)
  ended : ∀ front e how, deeds = front ++ [e] → e.event = .ended how →
    ∃ a, t.stage = .sending a .reconnect

/-- A reader that follows and makes its attempts when they are due. -/
structure Steady (s : Streaming) (waits : Prop) (held : Nat → Prop) (f : Floor σ) (t : Tail) :
    Prop where
  retryDelay : t.retryDelay = s.retryDelay
  reconnectDelay : t.reconnectDelay = s.reconnectDelay
  follow : t.follow = true
  apt : t.Apt
  inTurn : InTurn s waits held t.service t.shared (deedsOf t.service f.journal)
  poised : t.Poised s waits held f.now (deedsOf t.service f.journal)
  ready : f.isHalted = false → f.channel.isClosed = false →
    t.Ready s waits f.now (deedsOf t.service f.journal)

/-- After a deed that is neither a refusal, a line nor the end of a stream no attempt is to come. -/
theorem Ready.of_silent {x : Happening} (hno : x.event ≠ .refused) (hsent : x.event.sent? = none)
    (hgoes : ∀ how, x.event ≠ .ended how) : t.Ready s waits now (deeds ++ [x]) := by
  refine ⟨fun due h => absurd h (not_due_of_silent hno hsent), fun front e how heq he => ?_⟩
  obtain ⟨-, hlast⟩ := List.append_inj' heq rfl
  obtain rfl := List.singleton_inj.1 hlast
  exact absurd he (hgoes how)

/-- A reader that is neither about to make an attempt nor to tell of the end of a stream goes on. -/
theorem Ready.goOn (h : t.Ready s waits now deeds) {u : Tail}
    (hpause : ∀ due, t.stage ≠ .pausing due) (hstart : t.stage ≠ .starting)
    (hsend : ∀ a, t.stage ≠ .sending a .reconnect) : u.Ready s waits now deeds := by
  refine ⟨fun due hdue => ?_, fun front e how heq he => ?_⟩
  · rcases h.due due hdue with hs | ⟨hs, -⟩
    · exact absurd hs (hpause due)
    · exact absurd hs hstart
  · obtain ⟨a, hs⟩ := h.ended front e how heq he
    exact absurd hs (hsend a)

namespace Turn

/-- What a reader does follows what it did before. -/
theorem inTurn (h : Turn w f t r) (ht : t.Steady s waits held f) :
    InTurn s waits held t.service t.shared (deedsOf t.service r.1.journal) := by
  have noted (f : Floor σ) (event : Event) (h : event.isPost = false) :=
    deedsOf_note t.service f h
  have silent {x : Happening} (hno : x.event.isOpening = false) (hsent : x.event.sent? = none) :=
    ht.inTurn.concat (.of_silent hno hsent)
  have hpoised := ht.poised
  cases h with
  | start hs =>
    simp only [Poised, hs] at hpoised
    have hfollows : Follows s waits held t.service t.shared (deedsOf t.service f.journal)
        ⟨f.now, t.service, .opened t.attempt.query⟩ :=
      ⟨fun _ => hpoised, fun _ _ _ _ _ _ h => by cases h⟩
    exact (noted _ (.opened _) rfl).symm ▸ ht.inTurn.concat hfollows
  | postpone => exact (noted f .refused rfl).symm ▸ silent rfl rfl
  | refuse _ _ _ hf => simp [ht.follow] at hf
  | finish | fail => exact (noted f (.ended _) rfl).symm ▸ silent rfl rfl
  | @deliver a next channel hs hh hc =>
    rw [noted { f with channel } (.sent a) rfl]
    refine ht.inTurn.concat ⟨fun h => by simp [Event.isOpening] at h, ?_⟩
    intro front e how _ heq he _
    -- Only the line that tells of it comes after the end of a stream.
    obtain ⟨a', hs'⟩ := (ht.ready hh hc).ended front e how heq he
    simp only [Poised, hs'] at hpoised
    obtain ⟨front', e', -, heq', -, hle, htold⟩ := hpoised
    obtain ⟨-, hlast⟩ := List.append_inj' (heq.symm.trans heq') rfl
    obtain rfl := List.singleton_inj.1 hlast
    exact ⟨hle, htold⟩
  | exit => exact (noted f (.exited _) rfl).symm ▸ silent rfl rfl
  | wake => exact (noted _ (.restarted _) rfl).symm ▸ silent rfl rfl
  | leave | retire => exact (noted _ .returned rfl).symm ▸ silent rfl rfl
  | _ => exact ht.inTurn

/-- Where a reader goes next it has done what it takes. -/
theorem poised (h : Turn w f t r) (ht : t.Steady s waits held f) :
    r.2.Poised s waits held r.1.now (deedsOf t.service r.1.journal) := by
  have noted (f : Floor σ) (event : Event) (h : event.isPost = false) :=
    deedsOf_note t.service f h
  have hpoised := ht.poised
  have concluded (how : StreamEnd) : (t.conclude w f how).2.Poised s waits held f.now
      (deedsOf t.service (t.conclude w f how).1.journal) := by
    simp only [conclude, send, Poised, ht.follow, if_true]
    exact ⟨_, _, how, noted f (.ended how) rfl, rfl, le_rfl, fun _ => .inl rfl⟩
  cases h with
  | postpone =>
    refine ⟨?_, fun _ => Nat.le_add_right _ _⟩
    rw [noted f .refused rfl, ht.retryDelay]
    exact .refused rfl rfl
  | refuse _ _ _ hf => simp [ht.follow] at hf
  | finish => exact concluded .finished
  | @fail why => exact concluded (.broken why.message)
  | @deliver a next channel hs =>
    rw [noted { f with channel } (.sent a) rfl]
    cases ht.apt.tells hs with
    | finished | broken =>
      simp only [Poised, hs] at hpoised
      obtain ⟨front, e, how, heq, he, -, -⟩ := hpoised
      refine ⟨?_, fun _ => Nat.le_add_right _ _⟩
      rw [ht.reconnectDelay, heq, List.append_assoc]
      exact .told rfl he rfl
    | exited => exact ⟨_, _, rfl, t.isExit_notice _⟩
    | restarted _ receivedAt =>
      simp only [Poised, hs] at hpoised
      obtain ⟨front, x, y, startedAt, heq, hx, hy⟩ := hpoised
      refine .inr (.inr ⟨front, x, y, ⟨f.now, t.service, .sent _⟩, startedAt, ?_, hx, hy,
        t.isRestart_notice receivedAt⟩)
      rw [heq, List.append_assoc]
      rfl
    | line | last => trivial
  | retry hs hh hw hr =>
    simp only [Poised, hs] at hpoised
    obtain ⟨hdue, hnow⟩ := hpoised
    exact .inr (.inl ⟨_, hdue, hr, fun hwaits => le_antisymm (hnow hwaits) hr⟩)
  | rest hs =>
    simp only [Poised, hs] at hpoised
    exact hpoised
  | @wake watch hs =>
    simp only [Poised, hs] at hpoised
    obtain ⟨front, x, heq, hx⟩ := hpoised
    refine ⟨front, x, ⟨f.now, t.service, .restarted watch.instance?⟩, _, ?_, hx, rfl⟩
    exact (noted _ (.restarted _) rfl).trans (by rw [heq, List.append_assoc]; rfl)
  | queue => exact hpoised
  | take => unfold observe; split <;> trivial
  | _ => trivial

/-- Whoever is to make another attempt stands where it will. -/
theorem ready (h : Turn w f t r) (ht : t.Steady s waits held f) (hh : r.1.isHalted = false)
    (hc : r.1.channel.isClosed = false) :
    r.2.Ready s waits r.1.now (deedsOf t.service r.1.journal) := by
  rw [h.isHalted_eq] at hh
  rw [h.delivers.isClosed] at hc
  have noted (f : Floor σ) (event : Event) (h : event.isPost = false) :=
    deedsOf_note t.service f h
  have hready := ht.ready hh hc
  have concluded (how : StreamEnd) : (t.conclude w f how).2.Ready s waits f.now
      (deedsOf t.service (t.conclude w f how).1.journal) := by
    refine (noted f (.ended how) rfl).symm ▸ ⟨fun due hdue => ?_, fun _ _ _ _ _ => ?_⟩
    · exact absurd hdue (not_due_of_silent (by simp) rfl)
    · simp [conclude, send, ht.follow]
  cases h with
  | start => exact (noted _ (.opened _) rfl).symm ▸ .of_silent (by simp) rfl (by simp)
  | postpone =>
    refine (noted f .refused rfl).symm ▸ ⟨fun due hdue => .inl ?_, fun front e how heq he => ?_⟩
    · rcases hdue.of_concat with ⟨-, rfl⟩ | ⟨⟨a, ha⟩, -⟩
      · rw [ht.retryDelay]
      · cases ha
    · obtain ⟨-, hlast⟩ := List.append_inj' heq rfl
      obtain rfl := List.singleton_inj.1 hlast
      cases he
  | refuse _ _ _ hf => simp [ht.follow] at hf
  | finish => exact concluded .finished
  | @fail why => exact concluded (.broken why.message)
  | @deliver a next channel hs =>
    rw [noted { f with channel } (.sent a) rfl]
    refine ⟨fun due hdue => .inl ?_, fun front e how heq he => ?_⟩
    · rcases hdue.of_concat with ⟨hno, -⟩ | ⟨-, rfl, front, e, how, heq, he⟩
      · cases hno
      · obtain ⟨a', hs'⟩ := hready.ended front e how heq he
        rw [hs'] at hs
        cases hs
        rw [← ht.reconnectDelay]
        rfl
    · obtain ⟨-, hlast⟩ := List.append_inj' heq rfl
      obtain rfl := List.singleton_inj.1 hlast
      cases he
  | exit => exact (noted f (.exited _) rfl).symm ▸ .of_silent (by simp) rfl (by simp)
  | @retry resumeAt hs =>
    have hpoised := ht.poised
    simp only [Poised, hs] at hpoised
    refine ⟨fun due hdue => .inr ⟨rfl, fun hwaits => ?_⟩, fun front e how heq he => ?_⟩
    · rcases hready.due due hdue with hs' | ⟨hs', -⟩
      · rw [hs'] at hs
        cases hs
        exact hpoised.2 hwaits
      · rw [hs'] at hs
        cases hs
    · obtain ⟨a, hs'⟩ := hready.ended front e how heq he
      rw [hs'] at hs
      cases hs
  | wake => exact (noted _ (.restarted _) rfl).symm ▸ .of_silent (by simp) rfl (by simp)
  | leave | retire => exact (noted _ .returned rfl).symm ▸ .of_silent (by simp) rfl (by simp)
  | queue => exact hready
  | giveUp _ hg =>
    rcases hg with hg | ⟨hg, -⟩
    · rw [hh] at hg
      cases hg
    · rw [hc] at hg
      cases hg
  | connect hs | skip hs | hold hs | resume hs | take hs | rest hs =>
    exact hready.goOn (by simp [hs]) (by simp [hs]) (by simp [hs])

end Turn

/-- A reader that is about to make an attempt does not wait. -/
theorem step_starting (w : World σ) (f : Floor σ) (hs : t.stage = .starting) :
    t.step w f ≠ none := by
  simp only [step, hs]
  split <;> simp

/-- A reader that waits in a pause has still to wait. -/
theorem lt_of_pausing {due : Nat} (h : t.step w f = none) (hs : t.stage = .pausing due) :
    f.now < due := by
  by_contra hle
  simp only [step, hs, pause, Nat.not_lt.1 hle, if_true] at h
  split at h
  · cases h
  · split at h <;> cases h

/-- On a clock that waits the reader stays where it is to be. -/
theorem Poised.elapse {time : Nat} (h : t.Poised s waits held f.now deeds) (hlt : f.now < time)
    (hbides : waits → t.Bides w held f time) : t.Poised s waits held time deeds := by
  unfold Poised at h ⊢
  split at h
  · rename_i hs
    refine h.imp_right (.imp_left fun ⟨due, hdue, hle, _⟩ => ?_)
    exact ⟨due, hdue, hle.trans hlt.le, fun hwaits =>
      absurd (hbides hwaits).step (step_starting w f hs)⟩
  · rename_i due hs
    refine ⟨h.1, fun hwaits => (hbides hwaits).timer due (by simp [timer?, hs]) ?_⟩
    exact lt_of_pausing (hbides hwaits).step hs
  · rename_i hs
    obtain ⟨front, e, how, heq, he, hle, htold⟩ := h
    refine ⟨front, e, how, heq, he, hle.trans hlt.le, fun hwaits => .inr ?_⟩
    rcases htold hwaits with hnow | hheld
    · rw [← hnow]
      exact (hbides hwaits).held (isHeldUp_of_waits (hbides hwaits).step hs)
    · exact hheld
  · exact h
  · exact h
  · exact h
  · trivial

theorem Ready.elapse {time : Nat} (h : t.Ready s waits f.now deeds)
    (hbides : waits → t.Bides w held f time) : t.Ready s waits time deeds := by
  refine ⟨fun due hdue => (h.due due hdue).imp_right fun ⟨hs, _⟩ => ⟨hs, fun hwaits => ?_⟩, h.ended⟩
  exact absurd (hbides hwaits).step (step_starting w f hs)

namespace Steady

theorem new (s : Streaming) (hs : s.follows = true) (shared : Bool) (bulletin : Bulletin)
    (number : Nat) (service : String) (capacity tails : Nat) (cancelled : Bool) (world : σ) :
    (Tail.new s shared bulletin number service).Steady s waits held
      (.new capacity tails bulletin cancelled world) where
  retryDelay := rfl
  reconnectDelay := rfl
  follow := hs
  apt := apt_new ..
  inTurn := .nil
  poised := .inl (List.forall_mem_nil _)
  ready _ _ := by
    refine ⟨fun due h => ?_, fun front e _ heq _ => by simp [deedsOf, Floor.new, happeningsOf] at heq⟩
    cases h with
    | refused heq | told heq => simp [deedsOf, Floor.new, happeningsOf] at heq

/-- **A reader that follows stays steady**, whatever it lives through. -/
theorem beat {p q : Floor σ × Tail} (hp : p.2.Steady s waits held p.1)
    (h : Beat w waits held p q) : q.2.Steady s waits held q.1 := by
  cases h with
  | turn hx =>
    obtain ⟨-, hservice, hfollow, -, hshared⟩ := hx.tail_eq
    obtain ⟨hretry, hreconnect⟩ := hx.delays_eq
    refine ⟨hretry.trans hp.retryDelay, hreconnect.trans hp.reconnectDelay,
      hfollow.trans hp.follow, hx.apt hp.apt, ?_, ?_, fun hh hc => ?_⟩
    · rw [hservice, hshared]
      exact hx.inTurn hp
    · rw [hservice]
      exact hx.poised hp
    · rw [hservice]
      exact hx.ready hp hh hc
  | @beside f g t hnow hdeeds hhalted hclosed =>
    refine ⟨hp.retryDelay, hp.reconnectDelay, hp.follow, hp.apt, ?_, ?_, fun hh hc => ?_⟩
    · rw [hdeeds]
      exact hp.inTurn
    · rw [hdeeds, hnow]
      exact hp.poised
    · have hc : g.channel.isClosed = false := hc
      rw [hdeeds, hnow]
      exact hp.ready (by simpa [hh] using hhalted) (by simpa [hc] using hclosed)
  | @elapse f t time hle hbides =>
    rcases hle.lt_or_eq with hlt | rfl
    · have hbides : waits → t.Bides w held f time := fun hwaits => hbides hwaits hlt
      exact ⟨hp.retryDelay, hp.reconnectDelay, hp.follow, hp.apt, hp.inTurn,
        hp.poised.elapse hlt hbides, fun hh hc => (hp.ready hh hc).elapse hbides⟩
    · exact hp

end Steady

/-- A reader that does not follow makes one attempt. -/
structure Single (f : Floor σ) (t : Tail) : Prop where
  follow : t.follow = false
  apt : t.Apt
  once : opensOf t.service f.journal ≤ 1
  first : t.stage = .starting → opensOf t.service f.journal = 0

namespace Single

theorem new (s : Streaming) (hs : s.follows = false) (shared : Bool) (bulletin : Bulletin)
    (number : Nat) (service : String) (capacity tails : Nat) (cancelled : Bool) (world : σ) :
    (Tail.new s shared bulletin number service).Single
      (.new capacity tails bulletin cancelled world) :=
  ⟨hs, apt_new .., Nat.zero_le _, fun _ => rfl⟩

/-- The attempt is made when it is the first, and what is no attempt leads to none. -/
theorem turn (h : t.Single f) (hx : Turn w f t r) :
    opensOf t.service r.1.journal ≤ 1 ∧
      (r.2.stage = .starting → opensOf t.service r.1.journal = 0) := by
  have noted (f : Floor σ) (event : Event) := opensOf_note t.service f event
  have hapt := h.apt
  have honce := h.once
  cases hx with
  | start hs =>
    refine ⟨((noted _ (.opened _)).trans ?_).le, fun hs => by simp [Tail.start] at hs⟩
    rw [h.first hs]
    rfl
  | refuse => exact ⟨(noted f .refused).trans_le honce, fun hs => by simp [send] at hs⟩
  | finish | fail =>
    exact ⟨(noted f (.ended _)).trans_le honce, fun hs => by simp [conclude, send] at hs⟩
  | @deliver a next channel hs =>
    refine ⟨(noted { f with channel } (.sent a)).trans_le honce, fun hs' => ?_⟩
    cases h.apt.tells hs with
    | restarted hf => simp [h.follow] at hf
    | line | finished | broken | last | exited => cases hs'
  | postpone _ _ _ hf => simp [h.follow] at hf
  | exit hs | retry hs => simp [Apt, hs, h.follow] at hapt
  | wake hs => simp [Apt, hs, h.follow] at hapt
  | rest _ hf => simp [h.follow] at hf
  | leave | retire => exact ⟨(noted _ .returned).trans_le honce, fun hs => by cases hs⟩
  | queue => exact ⟨honce, h.first⟩
  | take | connect | skip | hold | resume | giveUp => exact ⟨honce, fun hs => by cases hs⟩

theorem beat {p q : Floor σ × Tail} (hp : p.2.Single p.1) (h : Beat w waits held p q) :
    q.2.Single q.1 := by
  cases h with
  | turn hx =>
    obtain ⟨-, hservice, hfollow, -, -⟩ := hx.tail_eq
    obtain ⟨honce, hfirst⟩ := hp.turn hx
    refine ⟨hfollow.trans hp.follow, hx.apt hp.apt, ?_, ?_⟩ <;> rw [hservice]
    · exact honce
    · exact hfirst
  | @beside f g t hnow hdeeds hhalted hclosed =>
    have hopens : opensOf t.service g.journal = opensOf t.service f.journal := by
      rw [opensOf_eq, opensOf_eq, hdeeds]
    exact ⟨hp.follow, hp.apt, hopens.trans_le hp.once, fun hs => hopens.trans (hp.first hs)⟩
  | elapse => exact ⟨hp.follow, hp.apt, hp.once, hp.first⟩

end Single

/-! ### In every run -/

/-- Between two attempts it was told that the source has exited, and then that it runs again. -/
def TellsReturn (service : String) (shared : Bool) (between : List Happening) : Prop :=
  ∃ front x mid y back, between = front ++ x :: (mid ++ y :: back) ∧
    x.event.isExit service shared = true ∧ y.event.isRestart service shared = true

/-- No attempt of a reader comes early. -/
structure Retries (s : Streaming) (f : Floor σ) (t : Tail) : Prop where
  /-- Between two attempts in a row goes the delay after the refusal or the end of the first, unless
  it was told that the source has exited and runs again. -/
  spaced : ∀ before h between g after, deedsOf t.service f.journal =
      before ++ h :: between ++ g :: after →
    h.event.isOpening = true → g.event.isOpening = true →
    (∀ x ∈ between, x.event.isOpening = false) →
    (∃ x ∈ between, x.event = .refused ∧ x.time + s.retryDelay ≤ g.time) ∨
    (∃ e ∈ between, (∃ how, e.event = .ended how) ∧ e.time + s.reconnectDelay ≤ g.time) ∨
    TellsReturn t.service t.shared between
  /-- Whoever does not follow makes no second attempt. -/
  once : t.follow = false → opensOf t.service f.journal ≤ 1

/-- No attempt of a reader comes late. -/
structure RetriesOnTime (s : Streaming) (held : Nat → Prop) (f : Floor σ) (t : Tail) : Prop where
  /-- The second of two attempts in a row is made as soon as the delay is over, unless the reader was
  held up when the stream ended. -/
  exact : ∀ before h between g after, deedsOf t.service f.journal =
      before ++ h :: between ++ g :: after →
    h.event.isOpening = true → g.event.isOpening = true →
    (∀ x ∈ between, x.event.isOpening = false) →
    (∃ x ∈ between, x.event = .refused ∧ g.time = x.time + s.retryDelay) ∨
    (∃ e ∈ between, (∃ how, e.event = .ended how) ∧
      (g.time = e.time + s.reconnectDelay ∨ held e.time)) ∨
    TellsReturn t.service t.shared between
  /-- After a refusal nothing else is waited for. -/
  refused : t.follow = true → f.isHalted = false → f.channel.isClosed = false →
    ∀ front x, deedsOf t.service f.journal = front ++ [x] → x.event = .refused →
      f.now ≤ x.time + s.retryDelay
  /-- Nor after the end of a stream, but for room to tell of it. -/
  ended : t.follow = true → f.isHalted = false → f.channel.isClosed = false →
    ∀ front e rest how, deedsOf t.service f.journal = front ++ e :: rest → e.event = .ended how →
      (rest = [] ∨ ∃ x a, rest = [x] ∧ x.event = .sent a) →
      f.now ≤ e.time + s.reconnectDelay ∨ held e.time

/-- What was done at the end, and was no attempt, was done after the last attempt. -/
theorem ends_between {before between front back : List Happening} {h : Happening}
    (heq : before ++ h :: between = front ++ back) (hh : h.event.isOpening = true)
    (hback : ∀ x ∈ back, x.event.isOpening = false) : ∃ mid, between = mid ++ back := by
  rcases List.append_eq_append_iff.1 heq with ⟨rest, -, hrest⟩ | ⟨rest, -, hrest⟩
  · rcases List.cons_eq_append_iff.1 hrest with ⟨-, rfl⟩ | ⟨mid, -, hmid⟩
    · simp [hback h List.mem_cons_self] at hh
    · exact ⟨mid, hmid⟩
  · have hmem : h ∈ back := by rw [hrest]; simp
    simp [hback h hmem] at hh

/-- Notices are no attempts. -/
theorem not_opening {service : String} {shared : Bool} {e : Event}
    (h : e.isExit service shared = true ∨ e.isRestart service shared = true) :
    e.isOpening = false := by
  cases e with
  | opened => simp [Event.isExit, Event.isRestart] at h
  | _ => rfl

namespace Steady

variable {before between after front rest : List Happening} {h g x e : Happening}

/-- What has come between two attempts, and when the second was made. -/
theorem gap (ht : t.Steady s waits held f)
    (heq : deedsOf t.service f.journal = before ++ h :: between ++ g :: after)
    (hh : h.event.isOpening = true) (hg : g.event.isOpening = true) :
    (∃ x ∈ between, x.event = .refused ∧ x.time + s.retryDelay ≤ g.time ∧
      (waits → g.time = x.time + s.retryDelay)) ∨
    (∃ e ∈ between, (∃ how, e.event = .ended how) ∧ e.time + s.reconnectDelay ≤ g.time ∧
      (waits → g.time = e.time + s.reconnectDelay ∨ held e.time)) ∨
    TellsReturn t.service t.shared between := by
  rcases (ht.inTurn _ g after heq).opened hg with hnone | ⟨due, hdue, hle, hexact⟩ | hback
  · simp [hnone h (by simp)] at hh
  · cases hdue with
    | @refused front x hfront hx =>
      obtain ⟨mid, rfl⟩ := ends_between hfront hh (by simp [hx, Event.isOpening])
      exact .inl ⟨x, by simp, hx, hle, hexact⟩
    | @told front e x how a hfront he hx =>
      obtain ⟨mid, rfl⟩ := ends_between hfront hh (by simp [he, hx, Event.isOpening])
      have hsplit : deedsOf t.service f.journal = (front ++ [e]) ++ x :: (g :: after) := by
        rw [heq, hfront]
        simp
      obtain ⟨hearlier, htold⟩ := (ht.inTurn _ x _ hsplit).told front e how a rfl he hx
      refine .inr (.inl ⟨e, by simp, ⟨how, he⟩, by omega, fun hwaits => ?_⟩)
      have hnow := hexact hwaits
      exact (htold hwaits).imp_left fun htime => by rw [hnow, htime]
  · obtain ⟨front, x, y, z, startedAt, hfront, hx, hy, hz⟩ := hback
    have hno : y.event.isOpening = false := by rw [hy]; rfl
    have hnone : ∀ d ∈ [x, y, z], d.event.isOpening = false := by
      simp [not_opening (.inl hx), not_opening (.inr hz), hno]
    obtain ⟨mid, rfl⟩ := ends_between hfront hh hnone
    exact .inr (.inr ⟨mid, x, [y], z, [], rfl, hx, hz⟩)

/-- The clock does not pass the time at which an attempt is due. -/
theorem now_le_due (ht : t.Steady s waits held f) (hwaits : waits) (hh : f.isHalted = false)
    (hc : f.channel.isClosed = false) {due : Nat}
    (hdue : Due s (deedsOf t.service f.journal) due) : f.now ≤ due := by
  rcases (ht.ready hh hc).due due hdue with hs | ⟨-, hnow⟩
  · have hpoised := ht.poised
    simp only [Poised, hs] at hpoised
    exact hpoised.2 hwaits
  · exact hnow hwaits

/-- Nor that at which a stream ended, but for room to tell of it. -/
theorem now_le_ended (ht : t.Steady s waits held f) (hwaits : waits) (hh : f.isHalted = false)
    (hc : f.channel.isClosed = false) {how : StreamEnd}
    (heq : deedsOf t.service f.journal = front ++ e :: rest) (he : e.event = .ended how)
    (hrest : rest = [] ∨ ∃ x a, rest = [x] ∧ x.event = .sent a) :
    f.now ≤ e.time + s.reconnectDelay ∨ held e.time := by
  rcases hrest with rfl | ⟨x, a, rfl, hx⟩
  · obtain ⟨a, hs⟩ := (ht.ready hh hc).ended front e how heq he
    have hpoised := ht.poised
    simp only [Poised, hs] at hpoised
    obtain ⟨front', e', -, heq', -, -, htold⟩ := hpoised
    obtain ⟨-, hlast⟩ := List.append_inj' (heq.symm.trans heq') rfl
    obtain rfl := List.singleton_inj.1 hlast
    exact (htold hwaits).imp_left fun hnow => hnow.trans_le (Nat.le_add_right _ _)
  · have hsplit : deedsOf t.service f.journal = (front ++ [e]) ++ x :: [] := by
      rw [heq, List.append_assoc]
      rfl
    obtain ⟨-, htold⟩ := (ht.inTurn _ x [] hsplit).told front e how a rfl he hx
    have hdue := ht.now_le_due hwaits hh hc (.told heq he hx)
    exact (htold hwaits).imp_left fun htime => by rwa [htime] at hdue

end Steady

/-- One attempt is not followed by another. -/
theorem Single.not_two {before between after : List Happening} {h g : Happening}
    (ht : t.Single f) (heq : deedsOf t.service f.journal = before ++ h :: between ++ g :: after)
    (hh : h.event.isOpening = true) (hg : g.event.isOpening = true) : False := by
  have honce := ht.once
  rw [opensOf_eq, heq] at honce
  simp [List.countP_append, hh, hg] at honce
  omega

/-- A reader makes its attempts when they are due, or makes one. -/
def Settled (s : Streaming) (waits : Prop) (held : Nat → Prop) (f : Floor σ) (t : Tail) : Prop :=
  t.Steady s waits held f ∨ t.Single f

namespace Settled

theorem new (s : Streaming) (shared : Bool) (bulletin : Bulletin) (number : Nat)
    (service : String) (capacity tails : Nat) (cancelled : Bool) (world : σ) :
    (Tail.new s shared bulletin number service).Settled s waits held
      (.new capacity tails bulletin cancelled world) := by
  cases hs : s.follows with
  | true => exact .inl (.new s hs ..)
  | false => exact .inr (.new s hs ..)

theorem beat {p q : Floor σ × Tail} (hp : p.2.Settled s waits held p.1)
    (h : Beat w waits held p q) : q.2.Settled s waits held q.1 :=
  hp.imp (fun hp => hp.beat h) fun hp => hp.beat h

theorem retries (ht : t.Settled s waits held f) : t.Retries s f := by
  refine ⟨fun before h between g after heq hh hg _ => ?_, fun hf => ?_⟩
  · rcases ht with ht | ht
    · rcases ht.gap heq hh hg with ⟨x, hx, hr, hle, -⟩ | ⟨e, he, hend, hle, -⟩ | hback
      · exact .inl ⟨x, hx, hr, hle⟩
      · exact .inr (.inl ⟨e, he, hend, hle⟩)
      · exact .inr (.inr hback)
    · exact (ht.not_two heq hh hg).elim
  · rcases ht with ht | ht
    · simp [ht.follow] at hf
    · exact ht.once

theorem retriesOnTime (ht : t.Settled s True held f) : t.RetriesOnTime s held f := by
  refine ⟨fun before h between g after heq hh hg _ => ?_, fun hf hh hc front x heq hx => ?_,
    fun hf hh hc front e rest how heq he hrest => ?_⟩ <;> rcases ht with ht | ht
  · rcases ht.gap heq hh hg with ⟨x, hx, hr, -, hexact⟩ | ⟨e, he, hend, -, hexact⟩ | hback
    · exact .inl ⟨x, hx, hr, hexact trivial⟩
    · exact .inr (.inl ⟨e, he, hend, hexact trivial⟩)
    · exact .inr (.inr hback)
  · exact (ht.not_two heq hh hg).elim
  · exact ht.now_le_due trivial hh hc (.refused heq hx)
  · simp [ht.follow] at hf
  · exact ht.now_le_ended trivial hh hc heq he hrest
  · simp [ht.follow] at hf

end Settled

/-- **Attempts are made when they are due**, whatever the world opens and posts and whenever it
cancels, by readers by themselves and among others: on no clock early, and on one that waits for the
tasks neither late. -/
theorem retries_of_runs (w : World σ) :
    (∀ (s : Streaming) (shared : Bool) (service : String) (capacity : Nat)
      (rest most : Option Nat) (bulletin : Bulletin) (cancelled : Bool) (world : σ),
      let start : Observation σ :=
        .new s shared service capacity rest most bulletin cancelled world
      (∀ v, (Observation.schedule w).Drifts start v → v.tail.Retries s v.floor) ∧
      ∀ (run : Nat → Observation σ) (n : Nat), run 0 = start →
        (∀ k < n, (Observation.schedule w).Step (run k) (run (k + 1))) →
        (run n).tail.RetriesOnTime s (Observation.heldUpIn run n) (run n).floor) ∧
    (∀ (r : Request) (bulletin : Bulletin) (sink : Sink) (cancelled : Bool) (world : σ),
      let start : Weave σ := .new r bulletin sink cancelled world
      (∀ v, (Weave.schedule w).Drifts start v → ∀ t ∈ v.tails, t.Retries r.streaming v.floor) ∧
      ∀ (run : Nat → Weave σ) (n : Nat), run 0 = start →
        (∀ k < n, (Weave.schedule w).Step (run k) (run (k + 1))) →
        ∀ (i : Nat) (t : Tail), (run n).tails[i]? = some t →
          t.RetriesOnTime r.streaming (Weave.heldUpIn run n i) (run n).floor) := by
  refine ⟨fun s shared service capacity rest most bulletin cancelled world => ⟨fun v hd => ?_,
    fun run n hstart hrun => ?_⟩, fun r bulletin sink cancelled world => ⟨fun v hd => ?_,
    fun run n hstart hrun i => ?_⟩⟩
  · have hsettled : v.tail.Settled s False (fun _ => False) v.floor :=
      Observation.keep_of_drifts hd (fun _ _ hp h => hp.beat h) (.new ..)
    exact hsettled.retries
  · have hsettled : (run n).tail.Settled s True (Observation.heldUpIn run n) (run n).floor :=
      Observation.keep_on_path hrun (fun _ _ hp h => hp.beat h) (hstart ▸ .new ..)
    exact hsettled.retriesOnTime
  · have hsettled : ∀ t ∈ v.tails, t.Settled r.streaming False (fun _ => False) v.floor :=
      Weave.keep_of_drifts (Weave.woven_new ..) hd (fun _ _ hp h => hp.beat h)
        (Weave.forall_tails_new _ _ _ _ _ fun _ _ => .new ..)
    exact fun t ht => (hsettled t ht).retries
  · have hsettled : ∀ t, (run n).tails[i]? = some t →
        t.Settled r.streaming True (Weave.heldUpIn run n i) (run n).floor :=
      Weave.keep_on_path (hstart ▸ Weave.woven_new ..) hrun (fun _ _ hp h => hp.beat h)
        (hstart ▸ Weave.forall_tails_new _ _ _ _ _ fun _ _ => .new ..)
    exact fun t ht => (hsettled t ht).retriesOnTime

end Tail

/-- A log that cannot be opened the first time, and whose streams end at once after that. -/
def Observation.awkward : World Nat where
  openLog n _ _ := (if n = 0 then ⟨0, .error (.transport "refused")⟩ else .stream [], n + 1)
  act _ _ _ := none
  due _ := none
  clock _ := .epoch

/-- The second attempt waits for the retry delay, and the others for the reconnect delay. -/
example :
    let v := (Observation.schedule Observation.awkward).runFrom 2000 40 0
      (.new ⟨true, false, 100, 500, 1000, 2⟩ false "web" 4 none none .new false 0)
    (v.floor.journal.filter (·.event.isOpening)).map Happening.time = [0, 1000, 1500, 2000] := by
  decide +kernel

end LogWeave.Run

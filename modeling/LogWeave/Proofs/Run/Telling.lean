import LogWeave.Proofs.Run.Wiring

/-! What a reader tells, and when.

What a reader has to send goes with what it does next: a line of the log with reading on, a notice
that a stream broke with opening it again (`Tail.Tells`). Only a reader that follows waits for
another attempt or lies dormant (`Tail.Apt`). So every line in the journal names its own source, and
a run that follows tells of no fault (`Weave.Told`). -/
namespace LogWeave.Run

namespace Tail

variable {σ : Type}

/-- What a reader sends, and what it does next. -/
inductive Tells (t : Tail) : Arrival → Next → Prop where
  | line (text : String) (rest : List StreamItem) (receivedAt : Time.Instant) :
    Tells t (.line t.service text receivedAt) (.read rest)
  | finished (hf : t.follow = true) (receivedAt : Time.Instant) :
    Tells t (.ending t.service .finished none receivedAt) .reconnect
  | broken (hf : t.follow = true) (text : String) (receivedAt : Time.Instant) :
    Tells t (.ending t.service (.broken text) (some (t.noticeText reconnectingNotice)) receivedAt)
      .reconnect
  | last (hf : t.follow = false) (how : StreamEnd) (receivedAt : Time.Instant) :
    Tells t (.ending t.service how none receivedAt) .finish
  | exited (hf : t.follow = true) (receivedAt : Time.Instant) :
    Tells t (.notify t.service (t.noticeText exitedNotice) receivedAt) .exit
  | restarted (hf : t.follow = true) (receivedAt : Time.Instant) :
    Tells t (.notify t.service (t.noticeText restartedNotice) receivedAt) .restart

/-- What a reader has in hand suits what it does next, and only one that follows comes back. -/
def Apt (t : Tail) : Prop :=
  match t.stage with
  | .sending a next => t.Tells a next
  | .pausing _ | .leaving true | .dormant => t.follow = true
  | _ => True

variable {w : World σ} {f : Floor σ} {t : Tail} {r : Floor σ × Tail} {a : Arrival} {next : Next}

namespace Tells

theorem source_eq (h : t.Tells a next) : a.source = t.service := by
  cases h <;> rfl

/-- A reader that follows tells of no fault: it opens the log again, and says so. -/
theorem fault?_eq (h : t.Tells a next) (hf : t.follow = true) : a.fault? = none := by
  cases h with
  | last hf' => simp [hf] at hf'
  | _ => rfl

/-- What a reader tells depends on who it is, and not on where it stands. -/
theorem congr {u : Tail} (h : t.Tells a next) (hservice : u.service = t.service)
    (hfollow : u.follow = t.follow) (hshared : u.shared = t.shared) : u.Tells a next := by
  have hnotice : t.noticeText = u.noticeText := by
    funext notice
    simp only [noticeText, hservice, hshared]
  cases h with
  | line => exact hservice ▸ .line ..
  | finished hf => exact hservice ▸ .finished (hfollow.trans hf) _
  | broken hf => exact hnotice ▸ hservice ▸ .broken (hfollow.trans hf) ..
  | last hf => exact hservice ▸ .last (hfollow.trans hf) ..
  | exited hf => exact hnotice ▸ hservice ▸ .exited (hfollow.trans hf) _
  | restarted hf => exact hnotice ▸ hservice ▸ .restarted (hfollow.trans hf) _

end Tells

theorem apt_send {told : Time.Instant → Arrival}
    (h : ∀ receivedAt, t.Tells (told receivedAt) next) : (t.send w f told next).2.Apt :=
  (h _).congr rfl rfl rfl

theorem apt_conclude (how : StreamEnd) : (t.conclude w f how).2.Apt := by
  refine apt_send fun receivedAt => ?_
  cases hf : t.follow with
  | false => cases how <;> exact .last hf ..
  | true =>
    cases how with
    | finished => exact .finished hf _
    | broken text => exact .broken hf ..

theorem apt_new (s : Streaming) (shared : Bool) (bulletin : Bulletin) (number : Nat)
    (service : String) : (new s shared bulletin number service).Apt := trivial

theorem Apt.tells (h : t.Apt) (hs : t.stage = .sending a next) : t.Tells a next := by
  simpa [Apt, hs] using h

namespace Turn

/-- A reader takes in hand what it is to tell. -/
theorem apt (h : Turn w f t r) (ht : t.Apt) : r.2.Apt := by
  cases h with
  | start | connect | skip | hold | resume | retry | giveUp | retire | leave => trivial
  | postpone _ _ _ hf | rest _ hf => exact hf
  | refuse _ _ _ hf => exact apt_send fun _ => .last hf _ _
  | finish | fail => exact apt_conclude _
  | @take line =>
    exact apt_send fun _ => service_observe t line ▸ .line _ _ _
  | @deliver a next channel hs =>
    cases ht.tells hs with
    | line | last | restarted => trivial
    | finished hf | broken hf | exited hf => exact hf
  | queue => exact ht
  | exit hs =>
    have hf : t.follow = true := by simpa [Apt, hs] using ht
    exact apt_send fun _ => (Tells.exited hf _).congr rfl rfl rfl
  | wake hs =>
    have hf : t.follow = true := by simpa [Apt, hs] using ht
    exact apt_send fun _ => (Tells.restarted hf _).congr rfl rfl rfl

/-- Only what a reader had in hand is sent. -/
theorem tells (h : Turn w f t r) (ht : t.Apt) :
    ∃ later, r.1.journal = f.journal ++ later ∧ ∀ e ∈ later, e.source = t.service ∧
      ∀ a, e.event.sent? = some a → ∃ next, t.Tells a next := by
  obtain ⟨later, hj, hlater⟩ := h.journal_eq
  refine ⟨later, hj, fun e he => ⟨hlater e he, fun a ha => ?_⟩⟩
  have unsent {event : Event} (hj : f.journal ++ [⟨f.now, t.service, event⟩] = f.journal ++ later)
      (hsent : event.sent? = none) : ∃ next, t.Tells a next := by
    obtain rfl := List.append_cancel_left hj
    rw [List.mem_singleton.1 he, hsent] at ha
    cases ha
  cases h with
  | @deliver b next channel hs =>
    obtain rfl := List.append_cancel_left hj
    rw [List.mem_singleton.1 he] at ha
    cases ha
    exact ⟨next, ht.tells hs⟩
  | start | postpone | refuse | finish | fail | exit | leave | retire | wake => exact unsent hj rfl
  | _ =>
    obtain rfl : [] = later := List.append_cancel_left ((List.append_nil _).trans hj)
    cases he

end Turn

end Tail

namespace Weave

variable {σ : Type} {w : World σ} {r : Request} {v v' : Weave σ}

/-- What all readers of a run have told. -/
structure Told (v : Weave σ) : Prop where
  apt : ∀ t ∈ v.tails, t.Apt
  /-- Each line is of the source that has sent it. -/
  source : ∀ e ∈ v.floor.journal, ∀ a, e.event.sent? = some a → a.source = e.source
  /-- Whoever follows tells of no fault. -/
  sound : v.follows = true → ∀ a ∈ sentAll v.floor.journal, a.fault? = none

theorem told_new (r : Request) (bulletin : Bulletin) (sink : Sink) (cancelled : Bool) (world : σ) :
    Told (new r bulletin sink cancelled world) where
  apt := forall_tails_new _ _ _ _ _ fun _ _ => Tail.apt_new ..
  source := by simp [new, Floor.new]
  sound := by simp [new, Floor.new, sentAll]

namespace Told

theorem turn (h : Told v) (hw : Woven r v) {i : Nat} {t : Tail} {x : Floor σ × Tail}
    (hi : v.tails[i]? = some t) (hx : Tail.Turn w v.floor t x) :
    Told { v with floor := x.1, tails := v.tails.set i x.2 } := by
  have ht := h.apt t (List.mem_of_getElem? hi)
  obtain ⟨later, hj, hlater⟩ := hx.tells ht
  refine ⟨fun u hu => ?_, fun e he a ha => ?_, fun hf a ha => ?_⟩
  · exact (List.mem_or_eq_of_mem_set hu).elim (h.apt u) fun heq => heq ▸ hx.apt ht
  · rw [hj] at he
    rcases List.mem_append.1 he with he | he
    · exact h.source e he a ha
    · obtain ⟨hsource, hsent⟩ := hlater e he
      obtain ⟨next, htells⟩ := hsent a ha
      exact htells.source_eq.trans hsource.symm
  · rw [hj, sentAll_append] at ha
    rcases List.mem_append.1 ha with ha | ha
    · exact h.sound hf a ha
    · obtain ⟨e, he, hsent⟩ := mem_sentAll.1 ha
      obtain ⟨next, htells⟩ := (hlater e he).2 a hsent
      have hfollow : t.follow = true := (hw.follow i t hi).trans (hw.follows.symm.trans hf)
      exact htells.fault?_eq hfollow

theorem move (h : Told v) (hw : Woven r v) (hm : Move w v v') : Told v' := by
  cases hm with
  | turn hi hx => exact h.turn hw hi hx
  | @world act world _ =>
    obtain ⟨posts, hj, hposts⟩ := Floor.journal_apply { v.floor with world } act
    refine ⟨h.apt, fun e he a ha => ?_, ?_⟩
    · rw [hj] at he
      rcases List.mem_append.1 he with he | he
      · exact h.source e he a ha
      · obtain ⟨status, hs⟩ := hposts e he
        rw [hs] at ha
        cases ha
    · rw [Floor.sentAll_apply]
      exact h.sound
  | stop | print | elapse => exact ⟨h.apt, h.source, h.sound⟩

theorem drifts {bulletin : Bulletin} {sink : Sink} {cancelled : Bool} {world : σ}
    (h : (schedule w).Drifts (new r bulletin sink cancelled world) v) : Told v :=
  Woven.keep h (fun _ _ hw ht hm => ht.move hw hm) (told_new ..)

/-- The lines of a source are those that name it. -/
theorem sentBy_eq (h : Told v) (service : String) :
    sentBy service v.floor.journal =
      (sentAll v.floor.journal).filter fun a => a.source = service :=
  sentBy_eq_filter h.source service

end Told

end Weave

end LogWeave.Run

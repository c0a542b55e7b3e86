import LogWeave.Proofs.Run.Grammar
import LogWeave.Proofs.Run.Lasting
import LogWeave.Proofs.Run.Law

/-! What a reader has seen when it tells that its service has exited or runs again.

The journal keeps the statuses that were posted among what the readers did, so it tells which status
a service had at every moment (`statusAfter`). A reader in a pause that sees the service exited
tells so (`SawExit`), and one that has told so and sees it run as another instance tells that too
(`SawRestart`). Main statement: no such notice is given for any other reason
(`Tail.justified_of_drifts`), so there are no more restarts than times at which the service began to
run, and none of a service that is known in one instance only. -/
namespace LogWeave.Run

/-! ### The status of a service -/

def Event.posted? : Event → Option ServiceStatus
  | .posted status => some status
  | _ => none

/-- The statuses posted of a source while the bulletin is up. -/
def postedIn (b : Bulletin) (events : List Event) : List ServiceStatus :=
  if b.isUp then events.filterMap Event.posted? else []

/-- The last status of a service: the last one posted, or the one that the bulletin had at first. -/
def statusAfter (b : Bulletin) (service : String) (events : List Event) : ServiceStatus :=
  ((postedIn b events).getLast?).getD (b.last service)

section Status

variable {b : Bulletin} {service : String} {events later : List Event}

@[simp] theorem postedIn_append : postedIn b (events ++ later) =
    postedIn b events ++ postedIn b later := by
  unfold postedIn
  split <;> simp

theorem postedIn_none (h : ∀ e ∈ events, e.posted? = none) : postedIn b events = [] := by
  unfold postedIn
  split
  · simpa using h
  · rfl

theorem statusAfter_append (b : Bulletin) (service : String) (events later : List Event) :
    statusAfter b service (events ++ later) =
      ((postedIn b later).getLast?).getD (statusAfter b service events) := by
  rw [statusAfter, postedIn_append, List.getLast?_append]
  cases (postedIn b later).getLast? <;> rfl

/-- What is no post leaves the status as it is. -/
theorem statusAfter_none (h : ∀ e ∈ later, e.posted? = none) :
    statusAfter b service (events ++ later) = statusAfter b service events := by
  rw [statusAfter_append, postedIn_none h]
  rfl

/-- The last status is one of those that the service has had. -/
theorem statusAfter_mem (b : Bulletin) (service : String) (events : List Event) :
    statusAfter b service events ∈ b.last service :: postedIn b events := by
  rw [statusAfter]
  cases h : (postedIn b events).getLast? with
  | none => simp
  | some s => exact List.mem_cons_of_mem _ (List.mem_of_getLast? h)

end Status

/-- How often a service is said to run that did not, after its last status. -/
def startsAfter : ServiceStatus → List ServiceStatus → Nat
  | _, [] => 0
  | last, s :: rest =>
    (if last.phase ≠ .running ∧ s.phase = .running then 1 else 0) + startsAfter s rest

section Starts

variable {last : ServiceStatus} {statuses later : List ServiceStatus}

theorem startsAfter_append (last : ServiceStatus) (statuses later : List ServiceStatus) :
    startsAfter last (statuses ++ later) =
      startsAfter last statuses + startsAfter (statuses.getLast?.getD last) later := by
  induction statuses generalizing last with
  | nil => simp [startsAfter]
  | cons s rest ih =>
    rw [List.cons_append, startsAfter, startsAfter, ih, List.getLast?_cons, Option.getD_some,
      Nat.add_assoc]

/-- A service that did not run and does so in the end has begun to. -/
theorem startsAfter_pos (h : last.phase ≠ .running)
    (hlast : (statuses.getLast?.getD last).phase = .running) : 0 < startsAfter last statuses := by
  induction statuses generalizing last with
  | nil => exact absurd hlast h
  | cons s rest ih =>
    rw [startsAfter]
    by_cases hs : s.phase = .running
    · rw [if_pos ⟨h, hs⟩]
      omega
    · have hpos : 0 < startsAfter s rest := by
        refine ih hs ?_
        rwa [List.getLast?_cons, Option.getD_some] at hlast
      omega

end Starts

/-- How often a service has been said to run that did not. -/
def startsIn (b : Bulletin) (service : String) (events : List Event) : Nat :=
  startsAfter (b.last service) (postedIn b events)

section StartsIn

variable {b : Bulletin} {service : String}

theorem startsIn_append (b : Bulletin) (service : String) (events later : List Event) :
    startsIn b service (events ++ later) = startsIn b service events +
      startsAfter (statusAfter b service events) (postedIn b later) := by
  rw [startsIn, postedIn_append, startsAfter_append]
  rfl

/-- Between a status that is not running and one that is the service has begun to run. -/
theorem startsIn_lt {events later : List Event}
    (h : (statusAfter b service events).phase ≠ .running)
    (hlater : (statusAfter b service (events ++ later)).phase = .running) :
    startsIn b service events < startsIn b service (events ++ later) := by
  rw [startsIn_append]
  rw [statusAfter_append] at hlater
  have := startsAfter_pos h hlater
  omega

theorem startsIn_le (events later : List Event) :
    startsIn b service events ≤ startsIn b service (events ++ later) := by
  rw [startsIn_append]
  omega

end StartsIn

/-! ### What has been seen -/

/-- What happened last, but for what has been posted since. -/
def Lately (events earlier : List Event) (e : Event) : Prop :=
  ∃ posts : List ServiceStatus, events = earlier ++ e :: posts.map .posted

section Lately

variable {events earlier : List Event} {e : Event}

theorem lately_now (events : List Event) (e : Event) : Lately (events ++ [e]) events e :=
  ⟨[], rfl⟩

theorem Lately.posted (h : Lately events earlier e) (posts : List ServiceStatus) :
    Lately (events ++ posts.map .posted) earlier e := by
  obtain ⟨before, rfl⟩ := h
  exact ⟨before ++ posts, by simp⟩

end Lately

/-- The reader pauses: the log could not be opened, or its stream is over and this has been told. -/
def Pauses (service : String) (events : List Event) : Prop :=
  ∃ earlier e, Lately events earlier e ∧
    (e = .refused ∨ ∃ how notice receivedAt, e = .sent (.ending service how notice receivedAt))

section Seen

variable (b : Bulletin) (service : String) (shared : Bool)

/-- In a pause the last status of the service was that it has exited, as this instance. -/
def SawExit (events : List Event) (startedAt : Option Time.Instant) : Prop :=
  ∃ earlier, Lately events earlier (.exited startedAt) ∧ Pauses service earlier ∧
    (statusAfter b service earlier).phase = .exited ∧
    (statusAfter b service earlier).startedAt = startedAt

/-- It has been told that the service has exited, for this was seen. -/
def ToldExit (events : List Event) (startedAt : Option Time.Instant) : Prop :=
  ∃ earlier a, Lately events earlier (.sent a) ∧
    a.notice = some (Grammar.noticeText service shared exitedNotice) ∧
    SawExit b service earlier startedAt

/-- After it was told that the service has exited its last status was that it runs, as another
instance. -/
def SawRestart (events : List Event) (startedAt : Option Time.Instant) : Prop :=
  ∃ earlier known, Lately events earlier (.restarted startedAt) ∧
    ToldExit b service shared earlier known ∧
    (statusAfter b service earlier).phase = .running ∧
    (statusAfter b service earlier).startedAt = startedAt ∧ startedAt ≠ known

/-- Every notice that the service has exited or runs again is given because this was seen. -/
structure Founded (events : List Event) : Prop where
  exited : ∀ before a after, events = before ++ .sent a :: after →
    a.notice = some (Grammar.noticeText service shared exitedNotice) →
    ∃ startedAt, SawExit b service before startedAt
  restarted : ∀ before a after, events = before ++ .sent a :: after →
    a.notice = some (Grammar.noticeText service shared restartedNotice) →
    ∃ startedAt, SawRestart b service shared before startedAt

end Seen

theorem noticeText_inj {service : String} {shared : Bool} {notice notice' : String} :
    Grammar.noticeText service shared notice = Grammar.noticeText service shared notice' ↔
      notice = notice' := by
  cases shared with
  | false => rfl
  | true => simp [Grammar.noticeText, attributed]

namespace Founded

variable {b : Bulletin} {service : String} {shared : Bool} {events : List Event}
  {startedAt : Option Time.Instant}

theorem nil : Founded b service shared [] := ⟨by simp, by simp⟩

/-- One event more, which may be the notice of what has been seen. -/
theorem concat (h : Founded b service shared events) {e : Event}
    (hexited : ∀ a, e = .sent a →
      a.notice = some (Grammar.noticeText service shared exitedNotice) →
      ∃ startedAt, SawExit b service events startedAt)
    (hrestarted : ∀ a, e = .sent a →
      a.notice = some (Grammar.noticeText service shared restartedNotice) →
      ∃ startedAt, SawRestart b service shared events startedAt) :
    Founded b service shared (events ++ [e]) := by
  refine ⟨fun before a after heq ha => ?_, fun before a after heq ha => ?_⟩ <;>
    rcases concat_eq_append_cons heq with ⟨he, rfl, -⟩ | ⟨rest, -, hevents⟩
  · exact hexited a he ha
  · exact h.exited before a rest hevents ha
  · exact hrestarted a he ha
  · exact h.restarted before a rest hevents ha

/-- What is not sent is no notice. -/
theorem plain (h : Founded b service shared events) {e : Event} (he : e.sent? = none) :
    Founded b service shared (events ++ [e]) := by
  refine h.concat (fun a ha => ?_) (fun a ha => ?_) <;>
  · rw [ha] at he
    cases he

theorem posted (h : Founded b service shared events) (posts : List ServiceStatus) :
    Founded b service shared (events ++ posts.map .posted) := by
  induction posts generalizing events with
  | nil => rwa [List.map_nil, List.append_nil]
  | cons s rest ih =>
    rw [List.map_cons, List.append_cons]
    exact ih (h.plain rfl)

theorem left {later : List Event} (h : Founded b service shared (events ++ later)) :
    Founded b service shared events := by
  refine ⟨fun before a after heq => h.exited before a (after ++ later) ?_,
    fun before a after heq => h.restarted before a (after ++ later) ?_⟩ <;>
  simp [heq]

end Founded

/-- A notice that the source runs again. -/
def Event.isRestart (service : String) (shared : Bool) : Event → Bool
  | .sent a => a.notice = some (Grammar.noticeText service shared restartedNotice)
  | _ => false

/-- How often it has been told that a source runs again. -/
def restartsIn (service : String) (shared : Bool) (events : List Event) : Nat :=
  events.countP (Event.isRestart service shared)

section Consequences

variable {b : Bulletin} {service : String} {shared : Bool} {events earlier later : List Event}
  {e : Event} {startedAt : Option Time.Instant}

theorem Event.isRestart_iff : e.isRestart service shared = true ↔
    ∃ a, e = .sent a ∧ a.notice = some (Grammar.noticeText service shared restartedNotice) := by
  cases e <;> simp [Event.isRestart]

theorem restartsIn_append : restartsIn service shared (events ++ later) =
    restartsIn service shared events + restartsIn service shared later := List.countP_append

/-- If the last that happened was no restart told, the restarts are those told before. -/
theorem restartsIn_lately (h : Lately events earlier e) (he : e.isRestart service shared = false) :
    restartsIn service shared events = restartsIn service shared earlier := by
  obtain ⟨posts, rfl⟩ := h
  have hposts : restartsIn service shared (posts.map .posted) = 0 := by
    simp [restartsIn, List.countP_eq_zero, Event.isRestart]
  have hnone : restartsIn service shared [e] = 0 := by simp [restartsIn, he]
  rw [List.append_cons, restartsIn_append, restartsIn_append, hposts, hnone, Nat.add_zero]

/-- What has been seen was seen before. -/
theorem Lately.append (h : Lately events earlier e) : ∃ later, events = earlier ++ later := by
  obtain ⟨posts, rfl⟩ := h
  exact ⟨_, rfl⟩

theorem exited_ne_restarted : Grammar.noticeText service shared exitedNotice ≠
    Grammar.noticeText service shared restartedNotice := by
  rw [Ne, noticeText_inj]
  decide

/-- When it was told that the service has exited, no restart had been told since this was seen. -/
theorem ToldExit.split (h : ToldExit b service shared events startedAt) :
    ∃ front later, events = front ++ later ∧
      restartsIn service shared events = restartsIn service shared front ∧
      (statusAfter b service front).phase = .exited ∧
      (statusAfter b service front).startedAt = startedAt := by
  obtain ⟨before, a, htold, ha, front, hsaw, -, hphase, hstarted⟩ := h
  have hrestarts : restartsIn service shared events = restartsIn service shared front := by
    have hexited : Event.isRestart service shared (.sent a) = false := by
      simp [Event.isRestart, ha, exited_ne_restarted]
    rw [restartsIn_lately htold hexited, restartsIn_lately hsaw rfl]
  obtain ⟨last, rfl⟩ := htold.append
  obtain ⟨more, rfl⟩ := hsaw.append
  exact ⟨front, more ++ last, by rw [List.append_assoc], hrestarts, hphase, hstarted⟩

/-- Since the last restart that was told the service has begun to run. -/
theorem SawRestart.split (h : SawRestart b service shared events startedAt) :
    ∃ front later, events = front ++ later ∧
      restartsIn service shared events = restartsIn service shared front ∧
      startsIn b service front < startsIn b service events := by
  obtain ⟨earlier, known, hsaw, htold, hphase, -, -⟩ := h
  have hrestarts : restartsIn service shared events = restartsIn service shared earlier :=
    restartsIn_lately hsaw rfl
  obtain ⟨front, more, rfl, htold, hexited, -⟩ := htold.split
  obtain ⟨last, rfl⟩ := hsaw.append
  refine ⟨front, more ++ last, by rw [List.append_assoc], hrestarts.trans htold, ?_⟩
  exact (startsIn_lt (by simp [hexited]) hphase).trans_le (startsIn_le _ last)

namespace Founded

/-- **There are no more restarts than times at which the service began to run.** -/
theorem restartsIn_le (h : Founded b service shared events) :
    restartsIn service shared events ≤ startsIn b service events := by
  induction hn : events.length using Nat.strong_induction_on generalizing events with
  | h n ih =>
    rcases List.eq_nil_or_concat events with rfl | ⟨rest, e, rfl⟩
    · exact Nat.zero_le _
    rw [List.concat_eq_append] at h hn ⊢
    have hlen : rest.length < n := by simp [← hn]
    have hstarts : startsIn b service rest ≤ startsIn b service (rest ++ [e]) :=
      startsIn_le rest [e]
    rw [restartsIn_append]
    cases he : e.isRestart service shared with
    | true =>
      obtain ⟨a, rfl, ha⟩ := Event.isRestart_iff.1 he
      obtain ⟨startedAt, hsaw⟩ := h.restarted rest a [] rfl ha
      obtain ⟨front, later, rfl, hrestarts, hlt⟩ := hsaw.split
      have hfront := ih front.length (by simp at hlen; omega) h.left.left rfl
      have hone : restartsIn service shared [.sent a] = 1 := by simp [restartsIn, he]
      omega
    | false =>
      have hnone : restartsIn service shared [e] = 0 := by simp [restartsIn, he]
      have hrest := ih rest.length hlen h.left rfl
      omega

/-- **A service that exits and runs as one instance only is never told to run again.** -/
theorem ne_restarted (h : Founded b service shared events) {only : Option Time.Instant}
    (honly : ∀ s ∈ b.last service :: postedIn b events, s.phase = .exited ∨ s.phase = .running →
      s.startedAt = only) {a : Arrival} (ha : .sent a ∈ events) :
    a.notice ≠ some (Grammar.noticeText service shared restartedNotice) := by
  have instance_eq (front later : List Event) (heq : events = front ++ later)
      (hphase : (statusAfter b service front).phase = .exited ∨
        (statusAfter b service front).phase = .running) :
      (statusAfter b service front).startedAt = only := by
    refine honly _ ?_ hphase
    rw [heq, postedIn_append, ← List.cons_append]
    exact List.mem_append_left _ (statusAfter_mem b service front)
  intro hnotice
  obtain ⟨before, after, heq⟩ := List.append_of_mem ha
  obtain ⟨startedAt, earlier, known, hsaw, htold, hrunning, hstarted, hother⟩ :=
    h.restarted before a after heq hnotice
  obtain ⟨last, rfl⟩ := hsaw.append
  obtain ⟨front, more, rfl, -, hexited, hknown⟩ := htold.split
  have hsecond := instance_eq _ (last ++ .sent a :: after)
    (by rw [heq, List.append_assoc]) (.inr hrunning)
  have hfirst := instance_eq front (more ++ (last ++ .sent a :: after))
    (by rw [heq]; simp only [List.append_assoc]) (.inl hexited)
  exact hother (hstarted.symm.trans (hsecond.trans (hfirst.symm.trans hknown)))

end Founded

end Consequences

/-! ### What a reader has seen, stage by stage -/

namespace Tail

variable {σ : Type} {w : World σ} {f : Floor σ} {t : Tail} {r : Floor σ × Tail}
  {b : Bulletin} {events : List Event}

/-- What a reader has seen where it stands. -/
def Stands (b : Bulletin) (events : List Event) (t : Tail) : Prop :=
  match t.stage with
  | .pausing _ => Pauses t.service events
  | .sending _ .exit => SawExit b t.service events t.watch.instance?
  | .leaving true | .dormant => ToldExit b t.service t.shared events t.watch.instance?
  | .sending _ .restart => SawRestart b t.service t.shared events t.watch.instance?
  | _ => True

theorem Stands.posted (h : t.Stands b events) (posts : List ServiceStatus) :
    t.Stands b (events ++ posts.map .posted) := by
  unfold Stands at h ⊢
  split at h
  · obtain ⟨earlier, e, hlately, he⟩ := h
    exact ⟨earlier, e, hlately.posted posts, he⟩
  · obtain ⟨earlier, hlately, hseen⟩ := h
    exact ⟨earlier, hlately.posted posts, hseen⟩
  · obtain ⟨earlier, a, hlately, htold⟩ := h
    exact ⟨earlier, a, hlately.posted posts, htold⟩
  · obtain ⟨earlier, a, hlately, htold⟩ := h
    exact ⟨earlier, a, hlately.posted posts, htold⟩
  · obtain ⟨earlier, known, hlately, hseen⟩ := h
    exact ⟨earlier, known, hlately.posted posts, hseen⟩
  · trivial

/-- What a reader has seen, and that it tells for no other reason. -/
structure Sees (b : Bulletin) (events : List Event) (t : Tail) : Prop where
  watches : t.watch.service = t.service
  apt : t.Apt
  founded : Founded b t.service t.shared events
  stands : t.Stands b events

theorem sees_new (b bulletin : Bulletin) (s : Streaming) (shared : Bool) (number : Nat)
    (service : String) : (new s shared bulletin number service).Sees b [] :=
  ⟨rfl, apt_new .., .nil, trivial⟩

theorem Sees.posted (h : t.Sees b events) (posts : List ServiceStatus) :
    t.Sees b (events ++ posts.map .posted) :=
  ⟨h.watches, h.apt, h.founded.posted posts, h.stands.posted posts⟩

/-- A reader follows its own service all along. -/
theorem Turn.watch_service (h : Turn w f t r) : r.2.watch.service = t.watch.service := by
  cases h with
  | exit _ _ hw =>
    obtain ⟨-, rfl⟩ := Watch.exited?_eq_some.1 hw
    rfl
  | wake _ _ hw =>
    obtain ⟨-, rfl⟩ := Watch.restarted?_eq_some.1 hw
    rfl
  | take => unfold observe; split <;> rfl
  | _ => rfl

/-- The text of a notice tells what the reader does next. -/
theorem Tells.next_of_notice {a : Arrival} {next : Next} {notice : String} (h : t.Tells a next)
    (ha : a.notice = some (Grammar.noticeText t.service t.shared notice)) :
    (notice = reconnectingNotice ∧ next = .reconnect) ∨ (notice = exitedNotice ∧ next = .exit) ∨
      (notice = restartedNotice ∧ next = .restart) := by
  have inj {notice' : String} (heq : some (t.noticeText notice') =
      some (Grammar.noticeText t.service t.shared notice)) : notice = notice' :=
    (noticeText_inj.1 (Option.some.inj heq)).symm
  cases h with
  | broken => exact .inl ⟨inj ha, rfl⟩
  | exited => exact .inr (.inl ⟨inj ha, rfl⟩)
  | restarted => exact .inr (.inr ⟨inj ha, rfl⟩)
  | line | finished | last => cases ha

/-- A reader tells of exits and restarts that it has seen. -/
theorem Turn.founded (h : Turn w f t r) (ht : t.Sees b (eventsOf t.service f.journal)) :
    Founded b t.service t.shared (eventsOf t.service r.1.journal) := by
  have noted (f : Floor σ) (event : Event) := eventsOf_note t.service f event
  have plain {event : Event} (h : event.sent? = none) := ht.founded.plain h
  cases h with
  | @deliver a next channel hs =>
    have htells := ht.apt.tells hs
    have hstands := ht.stands
    rw [noted { f with channel }]
    refine ht.founded.concat (fun a' heq ha => ?_) (fun a' heq ha => ?_) <;> cases heq
    · rcases htells.next_of_notice ha with ⟨hno, -⟩ | ⟨-, rfl⟩ | ⟨hno, -⟩
      · exact absurd hno (by decide)
      · exact ⟨_, by simpa [Stands, hs] using hstands⟩
      · exact absurd hno (by decide)
    · rcases htells.next_of_notice ha with ⟨hno, -⟩ | ⟨hno, -⟩ | ⟨-, rfl⟩
      · exact absurd hno (by decide)
      · exact absurd hno (by decide)
      · exact ⟨_, by simpa [Stands, hs] using hstands⟩
  | start => exact (noted _ (.opened _)).symm ▸ plain rfl
  | postpone | refuse => exact (noted f .refused).symm ▸ plain rfl
  | finish | fail => exact (noted f (.ended _)).symm ▸ plain rfl
  | exit => exact (noted f (.exited _)).symm ▸ plain rfl
  | wake => exact (noted _ (.restarted _)).symm ▸ plain rfl
  | leave | retire => exact (noted _ .returned).symm ▸ plain rfl
  | _ => exact ht.founded

/-- Where a reader goes next it has seen what it takes. -/
theorem Turn.stands (h : Turn w f t r) (ht : t.Sees b (eventsOf t.service f.journal))
    (hb : f.bulletin.last t.service = statusAfter b t.service (eventsOf t.service f.journal)) :
    r.2.Stands b (eventsOf t.service r.1.journal) := by
  have noted (f : Floor σ) (event : Event) := eventsOf_note t.service f event
  have hstands := ht.stands
  have hwatch : f.bulletin.last t.watch.service =
      statusAfter b t.service (eventsOf t.service f.journal) := ht.watches ▸ hb
  cases h with
  | postpone => exact ⟨_, .refused, (noted f .refused).symm ▸ lately_now .., .inl rfl⟩
  | @deliver a next channel hs =>
    have hlately : Lately (eventsOf t.service (({ f with channel } : Floor σ).note t.service
        (.sent a)).journal) (eventsOf t.service f.journal) (.sent a) := by
      rw [noted { f with channel }]
      exact lately_now ..
    cases ht.apt.tells hs with
    | finished | broken => exact ⟨_, _, hlately, .inr ⟨_, _, _, rfl⟩⟩
    | exited =>
      simp only [Stands, hs] at hstands
      exact ⟨_, _, hlately, rfl, hstands⟩
    | line | last | restarted => trivial
  | exit hs hh hw =>
    obtain ⟨hphase, rfl⟩ := Watch.exited?_eq_some.1 hw
    rw [hwatch] at hphase
    simp only [Stands, hs] at hstands
    exact ⟨_, (noted f (.exited _)).symm ▸ lately_now .., hstands, hphase,
      (congrArg ServiceStatus.startedAt hwatch).symm⟩
  | rest hs =>
    simp only [Stands, hs] at hstands
    exact hstands
  | wake hs hh hw =>
    obtain ⟨⟨hphase, hother⟩, rfl⟩ := Watch.restarted?_eq_some.1 hw
    rw [hwatch] at hphase
    simp only [Stands, hs] at hstands
    exact ⟨_, t.watch.instance?, (noted _ (.restarted _)).symm ▸ lately_now .., hstands, hphase,
      (congrArg ServiceStatus.startedAt hwatch).symm, hother⟩
  | queue => exact hstands
  | take => unfold observe; split <;> trivial
  | finish | fail => cases hf : t.follow <;> simp [conclude, send, Stands, hf]
  | _ => trivial

theorem Sees.turn (h : t.Sees b (eventsOf t.service f.journal)) (hx : Turn w f t r)
    (hb : f.bulletin.last t.service = statusAfter b t.service (eventsOf t.service f.journal)) :
    r.2.Sees b (eventsOf t.service r.1.journal) := by
  obtain ⟨-, hservice, -, -, hshared⟩ := hx.tail_eq
  refine ⟨?_, hx.apt h.apt, ?_, hx.stands h hb⟩
  · rw [hx.watch_service, h.watches, hservice]
  · rw [hservice, hshared]
    exact hx.founded h

end Tail

/-- The bulletin has for each service what the journal tells. -/
structure Floor.Tracks {σ : Type} (b : Bulletin) (f : Floor σ) : Prop where
  isUp : f.bulletin.isUp = b.isUp
  last : ∀ service, f.bulletin.last service = statusAfter b service (eventsOf service f.journal)

namespace Floor.Tracks

variable {σ : Type} {w : World σ} {f : Floor σ} {t : Tail} {r : Floor σ × Tail} {b : Bulletin}

theorem turn (h : f.Tracks b) (hx : Tail.Turn w f t r) : r.1.Tracks b := by
  obtain ⟨-, -, -, hbulletin⟩ := hx.floor_eq
  obtain ⟨later, hj, hlater⟩ := hx.writes
  refine ⟨hbulletin ▸ h.isUp, fun service => ?_⟩
  have hnone : ∀ e ∈ eventsOf service later, e.posted? = none := by
    intro e he
    obtain ⟨x, hx, rfl⟩ := List.mem_map.1 he
    obtain ⟨-, -, hno⟩ := hlater x (List.mem_filter.1 hx).1
    cases hevent : x.event with
    | posted status => exact absurd hevent (hno status)
    | _ => rfl
  rw [hbulletin, hj, eventsOf_append, statusAfter_none hnone, h.last]

theorem apply (h : f.Tracks b) (act : Act) : (f.apply act).Tracks b := by
  cases act with
  | cancel | nothing => exact ⟨h.isUp, h.last⟩
  | post source status =>
    have hup := h.isUp
    refine ⟨?_, fun service => ?_⟩
    · simp only [Floor.apply, Floor.note, Bulletin.post]
      split <;> exact hup
    · have hevents : eventsOf service (f.apply (.post source status)).journal =
          eventsOf service f.journal ++ if service = source then [.posted status] else [] := by
        split
        · rename_i heq
          exact heq ▸ eventsOf_note service _ _
        · rename_i hne
          rw [Floor.apply, Floor.note, eventsOf_append, eventsOf_other service (Ne.symm hne)]
      rw [hevents, statusAfter_append, ← h.last]
      cases hb : b.isUp with
      | false =>
        rw [hb] at hup
        simp [Floor.apply, Floor.note, Bulletin.post, postedIn, hb, hup]
      | true =>
        rw [hb] at hup
        simp only [Floor.apply, Floor.note, Bulletin.last_post _ hup, postedIn, hb]
        split <;> simp [Event.posted?]

end Floor.Tracks

/-- A reader tells of what it has seen, on a floor where the bulletin has what was posted. -/
structure Tail.Sighted {σ : Type} (b : Bulletin) (f : Floor σ) (t : Tail) : Prop where
  tracks : f.Tracks b
  sees : t.Sees b (eventsOf t.service f.journal)

theorem Tail.sighted_new {σ : Type} (s : Streaming) (shared : Bool) (bulletin : Bulletin)
    (number : Nat) (service : String) (capacity tails : Nat) (cancelled : Bool) (world : σ) :
    (Tail.new s shared bulletin number service).Sighted bulletin
      (.new capacity tails bulletin cancelled world) where
  tracks := ⟨rfl, fun _ => by simp [Floor.new, statusAfter, postedIn, eventsOf]⟩
  sees := sees_new ..

theorem Tail.sighted_law {σ : Type} (w : World σ) (b : Bulletin) :
    Law w (Tail.Sighted b) where
  turn h hx := by
    refine ⟨h.tracks.turn hx, ?_⟩
    rw [hx.tail_eq.2.1]
    exact h.sees.turn hx (h.tracks.last _)
  other h hx hne := ⟨h.tracks.turn hx, by rw [hx.eventsOf_other hne]; exact h.sees⟩
  world {f} {t} act world h := by
    have htracks : Floor.Tracks b { f with world } := ⟨h.tracks.isUp, h.tracks.last⟩
    obtain ⟨posted, hposted⟩ := Floor.eventsOf_apply t.service { f with world } act
    exact ⟨htracks.apply act, hposted ▸ h.sees.posted posted⟩
  beside _ _ h := ⟨⟨h.tracks.isUp, h.tracks.last⟩, h.sees⟩
  elapse h _ := ⟨⟨h.tracks.isUp, h.tracks.last⟩, h.sees⟩

/-- What a reader tells of exits and restarts, and why. -/
structure Tail.Justified {σ : Type} (b : Bulletin) (f : Floor σ) (t : Tail) : Prop where
  /-- That the service has exited is told for the last status that the reader saw in a pause. -/
  exited : ∀ before a after, eventsOf t.service f.journal = before ++ .sent a :: after →
    a.notice = some (t.noticeText exitedNotice) →
    ∃ startedAt, SawExit b t.service before startedAt
  /-- That it runs again is told for the last status that the reader saw after it had told that the
  service exited, and for another instance than the one that exited. -/
  restarted : ∀ before a after, eventsOf t.service f.journal = before ++ .sent a :: after →
    a.notice = some (t.noticeText restartedNotice) →
    ∃ startedAt, SawRestart b t.service t.shared before startedAt
  /-- There are no more restarts than posts that the service runs when it did not. -/
  starts : restartsIn t.service t.shared (eventsOf t.service f.journal) ≤
    startsIn b t.service (eventsOf t.service f.journal)
  /-- A service that is said to exit and to run as one instance only does not restart. -/
  single : ∀ only, (∀ s ∈ b.last t.service :: postedIn b (eventsOf t.service f.journal),
      s.phase = .exited ∨ s.phase = .running → s.startedAt = only) →
    ∀ a ∈ sentBy t.service f.journal, a.notice ≠ some (t.noticeText restartedNotice)

theorem Tail.Sees.justified {σ : Type} {b : Bulletin} {f : Floor σ} {t : Tail}
    (h : t.Sees b (eventsOf t.service f.journal)) : t.Justified b f where
  exited := h.founded.exited
  restarted := h.founded.restarted
  starts := h.founded.restartsIn_le
  single only honly a ha := by
    obtain ⟨e, he, hsent⟩ := List.mem_filterMap.1 ha
    obtain rfl : e = .sent a := by
      cases e with
      | sent => exact congrArg Event.sent (Option.some.inj hsent)
      | _ => cases hsent
    exact h.founded.ne_restarted honly he

/-- **What is told of exits and restarts is told for statuses that were seen.** Whatever the world
opens, posts and when it cancels, by itself or among other readers. -/
theorem Tail.justified_of_drifts {σ : Type} (w : World σ) :
    (∀ (s : Streaming) (shared : Bool) (service : String) (capacity : Nat)
      (rest most : Option Nat) (bulletin : Bulletin) (cancelled : Bool) (world : σ)
      (v : Observation σ), (Observation.schedule w).Drifts
        (.new s shared service capacity rest most bulletin cancelled world) v →
      v.tail.Justified bulletin v.floor) ∧
    (∀ (r : Request) (bulletin : Bulletin) (sink : Sink) (cancelled : Bool) (world : σ)
      (v : Weave σ), (Weave.schedule w).Drifts (.new r bulletin sink cancelled world) v →
      ∀ t ∈ v.tails, t.Justified bulletin v.floor) := by
  have h (b : Bulletin) := (Tail.sighted_law w b).everywhere
  exact ⟨fun _ _ _ _ _ _ _ _ _ _ hd => ((h _).1 hd (sighted_new ..)).sees.justified,
    fun _ _ _ _ _ _ hd t ht =>
      ((h _).2 hd (fun _ _ => sighted_new ..) t ht).sees.justified⟩

/-- A service that exits and comes back once, and what is told of it by a reader by itself and by
one among others. -/
theorem Tail.justified_of_drifts_troubled :
    (∃ v : Observation (Nat × Nat), (Observation.schedule Weave.troubled).Drifts
        (.new ⟨true, false, 100, 500, 1000, 2⟩ false "web" 16 none none .new false (0, 0)) v ∧
      v.tail.Justified .new v.floor ∧ restartsIn "web" false (eventsOf "web" v.floor.journal) = 1) ∧
    ∃ (r : Request) (v : Weave (Nat × Nat)), (Weave.schedule Weave.troubled).Drifts
        (.new r .new .endless false (0, 0)) v ∧
      (∀ t ∈ v.tails, t.Justified .new v.floor) ∧ v.tails.length = 2 ∧
      restartsIn "web" true (eventsOf "web" v.floor.journal) = 1 :=
  let r : Request := ⟨["web", "db"], ⟨true, false, 100000, 500, 1000, 2⟩, by decide, by decide⟩
  let m := Observation.schedule Weave.troubled
  let m' := Weave.schedule Weave.troubled
  let u := m.runFrom 5000 200 0
    (.new ⟨true, false, 100, 500, 1000, 2⟩ false "web" 16 none none .new false (0, 0))
  let v := m'.runFrom 5000 200 0 (.new r .new .endless false (0, 0))
  have hu := (m.reachable_runFrom 5000 200 0 .start).drifts
  have hv := (m'.reachable_runFrom 5000 200 0 .start).drifts
  ⟨⟨u, hu, (Tail.justified_of_drifts Weave.troubled).1 _ _ _ _ _ _ _ _ _ u hu,
      by decide +kernel⟩,
    r, v, hv, (Tail.justified_of_drifts Weave.troubled).2 r .new .endless false (0, 0) v hv,
      by decide +kernel, by decide +kernel⟩

end LogWeave.Run

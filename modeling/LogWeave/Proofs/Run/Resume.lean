import LogWeave.Proofs.Line.Chronicle
import LogWeave.Proofs.Run.Drift
import LogWeave.Proofs.Run.Turn
import LogWeave.Run.Observation

/-! A reader that follows, over all its attempts.

Each attempt may end at any line, and the next asks for the second in which the last line was seen.
The reader's cursor is the time of that line: what it has accepted is what the log holds up to there
(`Tail.Resuming`). So whatever comes of the attempts, the lines sent are an initial part of the log,
and all of it once an attempt has brought the log to its end (`sent_once`). -/
namespace LogWeave

/-- A line of a source's log, as it came. -/
def Arrival.isLogged (a : Arrival) : Bool := a.ended.isNone && a.notice.isNone

namespace Run

variable {σ : Type}

/-- The lines of a source's log that have been put into the channel, in order. -/
def loggedBy (service : String) (journal : List Happening) : List String :=
  ((sentBy service journal).filter Arrival.isLogged).map Arrival.text

/-- How many streams of a source are over. -/
def endingsOf (service : String) (journal : List Happening) : Nat :=
  (eventsOf service journal).countP fun
    | .ended _ => true
    | _ => false

/-- Each stream that is opened brings lines of the log from the second asked for on, in order and
without a gap. It may stop at any of them. -/
def World.Serves (w : World σ) (service : String) (log : Chronicle) : Prop :=
  ∀ state query items, (w.openLog state service query).1.outcome = .ok items →
    linesOf items <+: log.fromSecond query.since

theorem loggedBy_note (service : String) (f : Floor σ) (event : Event) :
    loggedBy service (f.note service event).journal = loggedBy service f.journal ++
      (event.sent?.toList.filter Arrival.isLogged).map Arrival.text := by
  rw [loggedBy, sentBy_note, List.filter_append, List.map_append, loggedBy]

namespace Tail

/-- The stream that has just been opened. -/
def opened? (t : Tail) : Option (List StreamItem) :=
  match t.stage with
  | .opening _ (.ok items) => some items
  | _ => none

/-- The lines that have not been passed on by an earlier attempt. -/
def fresh (t : Tail) (lines : List String) : List String := lines.filter fun line => !t.knows line

/-- What a reader that follows has sent of a log, and what its stream still brings. -/
def Place (log : Chronicle) (sent : List String) (t : Tail) : Prop :=
  match t.stage with
  | .starting | .opening _ (.error _) | .pausing _ | .dormant => sent = log.upTo t.source.lastSeen
  | .opening _ (.ok items) =>
    sent = log.upTo t.source.lastSeen ∧ t.since = t.source.lastSeen ∧
      t.fresh (linesOf items) <+: log.after t.source.lastSeen
  | .reading items _ =>
    sent = log.upTo t.source.lastSeen ∧ t.fresh (linesOf items) <+: log.after t.source.lastSeen
  | .sending a (.read items) =>
    a.isLogged = true ∧ sent ++ [a.text] = log.upTo t.source.lastSeen ∧
      t.fresh (linesOf items) <+: log.after t.source.lastSeen
  | .sending a next =>
    a.isLogged = false ∧ next ≠ .finish ∧ sent = log.upTo t.source.lastSeen
  | .leaving exited =>
    sent <+: log.upTo t.source.lastSeen ∧ (exited = true → sent = log.upTo t.source.lastSeen)
  | .done => sent <+: log.upTo t.source.lastSeen

/-- The state of a reader that follows, when it has sent these lines of a log. -/
structure Resuming (log : Chronicle) (sent : List String) (t : Tail) : Prop where
  follow : t.follow = true
  /-- Nothing has been seen before the first attempt. -/
  first : t.attempts = 0 → t.since = none ∧ t.source.lastSeen = none ∧
    (t.stage = .starting ∨ t.stage = .leaving false ∨ t.stage = .done)
  place : t.Place log sent

variable {log : Chronicle} {sent : List String} {t : Tail} {w : World σ} {f : Floor σ}
  {r : Floor σ × Tail}

/-- What has been sent has been seen. -/
theorem Place.sent_prefix (h : t.Place log sent) : sent <+: log.upTo t.source.lastSeen := by
  unfold Place at h
  split at h
  · exact h ▸ List.prefix_rfl
  · exact h ▸ List.prefix_rfl
  · exact h ▸ List.prefix_rfl
  · exact h ▸ List.prefix_rfl
  · exact h.1 ▸ List.prefix_rfl
  · exact h.1 ▸ List.prefix_rfl
  · exact ⟨_, h.2.1⟩
  · exact h.2.2 ▸ List.prefix_rfl
  · exact h.1
  · exact h

/-- A reader that follows has sent an initial part of the log. -/
theorem Resuming.sent_prefix (h : t.Resuming log sent) : sent <+: log.texts :=
  h.place.sent_prefix.trans (log.upTo_prefix _)

/-- A line of the log is known when its time has been seen. -/
theorem knows_eq_isSeen {l : Time.Instant × String} (hl : l ∈ log.lines) :
    t.knows l.2 = Chronicle.isSeen t.since l := by
  rw [knows, log.stamped l hl]
  cases t.since with
  | none => rfl
  | some since => rfl

/-- What an attempt has to bring is what is still to come. -/
theorem fresh_fromSecond : t.fresh (log.fromSecond t.since) = log.after t.since :=
  Chronicle.fresh_fromSecond fun _ => knows_eq_isSeen

theorem fresh_of_knows {line : String} (h : t.knows line = true) (rest : List String) :
    t.fresh (line :: rest) = t.fresh rest := by
  simp [fresh, h]

theorem fresh_of_not_knows {line : String} (h : t.knows line = false) (rest : List String) :
    t.fresh (line :: rest) = line :: t.fresh rest := by
  simp [fresh, h]

/-- Which lines are fresh depends on the start of the attempt alone. -/
theorem fresh_congr {u : Tail} (h : u.since = t.since) : u.fresh = t.fresh := by
  funext lines
  simp only [fresh, knows, h]

/-- Each attempt starts where the earlier ones came to. -/
theorem Resuming.since_attempt (h : t.Resuming log sent) :
    t.attempt.since = t.source.lastSeen := by
  unfold attempt
  by_cases ha : t.attempts = 0
  · rw [if_pos ha, (h.first ha).1, (h.first ha).2.1]
  · rw [if_neg ha]

/-- A line that is still to come carries a time, and taking note of it moves the cursor there. -/
theorem observe_fresh {line : String} {rest : List String}
    (h : line :: rest <+: log.after t.source.lastSeen) :
    log.upTo (t.observe line).source.lastSeen = log.upTo t.source.lastSeen ++ [line] ∧
      log.after t.source.lastSeen = line :: log.after (t.observe line).source.lastSeen := by
  obtain ⟨later, hlater⟩ := h
  obtain ⟨stamp, hstamp, hseen, hupTo, hafter⟩ := log.observe_next hlater.symm
  have hcursor : (t.observe line).source.lastSeen = some stamp := by
    simp only [observe, hstamp, Source.observe, hseen]
  rw [hcursor, hupTo, hafter]
  exact ⟨rfl, hlater.symm⟩

/-- Once a reader has opened the log it has made an attempt, and it does not forget it. -/
theorem Turn.first (h : Turn w f t r) (ht : t.Resuming log sent) (h0 : r.2.attempts = 0) :
    r.2.since = none ∧ r.2.source.lastSeen = none ∧
      (r.2.stage = .starting ∨ r.2.stage = .leaving false ∨ r.2.stage = .done) := by
  have opened (hs : t.stage ≠ .starting ∧ t.stage ≠ .leaving false ∧ t.stage ≠ .done) :
      t.attempts ≠ 0 := by
    intro h0
    obtain ⟨-, -, hstage⟩ := ht.first h0
    simp [hs] at hstage
  cases h with
  | start => simp [Tail.start, attempt] at h0
  | refuse _ _ _ hf => simp [ht.follow] at hf
  | take hs => exact absurd h0 (by simp [send, opened, hs])
  | giveUp =>
    obtain ⟨hsince, hseen, -⟩ := ht.first h0
    exact ⟨hsince, hseen, .inr (.inl rfl)⟩
  | queue => exact ht.first h0
  | leave =>
    obtain ⟨hsince, hseen, -⟩ := ht.first h0
    exact ⟨hsince, hseen, .inr (.inr rfl)⟩
  | _ => exact absurd h0 (opened (by simp [*]))

/-- **A turn keeps what has been sent to an initial part of the log.** -/
theorem Turn.resuming (h : Turn w f t r) (hw : w.Serves t.service log)
    (ht : t.Resuming log (loggedBy t.service f.journal)) :
    r.2.Resuming log (loggedBy t.service r.1.journal) := by
  have hp := ht.place
  refine ⟨h.tail_eq.2.2.1.trans ht.follow, h.first ht, ?_⟩
  cases h with
  | start hs =>
    simp only [Place, hs] at hp
    have hsent : loggedBy t.service (t.start w f).1.journal = loggedBy t.service f.journal :=
      (loggedBy_note t.service _ _).trans (List.append_nil _)
    have hsince := ht.since_attempt
    have hserved := hw f.world t.attempt.query
    rw [hsent, hp]
    unfold Place Tail.start
    simp only
    cases houtcome : (w.openLog f.world t.attempt.service t.attempt.query).1.outcome with
    | error why => rfl
    | ok items =>
      have hfrom : linesOf items <+: log.fromSecond t.attempt.since := hserved items houtcome
      refine ⟨rfl, hsince, ?_⟩
      have hcoming := hfrom.filter fun line => !t.attempt.knows line
      rw [← fresh, ← fresh, fresh_fromSecond, hsince] at hcoming
      exact hcoming
  | connect hs =>
    simp only [Place, hs] at hp ⊢
    exact ⟨hp.1, hp.2.2⟩
  | postpone hs =>
    simp only [Place, hs] at hp
    simp [Place, loggedBy_note, Event.sent?, hp]
  | refuse _ _ _ hf => simp [ht.follow] at hf
  | finish hs | fail hs =>
    simp only [Place, hs] at hp
    simp [conclude, ht.follow, send, Place, Arrival.ending, Arrival.isLogged, loggedBy_note,
      Event.sent?, hp]
  | skip hs hh hk =>
    simp only [Place, hs, linesOf, fresh_of_knows hk] at hp
    exact hp
  | @take line rest _ hs hh hk =>
    simp only [Place, hs, linesOf, fresh_of_not_knows hk] at hp
    obtain ⟨hsent, hcoming⟩ := hp
    obtain ⟨hupTo, hafter⟩ := observe_fresh hcoming
    rw [hafter, List.cons_prefix_cons] at hcoming
    refine ⟨rfl, ?_, ?_⟩
    · exact (congrArg (· ++ [line]) hsent).trans hupTo.symm
    · have hfresh : ((t.observe line).send w f (.line t.service line) (.read rest)).2.fresh =
          t.fresh := fresh_congr (since_observe t line)
      rw [hfresh]
      exact hcoming.2
  | hold hs | resume hs =>
    simp only [Place, hs, linesOf] at hp ⊢
    exact hp
  | @deliver a next _ hs =>
    rw [loggedBy_note]
    cases next with
    | read items =>
      simp only [Place, hs] at hp
      obtain ⟨hlogged, hsent, hcoming⟩ := hp
      have hone : (Event.sent a).sent?.toList.filter Arrival.isLogged = [a] :=
        List.filter_cons_of_pos hlogged
      rw [hone]
      exact ⟨hsent, hcoming⟩
    | reconnect | exit | restart =>
      simp only [Place, hs] at hp
      simp [Event.sent?, hp, proceed, Place]
    | finish => simp [Place, hs] at hp
  | queue hs => exact hp
  | exit hs =>
    simp only [Place, hs] at hp
    simp [send, Place, Arrival.notify, Arrival.isLogged, loggedBy_note, Event.sent?, hp]
  | retry hs =>
    simp only [Place, hs] at hp ⊢
    exact hp
  | giveUp => exact ⟨hp.sent_prefix, by simp⟩
  | rest hs =>
    simp only [Place, hs] at hp
    exact hp.2 trivial
  | leave hs =>
    simp only [Place, hs] at hp
    simpa [Tail.retire, Place, loggedBy_note, Event.sent?] using hp.1
  | retire hs =>
    simp only [Place, hs] at hp
    simp [Tail.retire, Place, loggedBy_note, Event.sent?, hp]
  | wake hs =>
    simp only [Place, hs] at hp
    simp [send, Place, Arrival.notify, Arrival.isLogged, loggedBy_note, Event.sent?, hp]

/-- The stream that is open brings all that is still to come, unless the reader has given up. -/
def Whole (log : Chronicle) (t : Tail) : Prop :=
  match t.stage with
  | .opening _ (.ok items) | .reading items _ | .sending _ (.read items) =>
    t.fresh (linesOf items) = log.after t.source.lastSeen
  | .leaving exited => exited = false
  | .done => True
  | _ => False

/-- The end of a stream finds nothing left of the log. -/
theorem Whole.sent_all {resumeAt : Option Nat} {items : List StreamItem} (h : t.Whole log)
    (hp : t.Place log sent) (hs : t.stage = .reading items resumeAt) (hend : linesOf items = []) :
    sent = log.texts := by
  simp only [Whole, hs, hend] at h
  simp only [Place, hs] at hp
  rw [hp.1, ← log.upTo_append_after t.source.lastSeen, ← h, fresh, List.filter_nil,
    List.append_nil]

/-- A stream that brings all that is still to come does so until it ends, and then all of the log
has been sent. -/
theorem Turn.whole (h : Turn w f t r) (ht : t.Resuming log (loggedBy t.service f.journal))
    (hall : t.Whole log) :
    (r.2.Whole log ∧ endingsOf t.service r.1.journal = endingsOf t.service f.journal) ∨
      loggedBy t.service r.1.journal = log.texts := by
  have hp := ht.place
  cases h with
  | start hs | postpone hs | refuse hs | exit hs | retry hs | rest hs | retire hs | wake hs =>
    simp [Whole, hs] at hall
  | connect hs | hold hs | resume hs =>
    simp only [Whole, hs, linesOf] at hall
    exact .inl ⟨hall, rfl⟩
  | finish hs | fail hs =>
    have hsent := hall.sent_all hp hs rfl
    exact .inr (by simpa [conclude, send, loggedBy_note, Event.sent?] using hsent)
  | skip hs hh hk =>
    simp only [Whole, hs, linesOf, fresh_of_knows hk] at hall
    exact .inl ⟨hall, rfl⟩
  | @take line rest _ hs hh hk =>
    simp only [Whole, hs, linesOf, fresh_of_not_knows hk] at hall
    obtain ⟨-, hafter⟩ := observe_fresh ⟨[], (List.append_nil _).trans hall⟩
    have hfresh : ((t.observe line).send w f (.line t.service line) (.read rest)).2.fresh =
        t.fresh := fresh_congr (since_observe t line)
    refine .inl ⟨?_, rfl⟩
    show Tail.fresh _ (linesOf rest) = _
    rw [hfresh]
    exact List.tail_eq_of_cons_eq (hall.trans hafter)
  | @deliver a next _ hs =>
    cases next with
    | read items =>
      simp only [Whole, hs] at hall
      refine .inl ⟨hall, ?_⟩
      simp [endingsOf, eventsOf_note]
    | reconnect | finish | exit | restart => simp [Whole, hs] at hall
  | queue => exact .inl ⟨hall, rfl⟩
  | giveUp => exact .inl ⟨rfl, rfl⟩
  | leave => exact .inl ⟨trivial, by simp [Tail.retire, endingsOf, eventsOf_note]⟩

end Tail

namespace Observation

variable {w : World σ} {log : Chronicle} {u v v' : Observation σ}

/-- The steps of a reader that is observed by itself. -/
inductive Move (w : World σ) (v : Observation σ) : Observation σ → Prop where
  | world {act : Act} {world : σ} (h : w.act v.floor.now 0 v.floor.world = some (act, world)) :
    Move w v { v with floor := { v.floor with world }.apply act }
  | turn {r : Floor σ × Tail} (h : Tail.Turn w v.floor v.tail r) :
    Move w v { v with floor := r.1, tail := r.2 }
  | observe {channel : Channel Arrival} {observer : Observer}
    (h : v.floor.channel.isClosed = true → channel.isClosed = true) :
    Move w v { v with floor := { v.floor with channel }, observer }
  | elapse {time : Nat} (h : v.floor.now ≤ time) :
    Move w v { v with floor := { v.floor with now := time } }

theorem move_of_observe (h : v.observeStep = some v') : Move w v v' := by
  unfold observeStep at h
  split at h
  · cases h
    unfold decideStep
    simp only
    split
    · exact .observe fun _ => rfl
    · exact .observe id
  · split at h
    · cases h
      exact .observe id
    · cases h
  · unfold takeStep at h
    simp only at h
    split at h
    · rename_i htake
      cases h
      exact .observe (by rw [(Channel.take?_some htake).2]; exact id)
    · split at h
      · cases h
        exact .observe id
      · cases h
  · cases h

/-- The list is complete. -/
theorem move_of_drift (h : (schedule w).Drift v v') : Move w v v' := by
  cases h with
  | elapse ht => exact .elapse ht
  | move k hk hs =>
    match k, hs with
    | 0, hs =>
      simp only [schedule, worldStep, Floor.worldStep, Option.map_map,
        Option.map_eq_some_iff] at hs
      obtain ⟨⟨act, world⟩, hact, rfl⟩ := hs
      exact .world hact
    | 1, hs =>
      obtain ⟨x, hx, rfl⟩ := Option.map_eq_some_iff.1 hs
      exact .turn (Tail.turn_of_step hx)
    | _ + 2, hs => exact move_of_observe hs

/-- The reader takes its turn, or it stays as it is and nothing but posts is written down. -/
theorem turn_or_other (h : (schedule w).Drift v v') :
    (∃ x, Tail.Turn w v.floor v.tail x ∧ v'.floor = x.1 ∧ v'.tail = x.2) ∨
    (v'.tail = v.tail ∧ ∀ service, ∃ posted : List ServiceStatus,
      eventsOf service v'.floor.journal =
        eventsOf service v.floor.journal ++ posted.map .posted) := by
  cases move_of_drift h with
  | turn hx => exact .inl ⟨_, hx, rfl, rfl⟩
  | @world act world _ =>
    exact .inr ⟨rfl, fun service => Floor.eventsOf_apply service { v.floor with world } act⟩
  | observe | elapse => exact .inr ⟨rfl, fun service => ⟨[], (List.append_nil _).symm⟩⟩

/-- The reader of a service that has a log like this. -/
structure Reads (service : String) (log : Chronicle) (v : Observation σ) : Prop where
  service_eq : v.tail.service = service
  resuming : v.tail.Resuming log (loggedBy service v.floor.journal)

theorem reads_new (log : Chronicle) {s : Streaming} (hs : s.follows = true) (shared : Bool)
    (service : String) (capacity : Nat) (rest most : Option Nat) (bulletin : Bulletin)
    (cancelled : Bool) (world : σ) :
    (new s shared service capacity rest most bulletin cancelled world).Reads service log where
  service_eq := rfl
  resuming := ⟨hs, fun _ => ⟨rfl, rfl, .inl rfl⟩, (log.upTo_none).symm⟩

variable {service : String}

theorem Reads.drift (h : v.Reads service log) (hw : w.Serves service log)
    (hd : (schedule w).Drift v v') : v'.Reads service log := by
  obtain ⟨rfl, hr⟩ := h
  rcases turn_or_other hd with ⟨x, hx, hfloor, htail⟩ | ⟨htail, hj⟩
  · exact ⟨htail ▸ hx.tail_eq.2.1, by rw [htail, hfloor]; exact hx.resuming hw hr⟩
  · obtain ⟨posted, hposted⟩ := hj v.tail.service
    refine ⟨by rw [htail], ?_⟩
    rw [htail, loggedBy, sentBy_posted hposted]
    exact hr

/-- Lines that have been sent stay sent. -/
theorem Reads.logged_prefix (h : v.Reads service log) (hd : (schedule w).Drift v v') :
    loggedBy service v.floor.journal <+: loggedBy service v'.floor.journal := by
  obtain ⟨rfl, -⟩ := h
  rcases turn_or_other hd with ⟨x, hx, hfloor, -⟩ | ⟨-, hj⟩
  · obtain ⟨-, -, sent, -, hsent, -⟩ := hx.delivers
    rw [hfloor, loggedBy, loggedBy, hsent, List.filter_append, List.map_append]
    exact List.prefix_append ..
  · obtain ⟨posted, hposted⟩ := hj v.tail.service
    have hsame : loggedBy v.tail.service v'.floor.journal =
        loggedBy v.tail.service v.floor.journal := by
      rw [loggedBy, loggedBy, sentBy_posted hposted]
    exact hsame ▸ List.prefix_rfl

/-- The stream that was open when so many had ended still brings the rest of the log, or all of the
log has been sent. -/
def Brings (service : String) (log : Chronicle) (endings : Nat) (v : Observation σ) : Prop :=
  (v.tail.Whole log ∧ endingsOf service v.floor.journal = endings) ∨
    loggedBy service v.floor.journal = log.texts

theorem Brings.drift {endings : Nat} (h : v.Brings service log endings)
    (hr : v.Reads service log) (hr' : v'.Reads service log) (hd : (schedule w).Drift v v') :
    v'.Brings service log endings := by
  rcases h with ⟨hall, hend⟩ | hsent
  · obtain ⟨rfl, hr⟩ := hr
    rcases turn_or_other hd with ⟨x, hx, hfloor, htail⟩ | ⟨htail, hj⟩
    · rw [Brings, hfloor, htail, ← hend]
      exact hx.whole hr hall
    · obtain ⟨posted, hposted⟩ := hj v.tail.service
      refine .inl ⟨htail ▸ hall, ?_⟩
      rw [endingsOf, hposted, List.countP_append, ← endingsOf, hend]
      simp [List.countP_eq_zero]
  · refine .inr (hr'.resuming.sent_prefix.eq_of_length_le ?_)
    rw [← hsent]
    exact (hr.logged_prefix hd).length_le

/-- **Every line once, across all attempts.** However the streams of a log are cut, whatever becomes
of the service and whenever the run is cancelled, the lines sent are an initial part of the log; and
once a stream that brought all it was asked for is over, they are all of the log. -/
theorem sent_once (s : Streaming) (hs : s.follows = true) (w : World σ) (service : String)
    (log : Chronicle) (hw : w.Serves service log) (shared : Bool) (capacity : Nat)
    (rest most : Option Nat) (bulletin : Bulletin) (cancelled : Bool) (world : σ)
    (h : (schedule w).Drifts
      (new s shared service capacity rest most bulletin cancelled world) v) :
    loggedBy service v.floor.journal <+: log.texts ∧
      ∀ u items,
        (schedule w).Drifts (new s shared service capacity rest most bulletin cancelled world) u →
        u.tail.opened? = some items →
        linesOf items = log.fromSecond u.tail.query.since → (schedule w).Drifts u v →
        endingsOf service u.floor.journal < endingsOf service v.floor.journal →
        loggedBy service v.floor.journal = log.texts := by
  have hreads {v : Observation σ} (h : (schedule w).Drifts
      (new s shared service capacity rest most bulletin cancelled world) v) :
      v.Reads service log :=
    h.keep (fun _ _ hr hd => hr.drift hw hd) (reads_new log hs ..)
  refine ⟨(hreads h).resuming.sent_prefix, ?_⟩
  intro u items hu hopened hitems huv hlater
  have hall : u.tail.Whole log := by
    have hp := (hreads hu).resuming.place
    unfold Tail.opened? at hopened
    split at hopened
    · rename_i _ stream hstage
      cases hopened
      simp only [Tail.Place, hstage] at hp
      simp only [Tail.Whole, hstage, hitems]
      rw [← hp.2.1]
      exact Tail.fresh_fromSecond
    · cases hopened
  have hbrings : v.Reads service log ∧
      v.Brings service log (endingsOf service u.floor.journal) := by
    refine huv.keep (P := fun v => v.Reads service log ∧
      v.Brings service log (endingsOf service u.floor.journal)) ?_ ⟨hreads hu, .inl ⟨hall, rfl⟩⟩
    intro a b ⟨hr, hb⟩ hd
    have hr' := hr.drift hw hd
    exact ⟨hr', hb.drift hr hr' hd⟩
  rcases hbrings.2 with ⟨-, hend⟩ | hsent
  · omega
  · exact hsent

/-- A log whose stream breaks off after two lines the first time. -/
def brokenOnce (log : Chronicle) : World Nat where
  openLog n _ query :=
    let lines := log.fromSecond query.since
    (.stream ((if n = 0 then lines.take 2 else lines).map .line), n + 1)
  act _ _ _ := none
  due _ := none
  clock _ := .epoch

theorem serves_brokenOnce (log : Chronicle) (service : String) :
    (brokenOnce log).Serves service log := by
  intro n query items h
  cases h
  rw [linesOf_lines]
  split
  · exact List.take_prefix ..
  · exact List.prefix_rfl

/-- Two lines of one second come with the first attempt; the second brings them again, and the third
line. -/
theorem sent_once_brokenOnce :
    ∃ (log : Chronicle) (v : Observation Nat), log.texts.length = 3 ∧
      (schedule (brokenOnce log)).Drifts
        (new ⟨true, false, 100, 500, 1000, 2⟩ false "web" 4 none none .new false 0) v ∧
      endingsOf "web" v.floor.journal = 2 ∧ loggedBy "web" v.floor.journal = log.texts :=
  let log : Chronicle :=
    { lines := [(⟨1709287200, 100000000, by decide⟩, "2024-03-01T10:00:00.1Z first"),
        (⟨1709287200, 500000000, by decide⟩, "2024-03-01T10:00:00.5Z second"),
        (⟨1709287201, 0, by decide⟩, "2024-03-01T10:00:01Z third")]
      stamped := by decide +kernel
      increasing := by decide +kernel }
  let m := schedule (brokenOnce log)
  let start : Observation Nat :=
    new ⟨true, false, 100, 500, 1000, 2⟩ false "web" 4 none none .new false 0
  let u := m.runFrom 1000 18 0 start
  have hu : m.Drifts start u := (m.reachable_runFrom 1000 18 0 .start).drifts
  have huv : m.Drifts u (m.runFrom 1000 6 0 u) := (m.reachable_runFrom 1000 6 0 .start).drifts
  ⟨log, m.runFrom 1000 6 0 u, rfl, hu.trans huv, by decide +kernel,
    (sent_once ⟨true, false, 100, 500, 1000, 2⟩ rfl (brokenOnce log) "web" log
      (serves_brokenOnce log "web") false 4 none none .new false 0 (hu.trans huv)).2 u
      (log.texts.map .line) hu (by decide +kernel) (by decide +kernel) huv (by decide +kernel)⟩

end Observation

end Run

end LogWeave

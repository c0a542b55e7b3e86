import LogWeave.Proofs.Run.Errand
import LogWeave.Proofs.Run.Grammar
import LogWeave.Proofs.Run.Lasting

/-! What every reader tells.

A reader that does not follow has one story: that it opens the log, whether that was refused, the
lines that come and how the stream ended (`story`). What it has told and what it has still to tell
make up that story until it is told to give up (`Tail.Recital`). Together with the language of the
readers that follow this says what is told of any reader, by itself or among others
(`Tail.tells_of_drifts`). -/
namespace LogWeave.Run

/-- What is told of an event, times of receipt aside. -/
def Event.untimed : Event → Event
  | .sent a => .sent a.untimed
  | e => e

/-- Whether the log could not be opened. -/
def refusalIn : Except Failure (List StreamItem) → List Event
  | .ok _ => []
  | .error _ => [.refused]

/-- All that is told of what comes of opening a log once. -/
def story (service : String) (query : LogQuery) (came : Except Failure (List StreamItem)) :
    List Event :=
  .opened query :: (refusalIn came ++ (tale service came).map .sent)

section Story

variable {service : String} {query : LogQuery} {came : Except Failure (List StreamItem)}
  {events : List Event}

/-- A log is opened once in a story. -/
theorem opens_story : (story service query came).countP Event.isOpening = 1 := by
  have hlines : ((tale service came).map Event.sent).countP Event.isOpening = 0 := by
    simp [List.countP_eq_zero, Event.isOpening]
  cases came <;> simp only [story, refusalIn, List.nil_append, List.singleton_append,
    List.countP_cons, hlines, Event.isOpening] <;> rfl

/-- No notice is given in a story. -/
theorem notice_story {a : Arrival} (h : Event.sent a ∈ story service query came) :
    a.notice = none := by
  have hmem : a ∈ tale service came := by
    cases came <;> simpa [story, refusalIn] using h
  rcases List.mem_append.1 hmem with hmem | hmem
  · obtain ⟨text, -, rfl⟩ := List.mem_map.1 hmem
    rfl
  · obtain ⟨how, -, rfl⟩ := List.mem_map.1 hmem
    rfl

/-- Where a story begins as this does, the log has been opened once at most. -/
theorem opens_of_prefix (h : (traceOf events).map Event.untimed <+: story service query came) :
    events.countP Event.isOpening ≤ 1 := by
  have hcount : ((traceOf events).map Event.untimed).countP Event.isOpening =
      events.countP Event.isOpening := by
    rw [traceOf, List.countP_map, List.countP_filter]
    refine List.countP_congr fun e _ => ?_
    cases e <;> simp [Event.isOpening, Event.untimed, Event.isTold]
  have hle := h.sublist.countP_le (p := Event.isOpening)
  rwa [hcount, opens_story] at hle

/-- Where a story begins as this does, no notice has been given. -/
theorem notice_of_prefix (h : (traceOf events).map Event.untimed <+: story service query came)
    {a : Arrival} (ha : a ∈ events.filterMap Event.sent?) : a.notice = none := by
  obtain ⟨e, he, hsent⟩ := List.mem_filterMap.1 ha
  obtain rfl : e = .sent a := by
    cases e <;> simp_all [Event.sent?]
  have hmem : Event.sent a ∈ traceOf events := List.mem_filter.2 ⟨he, rfl⟩
  exact notice_story (a := a.untimed) (h.subset (List.mem_map_of_mem hmem))

end Story

namespace Tail

variable {σ : Type} {w : World σ} {f : Floor σ} {came : Except Failure (List StreamItem)} {t : Tail}
  {r : Floor σ × Tail} {events : List Event}

/-- What a reader asks for that has seen no line. -/
def wish (t : Tail) : LogQuery := .all t.follow t.previous

theorem query_eq_wish (h : t.since = none) : t.query = t.wish := by
  rw [query, h]
  rfl

/-- What a reader has still to tell. -/
def toTell (came : Except Failure (List StreamItem)) (t : Tail) : List Event :=
  match t.stage with
  | .starting => story t.service t.wish came
  | .opening _ _ => refusalIn came ++ (tale t.service came).map .sent
  | _ => (t.untold came).map .sent

/-- A reader that does not follow at its story. -/
structure Recital (came : Except Failure (List StreamItem)) (events : List Event) (t : Tail) :
    Prop where
  errand : t.Errand came events
  meets : t.Meets came
  told : (traceOf events).map Event.untimed ++ t.toTell came = story t.service t.wish came

/-- Its log has not been opened, or this has come of it. -/
def Reciting (w : World σ) (events : List Event) (t : Tail) : Prop :=
  ∃ came, t.Recital came events ∧
    (t.stage = .starting ∨ ∃ state, (w.openLog state t.service t.wish).1.outcome = came)

/-- Nothing has been told, or the beginning of the story of what came of opening the log. -/
def TellsPart (w : World σ) (trace : List Event) (t : Tail) : Prop :=
  trace = [] ∨ ∃ state, trace.map Event.untimed <+:
    story t.service t.wish (w.openLog state t.service t.wish).1.outcome

namespace Recital

/-- Before the log is opened nothing has been told, and all is still to be told, whatever comes. -/
theorem trace_eq_nil (h : t.Recital came events) (hs : t.stage = .starting) :
    traceOf events = [] := by
  simpa [toTell, hs] using h.told

theorem anew (h : t.Recital came events) (hs : t.stage = .starting)
    (came' : Except Failure (List StreamItem)) : t.Recital came' events := by
  have hsent : events.filterMap Event.sent? = [] := by simpa [untold, hs] using h.errand.told
  have hreached : t.attempts = 0 := by simpa [Reached, hs] using h.errand.reached
  refine ⟨⟨h.errand.since, ?_, h.errand.opens, ?_⟩, ?_, ?_⟩
  · simpa [Reached, hs] using hreached
  · simp [untold, hs, hsent]
  · intro readyAt outcome hopening
    rw [hs] at hopening
    cases hopening
  · simp [toTell, hs, h.trace_eq_nil hs]

/-- What is told next is what need not be told any more. -/
theorem append (h : t.Recital came events) {u : Tail} {events' told : List Event}
    (herrand : u.Errand came events') (hmeets : u.Meets came) (hservice : u.service = t.service)
    (hwish : u.wish = t.wish) (htrace : traceOf events' = traceOf events ++ told)
    (htold : told.map Event.untimed ++ u.toTell came = t.toTell came) :
    u.Recital came events' := by
  refine ⟨herrand, hmeets, ?_⟩
  rw [htrace, List.map_append, List.append_assoc, htold, h.told, hservice, hwish]

theorem posted (h : t.Recital came events) (posted : List ServiceStatus) :
    t.Recital came (events ++ posted.map .posted) :=
  h.append (h.errand.posted posted) h.meets rfl rfl
    (by rw [traceOf_append, traceOf_posted]) (List.nil_append _)

end Recital

/-- A turn tells what is next of the story. -/
theorem toTell_turn (h : t.Errand came events) (hx : Turn w f t r) (hstay : ¬ t.GivesUp f)
    (hf : t.follow = false) (hm : t.Meets came) :
    ∃ told, traceOf (eventsOf t.service r.1.journal) =
        traceOf (eventsOf t.service f.journal) ++ told ∧
      told.map Event.untimed ++ r.2.toTell came = t.toTell came := by
  have hsince := h.since
  have hreached := h.reached
  have noted (f : Floor σ) (event : Event) (h : event.isTold = true) :=
    traceOf_note t.service f h
  have unnoted (f : Floor σ) (event : Event) (h : event.isTold = false) :
      traceOf (eventsOf t.service (f.note t.service event).journal) =
        traceOf (eventsOf t.service f.journal) ++ [] := by
    rw [traceOf_note_none t.service f h, List.append_nil]
  have unwritten : traceOf (eventsOf t.service f.journal) =
      traceOf (eventsOf t.service f.journal) ++ [] := (List.append_nil _).symm
  cases hx with
  | start hs =>
    simp only [Reached, hs] at hreached
    have hattempt : t.attempt.since = none := by simpa [attempt, hreached] using hsince
    refine ⟨_, noted _ (.opened t.attempt.query) rfl, ?_⟩
    rw [query_eq_wish hattempt]
    simp only [toTell, hs]
    rfl
  | connect hs =>
    obtain rfl := hm _ _ hs
    refine ⟨_, unwritten, ?_⟩
    simp only [toTell, hs]
    rfl
  | refuse hs =>
    obtain rfl := hm _ _ hs
    refine ⟨_, noted f .refused rfl, ?_⟩
    simp only [toTell, hs]
    rfl
  | finish hs =>
    refine ⟨_, unnoted f (.ended .finished) rfl, ?_⟩
    simp only [conclude, hf, toTell, untold, hs]
    rfl
  | @fail why _ _ hs =>
    refine ⟨_, unnoted f (.ended (.broken why.message)) rfl, ?_⟩
    simp only [conclude, hf, toTell, untold, hs]
    rfl
  | skip hs _ hk => simp [knows_of_since hsince] at hk
  | @take line rest _ hs =>
    have hservice : ((t.observe line).send w f (.line t.service line) (.read rest)).2.service =
        t.service := service_observe t line
    refine ⟨_, unwritten, ?_⟩
    simp only [toTell, untold, hs]
    show List.map Event.sent (_ :: tale (Tail.service _) (.ok rest)) = _
    rw [hservice]
    rfl
  | hold hs | resume hs =>
    refine ⟨_, unwritten, ?_⟩
    simp only [toTell, untold, hs]
    rfl
  | @deliver a next channel hs =>
    refine ⟨_, noted { f with channel } (.sent a) rfl, ?_⟩
    cases next with
    | read | finish =>
      simp only [toTell, untold, hs]
      rfl
    | reconnect | exit | restart => simp [Reached, hs] at hreached
  | queue hs => exact ⟨_, unwritten, rfl⟩
  | giveUp hb hg => exact absurd ⟨hb, hg⟩ hstay
  | leave hs =>
    refine ⟨_, unnoted _ .returned rfl, ?_⟩
    simp only [toTell, untold, hs]
    rfl
  | exit hs | retry hs | retire hs | wake hs => simp [Reached, hs] at hreached
  | postpone _ _ _ hfollow | rest _ hfollow => simp [hf] at hfollow

/-- Only opening the log brings a reader to wait for what comes of it. -/
theorem Turn.meets_of_begun (hx : Turn w f t r) (hs : t.stage ≠ .starting) : r.2.Meets came := by
  intro readyAt outcome hr
  cases hx with
  | start hstarting => exact absurd hstarting hs
  | queue hsending =>
    rw [hsending] at hr
    cases hr
  | @deliver _ next => cases next <;> cases hr
  | _ => cases hr

/-- **A reader goes on with its story**, unless it gives up. -/
theorem Reciting.turn (h : t.Reciting w (eventsOf t.service f.journal)) (hx : Turn w f t r)
    (hstay : ¬ t.GivesUp f) (hf : t.follow = false) :
    r.2.Reciting w (eventsOf t.service r.1.journal) := by
  obtain ⟨came, h, hopened⟩ := h
  obtain ⟨-, hservice, hfollow, hprevious, -⟩ := hx.tail_eq
  have hwish : r.2.wish = t.wish := by rw [wish, hfollow, hprevious, wish]
  have recital {came} (h : t.Recital came (eventsOf t.service f.journal))
      (hmeets : r.2.Meets came) : r.2.Recital came (eventsOf t.service r.1.journal) := by
    obtain ⟨told, htrace, htold⟩ := toTell_turn h.errand hx hstay hf h.meets
    exact h.append (h.errand.turn hx hstay hf h.meets) hmeets hservice hwish htrace htold
  by_cases hs : t.stage = .starting
  · -- What comes of opening the log is known from now on.
    have hh : f.isHalted = false := by
      simpa using fun hh => hstay ⟨by simp [isBusy, hs], .inl hh⟩
    have hattempt : t.attempt.query = t.wish := by
      have hattempts : t.attempts = 0 := by simpa [Reached, hs] using h.errand.reached
      exact query_eq_wish (by simpa [attempt, hattempts] using h.errand.since)
    refine ⟨_, recital (h.anew hs _) ?_, .inr ⟨f.world, by rw [hservice, hwish]⟩⟩
    obtain rfl : r = t.start w f :=
      Option.some.inj ((step_of_turn hx).symm.trans (step_of_turn (.start hs hh)))
    intro readyAt outcome hr
    simp only [Tail.start, Stage.opening.injEq] at hr
    rw [← hr.2, hattempt]
    rfl
  · obtain ⟨state, hstate⟩ := hopened.resolve_left hs
    exact ⟨came, recital h (hx.meets_of_begun hs), .inr ⟨state, by rw [hservice, hwish, hstate]⟩⟩

theorem TellsPart.prefix_story {trace : List Event} (h : t.TellsPart w trace) :
    ∃ came, trace.map Event.untimed <+: story t.service t.wish came := by
  rcases h with rfl | ⟨state, hprefix⟩
  · exact ⟨.ok [], List.nil_prefix⟩
  · exact ⟨_, hprefix⟩

theorem Reciting.tellsPart (h : t.Reciting w events) : t.TellsPart w (traceOf events) := by
  obtain ⟨came, h, hs | ⟨state, rfl⟩⟩ := h
  · exact .inl (h.trace_eq_nil hs)
  · exact .inr ⟨state, _, h.told⟩

/-- A reader that will open no log any more has nothing to tell. -/
theorem Turn.trace_of_isOver (hx : Turn w f t r) (ho : t.isOver = true) : r.2.isOver = true ∧
    traceOf (eventsOf t.service r.1.journal) = traceOf (eventsOf t.service f.journal) := by
  cases hx with
  | leave => exact ⟨rfl, traceOf_note_none t.service _ rfl⟩
  | giveUp => exact ⟨rfl, rfl⟩
  | rest hs | retire hs | queue hs | deliver hs => simp [isOver, hs] at ho
  | _ => simp_all [isOver]

/-- How a reader carries on, and what has happened to its source, when nobody has told it to give up
unless `quit`. -/
structure Mannered (w : World σ) (quit : Bool) (events : List Event) (t : Tail) : Prop where
  fits : t.follow = true → t.Fits (traceOf events)
  recites : t.follow = false → t.Reciting w events ∨
    (quit = true ∧ t.isOver = true ∧ t.TellsPart w (traceOf events))

namespace Mannered

variable {quit : Bool}

theorem new (w : World σ) (quit : Bool) (s : Streaming) (shared : Bool) (bulletin : Bulletin)
    (number : Nat) (service : String) :
    (Tail.new s shared bulletin number service).Mannered w quit [] where
  fits _ := fits_new ..
  recites _ := .inl ⟨.ok [], ⟨errand_new .., fun _ _ hs => (by cases hs), rfl⟩, .inl rfl⟩

theorem quits (h : t.Mannered w quit events) {quit' : Bool} (hquit : quit = true → quit' = true) :
    t.Mannered w quit' events :=
  ⟨h.fits, fun hf => (h.recites hf).imp_right fun ⟨hq, hover⟩ => ⟨hquit hq, hover⟩⟩

theorem posted (h : t.Mannered w quit events) (posted : List ServiceStatus) :
    t.Mannered w quit (events ++ posted.map .posted) := by
  have htrace : traceOf (events ++ posted.map .posted) = traceOf events := by
    rw [traceOf_append, traceOf_posted, List.append_nil]
  refine ⟨fun hf => htrace.symm ▸ h.fits hf, fun hf => (h.recites hf).imp ?_ ?_⟩
  · exact fun ⟨came, hrecital, hopened⟩ => ⟨came, hrecital.posted posted, hopened⟩
  · exact fun ⟨hq, hover, htold⟩ => ⟨hq, hover, htrace.symm ▸ htold⟩

theorem turn (h : t.Mannered w quit (eventsOf t.service f.journal)) (hx : Turn w f t r)
    (hquit : f.isHalted = true ∨ f.channel.isClosed = true → quit = true) :
    r.2.Mannered w quit (eventsOf t.service r.1.journal) := by
  obtain ⟨-, hservice, hfollow, hprevious, -⟩ := hx.tail_eq
  have hpart {trace} (h : t.TellsPart w trace) : r.2.TellsPart w trace := by
    rwa [TellsPart, wish, hservice, hfollow, hprevious]
  refine ⟨fun hf => hx.fits (hfollow.symm.trans hf) (h.fits (hfollow.symm.trans hf)), fun hf => ?_⟩
  have hf : t.follow = false := hfollow.symm.trans hf
  rcases h.recites hf with hrecites | ⟨hq, hover, htold⟩
  · by_cases hgive : t.GivesUp f
    · refine .inr ⟨hquit (hgive.2.imp_right And.left), ?_⟩
      obtain rfl := hgive.turn_eq hx
      exact ⟨rfl, hpart hrecites.tellsPart⟩
    · exact .inl (hrecites.turn hx hgive hf)
  · obtain ⟨hover', htrace⟩ := hx.trace_of_isOver hover
    exact .inr ⟨hq, hover', htrace.symm ▸ hpart htold⟩

end Mannered

/-! ### In every run -/

/-- What is told of a reader. -/
structure Tellable (w : World σ) (f : Floor σ) (t : Tail) : Prop where
  /-- If it follows, it is the beginning of what such a reader may tell. -/
  following : t.follow = true → ∃ rest,
    traceOf (eventsOf t.service f.journal) ++ rest ∈ Grammar.following t.service t.shared
  /-- If not, its log is opened once at most, -/
  opens : t.follow = false → opensOf t.service f.journal ≤ 1
  /-- no notice is given, -/
  unnoticed : t.follow = false → ∀ a ∈ sentBy t.service f.journal, a.notice = none
  /-- and what is told begins as the story does of what came of opening it; -/
  part : t.follow = false → t.TellsPart w (traceOf (eventsOf t.service f.journal))
  /-- all of which is told when the reader returns by itself: that the log was opened and whether
  that was refused, each line that came, and last how the stream ended. -/
  whole : t.follow = false → t.isDone = true → f.isHalted = false → f.channel.isClosed = false →
    ∃ state how, let came := (w.openLog state t.service t.wish).1.outcome
      endIn came = some how ∧
      (traceOf (eventsOf t.service f.journal)).map Event.untimed =
        .opened t.wish :: (refusalIn came ++ (linesFrom t.service came).map .sent ++
          [.sent (.ending t.service how none .epoch)])

theorem Mannered.tellable {quit : Bool} (h : t.Mannered w quit (eventsOf t.service f.journal))
    (hquit : quit = true → f.isHalted = true ∨ f.channel.isClosed = true) : t.Tellable w f := by
  have hpart (hf : t.follow = false) : t.TellsPart w (traceOf (eventsOf t.service f.journal)) :=
    (h.recites hf).elim Reciting.tellsPart fun hover => hover.2.2
  refine ⟨fun hf => (h.fits hf).viable, fun hf => ?_, fun hf a ha => ?_, hpart,
    fun hf hd hh hc => ?_⟩
  · obtain ⟨came, hprefix⟩ := (hpart hf).prefix_story
    exact opens_of_prefix hprefix
  · obtain ⟨came, hprefix⟩ := (hpart hf).prefix_story
    exact notice_of_prefix hprefix ha
  · obtain ⟨came, hrecital, hopened⟩ := (h.recites hf).resolve_right fun hover => by
      simpa [hh, hc] using hquit hover.1
    have hs : t.stage = .done := by
      unfold isDone at hd
      split at hd
      · assumption
      · cases hd
    obtain ⟨state, rfl⟩ := hopened.resolve_left (by simp [hs])
    obtain ⟨-, how, hend, -⟩ := hrecital.errand.of_isDone hd
    have htold := hrecital.told
    refine ⟨state, how, hend, ?_⟩
    simpa [toTell, untold, hs, story, tale, hend] using htold

end Tail

/-- A reader of this run may be told to give up. -/
def Floor.dismisses {σ : Type} (f : Floor σ) : Bool := f.isHalted || f.channel.isClosed

section Everywhere

variable {σ : Type} {w : World σ}

/-- Whoever has been told to give up is not asked to go on. -/
theorem Observation.dismisses_drift {v v' : Observation σ}
    (hd : (Observation.schedule w).Drift v v') (h : v.floor.dismisses = true) :
    v'.floor.dismisses = true := by
  simp only [Floor.dismisses, Bool.or_eq_true] at h ⊢
  cases Observation.move_of_drift hd with
  | @world act world _ =>
    cases act with
    | cancel => exact .inl rfl
    | post | nothing => exact h
  | turn hx => exact h.imp hx.isHalted_eq.trans hx.delivers.isClosed.trans
  | observe hclosed => exact h.imp_right hclosed
  | elapse => exact h

theorem Observation.mannered_drift {v v' : Observation σ}
    (h : v.tail.Mannered w v.floor.dismisses (eventsOf v.tail.service v.floor.journal))
    (hd : (Observation.schedule w).Drift v v') :
    v'.tail.Mannered w v'.floor.dismisses (eventsOf v'.tail.service v'.floor.journal) := by
  refine Tail.Mannered.quits ?_ (dismisses_drift hd)
  rcases turn_or_other hd with ⟨x, hx, hfloor, htail⟩ | ⟨htail, hj⟩
  · rw [hfloor, htail, hx.tail_eq.2.1]
    exact h.turn hx fun hquit => by simpa [Floor.dismisses] using hquit
  · obtain ⟨posted, hposted⟩ := hj v.tail.service
    rw [htail, hposted]
    exact h.posted posted

/-- All readers of a weave carry on as they should. -/
def Weave.Manners (w : World σ) (v : Weave σ) : Prop :=
  ∀ t ∈ v.tails, t.Mannered w v.floor.isHalted (eventsOf t.service v.floor.journal)

theorem Weave.manners_new (w : World σ) (r : Request) (bulletin : Bulletin) (sink : Sink)
    (cancelled : Bool) (world : σ) : (Weave.new r bulletin sink cancelled world).Manners w :=
  Weave.forall_tails_new _ _ _ _ _ fun i _ => .new w _ r.streaming r.isShared bulletin i _

theorem Weave.Manners.move {r : Request} {v v' : Weave σ} (h : v.Manners w) (hw : Woven r v)
    (hc : Counted v) (hm : Move w v v') : v'.Manners w := by
  suffices hall : ∀ t ∈ v'.tails,
      t.Mannered w v.floor.isHalted (eventsOf t.service v'.floor.journal) from
    fun t ht => (hall t ht).quits hm.isHalted
  cases hm with
  | @world act world _ =>
    intro t ht
    obtain ⟨posted, hposted⟩ := Floor.eventsOf_apply t.service { v.floor with world } act
    rw [hposted]
    exact (h t ht).posted posted
  | @turn i t x hi hx =>
    refine hw.forall_turn (P := fun u events => u.Mannered w v.floor.isHalted events) hi hx h ?_
    exact (h t (List.mem_of_getElem? hi)).turn hx fun hquit =>
      hquit.resolve_right (by simp [hc.isOpen])
  | stop | print | elapse => exact h

end Everywhere

/-- **What a reader tells**, by itself or among others, whatever the world opens and posts, and
whenever it cancels. One that follows keeps to the language of attempts, exits and restarts; one
that does not tells the story of what came of opening its log. -/
theorem Tail.tells_of_drifts {σ : Type} (w : World σ) :
    (∀ (s : Streaming) (shared : Bool) (service : String) (capacity : Nat)
      (rest most : Option Nat) (bulletin : Bulletin) (cancelled : Bool) (world : σ)
      (v : Observation σ), (Observation.schedule w).Drifts
        (.new s shared service capacity rest most bulletin cancelled world) v →
      v.tail.Tellable w v.floor) ∧
    (∀ (r : Request) (bulletin : Bulletin) (sink : Sink) (cancelled : Bool) (world : σ)
      (v : Weave σ), (Weave.schedule w).Drifts (.new r bulletin sink cancelled world) v →
      ∀ t ∈ v.tails, t.Tellable w v.floor) := by
  constructor
  · intro s shared service capacity rest most bulletin cancelled world v h
    have hmannered : v.tail.Mannered w v.floor.dismisses
        (eventsOf v.tail.service v.floor.journal) :=
      h.keep (P := fun v => v.tail.Mannered w v.floor.dismisses
          (eventsOf v.tail.service v.floor.journal))
        (fun _ _ => Observation.mannered_drift) (.new w _ s shared bulletin 0 service)
    exact hmannered.tellable fun hquit => by simpa [Floor.dismisses] using hquit
  · intro r bulletin sink cancelled world v h t ht
    have hall : v.Manners w ∧ Weave.Counted v :=
      Weave.Woven.keep (P := fun v => v.Manners w ∧ Weave.Counted v) h
        (fun _ _ hw hv hm => ⟨hv.1.move hw hv.2 hm, hv.2.move hw hm⟩)
        ⟨Weave.manners_new w r bulletin sink cancelled world, Weave.counted_new ..⟩
    exact (hall.1 t ht).tellable .inl

/-- A reader that follows through all troubles, and one that does not, whose stream breaks off. -/
theorem Tail.tells_of_drifts_troubled :
    (∃ v : Observation (Nat × Nat), (Observation.schedule Weave.troubled).Drifts
        (.new ⟨true, false, 100, 500, 1000, 2⟩ false "web" 16 none none .new false (0, 0)) v ∧
      v.tail.Tellable Weave.troubled v.floor ∧ v.tail.follow = true ∧
      (traceOf (eventsOf "web" v.floor.journal)).length = 12) ∧
    ∃ v : Observation (Nat × Nat), (Observation.schedule Weave.troubled).Drifts
        (.new ⟨false, false, 100, 500, 1000, 2⟩ false "web" 16 none none .new false (1, 3)) v ∧
      v.tail.Tellable Weave.troubled v.floor ∧ v.tail.follow = false ∧ v.tail.isDone = true ∧
      v.floor.dismisses = false :=
  let m := Observation.schedule Weave.troubled
  let u := m.runFrom 7000 200 0
    (.new ⟨true, false, 100, 500, 1000, 2⟩ false "web" 16 none none .new false (0, 0))
  let v := m.runFrom 7000 200 0
    (.new ⟨false, false, 100, 500, 1000, 2⟩ false "web" 16 none none .new false (1, 3))
  have hu := (m.reachable_runFrom 7000 200 0 .start).drifts
  have hv := (m.reachable_runFrom 7000 200 0 .start).drifts
  ⟨⟨u, hu, (Tail.tells_of_drifts Weave.troubled).1 _ _ _ _ _ _ _ _ _ u hu, by decide +kernel,
      by decide +kernel⟩,
    v, hv, (Tail.tells_of_drifts Weave.troubled).1 _ _ _ _ _ _ _ _ _ v hv, by decide +kernel,
      by decide +kernel, by decide +kernel⟩

end LogWeave.Run

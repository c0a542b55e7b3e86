import LogWeave.Proofs.Run.Move
import LogWeave.Proofs.Run.Resume
import Mathlib.Order.MinMax

/-! What a reader lets through, whatever its streams bring.

Lines may come in any order of their times and with none at all. Each attempt starts at the newest
time that earlier attempts have passed on, and drops the lines that are no later; so what an attempt
passes on is later than everything before it (`Ascending`). A turn of a reader means one of few
things to its lines (`Tail.Sift`), and each keeps that order (`Tail.Sifting.sift`). -/
namespace LogWeave

/-- The newest of the times in front of these lines. -/
def newest (lines : List String) : Option Time.Instant := (lines.filterMap Stamp.of?).max?

section Newest

variable {lines : List String} {t : Time.Instant}

theorem newest_eq_some : newest lines = some t ↔
    t ∈ lines.filterMap Stamp.of? ∧ ∀ s ∈ lines.filterMap Stamp.of?, s ≤ t :=
  List.max?_eq_some_iff

/-- No line has a time later than the newest. -/
theorem le_newest {line : String} (hl : line ∈ lines) (ht : Stamp.of? line = some t) :
    ∃ s, newest lines = some s ∧ t ≤ s := by
  have hmem : t ∈ lines.filterMap Stamp.of? := List.mem_filterMap.2 ⟨line, hl, ht⟩
  cases hn : newest lines with
  | none =>
    rw [List.max?_eq_none_iff.1 hn] at hmem
    cases hmem
  | some s => exact ⟨s, rfl, (newest_eq_some.1 hn).2 t hmem⟩

/-- Further lines may bring a newer time, and never an older one. -/
theorem newest_mono (hn : newest lines = some t) (more : List String) :
    ∃ s, newest (lines ++ more) = some s ∧ t ≤ s := by
  obtain ⟨line, hl, ht⟩ := List.mem_filterMap.1 (newest_eq_some.1 hn).1
  exact le_newest (List.mem_append_left more hl) ht

theorem newest_of_unstamped {line : String} (hline : Stamp.of? line = none) :
    newest (lines ++ [line]) = newest lines := by
  simp [newest, hline]

theorem newest_of_stamped {line : String} (hline : Stamp.of? line = some t) :
    newest (lines ++ [line]) = some (Time.Instant.later (newest lines) t) := by
  have hstamps : (lines ++ [line]).filterMap Stamp.of? = lines.filterMap Stamp.of? ++ [t] := by
    simp [hline]
  refine newest_eq_some.2 ?_
  simp only [hstamps, List.mem_append, List.mem_singleton]
  cases hn : newest lines with
  | none => simp [Time.Instant.later, List.max?_eq_none_iff.1 hn]
  | some m =>
    obtain ⟨hm, hle⟩ := newest_eq_some.1 hn
    simp only [Time.Instant.later]
    split
    · rename_i htm
      exact ⟨.inl hm, fun s hs => hs.elim (hle s) fun heq => heq ▸ htm⟩
    · rename_i htm
      exact ⟨.inr rfl, fun s hs => hs.elim (fun hs => (hle s hs).trans (le_of_not_ge htm)) le_of_eq⟩

end Newest

/-- A line that carries a time, one that is not later than where an attempt starts. -/
def isStale (since : Option Time.Instant) (line : String) : Bool :=
  (Stamp.of? line).any fun t => since.any (t ≤ ·)

theorem isStale_iff {since : Option Time.Instant} {line : String} :
    isStale since line = true ↔ ∃ t s, Stamp.of? line = some t ∧ since = some s ∧ t ≤ s := by
  simp only [isStale, Option.any_eq_true, decide_eq_true_eq]
  constructor
  · rintro ⟨t, ht, s, hs, hle⟩
    exact ⟨t, s, ht, hs, hle⟩
  · rintro ⟨t, s, ht, hs, hle⟩
    exact ⟨t, ht, s, hs, hle⟩

namespace Run

/-! ### The order of the lines passed on -/

/-- The lines of the source's log among what has happened to it. -/
def loggedIn (events : List Event) : List String :=
  ((events.filterMap Event.sent?).filter Arrival.isLogged).map Arrival.text

section LoggedIn

variable (events later : List Event)

@[simp] theorem loggedIn_append :
    loggedIn (events ++ later) = loggedIn events ++ loggedIn later := by
  simp [loggedIn]

theorem loggedIn_sent {a : Arrival} (ha : a.isLogged = true) : loggedIn [.sent a] = [a.text] := by
  simp [loggedIn, Event.sent?, ha]

theorem loggedIn_told {a : Arrival} (ha : a.isLogged = false) : loggedIn [.sent a] = [] := by
  simp [loggedIn, Event.sent?, ha]

end LoggedIn

/-- Neither begins an attempt nor passes a line on. -/
def Event.isPlain (e : Event) : Bool := !e.isOpening && (loggedIn [e]).isEmpty

theorem loggedIn_plain {events : List Event} (h : ∀ e ∈ events, e.isPlain = true) :
    loggedIn events = [] := by
  induction events with
  | nil => rfl
  | cons e rest ih =>
    obtain ⟨he, hrest⟩ := List.forall_mem_cons.1 h
    simp only [Event.isPlain, Bool.and_eq_true, List.isEmpty_iff] at he
    rw [← List.singleton_append, loggedIn_append, he.2, List.nil_append, ih hrest]

/-- One event more comes after all that an event has before and after it. -/
theorem concat_eq_append_cons {α : Type} {l before after : List α} {a b : α}
    (h : l ++ [a] = before ++ b :: after) :
    (a = b ∧ l = before ∧ after = []) ∨
      ∃ rest, after = rest ++ [a] ∧ l = before ++ b :: rest := by
  rcases List.eq_nil_or_concat after with rfl | ⟨rest, c, rfl⟩
  · obtain ⟨hl, ha⟩ := List.append_inj' h rfl
    exact .inl ⟨List.head_eq_of_cons_eq ha, hl, rfl⟩
  · rw [List.concat_eq_append, ← List.cons_append, ← List.append_assoc] at h
    obtain ⟨hl, ha⟩ := List.append_inj' h rfl
    obtain rfl : a = c := List.head_eq_of_cons_eq ha
    exact .inr ⟨rest, List.concat_eq_append, hl⟩

/-- Each attempt starts at the newest time passed on before it, and passes on later lines only. -/
structure Ascending (events : List Event) : Prop where
  since : ∀ before query after, events = before ++ .opened query :: after →
    query.since = newest (loggedIn before)
  later : ∀ before query after, events = before ++ .opened query :: after →
    ∀ x ∈ loggedIn before, ∀ y ∈ loggedIn after, ∀ s t, Stamp.of? x = some s →
      Stamp.of? y = some t → s < t

/-- The attempt under way: what was before it, what it asked for and what has happened since. -/
def Attempt (events before : List Event) (query : LogQuery) (after : List Event) : Prop :=
  events = before ++ .opened query :: after ∧ ∀ e ∈ after, e.isOpening = false

namespace Attempt

variable {events before after before' after' : List Event} {query query' : LogQuery}

theorem start (events : List Event) (query : LogQuery) :
    Attempt (events ++ [.opened query]) events query [] := ⟨rfl, by simp⟩

theorem concat (h : Attempt events before query after) {e : Event} (he : e.isOpening = false) :
    Attempt (events ++ [e]) before query (after ++ [e]) := by
  refine ⟨by rw [h.1, List.append_assoc, List.cons_append], fun e' he' => ?_⟩
  rcases List.mem_append.1 he' with he' | he'
  · exact h.2 e' he'
  · rwa [List.mem_singleton.1 he']

/-- What was before another attempt was before the one under way. -/
theorem before_prefix (h : Attempt events before query after)
    (h' : events = before' ++ .opened query' :: after') : before' <+: before := by
  rcases List.append_eq_append_iff.1 (h'.symm.trans h.1) with ⟨mid, hmid, -⟩ | ⟨mid, hmid, hafter⟩
  · exact ⟨mid, hmid.symm⟩
  · cases mid with
    | nil => exact ⟨[], by simpa using hmid⟩
    | cons e rest =>
      -- The other attempt would have begun after the one under way.
      obtain rfl : after = rest ++ .opened query' :: after' := List.tail_eq_of_cons_eq hafter
      have hplain := h.2 (.opened query') (by simp)
      simp [Event.isOpening] at hplain

/-- There is one attempt under way. -/
theorem unique (h : Attempt events before query after)
    (h' : Attempt events before' query' after') :
    before' = before ∧ query' = query ∧ after' = after := by
  have hbefore : before' = before :=
    (h.before_prefix h'.1).eq_of_length_le (h'.before_prefix h.1).length_le
  subst hbefore
  have htail := List.append_cancel_left (h'.1.symm.trans h.1)
  have hquery : Event.opened query' = .opened query := List.head_eq_of_cons_eq htail
  exact ⟨rfl, by cases hquery; rfl, List.tail_eq_of_cons_eq htail⟩

end Attempt

namespace Ascending

variable {events before after : List Event} {query : LogQuery}

theorem nil : Ascending [] := ⟨by simp, by simp⟩

theorem plain (h : Ascending events) {e : Event} (he : e.isPlain = true) :
    Ascending (events ++ [e]) := by
  simp only [Event.isPlain, Bool.and_eq_true, Bool.not_eq_true', List.isEmpty_iff] at he
  refine ⟨fun before query after heq => ?_, fun before query after heq x hx y hy => ?_⟩ <;>
    rcases concat_eq_append_cons heq with ⟨rfl, -, -⟩ | ⟨rest, rfl, hevents⟩
  · simp [Event.isOpening] at he
  · exact h.since _ _ _ hevents
  · simp [Event.isOpening] at he
  · rw [loggedIn_append, he.2, List.append_nil] at hy
    exact h.later _ _ _ hevents x hx y hy

/-- A new attempt starts at the newest time passed on. -/
theorem attempt (h : Ascending events) (hq : query.since = newest (loggedIn events)) :
    Ascending (events ++ [.opened query]) := by
  refine ⟨fun before query' after heq => ?_, fun before query' after heq x hx y hy => ?_⟩ <;>
    rcases concat_eq_append_cons heq with ⟨hquery, rfl, rfl⟩ | ⟨rest, rfl, hevents⟩
  · cases hquery
    exact hq
  · exact h.since _ _ _ hevents
  · simp [loggedIn] at hy
  · rw [loggedIn_append] at hy
    exact h.later _ _ _ hevents x hx y (by simpa [loggedIn, Event.sent?] using hy)

/-- A line that is later than where the attempt started is later than all before it. -/
theorem pass (h : Ascending events) (ha : Attempt events before query after) {a : Arrival}
    (hlogged : a.isLogged = true) (hfresh : isStale query.since a.text = false) :
    Ascending (events ++ [.sent a]) := by
  refine ⟨fun before' query' after' heq => ?_, fun before' query' after' heq x hx y hy => ?_⟩ <;>
    rcases concat_eq_append_cons heq with ⟨hquery, -, -⟩ | ⟨rest, rfl, hevents⟩
  · cases hquery
  · exact h.since _ _ _ hevents
  · cases hquery
  · rw [loggedIn_append, loggedIn_sent hlogged] at hy
    rcases List.mem_append.1 hy with hy | hy
    · exact h.later _ _ _ hevents x hx y hy
    · intro s t hs ht
      rw [List.mem_singleton.1 hy] at ht
      obtain ⟨between, hbefore⟩ := ha.before_prefix hevents
      have hmem : x ∈ loggedIn before := by
        rw [← hbefore, loggedIn_append]
        exact List.mem_append_left _ hx
      obtain ⟨m, hm, hle⟩ := le_newest hmem hs
      have hsince : query.since = some m := (h.since _ _ _ ha.1).trans hm
      refine lt_of_le_of_lt hle (lt_of_not_ge fun hstale => ?_)
      rw [isStale_iff.2 ⟨t, m, ht, hsince, hstale⟩] at hfresh
      cases hfresh

end Ascending

/-! ### What a turn means to the lines -/

namespace Tail

variable {σ : Type} {w : World σ} {f : Floor σ} {t u : Tail} {r : Floor σ × Tail}
  {events : List Event}

/-- The line taken in and not yet passed on. -/
def inHand (t : Tail) : List String :=
  match t.stage with
  | .sending a (.read _) => [a.text]
  | _ => []

/-- Will open no log any more. -/
def isOver (t : Tail) : Bool :=
  match t.stage with
  | .leaving false | .done => true
  | _ => false

/-- Where a reader can be that has not opened the log yet. -/
def isUntried (t : Tail) : Bool :=
  match t.stage with
  | .starting | .leaving false | .done => true
  | _ => false

/-- A line of the log is sent in the course of reading, and what else is sent is none. -/
def Labelled (t : Tail) : Prop :=
  match t.stage with
  | .sending a (.read _) => a.isLogged = true
  | .sending a _ => a.isLogged = false
  | _ => True

/-- What is left of what came of opening the log. -/
def Left (since : Option Time.Instant) (outcome : Except Failure (List StreamItem))
    (left : List String) (t : Tail) : Prop :=
  match t.stage with
  | .opening _ came => came = outcome ∧ left = linesIn outcome
  | .reading rest _ => left = linesOf rest
  | .sending a (.read rest) => isStale since a.text = false ∧ left = a.text :: linesOf rest
  | _ => True

theorem knows_eq_isStale (t : Tail) (line : String) : t.knows line = isStale t.since line := by
  unfold knows isStale
  cases Stamp.of? line with
  | none => rfl
  | some stamp =>
    cases t.since with
    | none => rfl
    | some since => rfl

/-- What a turn means to the lines of the log: an attempt begins, a line is dropped, taken in or
passed on, or the lines are not concerned. -/
inductive Sift (w : World σ) (t : Tail) : List Event → Tail → Prop where
  | attempt (state : σ) (readyAt : Nat) (hs : t.stage = .starting) :
    Sift w t [.opened t.attempt.query] { t.attempt with
      stage := .opening readyAt (w.openLog state t.service t.attempt.query).1.outcome }
  | drop {line : String} {rest : List StreamItem} {resumeAt : Option Nat}
    (hs : t.stage = .reading (.line line :: rest) resumeAt) (hk : isStale t.since line = true) :
    Sift w t [] { t with stage := .reading rest none }
  | take {line : String} {rest : List StreamItem} {resumeAt : Option Nat}
    (hs : t.stage = .reading (.line line :: rest) resumeAt) (hk : isStale t.since line = false)
    (receivedAt : Time.Instant) : Sift w t [] { t.observe line with
      stage := .sending (.line t.service line receivedAt) (.read rest) }
  | pass {a : Arrival} {rest : List StreamItem} (hs : t.stage = .sending a (.read rest)) :
    Sift w t [.sent a] { t with stage := .reading rest none }
  | beside {events : List Event} {u : Tail} (hplain : ∀ e ∈ events, e.isPlain = true)
    (hsame : u.source = t.source ∧ u.since = t.since ∧ u.attempts = t.attempts)
    (huntried : t.isUntried = true → u.isUntried = true)
    (hover : u.isOver = false → t.isOver = false ∧ u.inHand = t.inHand)
    (hleft : ∀ since outcome left, t.Left since outcome left → u.Left since outcome left) :
    Sift w t events u

theorem Turn.labelled (h : Turn w f t r) (ht : t.Labelled) : r.2.Labelled := by
  cases h with
  | take | refuse | exit | wake => rfl
  | finish | fail =>
    cases hf : t.follow <;> simp [conclude, send, Labelled, hf, Arrival.ending, Arrival.isLogged]
  | @deliver _ next => cases next <;> trivial
  | queue => exact ht
  | _ => trivial

/-- Every turn means one of these. -/
theorem Turn.sift (h : Turn w f t r) (hl : t.Labelled) :
    ∃ events, eventsOf t.service r.1.journal = eventsOf t.service f.journal ++ events ∧
      Sift w t events r.2 := by
  have noted (f : Floor σ) (event : Event) := eventsOf_note t.service f event
  have none_noted : eventsOf t.service f.journal = eventsOf t.service f.journal ++ [] :=
    (List.append_nil _).symm
  have plain (event : Event) (h : event.isPlain = true) : ∀ e ∈ [event], e.isPlain = true := by
    simpa using h
  cases h with
  | start hs => exact ⟨_, noted _ _, .attempt f.world _ hs⟩
  | skip hs hh hk => exact ⟨[], none_noted, .drop hs (by rwa [← knows_eq_isStale])⟩
  | take hs hh hk => exact ⟨[], none_noted, .take hs (by rwa [← knows_eq_isStale]) _⟩
  | @deliver a next channel hs =>
    cases next with
    | read => exact ⟨_, noted { f with channel } _, .pass hs⟩
    | reconnect | finish | exit | restart =>
      have htold : a.isLogged = false := by simpa [Labelled, hs] using hl
      refine ⟨_, noted { f with channel } _, .beside (plain _ ?_) ⟨rfl, rfl, rfl⟩ ?_ ?_ ?_⟩
      · simp [Event.isPlain, Event.isOpening, loggedIn_told htold]
      · simp [isUntried, hs]
      · simp [isOver, inHand, hs, proceed]
      · simp [Left, proceed]
  | connect hs =>
    refine ⟨[], none_noted, .beside (by simp) ⟨rfl, rfl, rfl⟩ ?_ ?_ ?_⟩
    · simp [isUntried, hs]
    · simp [isOver, inHand, hs]
    · intro since outcome left hleft
      obtain ⟨rfl, rfl⟩ : _ = outcome ∧ left = _ := by simpa [Left, hs] using hleft
      rfl
  | hold hs | resume hs =>
    refine ⟨[], none_noted, .beside (by simp) ⟨rfl, rfl, rfl⟩ ?_ ?_ ?_⟩
    · simp [isUntried, hs]
    · simp [isOver, inHand, hs]
    · simp [Left, hs, linesOf]
  | queue => exact ⟨[], none_noted, .beside (by simp) ⟨rfl, rfl, rfl⟩ id (by simp) (by simp)⟩
  | retry hs =>
    refine ⟨[], none_noted, .beside (by simp) ⟨rfl, rfl, rfl⟩ ?_ ?_ ?_⟩
    · simp [isUntried]
    · simp [isOver, inHand, hs]
    · simp [Left]
  | giveUp | rest hs =>
    exact ⟨[], none_noted, .beside (by simp) ⟨rfl, rfl, rfl⟩ (by simp [isUntried, *, Tail.giveUp])
      (by simp [isOver, inHand, *, Tail.giveUp]) (by simp [Left, Tail.giveUp])⟩
  | finish hs | fail hs =>
    refine ⟨_, noted _ _, .beside (plain _ rfl) ⟨rfl, rfl, rfl⟩ ?_ ?_ ?_⟩
    · simp [isUntried, hs]
    · cases hf : t.follow <;> simp [isOver, inHand, hs, conclude, send, hf]
    · cases hf : t.follow <;> simp [Left, conclude, send, hf]
  | postpone hs | refuse hs | exit hs | wake hs =>
    refine ⟨_, noted _ _, .beside (plain _ rfl) ⟨rfl, rfl, rfl⟩ ?_ ?_ ?_⟩
    · simp [isUntried, hs]
    · simp [isOver, inHand, hs, send]
    · simp [Left, send]
  | leave hs | retire hs =>
    refine ⟨_, noted _ _, .beside (plain _ rfl) ⟨rfl, rfl, rfl⟩ ?_ ?_ ?_⟩
    · simp [isUntried, Tail.retire]
    · simp [isOver, Tail.retire]
    · simp [Left, Tail.retire]

/-! ### What a reader has passed on -/

/-- The reader has not opened the log yet. -/
structure Untried (events : List Event) (t : Tail) : Prop where
  stage : t.isUntried = true
  attempts : t.attempts = 0
  since : t.since = none
  lastSeen : t.source.lastSeen = none
  opened : ∀ e ∈ events, e.isOpening = false
  logged : loggedIn events = []

/-- The attempt under way has passed on what it has read of its stream, less the stale lines. -/
structure Sieve (w : World σ) (service : String) (query : LogQuery) (after : List Event)
    (t : Tail) : Prop where
  attempts : t.attempts ≠ 0
  since : query.since = t.since
  lines : ∃ state read left,
    read ++ left = linesIn (w.openLog state service query).1.outcome ∧
    loggedIn after = read.filter (fun line => !isStale query.since line) ∧
    t.Left query.since (w.openLog state service query).1.outcome left

/-- What a reader has passed on, over all its attempts. -/
structure Sifting (w : World σ) (service : String) (events : List Event) (t : Tail) : Prop where
  service_eq : t.service = service
  labelled : t.Labelled
  ascending : Ascending events
  /-- The newest time of all that has been passed on or is in hand. -/
  cursor : t.isOver = false → t.source.lastSeen = newest (loggedIn events ++ t.inHand)
  attempt : t.Untried events ∨ ∃ before query after, Attempt events before query after ∧
    Sieve w service query after t

theorem lastSeen_observe {lines : List String} (h : t.source.lastSeen = newest lines)
    (line : String) : (t.observe line).source.lastSeen = newest (lines ++ [line]) := by
  unfold observe
  cases hline : Stamp.of? line with
  | none => rw [newest_of_unstamped hline, h]
  | some stamp =>
    rw [newest_of_stamped hline, ← h]
    rfl

namespace Sifting

variable {service : String}

theorem new (s : Streaming) (shared : Bool) (bulletin : Bulletin) (number : Nat) :
    (Tail.new s shared bulletin number service).Sifting w service [] where
  service_eq := rfl
  labelled := trivial
  ascending := .nil
  cursor _ := rfl
  attempt := .inl ⟨rfl, rfl, rfl, rfl, by simp, rfl⟩

/-- A reader in the middle of a stream has made an attempt. -/
theorem tried (h : t.Sifting w service events) (hs : t.isUntried = false) :
    ∃ before query after, Attempt events before query after ∧ Sieve w service query after t :=
  h.attempt.resolve_left fun hu => by simp [hu.stage] at hs

/-- Each attempt starts at the newest time of all that has been passed on. -/
theorem since_attempt (h : t.Sifting w service events) (hs : t.stage = .starting) :
    t.attempt.query.since = newest (loggedIn events) := by
  have hcursor := h.cursor (by simp [isOver, hs])
  rw [show t.inHand = [] by simp [inHand, hs], List.append_nil] at hcursor
  show (if t.attempts = 0 then t.since else t.source.lastSeen) = _
  rcases h.attempt with hu | ⟨_, _, _, -, hsieve⟩
  · rw [if_pos hu.attempts, hu.since, ← hcursor, hu.lastSeen]
  · rw [if_neg hsieve.attempts, hcursor]

theorem beside {later : List Event} (h : t.Sifting w service events)
    (hplain : ∀ e ∈ later, e.isPlain = true)
    (hsame : u.source = t.source ∧ u.since = t.since ∧ u.attempts = t.attempts)
    (hlabelled : u.Labelled) (huntried : t.isUntried = true → u.isUntried = true)
    (hover : u.isOver = false → t.isOver = false ∧ u.inHand = t.inHand)
    (hleft : ∀ since outcome left, t.Left since outcome left → u.Left since outcome left) :
    u.Sifting w service (events ++ later) := by
  obtain ⟨hsource, hsince, hattempts⟩ := hsame
  have hopened : ∀ e ∈ later, e.isOpening = false := by
    intro e he
    have hp := hplain e he
    simp only [Event.isPlain, Bool.and_eq_true, Bool.not_eq_true'] at hp
    exact hp.1
  have hlogged := loggedIn_plain hplain
  refine ⟨(congrArg Source.name hsource).trans h.service_eq, hlabelled, ?_, fun ho => ?_, ?_⟩
  · have hascending := h.ascending
    clear h hopened hlogged
    induction later generalizing events with
    | nil => rwa [List.append_nil]
    | cons e rest ih =>
      rw [← List.singleton_append, ← List.append_assoc]
      exact ih (fun e he => hplain e (List.mem_cons_of_mem _ he))
        (hascending.plain (hplain e (List.mem_cons_self ..)))
  · obtain ⟨ho, hhand⟩ := hover ho
    rw [hsource, hhand, loggedIn_append, hlogged, List.append_nil, h.cursor ho]
  · rcases h.attempt with hu | ⟨before, query, after, ha, hsieve⟩
    · refine .inl
        ⟨huntried hu.stage, hattempts.trans hu.attempts, hsince.trans hu.since, ?_, ?_, ?_⟩
      · rw [hsource, hu.lastSeen]
      · intro e he
        exact (List.mem_append.1 he).elim (hu.opened e) (hopened e)
      · rw [loggedIn_append, hu.logged, hlogged, List.append_nil]
    · obtain ⟨state, read, left, hread, hafter, hl⟩ := hsieve.lines
      refine .inr ⟨before, query, after ++ later, ⟨?_, ?_⟩, hattempts ▸ hsieve.attempts,
        hsieve.since.trans hsince.symm, state, read, left, hread, ?_, hleft _ _ _ hl⟩
      · rw [ha.1, List.append_assoc, List.cons_append]
      · intro e he
        exact (List.mem_append.1 he).elim (ha.2 e) (hopened e)
      · rw [loggedIn_append, hlogged, List.append_nil, hafter]

/-- **Whatever a turn means to the lines, what has been passed on is in order.** -/
theorem sift {later : List Event} (h : t.Sifting w service events) (hsift : Sift w t later u)
    (hlabelled : u.Labelled) : u.Sifting w service (events ++ later) := by
  cases hsift with
  | attempt state readyAt hs =>
    have hcursor := h.cursor (by simp [isOver, hs])
    refine ⟨h.service_eq, hlabelled, h.ascending.attempt (h.since_attempt hs), fun _ => ?_, .inr ?_⟩
    · have hopened : loggedIn [Event.opened t.attempt.query] = [] := rfl
      rw [loggedIn_append, hopened, List.append_nil]
      rw [show t.inHand = [] by simp [inHand, hs]] at hcursor
      exact hcursor
    · refine ⟨events, _, [], .start _ _, Nat.succ_ne_zero _, rfl, state, [], _, List.nil_append _,
        rfl, ?_⟩
      rw [← h.service_eq]
      exact ⟨rfl, rfl⟩
  | @drop line rest _ hs hk =>
    obtain ⟨before, query, after, ha, hsieve⟩ := h.tried (by simp [isUntried, hs])
    obtain ⟨state, read, left, hread, hafter, hl⟩ := hsieve.lines
    simp only [Left, hs, linesOf] at hl
    rw [List.append_nil]
    refine ⟨h.service_eq, hlabelled, h.ascending, fun _ => ?_, .inr ⟨before, query, after, ha,
      hsieve.attempts, hsieve.since, state, read ++ [line], linesOf rest, ?_, ?_, rfl⟩⟩
    · simpa [inHand, hs] using h.cursor (by simp [isOver, hs])
    · rw [← hread, hl, List.append_assoc, List.singleton_append]
    · rw [hafter, List.filter_append, hsieve.since, List.filter_cons_of_neg (by simp [hk]),
        List.filter_nil, List.append_nil]
  | @take line rest _ hs hk receivedAt =>
    obtain ⟨before, query, after, ha, hsieve⟩ := h.tried (by simp [isUntried, hs])
    obtain ⟨state, read, left, hread, hafter, hl⟩ := hsieve.lines
    simp only [Left, hs, linesOf] at hl
    have hcursor := h.cursor (by simp [isOver, hs])
    rw [show t.inHand = [] by simp [inHand, hs], List.append_nil] at hcursor
    rw [List.append_nil]
    refine ⟨(service_observe t line).trans h.service_eq, hlabelled, h.ascending, fun _ => ?_,
      .inr ⟨before, query, after, ha, ?_, ?_, state, read, left, hread, hafter, ?_, hl⟩⟩
    · exact lastSeen_observe hcursor line
    · exact (attempts_observe t line).symm ▸ hsieve.attempts
    · exact hsieve.since.trans (since_observe t line).symm
    · exact hsieve.since ▸ hk
  | @pass a rest hs =>
    obtain ⟨before, query, after, ha, hsieve⟩ := h.tried (by simp [isUntried, hs])
    obtain ⟨state, read, left, hread, hafter, hl⟩ := hsieve.lines
    simp only [Left, hs] at hl
    obtain ⟨hfresh, hl⟩ := hl
    have hlogged : a.isLogged = true := by simpa [Labelled, hs] using h.labelled
    refine ⟨h.service_eq, hlabelled, h.ascending.pass ha hlogged hfresh, fun _ => ?_, .inr
      ⟨before, query, after ++ [.sent a], ha.concat rfl, hsieve.attempts, hsieve.since, state,
        read ++ [a.text], linesOf rest, ?_, ?_, rfl⟩⟩
    · have hcursor := h.cursor (by simp [isOver, hs])
      rw [loggedIn_append, loggedIn_sent hlogged]
      simpa [inHand, hs] using hcursor
    · rw [← hread, hl, List.append_assoc, List.singleton_append]
    · rw [loggedIn_append, hafter, loggedIn_sent hlogged, List.filter_append,
        List.filter_cons_of_pos (by simp [hfresh]), List.filter_nil]
  | beside hplain hsame huntried hover hleft =>
    exact h.beside hplain hsame hlabelled huntried hover hleft

/-- A turn keeps what has been passed on in order. -/
theorem turn (h : t.Sifting w service (eventsOf service f.journal)) (hx : Turn w f t r) :
    r.2.Sifting w service (eventsOf service r.1.journal) := by
  obtain ⟨later, hevents, hsift⟩ := hx.sift h.labelled
  rw [h.service_eq] at hevents
  rw [hevents]
  exact h.sift hsift (hx.labelled h.labelled)

/-- Posts do not concern the lines. -/
theorem posted (h : t.Sifting w service events) (posted : List ServiceStatus) :
    t.Sifting w service (events ++ posted.map .posted) :=
  h.beside (by simp [Event.isPlain, Event.isOpening, loggedIn, Event.sent?]) ⟨rfl, rfl, rfl⟩
    h.labelled id (fun ho => ⟨ho, rfl⟩) fun _ _ _ => id

end Sifting

/-! ### In every run -/

/-- What a reader has let through, whatever its streams have brought. -/
structure Strict (w : World σ) (f : Floor σ) (t : Tail) : Prop where
  /-- An attempt asks for lines from the newest time on that earlier attempts have passed on. -/
  since : ∀ before query after, eventsOf t.service f.journal = before ++ .opened query :: after →
    query.since = newest (loggedIn before)
  /-- So later attempts ask for no earlier time. -/
  ascending : ∀ before query between query' after,
    eventsOf t.service f.journal =
      before ++ .opened query :: (between ++ .opened query' :: after) →
    ∀ s, query.since = some s → ∃ s', query'.since = some s' ∧ s ≤ s'
  /-- A line that the reader comes to is dropped if it carries a time not later than where the
  attempt under way started, and is taken in to be sent if not. -/
  dropped : ∀ before query after line rest resumeAt,
    Attempt (eventsOf t.service f.journal) before query after →
    t.stage = .reading (.line line :: rest) resumeAt → f.isHalted = false →
    ((∃ time s, Stamp.of? line = some time ∧ query.since = some s ∧ time ≤ s) →
      t.step w f = some (f, { t with stage := .reading rest none })) ∧
    (¬ (∃ time s, Stamp.of? line = some time ∧ query.since = some s ∧ time ≤ s) →
      ∃ g u receivedAt, t.step w f = some (g, u) ∧
        u.stage = .sending (.line t.service line receivedAt) (.read rest))
  /-- The attempt under way has passed on an initial part of its stream, less what is dropped. -/
  passed : ∀ before query after, Attempt (eventsOf t.service f.journal) before query after →
    ∃ state read, read <+: linesIn (w.openLog state t.service query).1.outcome ∧
      loggedIn after = read.filter fun line => !isStale query.since line
  /-- Whatever a later attempt passes on is later than all that came before it. -/
  later : ∀ before query after, eventsOf t.service f.journal = before ++ .opened query :: after →
    ∀ x ∈ loggedIn before, ∀ y ∈ loggedIn after, ∀ time time', Stamp.of? x = some time →
      Stamp.of? y = some time' → time < time'

theorem Sifting.strict (h : t.Sifting w t.service (eventsOf t.service f.journal)) :
    t.Strict w f := by
  -- The attempt under way is the one that the reader knows of.
  have sieve {before after : List Event} {query : LogQuery}
      (ha : Attempt (eventsOf t.service f.journal) before query after) :
      (t.Untried (eventsOf t.service f.journal) → False) ∧ Sieve w t.service query after t := by
    have hno (hu : t.Untried (eventsOf t.service f.journal)) : False := by
      have hopening := hu.opened (.opened query) (by simp [ha.1])
      cases hopening
    obtain ⟨_, _, _, ha', hsieve⟩ := h.attempt.resolve_left hno
    obtain ⟨-, rfl, rfl⟩ := ha'.unique ha
    exact ⟨hno, hsieve⟩
  refine ⟨h.ascending.since, ?_, ?_, ?_, h.ascending.later⟩
  · intro before query between query' after heq s hs
    have hfirst := h.ascending.since _ _ _ heq
    have hsecond := h.ascending.since (before ++ .opened query :: between) query' after
      (by rw [heq, List.append_assoc, List.cons_append])
    obtain ⟨s', hs', hle⟩ :=
      newest_mono (hfirst.symm.trans hs) (loggedIn (.opened query :: between))
    rw [← loggedIn_append, ← hsecond] at hs'
    exact ⟨s', hs', hle⟩
  · intro before query after line rest resumeAt ha hs hh
    have hknows : t.knows line = isStale query.since line := by
      rw [knows_eq_isStale, (sieve ha).2.since]
    refine ⟨fun hstale => step_of_turn (.skip hs hh ?_), fun hfresh => ?_⟩
    · rw [hknows, isStale_iff]
      exact hstale
    · refine ⟨_, _, _, step_of_turn (.take hs hh ?_), rfl⟩
      rw [hknows, Bool.eq_false_iff]
      exact fun hstale => hfresh (isStale_iff.1 hstale)
  · intro before query after ha
    obtain ⟨state, read, left, hread, hafter, -⟩ := (sieve ha).2.lines
    exact ⟨state, read, ⟨left, hread⟩, hafter⟩

end Tail

section Everywhere

variable {σ : Type} {w : World σ}

theorem Observation.sifting_drift {service : String} {v v' : Observation σ}
    (h : v.tail.Sifting w service (eventsOf service v.floor.journal))
    (hd : (Observation.schedule w).Drift v v') :
    v'.tail.Sifting w service (eventsOf service v'.floor.journal) := by
  rcases Observation.turn_or_other hd with ⟨x, hx, hfloor, htail⟩ | ⟨htail, hj⟩
  · rw [hfloor, htail]
    exact h.turn hx
  · obtain ⟨posted, hposted⟩ := hj service
    rw [htail, hposted]
    exact h.posted posted

/-- All readers of a weave sift their lines. -/
def Weave.Sifts (w : World σ) (v : Weave σ) : Prop :=
  ∀ t ∈ v.tails, t.Sifting w t.service (eventsOf t.service v.floor.journal)

theorem Weave.sifts_new (w : World σ) (r : Request) (bulletin : Bulletin) (sink : Sink)
    (cancelled : Bool) (world : σ) : (Weave.new r bulletin sink cancelled world).Sifts w :=
  Weave.forall_tails_new _ _ _ _ _ fun i _ => .new r.streaming r.isShared bulletin i

theorem Weave.Sifts.move {r : Request} {v v' : Weave σ} (h : v.Sifts w) (hw : Woven r v)
    (hm : Weave.Move w v v') : v'.Sifts w := by
  cases hm with
  | @world act world _ =>
    intro t ht
    obtain ⟨posted, hposted⟩ := Floor.eventsOf_apply t.service { v.floor with world } act
    rw [hposted]
    exact (h t ht).posted posted
  | @turn i t x hi hx =>
    have hself := (h t (List.mem_of_getElem? hi)).turn hx
    rw [← hx.tail_eq.2.1] at hself
    have hself' : x.2.Sifting w x.2.service (eventsOf t.service x.1.journal) := by
      rw [hx.tail_eq.2.1] at hself ⊢
      exact hself
    exact hw.forall_turn (P := fun u events => u.Sifting w u.service events) hi hx h hself'
  | stop | print | elapse => exact h

end Everywhere

/-- **No attempt repeats what an earlier one has passed on.** Whatever the world opens and posts,
and whenever it cancels, by itself or among other readers: each attempt starts at the newest time
that has been passed on, drops the lines that are not later, and passes on all others. -/
theorem Tail.strict_of_drifts {σ : Type} (w : World σ) :
    (∀ (s : Streaming) (shared : Bool) (service : String) (capacity : Nat)
      (rest most : Option Nat) (bulletin : Bulletin) (cancelled : Bool) (world : σ)
      (v : Observation σ), (Observation.schedule w).Drifts
        (.new s shared service capacity rest most bulletin cancelled world) v →
      v.tail.Strict w v.floor) ∧
    (∀ (r : Request) (bulletin : Bulletin) (sink : Sink) (cancelled : Bool) (world : σ)
      (v : Weave σ), (Weave.schedule w).Drifts (.new r bulletin sink cancelled world) v →
      ∀ t ∈ v.tails, t.Strict w v.floor) := by
  constructor
  · intro s shared service capacity rest most bulletin cancelled world v h
    have hsifting : v.tail.Sifting w service (eventsOf service v.floor.journal) :=
      h.keep (P := fun v => v.tail.Sifting w service (eventsOf service v.floor.journal))
        (fun _ _ => Observation.sifting_drift) (.new s shared bulletin 0)
    rw [← hsifting.service_eq] at hsifting
    exact hsifting.strict
  · intro r bulletin sink cancelled world v h t ht
    have hsifts : v.Sifts w ∧ Weave.Woven r v := by
      refine h.keep (P := fun v => v.Sifts w ∧ Weave.Woven r v) ?_ ⟨?_, Weave.woven_new ..⟩
      · intro u v ⟨hs, hw⟩ hd
        exact ⟨hs.move hw (Weave.move_of_drift hd), hw.move (Weave.move_of_drift hd)⟩
      · intro t ht
        simp only [Weave.new, List.mem_mapIdx] at ht
        obtain ⟨i, hi, rfl⟩ := ht
        exact .new r.streaming r.isShared bulletin i
    exact (hsifts.1 t ht).strict

/-- A world whose first stream is out of order, and whose others repeat lines of it. -/
def disordered : World Nat where
  openLog n _ _ :=
    let first := ["2024-03-01T10:00:02Z late", "2024-03-01T10:00:01Z early", "bare"]
    let later := ["2024-03-01T10:00:02Z late", "bare", "2024-03-01T10:00:01.5Z between",
      "2024-03-01T10:00:02.5Z last"]
    (.stream ((if n = 0 then first else later).map .line), n + 1)
  act _ _ _ := none
  due _ := none
  clock _ := .epoch

/-- Of the second stream only the line without a time and the last are passed on. -/
theorem Tail.strict_of_drifts_disordered :
    ∃ v : Observation Nat, (Observation.schedule disordered).Drifts
        (.new ⟨true, false, 100, 500, 1000, 2⟩ false "web" 16 none none .new false 0) v ∧
      v.tail.Strict disordered v.floor ∧ v.tail.attempts = 2 ∧
      loggedIn (eventsOf "web" v.floor.journal) =
        ["2024-03-01T10:00:02Z late", "2024-03-01T10:00:01Z early", "bare", "bare",
          "2024-03-01T10:00:02.5Z last"] :=
  let start : Observation Nat :=
    .new ⟨true, false, 100, 500, 1000, 2⟩ false "web" 16 none none .new false 0
  let m := Observation.schedule disordered
  let v := m.runFrom 1000 32 0 start
  have h : m.Drifts start v := (m.reachable_runFrom 1000 32 0 .start).drifts
  ⟨v, h, (Tail.strict_of_drifts disordered).1 ⟨true, false, 100, 500, 1000, 2⟩ false "web" 16 none
      none .new false 0 v h, by decide +kernel, by decide +kernel⟩

end Run

end LogWeave

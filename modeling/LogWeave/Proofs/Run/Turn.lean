import LogWeave.Proofs.Run.Channel
import LogWeave.Proofs.Run.Journal
import LogWeave.Run.Tail

/-! What a reader can do in one step.

`Turn` lists the moves of a reader, each with the stage it starts from and what has to hold; a
reader steps exactly as `Turn` says (`Tail.step_eq_some_iff`). What a step leaves alone is read off
that list once: the clock, the halts and the bulletin (`Turn.floor_eq`), what the reader is made of
(`Turn.tail_eq`), and the journal of every other source (`Turn.journal_eq`). -/
namespace LogWeave.Run

namespace Tail

variable {σ : Type}

section Observe

variable (t : Tail) (line : String)

@[simp] theorem service_observe : (t.observe line).service = t.service := by
  unfold observe
  split <;> rfl

@[simp] theorem since_observe : (t.observe line).since = t.since := by
  unfold observe
  split <;> rfl

@[simp] theorem attempts_observe : (t.observe line).attempts = t.attempts := by
  unfold observe
  split <;> rfl

end Observe

/-- Who returns sends nothing more. -/
theorem sentBy_retire (t : Tail) (f : Floor σ) :
    sentBy t.service (t.retire f).1.journal = sentBy t.service f.journal :=
  sentBy_note_none t.service { f with channel := f.channel.retire } rfl

/-- Neither at rest nor about to leave. -/
def isBusy (t : Tail) : Bool :=
  match t.stage with
  | .done | .dormant | .leaving _ => false
  | _ => true

/-- The moves of a reader. -/
inductive Turn (w : World σ) (f : Floor σ) (t : Tail) : Floor σ × Tail → Prop where
  | start (hs : t.stage = .starting) (hh : f.isHalted = false) : Turn w f t (t.start w f)
  | connect {readyAt : Nat} {items : List StreamItem} (hs : t.stage = .opening readyAt (.ok items))
    (hh : f.isHalted = false) (hr : readyAt ≤ f.now) :
    Turn w f t (f, { t with stage := .reading items none })
  | postpone {readyAt : Nat} {why : Failure} (hs : t.stage = .opening readyAt (.error why))
    (hh : f.isHalted = false) (hr : readyAt ≤ f.now) (hf : t.follow = true) :
    Turn w f t (f.note t.service .refused, { t with stage := .pausing (f.now + t.retryDelay) })
  | refuse {readyAt : Nat} {why : Failure} (hs : t.stage = .opening readyAt (.error why))
    (hh : f.isHalted = false) (hr : readyAt ≤ f.now) (hf : t.follow = false) :
    Turn w f t (t.send w (f.note t.service .refused)
      (.ending t.service (.broken (refusalText why)) none) .finish)
  | finish {resumeAt : Option Nat} (hs : t.stage = .reading [] resumeAt) (hh : f.isHalted = false) :
    Turn w f t (t.conclude w f .finished)
  | fail {why : Failure} {rest : List StreamItem} {resumeAt : Option Nat}
    (hs : t.stage = .reading (.fail why :: rest) resumeAt) (hh : f.isHalted = false) :
    Turn w f t (t.conclude w f (.broken why.message))
  | skip {line : String} {rest : List StreamItem} {resumeAt : Option Nat}
    (hs : t.stage = .reading (.line line :: rest) resumeAt) (hh : f.isHalted = false)
    (hk : t.knows line = true) : Turn w f t (f, { t with stage := .reading rest none })
  | take {line : String} {rest : List StreamItem} {resumeAt : Option Nat}
    (hs : t.stage = .reading (.line line :: rest) resumeAt) (hh : f.isHalted = false)
    (hk : t.knows line = false) :
    Turn w f t ((t.observe line).send w f (.line t.service line) (.read rest))
  | hold {time : Nat} {rest : List StreamItem}
    (hs : t.stage = .reading (.pause time :: rest) none) (hh : f.isHalted = false) :
    Turn w f t (f, { t with stage := .reading (.pause time :: rest) (some (f.now + time)) })
  | resume {time due : Nat} {rest : List StreamItem}
    (hs : t.stage = .reading (.pause time :: rest) (some due)) (hh : f.isHalted = false)
    (hd : due ≤ f.now) : Turn w f t (f, { t with stage := .reading rest none })
  | deliver {a : Arrival} {next : Next} {channel : Channel Arrival}
    (hs : t.stage = .sending a next) (hh : f.isHalted = false) (hc : f.channel.isClosed = false)
    (hp : (f.channel.join t.number).put? t.number a = some channel) :
    Turn w f t ({ f with channel }.note t.service (.sent a), { t with stage := t.proceed f next })
  | queue {a : Arrival} {next : Next} (hs : t.stage = .sending a next) (hh : f.isHalted = false)
    (hc : f.channel.isClosed = false) (hp : (f.channel.join t.number).put? t.number a = none)
    (hl : f.channel.line.contains t.number = false) :
    Turn w f t ({ f with channel := f.channel.join t.number }, t)
  | exit {resumeAt : Nat} {watch : Watch} (hs : t.stage = .pausing resumeAt)
    (hh : f.isHalted = false) (hw : t.watch.exited? f.bulletin = some watch) :
    Turn w f t ({ t with watch }.send w (f.note t.service (.exited watch.instance?))
      (.notify t.service (t.noticeText exitedNotice)) .exit)
  | retry {resumeAt : Nat} (hs : t.stage = .pausing resumeAt) (hh : f.isHalted = false)
    (hw : t.watch.exited? f.bulletin = none) (hr : resumeAt ≤ f.now) :
    Turn w f t (f, { t with stage := .starting })
  | giveUp (hb : t.isBusy = true)
    (hg : f.isHalted = true ∨ f.channel.isClosed = true ∧ ∃ a next, t.stage = .sending a next) :
    Turn w f t (t.giveUp f)
  | rest (hs : t.stage = .leaving true) (hf : t.follow = true) :
    Turn w f t ({ f with headcount := f.headcount.leave }, { t with stage := .dormant })
  | leave {exited : Bool} (hs : t.stage = .leaving exited) (hf : (exited && t.follow) = false) :
    Turn w f t (t.retire { f with headcount := f.headcount.leave })
  | retire (hs : t.stage = .dormant) (hh : f.isHalted = true) : Turn w f t (t.retire f)
  | wake {watch : Watch} (hs : t.stage = .dormant) (hh : f.isHalted = false)
    (hw : t.watch.restarted? f.bulletin = some watch) :
    Turn w f t ({ t with watch }.send w
      ({ f with headcount := f.headcount.enter }.note t.service (.restarted watch.instance?))
      (.notify t.service (t.noticeText restartedNotice)) .restart)

variable {w : World σ} {f : Floor σ} {t : Tail} {r : Floor σ × Tail}

theorem turn_of_sleep (h : t.sleep w f = some r) (hs : t.stage = .dormant) : Turn w f t r := by
  unfold sleep at h
  split at h
  · rename_i hh
    cases h
    exact .retire hs hh
  · rename_i hh
    split at h
    · rename_i watch hw
      cases h
      exact .wake hs (by simpa using hh) hw
    · cases h

theorem turn_of_leave {exited : Bool} (hs : t.stage = .leaving exited) :
    Turn w f t (t.leave f exited) := by
  unfold leave
  simp only
  split
  · rename_i hf
    obtain ⟨rfl, hf⟩ : exited = true ∧ t.follow = true := by simpa using hf
    exact .rest hs hf
  · rename_i hf
    exact .leave hs (by simpa using hf)

theorem turn_of_refuse {readyAt : Nat} {why : Failure}
    (hs : t.stage = .opening readyAt (.error why)) (hh : f.isHalted = false)
    (hr : readyAt ≤ f.now) : Turn w f t (t.refuse w f why) := by
  unfold refuse
  simp only
  split
  · rename_i hf
    exact .postpone hs hh hr hf
  · rename_i hf
    exact .refuse hs hh hr (by simpa using hf)

theorem turn_of_read {items : List StreamItem} {resumeAt : Option Nat}
    (h : t.read w f items resumeAt = some r) (hs : t.stage = .reading items resumeAt)
    (hh : f.isHalted = false) : Turn w f t r := by
  unfold read at h
  split at h
  · cases h
    exact .finish hs hh
  · split at h
    · rename_i hk
      cases h
      exact .skip hs hh hk
    · rename_i hk
      cases h
      exact .take hs hh (by simpa using hk)
  · cases h
    exact .fail hs hh
  · cases h
  · split at h
    · cases h
      exact .hold hs hh
    · split at h
      · rename_i hd
        cases h
        exact .resume hs hh hd
      · cases h

theorem turn_of_deliver {a : Arrival} {next : Next} (h : t.deliver f a next = some r)
    (hs : t.stage = .sending a next) (hh : f.isHalted = false) (hc : f.channel.isClosed = false) :
    Turn w f t r := by
  unfold deliver at h
  simp only at h
  split at h
  · rename_i channel hp
    cases h
    exact .deliver hs hh hc hp
  · rename_i hp
    split at h
    · cases h
    · rename_i hl
      cases h
      exact .queue hs hh hc hp (by simpa using hl)

theorem turn_of_pause {resumeAt : Nat} (h : t.pause w f resumeAt = some r)
    (hs : t.stage = .pausing resumeAt) (hh : f.isHalted = false) : Turn w f t r := by
  unfold pause at h
  split at h
  · rename_i watch hw
    cases h
    exact .exit hs hh hw
  · rename_i hw
    split at h
    · rename_i hr
      cases h
      exact .retry hs hh hw hr
    · cases h

theorem turn_of_step (h : t.step w f = some r) : Turn w f t r := by
  unfold step at h
  split at h
  · cases h
  · rename_i hs
    exact turn_of_sleep h hs
  · rename_i exited hs
    cases h
    exact turn_of_leave hs
  rename_i hdone hdormant hleaving
  split at h
  · rename_i hh
    cases h
    refine .giveUp ?_ (.inl hh)
    unfold isBusy
    split <;> simp_all
  rename_i hh
  have hh : f.isHalted = false := by simpa using hh
  split at h
  · rename_i hs
    cases h
    exact .start hs hh
  · rename_i readyAt outcome hs
    split at h
    · rename_i hr
      split at h
      · cases h
        exact .connect hs hh hr
      · cases h
        exact turn_of_refuse hs hh hr
    · cases h
  · rename_i items resumeAt hs
    exact turn_of_read h hs hh
  · rename_i a next hs
    split at h
    · rename_i hc
      cases h
      exact .giveUp (by simp [isBusy, hs]) (.inr ⟨hc, a, next, hs⟩)
    · rename_i hc
      exact turn_of_deliver h hs hh (by simpa using hc)
  · rename_i resumeAt hs
    exact turn_of_pause h hs hh
  · cases h

theorem step_of_turn (h : Turn w f t r) : t.step w f = some r := by
  cases h with
  | giveUp hb hg =>
    unfold isBusy at hb
    rcases hg with hh | ⟨hc, a, next, hs⟩
    · unfold step
      split at hb <;> simp_all
    · by_cases hh : f.isHalted = true <;> simp [step, hs, hh, hc]
  | deliver hs hh hc hp => simp [step, hs, hh, hc, deliver, hp]; rfl
  | queue hs hh hc hp hl => simp_all [step, deliver]
  | postpone hs hh hr hf | refuse hs hh hr hf =>
    simp [step, hs, hh, hr, Tail.refuse, hf, Floor.note]
  | rest hs hf | leave hs hf => simp [step, hs, Tail.leave, hf]
  | _ => simp_all [step, read, pause, sleep]

/-- The list is complete, and each of its moves can be made. -/
theorem step_eq_some_iff : t.step w f = some r ↔ Turn w f t r := ⟨turn_of_step, step_of_turn⟩

namespace Turn

/-- A reader neither halts the run nor moves the clock, and posts nothing. -/
theorem floor_eq (h : Turn w f t r) :
    r.1.now = f.now ∧ r.1.cancelled = f.cancelled ∧ r.1.stopped = f.stopped ∧
      r.1.bulletin = f.bulletin := by
  cases h <;> exact ⟨rfl, rfl, rfl, rfl⟩

theorem isHalted_eq (h : Turn w f t r) : r.1.isHalted = f.isHalted := by
  obtain ⟨-, hc, hs, -⟩ := h.floor_eq
  simp only [Floor.isHalted, hc, hs]

/-- A reader stays the reader it is. -/
theorem tail_eq (h : Turn w f t r) :
    r.2.number = t.number ∧ r.2.service = t.service ∧ r.2.follow = t.follow ∧
      r.2.previous = t.previous ∧ r.2.shared = t.shared := by
  cases h with
  | take => unfold observe; split <;> exact ⟨rfl, rfl, rfl, rfl, rfl⟩
  | _ => exact ⟨rfl, rfl, rfl, rfl, rfl⟩

/-- A reader writes down what happens to its own source as it happens, and posts nothing. -/
theorem writes (h : Turn w f t r) : ∃ later, r.1.journal = f.journal ++ later ∧
    ∀ e ∈ later, e.source = t.service ∧ e.time = f.now ∧ ∀ status, e.event ≠ .posted status := by
  have one_later (event : Event) (hno : ∀ status, event ≠ .posted status) :
      ∃ later, f.journal ++ [⟨f.now, t.service, event⟩] = f.journal ++ later ∧ ∀ e ∈ later,
        e.source = t.service ∧ e.time = f.now ∧ ∀ status, e.event ≠ .posted status :=
    ⟨_, rfl, by simpa using hno⟩
  cases h with
  | start | postpone | refuse | finish | fail | deliver | exit | leave | retire | wake =>
    exact one_later _ (by simp)
  | _ => exact ⟨[], (List.append_nil _).symm, by simp⟩

theorem journal_eq (h : Turn w f t r) :
    ∃ later, r.1.journal = f.journal ++ later ∧ ∀ e ∈ later, e.source = t.service :=
  have ⟨later, hj, hlater⟩ := h.writes
  ⟨later, hj, fun e he => (hlater e he).1⟩

/-- What happens to other sources is not this reader's doing. -/
theorem happeningsOf_other (h : Turn w f t r) {service : String} (hs : service ≠ t.service) :
    happeningsOf service r.1.journal = happeningsOf service f.journal := by
  obtain ⟨later, hj, hlater⟩ := h.journal_eq
  have hnone : happeningsOf service later = [] := by
    simp only [happeningsOf, List.filter_eq_nil_iff, decide_eq_true_eq]
    intro e he heq
    exact hs (heq ▸ hlater e he)
  rw [hj, happeningsOf_append, hnone, List.append_nil]

theorem eventsOf_other (h : Turn w f t r) {service : String} (hs : service ≠ t.service) :
    eventsOf service r.1.journal = eventsOf service f.journal := by
  rw [← map_event_happeningsOf, h.happeningsOf_other hs, map_event_happeningsOf]

/-- What a reader sends goes to the end of the queue and into the journal, and only an active reader
sends. -/
structure Delivers (t : Tail) (f f' : Floor σ) : Prop where
  capacity : f'.channel.capacity = f.channel.capacity
  isClosed : f'.channel.isClosed = f.channel.isClosed
  sent : ∃ sent, f'.channel.queue = f.channel.queue ++ sent ∧
    sentBy t.service f'.journal = sentBy t.service f.journal ++ sent ∧
    (sent ≠ [] → t.isActive = true)

/-- Nothing is sent. -/
theorem Delivers.none {f' : Floor σ} (hcap : f'.channel.capacity = f.channel.capacity)
    (hclosed : f'.channel.isClosed = f.channel.isClosed)
    (hq : f'.channel.queue = f.channel.queue)
    (hj : sentBy t.service f'.journal = sentBy t.service f.journal) : Delivers t f f' :=
  ⟨hcap, hclosed, [], by simp [hq], by simp [hj], by simp⟩

theorem delivers (h : Turn w f t r) : Delivers t f r.1 := by
  cases h with
  | @deliver a _ channel hs _ _ hp =>
    obtain rfl := Channel.put?_eq hp
    refine ⟨by simp [Floor.note, Channel.stepOut], by simp [Floor.note, Channel.stepOut], [a], ?_,
      ?_, ?_⟩
    · simp [Floor.note]
    · exact sentBy_note t.service _ (.sent a)
    · simp [isActive, hs]
  | queue => exact .none (by simp) (by simp) (by simp) rfl
  | start | postpone | refuse | finish | fail | exit | leave | retire | wake =>
    exact .none rfl rfl rfl (sentBy_note_none t.service _ rfl)
  | _ => exact .none rfl rfl rfl rfl

/-- What is sent in a turn is what the queue grows by. -/
theorem sentAll_eq (h : Turn w f t r) :
    ∃ sent, r.1.channel.queue = f.channel.queue ++ sent ∧
      sentAll r.1.journal = sentAll f.journal ++ sent := by
  obtain ⟨-, -, sent, hq, hsent, -⟩ := h.delivers
  obtain ⟨later, hj, hlater⟩ := h.journal_eq
  rw [hj, sentBy_append, sentBy_of_source hlater] at hsent
  exact ⟨sent, hq, by rw [hj, sentAll_append, List.append_cancel_left hsent]⟩

/-- In a halted run a reader sends nothing and opens nothing: all that happens is that it returns. -/
theorem quiet (h : Turn w f t r) (hh : f.isHalted = true) :
    r.1.channel.queue = f.channel.queue ∧
      ∃ later, r.1.journal = f.journal ++ later ∧ ∀ e ∈ later, e.event = .returned := by
  cases h with
  | giveUp | rest => exact ⟨rfl, [], (List.append_nil _).symm, by simp⟩
  | leave | retire => exact ⟨rfl, _, rfl, by simp⟩
  | start _ hh' | connect _ hh' | postpone _ hh' | refuse _ hh' | finish _ hh' | fail _ hh'
  | skip _ hh' | take _ hh' | hold _ hh' | resume _ hh' | deliver _ hh' | queue _ hh' | exit _ hh'
  | retry _ hh' | wake _ hh' => simp [hh] at hh'

theorem sentBy_quiet (h : Turn w f t r) (hh : f.isHalted = true) :
    sentBy t.service r.1.journal = sentBy t.service f.journal := by
  obtain ⟨-, -, sent, hq, hsent, -⟩ := h.delivers
  rw [(h.quiet hh).1] at hq
  rw [hsent, List.self_eq_append_right.1 hq, List.append_nil]

/-- A reader retires when it returns, and only then. -/
theorem senders_eq (h : Turn w f t r) :
    t.isDone = false ∧ ((r.2.isDone = false ∧ r.1.channel.senders = f.channel.senders) ∨
      (r.2.isDone = true ∧ r.1.channel.senders = f.channel.senders - 1)) := by
  cases h with
  | retire hs | leave hs => exact ⟨by simp [isDone, hs], .inr ⟨rfl, rfl⟩⟩
  | @deliver a next channel hs _ _ hp =>
    obtain rfl := Channel.put?_eq hp
    refine ⟨by simp [isDone, hs], .inl ⟨?_, by simp [Floor.note, Channel.stepOut]⟩⟩
    cases next <;> rfl
  | queue hs => exact ⟨by simp [isDone, hs], .inl ⟨by simp [isDone, hs], by simp⟩⟩
  | giveUp hb =>
    refine ⟨?_, .inl ⟨rfl, rfl⟩⟩
    unfold isBusy at hb
    unfold isDone
    split at hb <;> simp_all
  | _ => exact ⟨by simp [isDone, *], .inl ⟨rfl, rfl⟩⟩

/-- A turn does not change who else stands in line. -/
theorem line_other (h : Turn w f t r) {n : Nat} (hn : n ≠ t.number) :
    n ∈ r.1.channel.line ↔ n ∈ f.channel.line := by
  cases h with
  | deliver _ _ _ hp =>
    obtain rfl := Channel.put?_eq hp
    simp [Floor.note, Channel.mem_stepOut, Channel.mem_join, hn]
  | queue => simp [Channel.mem_join, hn]
  | giveUp => simp [Tail.giveUp, Channel.mem_stepOut, hn]
  | _ => exact Iff.rfl

/-- A reader stands in line while it has a line to send. -/
theorem line_self (h : Turn w f t r)
    (hline : t.number ∈ f.channel.line → ∃ a next, t.stage = .sending a next)
    (hr : t.number ∈ r.1.channel.line) : ∃ a next, r.2.stage = .sending a next := by
  cases h with
  | deliver _ _ _ hp =>
    obtain rfl := Channel.put?_eq hp
    simp [Floor.note, Channel.mem_stepOut] at hr
  | queue hs => exact ⟨_, _, hs⟩
  | giveUp => simp [Tail.giveUp, Channel.mem_stepOut] at hr
  | _ =>
    obtain ⟨_, _, hs⟩ := hline hr
    simp_all

/-- A reader is counted as long as it is active: it leaves the count when its instance ends and
enters it when the next one begins. -/
theorem headcount_eq (h : Turn w f t r) :
    (r.2.isActive = t.isActive ∧ r.1.headcount = f.headcount) ∨
      (t.isActive = true ∧ r.2.isActive = false ∧ r.1.headcount = f.headcount.leave) ∨
      (t.isActive = false ∧ r.2.isActive = true ∧ r.1.headcount = f.headcount.enter) := by
  cases h with
  | rest hs | leave hs => exact .inr (.inl ⟨by simp [isActive, hs], rfl, rfl⟩)
  | wake hs => exact .inr (.inr ⟨by simp [isActive, hs], rfl, rfl⟩)
  | retire hs => exact .inl ⟨by simp [isActive, hs, Tail.retire], rfl⟩
  | giveUp hb =>
    refine .inl ⟨?_, rfl⟩
    unfold isBusy at hb
    unfold isActive
    split at hb <;> simp_all [Tail.giveUp]
  | @deliver _ next _ hs =>
    refine .inl ⟨?_, rfl⟩
    cases next <;> simp [isActive, hs, proceed]
  | queue => exact .inl ⟨rfl, rfl⟩
  | _ => exact .inl ⟨by simp [isActive, send, Tail.start, conclude, *], rfl⟩

end Turn

end Tail

end LogWeave.Run

import LogWeave.Proofs.Run.Headcount

/-! What a reader that does not follow is left to do.

Such a reader opens its log, reads one stream and tells how it ended. What it is left to do is a
number (`weight`) that each of its turns lowers (`Turn.lowers`), and unless its stream has fallen
silent it is held up by the clock and by the line only (`Straight.ready`). -/
namespace LogWeave.Run

/-- The items of the stream that comes of opening a log, if one does. -/
def itemsIn : Except Failure (List StreamItem) → List StreamItem
  | .ok items => items
  | .error _ => []

namespace Tail

variable {σ : Type} {w : World σ} {f : Floor σ} {came : Except Failure (List StreamItem)} {t : Tail}
  {r : Floor σ × Tail} {sent : List Arrival}

/-- Whatever comes of opening the log is this. -/
def Meets (came : Except Failure (List StreamItem)) (t : Tail) : Prop :=
  ∀ readyAt outcome, t.stage = .opening readyAt outcome → outcome = came

/-- A reader opens what the world has for its service. -/
theorem Turn.meets (h : Turn w f t r)
    (hw : ∀ state query, (w.openLog state t.service query).1.outcome = came) :
    r.2.stage = t.stage ∨ r.2.Meets came := by
  cases h with
  | start =>
    refine .inr fun readyAt outcome hs => ?_
    simp only [Tail.start, Stage.opening.injEq] at hs
    rw [← hs.2]
    exact hw f.world t.attempt.query
  | queue => exact .inl rfl
  | @deliver a next => exact .inr fun _ _ hs => by cases next <;> cases hs
  | _ => exact .inr fun _ _ hs => by cases hs

/-- What a stream still takes: for each line to be read, to stand in line, to be sent, taken and
printed; for each pause to begin and to end; and as for a line how it ended. -/
def bulk : List StreamItem → Nat
  | [] | .fail _ :: _ => 6
  | .line _ :: rest => bulk rest + 6
  | .pause _ :: rest => bulk rest + 2
  | .hang :: _ => 0

/-- What a reader still has to do, when these stand in line. -/
def weight (items : List StreamItem) (line : List Nat) (t : Tail) : Nat :=
  match t.stage with
  | .starting => bulk items + 3
  | .opening _ _ => bulk items + 2
  | .reading rest none => bulk rest + 1
  | .reading rest (some _) => bulk rest
  | .sending _ (.read rest) => bulk rest + 4 + if t.number ∈ line then 0 else 1
  | .sending _ _ => 4 + if t.number ∈ line then 0 else 1
  | .leaving _ => 1
  | _ => 0

/-- To tell how the stream ended takes less than to find it out. -/
theorem weight_conclude (w : World σ) (f : Floor σ) (how : StreamEnd) (items : List StreamItem)
    (line : List Nat) (hf : t.follow = false) : (t.conclude w f how).2.weight items line ≤ 5 := by
  simp only [conclude, send, weight, hf, Bool.false_eq_true, if_false]
  split <;> omega

/-- **With each turn there is less left to do**, a line in the channel counted as two steps. -/
theorem Turn.lowers (h : Turn w f t r) (hh : f.isHalted = false) (hc : f.channel.isClosed = false)
    (hf : t.follow = false) (ht : t.Straight sent) (hm : t.Meets came) :
    weight (itemsIn came) r.1.channel.line r.2 + 2 * r.1.channel.queue.length <
      weight (itemsIn came) f.channel.line t + 2 * f.channel.queue.length := by
  cases h with
  | start hs => simp [weight, hs, Tail.start, attempt, Floor.note]
  | connect hs =>
    obtain rfl := hm _ _ hs
    simp [weight, hs, itemsIn]
  | refuse hs =>
    obtain rfl := hm _ _ hs
    simp only [weight, hs, send, itemsIn, bulk, Floor.note]
    by_cases hin : t.number ∈ f.channel.line <;> simp only [hin, if_true, if_false] <;> omega
  | @finish resumeAt hs =>
    have htell := weight_conclude (t := t) w f .finished (itemsIn came) f.channel.line hf
    have hread : 6 ≤ t.weight (itemsIn came) f.channel.line := by
      cases resumeAt <;> simp [weight, hs, bulk]
    show _ + 2 * f.channel.queue.length < _
    exact Nat.add_lt_add_right (htell.trans_lt hread) _
  | @fail why _ resumeAt hs =>
    have htell := weight_conclude (t := t) w f (.broken why.message) (itemsIn came)
      f.channel.line hf
    have hread : 6 ≤ t.weight (itemsIn came) f.channel.line := by
      cases resumeAt <;> simp [weight, hs, bulk]
    show _ + 2 * f.channel.queue.length < _
    exact Nat.add_lt_add_right (htell.trans_lt hread) _
  | @skip _ rest resumeAt hs =>
    cases resumeAt <;> simp [weight, hs, bulk]
  | @take line rest resumeAt hs =>
    simp only [weight, hs, send]
    by_cases hin : (t.observe line).number ∈ f.channel.line <;> cases resumeAt <;>
      simp only [bulk, hin, if_true, if_false] <;> omega
  | hold hs | resume hs => simp [weight, hs, bulk]
  | @deliver a next channel hs _ _ hput =>
    have hq := Channel.queue_put? hput
    rw [Channel.queue_join] at hq
    cases next with
    | read | finish =>
      simp only [weight, hs, proceed, Floor.note, hq, List.length_append, List.length_singleton]
      omega
    | reconnect | exit | restart => simp [Straight, hs] at ht
  | @queue a next hs _ _ _ hl =>
    have hin : t.number ∈ (f.channel.join t.number).line := Channel.mem_join.2 (.inr rfl)
    have hout : t.number ∉ f.channel.line := by simpa using hl
    cases next <;> simp [weight, hs, hout, hin]
  | giveUp _ hg =>
    rcases hg with hg | ⟨hg, -⟩
    · simp [hh] at hg
    · simp [hc] at hg
  | leave hs => simp [weight, hs, Tail.retire, Floor.note, Channel.retire]
  | exit hs | retry hs | wake hs => simp [Straight, hs] at ht
  | postpone _ _ _ hfollow | rest _ hfollow => simp [hf] at hfollow
  | retire _ hh' => simp [hh] at hh'

/-- The stream has fallen silent. -/
def isHung (t : Tail) : Bool :=
  match t.stage with
  | .reading (.hang :: _) _ => true
  | _ => false

/-- **A reader is held up by the clock and by the line, and by nothing else** unless its stream has
fallen silent. -/
theorem Straight.ready (w : World σ) (ht : t.Straight sent) (hf : t.follow = false)
    (hhung : t.isHung = false) (hdone : t.isDone = false) :
    ∃ time, ∀ f : Floor σ, f.isHalted = false → f.channel.isClosed = false → time ≤ f.now →
      (t.number ∈ f.channel.line → f.channel.hasRoom t.number = true) → ∃ r, Turn w f t r := by
  cases hs : t.stage with
  | starting => exact ⟨0, fun f hh _ _ _ => ⟨_, .start hs hh⟩⟩
  | opening readyAt outcome =>
    refine ⟨readyAt, fun f hh _ htime _ => ?_⟩
    cases outcome with
    | ok items => exact ⟨_, .connect hs hh htime⟩
    | error why => exact ⟨_, .refuse hs hh htime hf⟩
  | reading rest resumeAt =>
    match rest, resumeAt, hs with
    | [], _, hs => exact ⟨0, fun f hh _ _ _ => ⟨_, .finish hs hh⟩⟩
    | .line line :: _, _, hs =>
      refine ⟨0, fun f hh _ _ _ => ?_⟩
      cases hk : t.knows line with
      | true => exact ⟨_, .skip hs hh hk⟩
      | false => exact ⟨_, .take hs hh hk⟩
    | .pause _ :: _, none, hs => exact ⟨0, fun f hh _ _ _ => ⟨_, .hold hs hh⟩⟩
    | .pause _ :: _, some due, hs => exact ⟨due, fun f hh _ htime _ => ⟨_, .resume hs hh htime⟩⟩
    | .fail _ :: _, _, hs => exact ⟨0, fun f hh _ _ _ => ⟨_, .fail hs hh⟩⟩
    | .hang :: _, _, hs => simp [isHung, hs] at hhung
  | sending a next =>
    refine ⟨0, fun f hh hc _ hroom => ?_⟩
    cases hput : (f.channel.join t.number).put? t.number a with
    | some channel => exact ⟨_, .deliver hs hh hc hput⟩
    | none =>
      by_cases hin : t.number ∈ f.channel.line
      · -- First in line, it would have sent its line.
        rw [Channel.join_of_mem hin, Channel.put?, if_pos (hroom hin)] at hput
        cases hput
      · exact ⟨_, .queue hs hh hc hput (by simpa using hin)⟩
  | pausing | dormant => simp [Straight, hs] at ht
  | leaving exited => exact ⟨0, fun f _ _ _ _ => ⟨_, turn_of_leave hs⟩⟩
  | done => simp [isDone, hs] at hdone

end Tail

namespace Weave

variable {σ : Type} {w : World σ} {v : Weave σ}

/-- What comes of opening a log is as planned. -/
def Meets (plan : String → Except Failure (List StreamItem)) (v : Weave σ) : Prop :=
  ∀ t ∈ v.tails, t.Meets (plan t.service)

/-- In a world whose logs open in one way only all openings are as planned. -/
theorem meets_of_world (plan : String → Except Failure (List StreamItem))
    (hw : ∀ state service query, (w.openLog state service query).1.outcome = plan service)
    {r : Request} {bulletin : Bulletin} {sink : Sink} {cancelled : Bool} {world : σ}
    (h : (schedule w).Drifts (new r bulletin sink cancelled world) v) : v.Meets plan := by
  refine h.keep (P := Meets plan) ?_ ?_
  · intro v v' hm hd
    cases move_of_drift hd with
    | @turn i t x hi hx =>
      intro u hu
      obtain ⟨j, hj⟩ := List.mem_iff_getElem?.1 hu
      rcases getElem?_set_turn hj with ⟨-, rfl⟩ | ⟨-, hj⟩
      · rw [hx.tail_eq.2.1]
        rcases hx.meets (fun state query => hw state t.service query) with hs | hmeets
        · exact fun readyAt outcome heq => hm t (List.mem_of_getElem? hi) readyAt outcome (hs ▸ heq)
        · exact hmeets
      · exact hm u (List.mem_of_getElem? hj)
    | world | stop | print | elapse => exact hm
  · refine forall_tails_new _ _ _ _ _ fun _ _ readyAt outcome hs => ?_
    cases hs

end Weave

end LogWeave.Run

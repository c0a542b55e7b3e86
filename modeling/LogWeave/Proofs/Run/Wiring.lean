import LogWeave.Proofs.Run.Headcount

/-! How the readers of a run, the channel and the collator hang together.

Whatever is asked for, whatever the world does and whatever the sink puts up with: each reader that
has not returned holds its end of the channel, only a reader with a line to send stands in line, and
every line sent is in the channel or with the collator, which accounts for it (`Wired`). So once the
printing has ended its outcome tells of all lines that have been sent (`Wired.account_of_ended`). -/
namespace LogWeave.Run.Weave

variable {σ : Type}

/-- What holds all through a run. -/
structure Wired (r : Request) (limits : SinkLimits) (v : Weave σ) : Prop where
  woven : Woven r v
  counted : Counted v
  senders : v.floor.channel.senders = v.tails.countP fun t => !t.isDone
  /-- Whoever stands in line has a line to send. -/
  line : ∀ n ∈ v.floor.channel.line, ∃ t a next, v.tails[n]? = some t ∧ t.stage = .sending a next
  sources : ∀ h ∈ v.floor.journal, h.source ∈ r.services ∨ ∃ status, h.event = .posted status
  account : ∃ taken, sentAll v.floor.journal = taken ++ v.floor.channel.queue ∧
    v.collator.Accounted r.isShared limits taken
  /-- The end of the printing stops the run. -/
  halted : v.collator.outcome.isSome = true → v.floor.isHalted = true
  emptied : v.collator.outcome = some (.ok ()) → v.floor.channel.queue = []

variable {w : World σ} {r : Request} {limits : SinkLimits} {v v' : Weave σ}

theorem wired_new (r : Request) (limits : SinkLimits) (bulletin : Bulletin) (cancelled : Bool)
    (world : σ) : Wired r limits (new r bulletin (.new limits) cancelled world) where
  woven := woven_new ..
  counted := counted_new ..
  senders := by
    have hall : ∀ t ∈ (new r bulletin (.new limits) cancelled world).tails,
        (!t.isDone) = true := forall_tails_new _ _ _ _ _ fun _ _ => rfl
    rw [List.countP_eq_length.2 hall]
    simp [new, Floor.new, Channel.new]
  line := by simp [new, Floor.new, Channel.new]
  sources := by simp [new, Floor.new]
  account := ⟨[], rfl, .inl ⟨[], .new ..⟩⟩
  halted := by simp [new, Collator.new]
  emptied := by simp [new, Collator.new]

/-- The capacity of the channel is fixed. -/
theorem Move.capacity_eq (h : Move w v v') :
    v'.floor.channel.capacity = v.floor.channel.capacity := by
  cases h with
  | @world act world _ => rw [(Floor.apply_eq { v.floor with world } act).1]
  | turn _ hx => exact hx.delivers.capacity
  | print hc =>
    obtain ⟨-, -, hchannel⟩ := Collator.step_channel hc
    rw [hchannel]
  | stop | elapse => rfl

namespace Wired

theorem senders_turn (h : Wired r limits v) {i : Nat} {t : Tail} {x : Floor σ × Tail}
    (hi : v.tails[i]? = some t) (hx : Tail.Turn w v.floor t x) :
    x.1.channel.senders = (v.tails.set i x.2).countP fun t => !t.isDone := by
  obtain ⟨before, after, htails, -, hset⟩ := split_of_getElem? hi
  have hsenders := h.senders
  obtain ⟨hactive, hx | hx⟩ := hx.senders_eq
  · rw [hset, hx.2, hsenders, htails]
    simp [hactive, hx.1]
  · rw [hset, hx.2, hsenders, htails]
    simp [hactive, hx.1]

theorem line_turn (h : Wired r limits v) {i : Nat} {t : Tail} {x : Floor σ × Tail}
    (hi : v.tails[i]? = some t) (hx : Tail.Turn w v.floor t x) :
    ∀ n ∈ x.1.channel.line, ∃ u a next, (v.tails.set i x.2)[n]? = some u ∧
      u.stage = .sending a next := by
  intro n hn
  have hnumber := h.woven.number i t hi
  have hlt : i < v.tails.length := (List.getElem?_eq_some_iff.1 hi).1
  by_cases hni : n = i
  · subst hni
    have hself : t.number ∈ v.floor.channel.line → ∃ a next, t.stage = .sending a next := by
      intro hin
      rw [hnumber] at hin
      obtain ⟨u, a, next, hu, hs⟩ := h.line n hin
      rw [hi] at hu
      cases hu
      exact ⟨a, next, hs⟩
    obtain ⟨a, next, hs⟩ := hx.line_self hself (by rwa [hnumber])
    exact ⟨x.2, a, next, List.getElem?_set_self hlt, hs⟩
  · have hin := (hx.line_other (by rwa [hnumber])).1 hn
    obtain ⟨u, a, next, hu, hs⟩ := h.line n hin
    exact ⟨u, a, next, by rw [List.getElem?_set_ne (Ne.symm hni), hu], hs⟩

theorem turn (h : Wired r limits v) {i : Nat} {t : Tail} {x : Floor σ × Tail}
    (hi : v.tails[i]? = some t) (hx : Tail.Turn w v.floor t x) :
    Wired r limits { v with floor := x.1, tails := v.tails.set i x.2 } where
  woven := h.woven.move (.turn hi hx)
  counted := h.counted.move h.woven (.turn hi hx)
  senders := h.senders_turn hi hx
  line := h.line_turn hi hx
  sources := by
    obtain ⟨later, hj, hlater⟩ := hx.journal_eq
    intro e he
    rw [hj] at he
    rcases List.mem_append.1 he with he | he
    · exact h.sources e he
    · exact .inl (hlater e he ▸ h.woven.service_mem (List.mem_of_getElem? hi))
  account := by
    obtain ⟨taken, hall, haccount⟩ := h.account
    obtain ⟨sent, hq, hsent⟩ := hx.sentAll_eq
    exact ⟨taken, by rw [hsent, hq, hall, List.append_assoc], haccount⟩
  halted hend := hx.isHalted_eq.trans (h.halted hend)
  emptied hok := by
    -- A run whose printing has ended is halted: nothing is sent any more.
    have hhalted := h.halted (by rw [hok, Option.isSome_some])
    rw [(hx.quiet hhalted).1]
    exact h.emptied hok

theorem print (w : World σ) (h : Wired r limits v) {c : Collator} {channel : Channel Arrival}
    (hc : v.collator.step v.floor.now v.floor.isHalted v.floor.channel = some (c, channel)) :
    Wired r limits { v with
      collator := c
      floor := { v.floor with channel, stopped := v.floor.stopped || c.outcome.isSome } } where
  woven := h.woven.move (Move.print (w := w) hc)
  counted := h.counted.move h.woven (Move.print (w := w) hc)
  senders := by
    obtain ⟨-, -, hchannel⟩ := Collator.step_channel hc
    rw [hchannel]
    exact h.senders
  line := by
    obtain ⟨-, -, hchannel⟩ := Collator.step_channel hc
    rw [hchannel]
    exact h.line
  sources := h.sources
  account := by
    obtain ⟨taken, hall, haccount⟩ := h.account
    obtain ⟨more, hq, haccount'⟩ := haccount.step hc
    exact ⟨taken ++ more, by rw [hall, hq, List.append_assoc], haccount'⟩
  halted hend := by simp [Floor.isHalted, show c.outcome.isSome = true from hend]
  emptied hok := (Collator.step_ok hc hok).1

theorem world (h : Wired r limits v) {act : Act} {world : σ}
    (hact : w.act v.floor.now v.collator.sink.shown v.floor.world = some (act, world)) :
    Wired r limits { v with floor := { v.floor with world }.apply act } := by
  obtain ⟨hchannel, -⟩ := Floor.apply_eq { v.floor with world } act
  obtain ⟨posts, hj, hposts⟩ := Floor.journal_apply { v.floor with world } act
  refine ⟨h.woven.move (.world hact), h.counted.move h.woven (.world hact), ?_, ?_, ?_, ?_, ?_, ?_⟩
  · rw [hchannel]
    exact h.senders
  · rw [hchannel]
    exact h.line
  · intro e he
    rw [hj] at he
    exact (List.mem_append.1 he).elim (h.sources e) fun he => .inr (hposts e he)
  · rw [hchannel, Floor.sentAll_apply]
    exact h.account
  · exact fun hend => (Move.world hact).isHalted (h.halted hend)
  · rw [hchannel]
    exact h.emptied

/-- **Whatever happens, lines and readers stay accounted for.** -/
theorem move (h : Wired r limits v) (hm : Move w v v') : Wired r limits v' := by
  have hwoven := h.woven.move hm
  have hcounted := h.counted.move h.woven hm
  cases hm with
  | world hact => exact h.world hact
  | turn hi hx => exact h.turn hi hx
  | print hc => exact h.print w hc
  | stop => exact ⟨hwoven, hcounted, h.senders, h.line, h.sources, h.account,
      fun _ => by simp [Floor.isHalted], h.emptied⟩
  | elapse => exact ⟨hwoven, hcounted, h.senders, h.line, h.sources, h.account, h.halted, h.emptied⟩

theorem drifts {bulletin : Bulletin} {cancelled : Bool} {world : σ}
    (h : (schedule w).Drifts (new r bulletin (.new limits) cancelled world) v) :
    Wired r limits v :=
  h.keep (fun _ _ hv hd => hv.move (move_of_drift hd)) (wired_new ..)

/-- Each line that has been sent has a reader that sent it. -/
theorem sender (h : Wired r limits v) {e : Happening} (he : e ∈ v.floor.journal) {a : Arrival}
    (hsent : e.event.sent? = some a) :
    ∃ t ∈ v.tails, t.service = e.source ∧ a ∈ sentBy t.service v.floor.journal := by
  rcases h.sources e he with hs | ⟨status, hs⟩
  · obtain ⟨t, ht, hservice⟩ := h.woven.reader hs
    refine ⟨t, ht, hservice, ?_⟩
    rw [sentBy_eq, mem_sentAll]
    exact ⟨e, List.mem_filter.2 ⟨he, by simp [hservice]⟩, hsent⟩
  · rw [hs] at hsent
    cases hsent

/-- **The end of the printing tells of all lines sent.** Those before the first fault have been
printed, and with that fault the printing has ended, or well if there is none; unless the sink has
refused. -/
theorem account_of_ended (h : Wired r limits v) {outcome : Except Failure Unit}
    (ho : v.collator.outcome = some outcome) :
    (v.collator.batch = [] ∧ outcome = verdict (sentAll v.floor.journal) ∧
      ∃ batches, v.collator.Account r.isShared limits (sentAll v.floor.journal) batches) ∨
    v.collator.Spoilt r.isShared limits (sentAll v.floor.journal) := by
  obtain ⟨taken, hall, ⟨batches, haccount⟩ | hspoilt⟩ := h.account
  · refine .inl ?_
    have haccount' : v.collator.Account r.isShared limits (sentAll v.floor.journal) batches := by
      cases outcome with
      | ok =>
        rw [hall, h.emptied ho, List.append_nil]
        exact haccount
      | error failure =>
        rw [hall]
        exact haccount.extend ho _
    obtain ⟨hbatch, hverdict⟩ := haccount'.ended _ ho
    exact ⟨hbatch, hverdict, batches, haccount'⟩
  · exact .inr (hall ▸ hspoilt.extend _)

/-- What has been printed is what was sent first. -/
theorem printed (h : Wired r limits v) :
    ∃ batches torn, v.collator.Printed r.isShared (sentAll v.floor.journal) batches torn := by
  obtain ⟨taken, hall, haccount⟩ := h.account
  obtain ⟨batches, torn, hprinted⟩ := haccount.printed
  exact ⟨batches, torn, hall ▸ hprinted.extend h.emptied⟩

end Wired

end LogWeave.Run.Weave

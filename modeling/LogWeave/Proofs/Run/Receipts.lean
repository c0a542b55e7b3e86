import LogWeave.Proofs.Line.Chronicle
import LogWeave.Proofs.Run.Telling
import Mathlib.Order.Monotone.Defs

/-! When lines are received.

A line is given the time of its receipt when its reader takes it in hand, and a reader takes one
line in hand after the other. So on a clock that never goes back the lines of a source are received
in the order in which they are sent (`Weave.Dated.receivedAt_le`). -/
namespace LogWeave.Run

variable {σ : Type} {w : World σ}

/-- Lines received one after the other, all of them by the time of the next receipt. -/
structure InTime (w : World σ) (receipts : Nat) (as : List Arrival) : Prop where
  rising : as.Pairwise fun a b => a.receivedAt ≤ b.receivedAt
  past : ∀ a ∈ as, a.receivedAt ≤ w.clock receipts

namespace InTime

variable {m n : Nat} {as bs : List Arrival}

theorem nil : InTime w n [] := ⟨.nil, by simp⟩

theorem sublist (h : InTime w n as) (hs : bs.Sublist as) : InTime w n bs :=
  ⟨h.rising.sublist hs, fun a ha => h.past a (hs.subset ha)⟩

theorem later (h : InTime w m as) (hw : Monotone w.clock) (hmn : m ≤ n) : InTime w n as :=
  ⟨h.rising, fun a ha => (h.past a ha).trans (hw hmn)⟩

/-- One line more, received now. -/
theorem concat (h : InTime w n as) (hw : Monotone w.clock) {a : Arrival}
    (ha : a.receivedAt = w.clock n) : InTime w (n + 1) (as ++ [a]) := by
  refine ⟨List.pairwise_append.2 ⟨h.rising, List.pairwise_singleton .., fun b hb c hc => ?_⟩,
    fun b hb => ?_⟩
  · rw [List.mem_singleton.1 hc, ha]
    exact h.past b hb
  · rcases List.mem_append.1 hb with hb | hb
    · exact (h.past b hb).trans (hw n.le_succ)
    · rw [List.mem_singleton.1 hb, ha]
      exact hw n.le_succ

end InTime

namespace Tail

/-- The line that a reader has in hand. -/
def held (t : Tail) : List Arrival :=
  match t.stage with
  | .sending a _ => [a]
  | _ => []

/-- The lines that a reader has taken in hand, less those it has given up. -/
def taken (f : Floor σ) (t : Tail) : List Arrival := sentBy t.service f.journal ++ t.held

variable {f : Floor σ} {t : Tail} {r : Floor σ × Tail}

/-- What a turn does to the lines taken in hand. -/
inductive Takes (w : World σ) (f : Floor σ) (t : Tail) (r : Floor σ × Tail) : Prop where
  | keep (hr : r.1.receipts = f.receipts) (hs : (taken r.1 r.2).Sublist (t.taken f))
  | one (a : Arrival) (ha : a.receivedAt = w.clock f.receipts)
    (hr : r.1.receipts = f.receipts + 1) (hs : taken r.1 r.2 = t.taken f ++ [a])

/-- A reader with empty hands takes a line. -/
theorem Takes.send {told : Time.Instant → Arrival} {next : Next} {g : Floor σ} {u : Tail}
    (ht : t.held = []) (hu : u.service = t.service) (hg : g.receipts = f.receipts)
    (hj : sentBy t.service g.journal = sentBy t.service f.journal)
    (htold : ∀ receivedAt, (told receivedAt).receivedAt = receivedAt) :
    Takes w f t (u.send w g told next) := by
  refine .one (told (w.clock f.receipts)) (htold _) (congrArg (· + 1) hg) ?_
  have hservice : (u.send w g told next).2.service = t.service := hu
  rw [taken, hservice, taken, ht, List.append_nil]
  exact congrArg₂ (· ++ ·) hj (by simp [Tail.send, held, hg])

theorem Takes.conclude (ht : t.held = []) (how : StreamEnd) : Takes w f t (t.conclude w f how) :=
  .send ht rfl rfl (sentBy_note_none t.service f rfl) fun _ => rfl

/-- A reader that sends nothing has the same line in hand or none. -/
theorem Takes.none {g : Floor σ} {u : Tail} (hu : u.service = t.service)
    (hg : g.receipts = f.receipts) (hj : sentBy t.service g.journal = sentBy t.service f.journal)
    (hheld : u.held = t.held ∨ u.held = []) : Takes w f t (g, u) := by
  refine .keep hg ?_
  rw [taken, hu, hj]
  refine (List.Sublist.refl _).append ?_
  rcases hheld with hheld | hheld
  · exact hheld ▸ List.Sublist.refl _
  · exact hheld ▸ List.nil_sublist _

/-- A reader takes one line in hand after the other, and sends what it has in hand. -/
theorem Turn.takes (h : Turn w f t r) : Takes w f t r := by
  cases h with
  | @deliver a next channel hs =>
    have hsent : sentBy t.service ({ f with channel }.note t.service (.sent a)).journal =
        sentBy t.service f.journal ++ [a] := sentBy_note t.service { f with channel } (.sent a)
    have hheld : t.held = [a] := by simp [held, hs]
    have hfree : { t with stage := t.proceed f next }.held = [] := by cases next <;> rfl
    have hsame : taken ({ f with channel }.note t.service (.sent a))
        { t with stage := t.proceed f next } = t.taken f := by
      rw [taken, taken, hheld, hfree, List.append_nil]
      exact hsent
    exact .keep rfl (hsame ▸ .refl _)
  | refuse hs =>
    exact .send (by simp [held, hs]) rfl rfl (sentBy_note_none t.service f rfl) fun _ => rfl
  | finish hs | fail hs => exact .conclude (by simp [held, hs]) _
  | @take line _ _ hs =>
    exact .send (by simp [held, hs]) (service_observe t line) rfl rfl fun _ => rfl
  | exit hs | wake hs =>
    exact .send (by simp [held, hs]) rfl rfl (sentBy_note_none t.service _ rfl) fun _ => rfl
  | queue => exact .none rfl rfl rfl (.inl rfl)
  | start => exact .none rfl rfl (sentBy_note_none t.service _ rfl) (.inr rfl)
  | postpone => exact .none rfl rfl (sentBy_note_none t.service _ rfl) (.inr rfl)
  | leave | retire => exact .none rfl rfl (sentBy_retire t _) (.inr rfl)
  | _ => exact .none rfl rfl rfl (.inr rfl)

end Tail

namespace Weave

variable {r : Request} {limits : SinkLimits} {v v' : Weave σ}

/-- The readers have taken their lines in hand one after the other. -/
def Dated (w : World σ) (v : Weave σ) : Prop :=
  ∀ t ∈ v.tails, InTime w v.floor.receipts (t.taken v.floor)

theorem dated_new (w : World σ) (r : Request) (bulletin : Bulletin) (sink : Sink)
    (cancelled : Bool) (world : σ) : Dated w (new r bulletin sink cancelled world) :=
  forall_tails_new _ _ _ _ _ fun _ _ => .nil

namespace Dated

theorem turn (h : Dated w v) (hw : Monotone w.clock) (hwoven : Woven r v) {i : Nat} {t : Tail}
    {x : Floor σ × Tail} (hi : v.tails[i]? = some t) (hx : Tail.Turn w v.floor t x) :
    Dated w { v with floor := x.1, tails := v.tails.set i x.2 } := by
  have ht := h t (List.mem_of_getElem? hi)
  obtain ⟨hle, hself⟩ : v.floor.receipts ≤ x.1.receipts ∧
      InTime w x.1.receipts (x.2.taken x.1) := by
    cases hx.takes with
    | keep hr hs => exact ⟨hr.ge, hr ▸ ht.sublist hs⟩
    | one a ha hr hs => exact ⟨by omega, by rw [hr, hs]; exact ht.concat hw ha⟩
  refine hwoven.forall_turn
    (P := fun u events => InTime w x.1.receipts (events.filterMap Event.sent? ++ u.held)) hi hx
    (fun u hu => (h u hu).later hw hle) ?_
  rwa [Tail.taken, hx.tail_eq.2.1] at hself

theorem move (h : Dated w v) (hw : Monotone w.clock) (hwoven : Woven r v) (hm : Move w v v') :
    Dated w v' := by
  cases hm with
  | turn hi hx => exact h.turn hw hwoven hi hx
  | @world act world _ =>
    intro t ht
    have hreceipts : ({ v.floor with world }.apply act).receipts = v.floor.receipts :=
      (Floor.apply_eq { v.floor with world } act).2.2.2.2
    simp only [Tail.taken, Floor.sentBy_apply, hreceipts]
    exact h t ht
  | stop | print | elapse => exact h

theorem drifts (hw : Monotone w.clock) {bulletin : Bulletin} {sink : Sink} {cancelled : Bool}
    {world : σ} (h : (schedule w).Drifts (new r bulletin sink cancelled world) v) : Dated w v :=
  Woven.keep h (fun _ _ hwoven hv hm => hv.move hw hwoven hm)
    (dated_new w r bulletin sink cancelled world)

/-- **The lines of a source are sent in the order of their receipt.** -/
theorem receivedAt_le (h : Dated w v) (hwired : Wired r limits v) (htold : Told v) :
    (sentAll v.floor.journal).Pairwise fun a b =>
      a.source = b.source → a.receivedAt ≤ b.receivedAt := by
  refine List.pairwise_iff_forall_sublist.2 fun {a b} hab hsource => ?_
  obtain ⟨e, he, hsent⟩ := mem_sentAll.1 (hab.subset (List.mem_cons_self ..))
  obtain ⟨t, ht, hservice, -⟩ := hwired.sender he hsent
  have hsame : a.source = t.service := (htold.source e he a hsent).trans hservice.symm
  -- Both are among the lines that their reader has taken in hand.
  have hpair : [a, b].Sublist (t.taken v.floor) := by
    have hfilter := hab.filter fun c => decide (c.source = t.service)
    rw [← htold.sentBy_eq] at hfilter
    refine List.Sublist.trans ?_ (hfilter.trans (List.sublist_append_left ..))
    simp [hsame, ← hsource]
  exact List.pairwise_iff_forall_sublist.1 (h t ht).rising hpair

end Dated

end Weave

end LogWeave.Run

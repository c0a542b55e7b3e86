import LogWeave.Proofs.Run.Move
import LogWeave.Proofs.Run.Resume

/-! What holds of a reader in every run.

A law of readers speaks of one reader and of what all tasks share. If the reader's own turns keep
it, and so do the turns of others, the world and whatever else goes on, then it holds of a reader by
itself and of every reader of a weave, wherever their moves may lead (`Tail.Law.everywhere`). -/
namespace LogWeave.Run.Tail

variable {σ : Type}

/-- What a run keeps of a reader. -/
structure Law (w : World σ) (P : Floor σ → Tail → Prop) : Prop where
  turn : ∀ {f : Floor σ} {t : Tail} {r : Floor σ × Tail}, P f t → Turn w f t r → P r.1 r.2
  /-- The turns of those who read other sources. -/
  other : ∀ {f : Floor σ} {t u : Tail} {r : Floor σ × Tail}, P f t → Turn w f u r →
    t.service ≠ u.service → P r.1 t
  world : ∀ {f : Floor σ} {t : Tail} (act : Act) (world : σ), P f t →
    P ({ f with world }.apply act) t
  /-- Lines are taken out of the channel, and the run is stopped. -/
  beside : ∀ {f : Floor σ} {t : Tail} (channel : Channel Arrival) (stopped : Bool), P f t →
    P { f with channel, stopped } t
  elapse : ∀ {f : Floor σ} {t : Tail} {time : Nat}, P f t → f.now ≤ time →
    P { f with now := time } t

namespace Law

variable {w : World σ} {P : Floor σ → Tail → Prop}

theorem observation (h : Law w P) {v v' : Observation σ} (hv : P v.floor v.tail)
    (hm : Observation.Move w v v') : P v'.floor v'.tail := by
  cases hm with
  | @world act world _ => exact h.world act world hv
  | turn hx => exact h.turn hv hx
  | @observe channel _ _ => exact h.beside channel v.floor.stopped hv
  | elapse hle => exact h.elapse hv hle

theorem weave (h : Law w P) {r : Request} {v v' : Weave σ} (hw : Weave.Woven r v)
    (hv : ∀ t ∈ v.tails, P v.floor t) (hm : Weave.Move w v v') : ∀ t ∈ v'.tails, P v'.floor t := by
  intro u hu
  cases hm with
  | @world act world _ => exact h.world act world (hv u hu)
  | @turn i t x hi hx =>
    obtain ⟨j, hj⟩ := List.mem_iff_getElem?.1 hu
    rcases Weave.getElem?_set_turn hj with ⟨rfl, rfl⟩ | ⟨hne, hj⟩
    · exact h.turn (hv t (List.mem_of_getElem? hi)) hx
    · exact h.other (hv u (List.mem_of_getElem? hj)) hx (hw.service_ne hi hj hne)
  | stop => exact h.beside v.floor.channel true (hv u hu)
  | @print c channel _ => exact h.beside channel _ (hv u hu)
  | elapse hle => exact h.elapse (hv u hu) hle

/-- **A law that holds of the readers of a run at its start holds of them all along**, whether there
is one reader or a weave of them. -/
theorem everywhere (h : Law w P) :
    (∀ {s : Streaming} {shared : Bool} {service : String} {capacity : Nat} {rest most : Option Nat}
      {bulletin : Bulletin} {cancelled : Bool} {world : σ} {v : Observation σ},
      (Observation.schedule w).Drifts
        (.new s shared service capacity rest most bulletin cancelled world) v →
      P (.new capacity 1 bulletin cancelled world) (.new s shared bulletin 0 service) →
      P v.floor v.tail) ∧
    (∀ {r : Request} {bulletin : Bulletin} {sink : Sink} {cancelled : Bool} {world : σ}
      {v : Weave σ}, (Weave.schedule w).Drifts (.new r bulletin sink cancelled world) v →
      (∀ number service, P (.new r.capacity r.services.length bulletin cancelled world)
        (.new r.streaming r.isShared bulletin number service)) →
      ∀ t ∈ v.tails, P v.floor t) := by
  refine ⟨fun hd hnew => ?_, fun hd hnew => ?_⟩
  · exact hd.keep (P := fun v => P v.floor v.tail)
      (fun _ _ hv hd => h.observation hv (Observation.move_of_drift hd)) hnew
  · exact Weave.Woven.keep (P := fun v => ∀ t ∈ v.tails, P v.floor t) hd
      (fun _ _ hw hv hm => h.weave hw hv hm) (Weave.forall_tails_new _ _ _ _ _ hnew)

end Law

end LogWeave.Run.Tail

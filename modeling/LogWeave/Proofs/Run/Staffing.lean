import LogWeave.Proofs.Run.Headcount
import LogWeave.Proofs.Run.Sighting
import Mathlib.Data.Finset.Card

/-! One reader for each service.

Of the names in a request each counts once, where it is met first (`Firsts`); a list has one such
order (`firsts_iff`). A run has one reader for each of these names, which follows the status of its
own service and counts for one as long as it is active (`Run.Weave.Staffed`), however often a name
was given (`staffs_each_once`). -/
namespace LogWeave

/-! ### Names -/

/-- The names of a list as they are first met: -/
structure Firsts (names firsts : List String) : Prop where
  /-- none twice, -/
  nodup : firsts.Nodup
  /-- all of them and no other, -/
  mem : ∀ name, name ∈ firsts ↔ name ∈ names
  /-- in the order of their first places. -/
  order : firsts.Pairwise fun a b => names.idxOf a < names.idxOf b

theorem order_distinct (names : List String) :
    (distinct names).Pairwise fun a b => names.idxOf a < names.idxOf b := by
  induction names with
  | nil => exact .nil
  | cons first rest ih =>
    have hother {name : String} (h : name ∈ (distinct rest).filter (· != first)) :
        (first :: rest).idxOf name = rest.idxOf name + 1 := by
      have hne : name ≠ first := by simpa using List.of_mem_filter h
      exact List.idxOf_cons_ne rest hne.symm
    refine List.pairwise_cons.2 ⟨fun name hname => ?_, ?_⟩
    · rw [List.idxOf_cons_self, hother hname]
      omega
    · refine (ih.filter _).imp_of_mem fun ha hb hlt => ?_
      rw [hother ha, hother hb]
      omega

/-- A list of names has one order of first places. -/
theorem firsts_iff {names firsts : List String} :
    Firsts names firsts ↔ firsts = distinct names := by
  constructor
  · intro h
    have hperm : firsts.Perm (distinct names) :=
      (List.perm_ext_iff_of_nodup h.nodup (nodup_distinct names)).2 fun name =>
        (h.mem name).trans mem_distinct.symm
    exact hperm.eq_of_pairwise (fun _ _ _ _ hab hba => absurd hba hab.asymm) h.order
      (order_distinct names)
  · rintro rfl
    exact ⟨nodup_distinct names, fun _ => mem_distinct, order_distinct names⟩

theorem distinct_of_nodup {names : List String} (h : names.Nodup) : distinct names = names := by
  induction names with
  | nil => rfl
  | cons first rest ih =>
    obtain ⟨hfirst, hrest⟩ := List.nodup_cons.1 h
    rw [distinct, ih hrest, List.filter_eq_self.2]
    intro name hname
    simpa using ne_of_mem_of_not_mem hname hfirst

/-! ### Readers -/

namespace Run.Weave

variable {σ : Type} {w : World σ} {v : Weave σ} {r : Request} {bulletin : Bulletin}
  {sink : Sink} {cancelled : Bool} {world : σ}

/-- A run for some names: -/
structure Staffed (names : List String) (v : Weave σ) : Prop where
  /-- each has one reader, and no other name has any; -/
  readers : ∀ name, (v.tails.map Tail.service).count name = if name ∈ names then 1 else 0
  /-- a reader follows the status of its own service, -/
  watches : ∀ t ∈ v.tails, t.watch.service = t.service
  /-- and counts for one as long as it is active. -/
  running : v.floor.headcount.running =
    (names.toFinset.filter fun name => ∃ t ∈ v.tails, t.service = name ∧ t.isActive = true).card

theorem Woven.services_eq (h : Woven r v) : v.tails.map Tail.service = r.services := by
  refine List.ext_getElem? fun i => ?_
  rw [List.getElem?_map]
  cases hi : v.tails[i]? with
  | some t => exact (h.service i t hi).symm
  | none =>
    rw [List.getElem?_eq_none_iff, h.length] at hi
    exact (List.getElem?_eq_none hi).symm

/-- Readers follow the statuses of their own services all along. -/
theorem watches_of_drifts (h : (schedule w).Drifts (new r bulletin sink cancelled world) v) :
    ∀ t ∈ v.tails, t.watch.service = t.service := fun t ht =>
  ((Tail.sighted_law w bulletin).everywhere.2 h (fun _ _ => Tail.sighted_new ..) t ht).sees.watches

/-- Readers with different services are as many as their services. -/
theorem countP_eq_card (h : Woven r v) {names : List String}
    (hnames : ∀ name, name ∈ r.services ↔ name ∈ names) :
    v.tails.countP Tail.isActive =
      (names.toFinset.filter fun name =>
        ∃ t ∈ v.tails, t.service = name ∧ t.isActive = true).card := by
  have hnodup : ((v.tails.filter Tail.isActive).map Tail.service).Nodup := by
    have hsub := (List.filter_sublist (p := Tail.isActive) (l := v.tails)).map Tail.service
    rw [h.services_eq] at hsub
    exact r.nodup.sublist hsub
  rw [List.countP_eq_length_filter, ← List.length_map (f := Tail.service),
    ← List.toFinset_card_of_nodup hnodup]
  congr 1
  ext name
  simp only [List.mem_toFinset, List.mem_map, List.mem_filter, Finset.mem_filter]
  constructor
  · rintro ⟨t, ⟨ht, hactive⟩, rfl⟩
    exact ⟨(hnames _).1 (h.service_mem ht), t, ht, rfl, hactive⟩
  · rintro ⟨-, t, ht, rfl, hactive⟩
    exact ⟨t, ⟨ht, hactive⟩, rfl⟩

theorem staffed_of_drifts {names : List String} (hnames : ∀ name, name ∈ r.services ↔ name ∈ names)
    (h : (schedule w).Drifts (new r bulletin sink cancelled world) v) : Staffed names v := by
  obtain ⟨hcounted, hwoven⟩ := Counted.drifts h
  refine ⟨fun name => ?_, watches_of_drifts h, ?_⟩
  · rw [hwoven.services_eq, r.nodup.count]
    simp only [hnames]
  · rw [hcounted.running, countP_eq_card hwoven hnames]

/-- **Each service has one reader, however often it is named.** A request is refused if it names no
service, and only then. Otherwise its services are the names as they are first met, and nothing
comes of asking for these again. Over them a run has one reader for each name, counted once and on
one watch from the start, wherever the run leads. -/
theorem staffs_each_once (names : List String) (s : Streaming) :
    (∀ why, Request.new names s = .error why ↔
      names = [] ∧ why = .invalidInput "at least one service is required") ∧
    (names ≠ [] → ∃ r, Request.new names s = .ok r ∧ r.streaming = s ∧
      (∀ firsts, Firsts names firsts ↔ firsts = r.services) ∧
      Request.new r.services s = .ok r ∧
      ∀ {σ : Type} (w : World σ) (bulletin : Bulletin) (sink : Sink) (cancelled : Bool) (world : σ),
        let start := new r bulletin sink cancelled world
        start.floor.headcount.running = names.toFinset.card ∧
        (∀ t ∈ start.tails, t.watch = .new bulletin t.service) ∧
        ∀ v, (schedule w).Drifts start v → Staffed names v) := by
  refine ⟨fun why => Request.new_eq_error, fun hne => ?_⟩
  let r : Request := ⟨distinct names, s, mt distinct_eq_nil.1 hne, nodup_distinct names⟩
  have hagain : distinct r.services = r.services := distinct_of_nodup r.nodup
  refine ⟨r, Request.new_eq_ok.2 ⟨rfl, rfl⟩, rfl, fun firsts => firsts_iff,
    Request.new_eq_ok.2 ⟨hagain.symm, rfl⟩, fun w bulletin sink cancelled world => ⟨?_, ?_, ?_⟩⟩
  · have hnames : names.toFinset = (distinct names).toFinset := by
      ext name
      rw [List.mem_toFinset, List.mem_toFinset, mem_distinct]
    rw [hnames, List.toFinset_card_of_nodup (nodup_distinct names)]
    rfl
  · exact forall_tails_new _ _ _ _ _ fun _ _ => rfl
  · exact fun v h => staffed_of_drifts (fun _ => mem_distinct) h

/-- Two services, one of them named twice, when the shorter log has come to its end. -/
theorem staffs_each_once_repeated :
    ∃ (r : Request) (world : Rehearsal) (v : Weave Rehearsal),
      Request.new ["web", "db", "web"] ⟨false, false, 100, 500, 1000, 2⟩ = .ok r ∧
      (∀ firsts, Firsts ["web", "db", "web"] firsts ↔ firsts = ["web", "db"]) ∧
      (schedule Rehearsal.world).Drifts (new r .new .endless false world) v ∧
      Staffed ["web", "db", "web"] v ∧ v.floor.headcount.running = 1 := by
  let streaming : Streaming := ⟨false, false, 100, 500, 1000, 2⟩
  let given : Request := ⟨["web", "db"], streaming, by decide, by decide⟩
  let world : Rehearsal := .ofActs
    [("web", [.stream [.line "ready", .line "late"]]), ("db", [.stream [.line "open"]])] []
  have h : (schedule Rehearsal.world).Drifts (new given .new .endless false world) _ :=
    ((schedule Rehearsal.world).reachable_runFrom 1000 15 0 .start).drifts
  obtain ⟨r, hr, -, hfirsts, -, hrun⟩ :=
    (staffs_each_once ["web", "db", "web"] streaming).2 (by decide)
  obtain rfl : given = r := Except.ok.inj ((Request.new_eq_ok.2 ⟨by decide, rfl⟩).symm.trans hr)
  exact ⟨given, world, _, hr, hfirsts, h, (hrun _ .new .endless false world).2.2 _ h,
    by decide +kernel⟩

end Run.Weave

end LogWeave

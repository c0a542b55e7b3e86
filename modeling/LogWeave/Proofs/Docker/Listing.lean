import LogWeave.Proofs.Docker.Mirroring
import LogWeave.Proofs.Output.Sorting
import LogWeave.Proofs.Text.Order

/-! The services of a list of containers.

Each container that carries the label of a service is listed once, in the order of the bytes of the
names; containers of one service stay in the order of the engine (`Lists`). A list of containers has
one such listing (`Lists.unique`), and it is what a client tells of them
(`Client.lists_servicesOf`). -/
namespace LogWeave.Docker

namespace Summary

/-- What a listing holds for a container that names a service. -/
def Tells (s : Summary) (e : String × ServiceStatus) : Prop :=
  s.label? serviceLabel = some e.1 ∧ s.status = e.2

/-- The name that a container is listed by. -/
def title (s : Summary) : String := s.service?.getD ""

variable {s : Summary}

theorem isSome_service? : s.service?.isSome = s.labels.any (·.1 == serviceLabel) := by
  rw [service?, label?, Option.isSome_map, Bool.eq_iff_iff, List.find?_isSome, List.any_eq_true]

theorem service?_eq_title (h : s.service?.isSome = true) : s.service? = some s.title := by
  obtain ⟨name, hname⟩ := Option.isSome_iff_exists.1 h
  rw [title, hname, Option.getD_some]

theorem Tells.eq {e : String × ServiceStatus} (h : s.Tells e) : (s.title, s.status) = e := by
  have hname : s.service? = some e.1 := h.1
  exact Prod.ext (by rw [title, hname, Option.getD_some]) h.2

end Summary

/-- A listing of containers: -/
structure Lists (containers carriers : List Summary) (entries : List (String × ServiceStatus)) :
    Prop where
  /-- those that carry the label of a service, each once, -/
  complete : carriers.Perm (containers.filter fun s => s.labels.any (·.1 == Summary.serviceLabel))
  /-- with an entry for each, -/
  tells : List.Forall₂ Summary.Tells carriers entries
  /-- in the order of the bytes of their names, -/
  sorted : entries.Pairwise fun a b => Text.utf8 a.1 ≤ Text.utf8 b.1
  /-- and those of one name as the engine has them. -/
  stable : ∀ name, carriers.filter (·.service? = some name) =
    containers.filter (·.service? = some name)

namespace Lists

variable {containers carriers : List Summary} {entries : List (String × ServiceStatus)}

theorem entries_eq (h : Lists containers carriers entries) :
    entries = carriers.map fun s => (s.title, s.status) := by
  have heq := h.tells.imp fun _ _ => Summary.Tells.eq
  rw [← List.forall₂_map_left_iff (f := fun s : Summary => (s.title, s.status)),
    List.forall₂_eq_eq_eq] at heq
  exact heq.symm

theorem titles_sorted (h : Lists containers carriers entries) :
    carriers.Pairwise fun a b => a.title ≤ b.title := by
  have hsorted := h.sorted
  rw [h.entries_eq, List.pairwise_map] at hsorted
  exact hsorted.imp Text.utf8_le_utf8.1

/-- Under each name stand those whom the engine has under it. -/
theorem filter_title (h : Lists containers carriers entries) (name : String) :
    carriers.filter (·.title = name) = containers.filter (·.service? = some name) := by
  rw [← h.stable name]
  refine List.filter_congr fun s hs => ?_
  have hsome : s.service?.isSome = true := by
    rw [Summary.isSome_service?]
    exact (List.mem_filter.1 (h.complete.mem_iff.1 hs)).2
  rw [Summary.service?_eq_title hsome]
  simp

/-- Containers have one listing. -/
theorem unique {others : List Summary} {entries' : List (String × ServiceStatus)}
    (h : Lists containers carriers entries) (h' : Lists containers others entries') :
    carriers = others ∧ entries = entries' := by
  have hcarriers : carriers = others :=
    eq_of_filter_key String.le_antisymm h.titles_sorted h'.titles_sorted fun name => by
      rw [h.filter_title, h'.filter_title]
  exact ⟨hcarriers, by rw [h.entries_eq, h'.entries_eq, hcarriers]⟩

end Lists

namespace Client

/-- The containers that are listed, in the order of the listing. -/
def listed (containers : List Summary) : List Summary :=
  (containers.filter (·.service?.isSome)).mergeSort fun a b => a.title ≤ b.title

theorem title_trans (a b c : Summary) (hab : decide (a.title ≤ b.title) = true)
    (hbc : decide (b.title ≤ c.title) = true) : decide (a.title ≤ c.title) = true :=
  decide_eq_true (String.le_trans (of_decide_eq_true hab) (of_decide_eq_true hbc))

theorem title_total (a b : Summary) :
    (decide (a.title ≤ b.title) || decide (b.title ≤ a.title)) = true := by
  simpa using String.le_total a.title b.title

variable (containers : List Summary)

theorem filterMap_service? :
    containers.filterMap (fun s => s.service?.map (·, s.status)) =
      (containers.filter (·.service?.isSome)).map fun s => (s.title, s.status) := by
  induction containers with
  | nil => rfl
  | cons s rest ih =>
    cases hs : s.service? with
    | none => simp [hs, ih]
    | some name => simp [hs, ih, Summary.title]

theorem servicesOf_eq :
    servicesOf containers = (listed containers).map fun s => (s.title, s.status) := by
  rw [servicesOf, filterMap_service?, listed, List.map_mergeSort]
  exact fun _ _ _ _ => rfl

theorem filter_listed (name : String) : (listed containers).filter (·.service? = some name) =
    containers.filter (·.service? = some name) := by
  rw [listed, filter_mergeSort title_trans title_total, List.filter_filter]
  · refine List.filter_congr fun s _ => ?_
    cases s.service? <;> simp
  · refine List.pairwise_filter.2 (List.pairwise_of_forall fun a b ha hb => ?_)
    rw [Summary.title, Summary.title, of_decide_eq_true ha, of_decide_eq_true hb]
    exact decide_eq_true (String.le_refl _)

/-- The services of containers are a listing of them. -/
theorem lists_servicesOf : Lists containers (listed containers) (servicesOf containers) where
  complete := by
    simp only [← Summary.isSome_service?]
    exact List.mergeSort_perm _ _
  tells := by
    rw [servicesOf_eq, List.forall₂_map_right_iff, List.forall₂_same]
    intro s hs
    rw [listed, List.mem_mergeSort] at hs
    exact ⟨Summary.service?_eq_title (List.mem_filter.1 hs).2, rfl⟩
  sorted := by
    rw [servicesOf_eq, List.pairwise_map]
    exact (List.pairwise_mergeSort title_trans title_total _).imp fun h =>
      Text.utf8_le_utf8.2 (of_decide_eq_true h)
  stable := filter_listed containers

variable {containers}

/-- A client tells the services of the containers that the engine lists. -/
theorem services_eq {ε : Type} {c : Client ε} {e asked : ε}
    (h : c.engine.list e (c.labels none) = (.ok containers, asked)) :
    c.services e = (.ok (servicesOf containers), asked) :=
  Asking.bind_ok (list_eq_ok.2 h)

end Client

end LogWeave.Docker

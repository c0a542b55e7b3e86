import LogWeave.Files.Tree

/-! Walks through a tree that changes.

A walk goes through folders only, so it goes the same way in any tree that has them too
(`walk_of_keepsFolders`), and what is read depends on where it ends only (`readText_congr`). Making
folders puts folders where nothing was and does nothing else (`Widens`), however far it gets; where
it succeeds, the folder is there (`isFolder_of_makeFolders`). -/
namespace LogWeave.Files.Tree

/-! ### Walks -/

theorem bind_eq_ok {ε α β : Type} {x : Except ε α} {f : α → Except ε β} {b : β} :
    x >>= f = .ok b ↔ ∃ a, x = .ok a ∧ f a = .ok b := by
  cases x with
  | error e => simp [Bind.bind, Except.bind]
  | ok a => simp [Bind.bind, Except.bind]

theorem ok_bind {ε α β : Type} {a : α} {f : α → Except ε β} : (Except.ok a >>= f) = f a := rfl

theorem enter_eq_ok {t : Tree} {l : Location} : t.enter l = .ok () ↔ t.at? l = some .folder := by
  unfold enter
  split <;> simp_all

theorem walk_append (t : Tree) (l : Location) (parts more : List String) :
    t.walk l (parts ++ more) = t.walk l parts >>= fun m => t.walk m more := by
  induction parts generalizing l with
  | nil => rfl
  | cons part parts ih =>
    show (t.step l part >>= fun m => t.walk m (parts ++ more)) = _
    simp only [ih]
    show _ = (t.step l part >>= fun m => t.walk m parts) >>= _
    cases t.step l part <;> rfl

theorem walk_singleton (t : Tree) (l : Location) (part : String) :
    t.walk l [part] = t.step l part := by
  show (t.step l part >>= fun m => .ok m) = _
  cases t.step l part <;> rfl

/-- A step leads on from a folder only. -/
theorem folder_of_step {t : Tree} {l m : Location} {part : String} (h : t.step l part = .ok m) :
    t.at? l = some .folder := by
  obtain ⟨_, henter, -⟩ := bind_eq_ok.1 h
  exact enter_eq_ok.1 henter

/-- Every folder of the one tree is one of the other. -/
def KeepsFolders (t t' : Tree) : Prop := ∀ l, t.at? l = some .folder → t'.at? l = some .folder

theorem step_of_keepsFolders {t t' : Tree} (h : t.KeepsFolders t') {l m : Location}
    {part : String} (hstep : t.step l part = .ok m) : t'.step l part = .ok m := by
  have hfolder := folder_of_step hstep
  have henter : t.enter l = t'.enter l := by
    rw [enter_eq_ok.2 hfolder, enter_eq_ok.2 (h l hfolder)]
  rw [← hstep]
  unfold step
  rw [henter]

/-- **A walk goes the same way where its folders are kept.** -/
theorem walk_of_keepsFolders {t t' : Tree} (h : t.KeepsFolders t') {l m : Location}
    {parts : List String} (hwalk : t.walk l parts = .ok m) : t'.walk l parts = .ok m := by
  induction parts generalizing l with
  | nil => exact hwalk
  | cons part parts ih =>
    obtain ⟨n, hstep, hrest⟩ := bind_eq_ok.1 hwalk
    exact bind_eq_ok.2 ⟨n, step_of_keepsFolders h hstep, ih hrest⟩

/-- Where no folder stood, anything may be put. -/
theorem keepsFolders_set {t : Tree} {l : Location} (h : t.at? l ≠ some .folder)
    (node : Option Node) : t.KeepsFolders (t.set l node) := by
  intro m hm
  have hne : m ≠ l := by
    rintro rfl
    exact h hm
  rw [at?_set_of_ne t node hne, hm]

/-- Only a file is taken away. -/
theorem remove_eq_ok {t t' : Tree} {p : Path} : t.remove p = .ok t' ↔ ∃ l content,
    t.resolve p = .ok l ∧ t.at? l = some (.file content) ∧ p.endsInSlash = false ∧
      t' = t.set l none := by
  unfold remove
  rw [bind_eq_ok]
  constructor
  · rintro ⟨l, hl, h⟩
    refine ⟨l, ?_⟩
    split at h
    · cases h
    · cases h
    · split at h
      · cases h
      · cases h
        exact ⟨_, hl, ‹_›, Bool.eq_false_iff.2 ‹_›, rfl⟩
  · rintro ⟨l, content, hl, hfile, hslash, rfl⟩
    refine ⟨l, hl, ?_⟩
    rw [hfile, hslash]
    rfl

/-! ### Reading -/

theorem read_of_none {t : Tree} {p : Path} {l : Location} (h : t.resolve p = .ok l)
    (hnone : t.at? l = none) : t.read p = .error .missing := by
  unfold read
  rw [h, ok_bind, hnone]

theorem read_of_file {t : Tree} {p : Path} {l : Location} {content : Text.Bytes}
    (h : t.resolve p = .ok l) (hfile : t.at? l = some (.file content)) :
    t.read p = if p.endsInSlash then .error .notFolder else .ok content := by
  unfold read
  rw [h, ok_bind, hfile]

theorem readText_of_error {t : Tree} {p : Path} {e : Trouble} (h : t.read p = .error e) :
    t.readText p = .error e := by
  unfold readText
  rw [h]
  rfl

/-- What is read depends on one location only. -/
theorem readText_congr {t t' : Tree} {p : Path} {l : Location} (h : t.resolve p = .ok l)
    (h' : t'.resolve p = .ok l) (hplace : t'.at? l = t.at? l) :
    t'.readText p = t.readText p := by
  unfold readText read
  rw [h, h', ok_bind, ok_bind, hplace]

/-! ### Making folders -/

/-- Nothing but folders has been made, where nothing was. -/
def Widens (t t' : Tree) : Prop :=
  ∀ l, t'.at? l = t.at? l ∨ t.at? l = none ∧ t'.at? l = some .folder

namespace Widens

theorem refl (t : Tree) : t.Widens t := fun _ => .inl rfl

theorem trans {t t' t'' : Tree} (h : t.Widens t') (h' : t'.Widens t'') : t.Widens t'' := by
  intro l
  rcases h' l with heq | ⟨hnone, hfolder⟩
  · rcases h l with heq' | ⟨hnone, hfolder⟩
    · exact .inl (heq.trans heq')
    · exact .inr ⟨hnone, heq.trans hfolder⟩
  · rcases h l with heq' | ⟨-, hfolder'⟩
    · exact .inr ⟨heq'.symm.trans hnone, hfolder⟩
    · exact absurd (hnone.symm.trans hfolder') (by simp)

theorem keepsFolders {t t' : Tree} (h : t.Widens t') : t.KeepsFolders t' := by
  intro l hl
  rcases h l with heq | ⟨hnone, -⟩
  · exact heq.trans hl
  · exact absurd (hnone.symm.trans hl) (by simp)

/-- Every file keeps its content, and no file is new. -/
theorem files {t t' : Tree} (h : t.Widens t') (l : Location) (content : Text.Bytes) :
    t'.at? l = some (.file content) ↔ t.at? l = some (.file content) := by
  rcases h l with heq | ⟨hnone, hfolder⟩
  · rw [heq]
  · simp [hnone, hfolder]

end Widens

/-- Where there were fewer folders a walk went the same way, or found one of them missing. -/
theorem walk_of_widens {t t' : Tree} (h : t.Widens t') {l m : Location} {parts : List String}
    (hwalk : t'.walk l parts = .ok m) :
    t.walk l parts = .ok m ∨ t.walk l parts = .error .missing := by
  induction parts generalizing l with
  | nil => exact .inl hwalk
  | cons part parts ih =>
    obtain ⟨n, hstep, hrest⟩ := bind_eq_ok.1 hwalk
    have hfolder := folder_of_step hstep
    show (t.step l part >>= fun n => t.walk n parts) = _ ∨
      (t.step l part >>= fun n => t.walk n parts) = _
    rcases h l with heq | ⟨hnone, -⟩
    · have henter : t.enter l = t'.enter l := by
        unfold enter
        rw [heq]
      have hsame : t.step l part = .ok n := by
        rw [← hstep]
        unfold step
        rw [henter]
      rw [hsame]
      exact ih hrest
    · right
      have hmissing : t.step l part = .error .missing := by
        unfold step enter
        rw [hnone]
        rfl
      rw [hmissing]
      rfl

theorem makeFolder_eq_ok {t t' : Tree} {parts : List String} (h : t.makeFolder parts = .ok t') :
    ∃ m l, t.walk [] parts.dropLast = .ok m ∧ t.step m (parts.getLastD ".") = .ok l ∧
      t.at? l = none ∧ t' = t.set l (some .folder) := by
  obtain ⟨⟨m, name⟩, happroach, hrest⟩ := bind_eq_ok.1 h
  obtain ⟨m', hwalk, henter⟩ := bind_eq_ok.1 happroach
  obtain ⟨_, -, hname⟩ := bind_eq_ok.1 henter
  cases hname
  obtain ⟨l, hstep, hset⟩ := bind_eq_ok.1 hrest
  dsimp only at hset
  split at hset
  · cases hset
  · rename_i hnone
    cases hset
    exact ⟨m, l, hwalk, hstep, by simpa using hnone, rfl⟩

theorem widens_makeFolder {t t' : Tree} {parts : List String} (h : t.makeFolder parts = .ok t') :
    t.Widens t' := by
  obtain ⟨-, l, -, -, hnone, rfl⟩ := makeFolder_eq_ok h
  intro m
  by_cases hm : m = l
  · subst hm
    exact .inr ⟨hnone, at?_set_self t m _⟩
  · exact .inl (at?_set_of_ne t _ hm)

theorem isFolder_eq_true {t : Tree} {parts : List String} :
    t.isFolder parts = true ↔ ∃ l, t.walk [] parts = .ok l ∧ t.at? l = some .folder := by
  unfold isFolder
  cases t.walk [] parts <;> simp

/-- A folder that has been made is there. -/
theorem isFolder_of_makeFolder {t t' : Tree} {parts : List String}
    (h : t.makeFolder parts = .ok t') : t'.isFolder parts = true := by
  have hkeeps := (widens_makeFolder h).keepsFolders
  obtain ⟨m, l, hwalk, hstep, hnone, rfl⟩ := makeFolder_eq_ok h
  refine isFolder_eq_true.2 ⟨l, ?_, at?_set_self t l _⟩
  have hne : parts ≠ [] := by
    -- Without a name the folder itself would be in the way.
    rintro rfl
    obtain rfl : ([] : Location) = m := Except.ok.inj hwalk
    have hroot := folder_of_step hstep
    have hdot : t.step [] "." = .ok [] := by
      unfold step
      rw [enter_eq_ok.2 hroot]
      rfl
    obtain rfl : ([] : Location) = l := Except.ok.inj (hdot.symm.trans hstep)
    exact absurd (hnone.symm.trans hroot) (by simp)
  rw [← List.dropLast_concat_getLast hne, walk_append, walk_of_keepsFolders hkeeps hwalk]
  show Tree.walk _ m [_] = _
  rw [walk_singleton]
  rw [List.getLastD_eq_getLast?, List.getLast?_eq_some_getLast hne] at hstep
  exact step_of_keepsFolders hkeeps hstep

theorem widens_makeNearest {t t' : Tree} {passed passed' outer : List (List String)}
    (h : t.makeNearest passed outer = .ok (t', passed')) : t.Widens t' := by
  induction outer generalizing passed with
  | nil =>
    cases h
    exact .refl t
  | cons parts outer ih =>
    unfold makeNearest at h
    split at h
    · cases h
      exact widens_makeFolder ‹_›
    · exact ih h
    · split at h
      · cases h
        exact .refl t
      · cases h

theorem widens_makeEach (t : Tree) (each : List (List String)) :
    t.Widens (t.makeEach each).2 := by
  induction each generalizing t with
  | nil => exact .refl t
  | cons parts each ih =>
    unfold makeEach
    split
    · exact (widens_makeFolder ‹_›).trans (ih _)
    · split
      · exact ih t
      · exact .refl t

/-- **Making folders makes nothing but folders**, also if one cannot be made. -/
theorem widens_makeFolders (t : Tree) (p : Path) : t.Widens (t.makeFolders p).2 := by
  unfold makeFolders
  split
  · unfold makeAll
    split
    · exact (widens_makeNearest ‹_›).trans (widens_makeEach _ _)
    · exact .refl t
  · exact .refl t

theorem getLast?_makeNearest {t t' : Tree} {passed passed' outer : List (List String)}
    {parts : List String} (h : t.makeNearest passed outer = .ok (t', passed'))
    (hlast : passed.getLast? = some parts) : passed'.getLast? = some parts := by
  induction outer generalizing passed with
  | nil =>
    cases h
    exact hlast
  | cons next outer ih =>
    unfold makeNearest at h
    split at h
    · cases h
      exact hlast
    · refine ih h ?_
      rw [List.getLast?_cons, hlast]
      rfl
    · split at h
      · cases h
        exact hlast
      · cases h

theorem isFolder_of_makeEach {t t' : Tree} {each : List (List String)} {parts : List String}
    (h : t.makeEach each = (.ok (), t')) (hlast : each.getLast? = some parts) :
    t'.isFolder parts = true := by
  induction each generalizing t with
  | nil => cases hlast
  | cons next each ih =>
    unfold makeEach at h
    cases each with
    | nil =>
      obtain rfl : next = parts := Option.some.inj hlast
      split at h
      · cases h
        exact isFolder_of_makeFolder ‹_›
      · split at h
        · cases h
          exact ‹_ ∧ _›.2
        · cases h
    | cons next' each =>
      rw [List.getLast?_cons_cons] at hlast
      split at h
      · exact ih h hlast
      · split at h
        · exact ih h hlast
        · cases h

/-- **Folders that have been made are there.** -/
theorem isFolder_of_makeFolders {t t' : Tree} {p : Path} (h : t.makeFolders p = (.ok (), t')) :
    t'.isFolder p.parts = true := by
  unfold makeFolders at h
  split at h
  · unfold makeAll at h
    split at h
    · rename_i t'' passed hnearest
      unfold Path.ancestors makeNearest at hnearest
      split at hnearest
      · cases hnearest
        cases h
        exact isFolder_of_makeFolder ‹_›
      · exact isFolder_of_makeEach h (getLast?_makeNearest hnearest rfl)
      · split at hnearest
        · cases hnearest
          cases h
          exact ‹_ ∧ _›.2
        · cases hnearest
    · cases h
  · cases h

end LogWeave.Files.Tree

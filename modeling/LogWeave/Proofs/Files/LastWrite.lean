import LogWeave.Proofs.Files.Keeping
import LogWeave.Proofs.Json.RoundTrip

/-! A folder of documents as a map whose last write wins.

Documents are saved, loaded and removed in any order. What is kept under a name (`Has`) follows
from the last of these that wrote or removed it (`last`): `Has.use` is one use of the folder,
`Has.uses` any number. A folder that stands keeps it at the name's place (`Keeps`); one that is
not there yet is made by the first save, and until then keeps nothing (`Awaits`). What was at the
place before is forgotten with the first write (`Stands.keeps_of_writes`). The main result is
`keeps_last_write`. -/
namespace LogWeave.Files.Folder

/-- A use of the documents of a folder. -/
inductive Use where
  | save (name : String) (v : Json.Value)
  | load (name : String)
  | loadOptional (name : String)
  | remove (name : String)

namespace Use

/-- The name it is about. -/
def name : Use → String
  | save name _ | load name | loadOptional name | remove name => name

/-- It is about the document of this name, and not just looked at. -/
def Writes (name : String) : Use → Prop
  | save other _ | remove other => other = name
  | _ => False

/-- What it leaves of the tree, whether it succeeds or not. -/
def after (f : Folder) : Use → Tree → Tree
  | save name v, t => (f.save name v t).2
  | load _, t => t
  | loadOptional _, t => t
  | remove name, t => (f.remove name t).toOption.getD t

/-- Whole numbers have 64 bits, keys differ and nothing is nested too deep. -/
def Fits : Use → Prop
  | save _ v => v.Fits Json.deepest
  | _ => True

/-- What is kept under a name afterwards, of what was kept there before. -/
def keep (f : Folder) (name : String) (kept : Option Json.Value) : Use → Option Json.Value
  | save other v => if other = name ∧ f.Admits name then some v else kept
  | remove other => if other = name then none else kept
  | _ => kept

end Use

/-- The tree after uses of the folder, one after the other. -/
def afterAll (f : Folder) (uses : List Use) (t : Tree) : Tree :=
  uses.foldl (fun t use => use.after f t) t

/-- **What the last save of a name wrote**, if it has not been removed since. -/
def last (f : Folder) (name : String) (uses : List Use) : Option Json.Value :=
  uses.foldl (Use.keep f name) none

namespace Use

variable {f : Folder} {name : String} {use : Use}

theorem name_of_writes (h : use.Writes name) : use.name = name := by
  cases use with
  | save | remove => exact h
  | load | loadOptional => exact h.elim

theorem keep_of_not_writes (h : ¬use.Writes name) (kept : Option Json.Value) :
    use.keep f name kept = kept := by
  cases use with
  | save other v => exact if_neg fun hboth => h hboth.1
  | load | loadOptional => rfl
  | remove other => exact if_neg h

/-- What was kept before a write does not count. -/
theorem keep_of_writes (h : use.Writes name) (hadmits : f.Admits name)
    (kept : Option Json.Value) : use.keep f name kept = use.keep f name none := by
  cases use with
  | save other v => rw [keep, keep, if_pos ⟨h, hadmits⟩, if_pos ⟨h, hadmits⟩]
  | load | loadOptional => exact h.elim
  | remove other =>
    obtain rfl : other = name := h
    rw [keep, keep, if_pos rfl, if_pos rfl]

/-- Nothing is ever kept under a name that is not admitted. -/
theorem keep_of_not_admits (h : ¬f.Admits name) : use.keep f name none = none := by
  cases use with
  | save other v => exact if_neg fun hboth => h hboth.2
  | load | loadOptional => rfl
  | remove other => exact ite_self none

end Use

/-- There is the folder, or it can be made. -/
def Usable (f : Folder) (t : Tree) : Prop :=
  if t.holds f.base then t.isFolder f.base.parts = true
  else (t.makeFolders f.base).1 = .ok ()

/-! ### What is kept -/

variable {f : Folder} {t : Tree} {l : Location} {name : String}

/-- **A use changes the place of its own name at most**, and no folder. -/
theorem after_of_stands (hl : f.Stands t l) {use : Use} (huse : IsPlain use.name) :
    use.after f t = t ∨ ∃ node, t.at? (l ++ [use.name]) ≠ some .folder ∧
      use.after f t = t.set (l ++ [use.name]) node := by
  cases use with
  | save other v =>
    have hother : IsPlain other := huse
    rcases save_tree_of_stands hother hl v with hsame | ⟨-, hfolder, hset⟩
    · exact .inl hsame
    · exact .inr ⟨_, hfolder, hset⟩
  | load | loadOptional => exact .inl rfl
  | remove other =>
    have hother : IsPlain other := huse
    rw [Use.after]
    cases hremove : f.remove other t with
    | error e => exact .inl rfl
    | ok t' =>
      rcases remove_eq_ok hother hremove with rfl | ⟨m, content, hm, hfile, rfl⟩
      · exact .inl rfl
      · obtain rfl := hl.unique hm
        exact .inr ⟨none, by show t.at? (l ++ [other]) ≠ _; rw [hfile]; simp, rfl⟩

theorem Stands.after (hl : f.Stands t l) {use : Use} (huse : IsPlain use.name) :
    f.Stands (use.after f t) l := by
  rcases after_of_stands hl huse with hsame | ⟨node, hfolder, hset⟩
  · rwa [hsame]
  · rw [hset]
    exact hl.keep (Tree.keepsFolders_set hfolder node)

/-- Where a name is not written its place stays as it is. -/
theorem at?_of_not_writes (hl : f.Stands t l) {use : Use} (huse : IsPlain use.name)
    (hwrites : ¬use.Writes name) : (use.after f t).at? (l ++ [name]) = t.at? (l ++ [name]) := by
  have hother : use.name ≠ name → (use.after f t).at? (l ++ [name]) = t.at? (l ++ [name]) := by
    intro hne
    rcases after_of_stands hl huse with hsame | ⟨node, -, hset⟩
    · rw [hsame]
    · rw [hset]
      refine Tree.at?_set_of_ne t node fun heq => hne ?_
      exact (List.singleton_inj.1 (List.append_cancel_left heq)).symm
  cases use with
  | save other v => exact hother hwrites
  | load | loadOptional => rfl
  | remove other => exact hother hwrites

/-- The folder stands, and at a name's place there is what is kept. -/
structure Keeps (f : Folder) (name : String) (kept : Option Json.Value) (t : Tree) : Prop where
  stands : ∃ l, f.Stands t l
  place : ∀ l, f.Stands t l → f.Admits name → t.at? (l ++ [name]) = kept.map written
  admits : kept.isSome → f.Admits name

/-- The folder is not there yet, and nothing will be at a name's place when it has been made. -/
structure Awaits (f : Folder) (name : String) (t : Tree) : Prop where
  absent : ∀ l, ¬f.Stands t l
  prepared : (f.prepare t).1 = .ok ()
  keeps : f.Keeps name none (f.prepare t).2

/-- What is kept under a name, whether the folder is there yet or not. -/
def Has (f : Folder) (name : String) (kept : Option Json.Value) (t : Tree) : Prop :=
  f.Keeps name kept t ∨ kept = none ∧ f.Awaits name t

/-- A usable folder stands if anything is at its path. -/
theorem stands_of_holds (husable : f.Usable t) (hholds : t.holds f.base = true) :
    ∃ l, f.Stands t l := by
  rw [Usable, if_pos hholds] at husable
  exact Tree.isFolder_eq_true.1 husable

theorem usable_prepare (h : f.Usable t) :
    (f.prepare t).1 = .ok () ∧ ∃ l, f.Stands (f.prepare t).2 l := by
  by_cases hholds : t.holds f.base = true
  · rw [prepare, if_pos hholds]
    exact ⟨rfl, stands_of_holds h hholds⟩
  · rw [Usable, if_neg hholds] at h
    have hmade : t.makeFolders f.base = (.ok (), (t.makeFolders f.base).2) := Prod.ext h rfl
    obtain ⟨l, hwalk, hfolder⟩ := Tree.isFolder_eq_true.1 (Tree.isFolder_of_makeFolders hmade)
    rw [prepare, if_neg hholds, hmade]
    exact ⟨rfl, l, hwalk, hfolder⟩

/-- Where a folder is prepared its own path is sound. -/
theorem check_base_of_prepare (h : (f.prepare t).1 = .ok ()) : Tree.check f.base = .ok () := by
  unfold prepare at h
  split at h
  · rename_i hholds
    unfold Tree.holds Tree.resolve at hholds
    cases hcheck : Tree.check f.base with
    | ok u => rfl
    | error e =>
      rw [hcheck] at hholds
      cases hholds
  · cases hcheck : Tree.check f.base with
    | ok u => rfl
    | error e =>
      have hmake : t.makeFolders f.base = (.error e, t) := by
        unfold Tree.makeFolders
        rw [hcheck]
      rw [hmake] at h
      cases h

theorem Awaits.holds (h : f.Awaits name t) {other : String} (hother : IsPlain other) :
    t.holds (f.path other) = false := by
  refine Bool.eq_false_iff.2 fun hholds => ?_
  obtain ⟨-, l, hl⟩ := holds_path hother hholds
  exact h.absent l hl

/-- The folder is made first, and then all is as if it had been there. -/
theorem Awaits.save (h : f.Awaits name t) (other : String) (v : Json.Value) :
    f.save other v t = f.save other v (f.prepare t).2 := by
  obtain ⟨l, hl⟩ := h.keeps.stands
  have hagain := prepare_of_stands (check_base_of_prepare h.prepared) hl
  have hfirst : f.prepare t = (.ok (), (f.prepare t).2) := Prod.ext h.prepared rfl
  unfold Folder.save
  rw [hagain, hfirst]

/-- Something put at a name's place. -/
theorem Stands.put (hl : f.Stands t l) (hadmits : f.Admits name)
    (hfolder : t.at? (l ++ [name]) ≠ some .folder) (kept : Option Json.Value) :
    f.Keeps name kept (t.set (l ++ [name]) (kept.map written)) := by
  have hkeep := hl.keep (Tree.keepsFolders_set hfolder (kept.map written))
  refine ⟨⟨l, hkeep⟩, fun m hm _ => ?_, fun _ => hadmits⟩
  obtain rfl := hkeep.unique hm
  exact Tree.at?_set_self ..

/-- Nothing is kept where nothing is held. -/
theorem Stands.keeps_of_free (hl : f.Stands t l) (hname : IsPlain name)
    (hfree : t.holds (f.path name) = false) : f.Keeps name none t := by
  refine ⟨⟨l, hl⟩, fun m hm hadmits => ?_, nofun⟩
  rw [holds_of_stands hname hadmits hm] at hfree
  simpa using hfree

/-- A folder that can be used stands, or waits to be made. -/
theorem has_of_usable (hname : IsPlain name) (h : f.Usable t)
    (hfree : (f.prepare t).2.holds (f.path name) = false) : f.Has name none t := by
  obtain ⟨hprepared, l, hl⟩ := usable_prepare h
  have hkeeps := hl.keeps_of_free hname hfree
  by_cases hstands : ∃ m, f.Stands t m
  · obtain ⟨m, hm⟩ := hstands
    rw [prepare_tree_of_stands hm] at hkeeps
    exact .inl hkeeps
  · exact .inr ⟨rfl, fun m hm => hstands ⟨m, hm⟩, hprepared, hkeeps⟩

/-- **A write says what is kept under its name**, whatever file was there before. -/
theorem Stands.keeps_of_writes (hl : f.Stands t l)
    (hfolder : f.Admits name → t.at? (l ++ [name]) ≠ some .folder) (hname : IsPlain name)
    {use : Use} (hwrites : use.Writes name) :
    f.Keeps name (use.keep f name none) (use.after f t) := by
  by_cases hadmits : f.Admits name
  · replace hfolder := hfolder hadmits
    cases use with
    | save other v =>
      obtain rfl : other = name := hwrites
      rw [Use.keep, if_pos ⟨rfl, hadmits⟩, Use.after, save_of_stands hname hadmits hl hfolder]
      exact hl.put hadmits hfolder (some v)
    | load | loadOptional => exact hwrites.elim
    | remove other =>
      obtain rfl : other = name := hwrites
      rw [Use.keep, if_pos rfl, Use.after]
      rcases hplace : t.at? (l ++ [other]) with _ | _ | content
      · have hfree : t.holds (f.path other) = false := by
          rw [holds_of_stands hname hadmits hl, hplace]
          rfl
        rw [(load_of_absent hfree Json.Reader.value).2.2]
        exact hl.keeps_of_free hname hfree
      · exact absurd hplace hfolder
      · rw [remove_of_stands hname hadmits hl hplace]
        exact hl.put hadmits hfolder none
  · rw [Use.keep_of_not_admits hadmits]
    have huse : IsPlain use.name := (Use.name_of_writes hwrites).symm ▸ hname
    exact ⟨⟨l, hl.after huse⟩, fun _ _ h => absurd h hadmits, nofun⟩

namespace Keeps

variable {kept : Option Json.Value}

theorem holds_none (hname : IsPlain name) (h : f.Keeps name none t) :
    t.holds (f.path name) = false := by
  refine Bool.eq_false_iff.2 fun hholds => ?_
  obtain ⟨hadmits, l, hl⟩ := holds_path hname hholds
  rw [holds_of_stands hname hadmits hl, h.place l hl hadmits] at hholds
  cases hholds

theorem not_folder (h : f.Keeps name kept t) (hl : f.Stands t l) (hadmits : f.Admits name) :
    t.at? (l ++ [name]) ≠ some .folder := by
  rw [h.place l hl hadmits]
  cases kept <;> simp [written]

/-- **One use of the folder.** -/
theorem use (h : f.Keeps name kept t) (use : Use) (huse : IsPlain use.name) :
    f.Keeps name (use.keep f name kept) (use.after f t) := by
  obtain ⟨l, hl⟩ := h.stands
  by_cases hwrites : use.Writes name
  · have hkeep : use.keep f name kept = use.keep f name none := by
      cases kept with
      | none => rfl
      | some v => exact Use.keep_of_writes hwrites (h.admits rfl) _
    rw [hkeep]
    exact hl.keeps_of_writes (h.not_folder hl) (Use.name_of_writes hwrites ▸ huse) hwrites
  · have hafter := hl.after huse
    rw [Use.keep_of_not_writes hwrites]
    refine ⟨⟨l, hafter⟩, fun m hm hadmits => ?_, h.admits⟩
    obtain rfl := hafter.unique hm
    rw [at?_of_not_writes hl huse hwrites, h.place l hl hadmits]

end Keeps

namespace Has

variable {kept : Option Json.Value}

/-- **One use of the folder**, which is made by the first save. -/
theorem use (h : f.Has name kept t) (use : Use) (huse : IsPlain use.name) :
    f.Has name (use.keep f name kept) (use.after f t) := by
  rcases h with hkeeps | ⟨rfl, hawaits⟩
  · exact .inl (hkeeps.use use huse)
  · cases use with
    | save other v =>
      left
      rw [Use.after, hawaits.save other v]
      exact hawaits.keeps.use (.save other v) huse
    | load | loadOptional => exact .inr ⟨rfl, hawaits⟩
    | remove other =>
      have hother : IsPlain other := huse
      have hsame : (Use.remove other).after f t = t := by
        rw [Use.after, (load_of_absent (hawaits.holds hother) Json.Reader.value).2.2]
        rfl
      have hnone : Use.keep f name none (.remove other) = none := by
        rw [Use.keep]
        split <;> rfl
      rw [hsame, hnone]
      exact .inr ⟨rfl, hawaits⟩

/-- Any number of uses. -/
theorem uses (h : f.Has name kept t) {uses : List Use} (huses : ∀ use ∈ uses, IsPlain use.name) :
    f.Has name (uses.foldl (Use.keep f name) kept) (f.afterAll uses t) := by
  induction uses generalizing t kept with
  | nil => exact h
  | cons use uses ih =>
    exact ih (h.use use (huses use List.mem_cons_self)) fun u hu => huses u (List.mem_cons_of_mem _ hu)

theorem holds_none (hname : IsPlain name) (h : f.Has name none t) :
    t.holds (f.path name) = false := by
  rcases h with hkeeps | ⟨-, hawaits⟩
  · exact hkeeps.holds_none hname
  · exact hawaits.holds hname

/-- A save of the name succeeds. -/
theorem save_ok (hname : IsPlain name) (h : f.Has name kept t) (hadmits : f.Admits name)
    (v : Json.Value) : (f.save name v t).1 = .ok () := by
  have hsave : ∀ {kept t}, f.Keeps name kept t → (f.save name v t).1 = .ok () := by
    intro kept t h
    obtain ⟨l, hl⟩ := h.stands
    rw [save_of_stands hname hadmits hl (h.not_folder hl hadmits)]
  rcases h with hkeeps | ⟨-, hawaits⟩
  · exact hsave hkeeps
  · rw [hawaits.save]
    exact hsave hawaits.keeps

/-- What is kept is read by whoever takes its text. -/
theorem load_some (hname : IsPlain name) {v : Json.Value} (h : f.Has name (some v) t) {α : Type}
    {reader : Json.Reader α} {a : α}
    (htakes : reader.Takes (Json.Printer.value Json.Printer.spread 0 v) a) :
    f.load name reader t = .ok a ∧ f.load? name reader t = .ok (some a) := by
  rcases h with hkeeps | ⟨hnone, -⟩
  · obtain ⟨l, hl⟩ := hkeeps.stands
    have hadmits := hkeeps.admits rfl
    exact load_of_file hname hadmits hl (hkeeps.place l hl hadmits) htakes
  · cases hnone

theorem remove_ok (hname : IsPlain name) (h : f.Has name kept t) :
    ∃ t', f.remove name t = .ok t' := by
  cases kept with
  | none => exact ⟨t, (load_of_absent (h.holds_none hname) Json.Reader.value).2.2⟩
  | some v =>
    rcases h with hkeeps | ⟨hnone, -⟩
    · obtain ⟨l, hl⟩ := hkeeps.stands
      have hadmits := hkeeps.admits rfl
      exact ⟨_, remove_of_stands hname hadmits hl (hkeeps.place l hl hadmits)⟩
    · cases hnone

end Has

/-! ### What the uses answer -/

/-- What a folder answers for a name that this is kept under. -/
structure Answers (f : Folder) (name : String) (kept : Option Json.Value) (t : Tree) : Prop where
  load_some : ∀ v, kept = some v → f.load name Json.Reader.value t = .ok v.ordered
  load_ordered : ∀ v, kept = some v → v.IsOrdered → f.load name Json.Reader.value t = .ok v
  load_none : kept = none → ∀ {α : Type} (reader : Json.Reader α),
    ∃ why, f.load name reader t = .error (.config why)
  load? : f.load? name Json.Reader.value t = .ok (kept.map Json.Value.ordered)
  remove : ∃ t', f.remove name t = .ok t'
  remove_none : kept = none → f.remove name t = .ok t
  save : f.Admits name → ∀ v, (f.save name v t).1 = .ok ()

/-- What is kept is read back. -/
theorem Has.answers (hname : IsPlain name) {kept : Option Json.Value} (h : f.Has name kept t)
    (hfits : ∀ v, kept = some v → v.Fits Json.deepest) : f.Answers name kept t := by
  have hremove := h.remove_ok hname
  have hsave := fun hadmits v => h.save_ok hname hadmits v
  cases kept with
  | none =>
    have habsent := h.holds_none hname
    have hload? := (load_of_absent habsent Json.Reader.value).2
    exact ⟨nofun, nofun, fun _ _ reader => (load_of_absent habsent reader).1, hload?.1, hremove,
      fun _ => hload?.2, hsave⟩
  | some v =>
    obtain ⟨hload, hload?⟩ := h.load_some hname
      (Json.Reader.Takes.value Json.Printer.spread_plain (hfits v rfl) 0)
    refine ⟨?_, ?_, nofun, hload?, hremove, nofun, hsave⟩
    · rintro _ ⟨rfl⟩
      exact hload
    · rintro _ ⟨rfl⟩ hordered
      exact hload.trans (by rw [hordered.ordered_eq])

theorem fits_of_last {uses : List Use} (h : ∀ use ∈ uses, use.Fits) {v : Json.Value}
    (hlast : f.last name uses = some v) : v.Fits Json.deepest := by
  have hall : ∀ (uses : List Use) (kept : Option Json.Value), (∀ use ∈ uses, use.Fits) →
      (∀ v, kept = some v → v.Fits Json.deepest) →
      ∀ v, uses.foldl (Use.keep f name) kept = some v → v.Fits Json.deepest := by
    intro uses
    induction uses with
    | nil => exact fun kept _ hkept => hkept
    | cons use uses ih =>
      intro kept huses hkept
      refine ih _ (fun u hu => huses u (List.mem_cons_of_mem _ hu)) fun v hv => ?_
      have huse := huses use List.mem_cons_self
      cases use with
      | save other w =>
        rw [Use.keep] at hv
        split at hv
        · cases hv
          exact huse
        · exact hkept v hv
      | load | loadOptional => exact hkept v hv
      | remove other =>
        rw [Use.keep] at hv
        split at hv
        · cases hv
        · exact hkept v hv
  exact hall uses none h nofun v hlast

/-- After the first write of a name its place is known, if only there was no folder. -/
theorem Stands.has_of_written (hl : f.Stands t l) (hname : IsPlain name)
    (hfolder : f.Admits name → t.at? (l ++ [name]) ≠ some .folder) {uses : List Use}
    (hplain : ∀ use ∈ uses, IsPlain use.name) (hwritten : ∃ use ∈ uses, use.Writes name) :
    f.Has name (f.last name uses) (f.afterAll uses t) := by
  induction uses generalizing t with
  | nil =>
    obtain ⟨_, hmem, -⟩ := hwritten
    cases hmem
  | cons use uses ih =>
    have huse := hplain use List.mem_cons_self
    have hrest : ∀ u ∈ uses, IsPlain u.name := fun u hu => hplain u (List.mem_cons_of_mem _ hu)
    by_cases hwrites : use.Writes name
    · have hkeeps : f.Has name (use.keep f name none) (use.after f t) :=
        .inl (hl.keeps_of_writes hfolder hname hwrites)
      exact hkeeps.uses hrest
    · show f.Has name (uses.foldl (Use.keep f name) (use.keep f name none))
        (f.afterAll uses (use.after f t))
      rw [Use.keep_of_not_writes hwrites]
      refine ih (hl.after huse) ?_ hrest ?_
      · rwa [at?_of_not_writes hl huse hwrites]
      · obtain ⟨u, hu, hwrites'⟩ := hwritten
        rcases List.mem_cons.1 hu with rfl | hu
        · exact absurd hwrites' hwrites
        · exact ⟨u, hu, hwrites'⟩

/-- **After any uses a name answers by its last write.** -/
theorem answers_of_uses (husable : f.Usable t) {uses : List Use}
    (hplain : ∀ use ∈ uses, IsPlain use.name) (hfits : ∀ use ∈ uses, use.Fits)
    (hname : IsPlain name)
    (hfresh : (f.prepare t).2.holds (f.path name) = false ∨ t.holds f.base = true ∧
      t.isFolder (f.path name).parts = false ∧ ∃ use ∈ uses, use.Writes name) :
    f.Answers name (f.last name uses) (f.afterAll uses t) := by
  have hhas : f.Has name (f.last name uses) (f.afterAll uses t) := by
    rcases hfresh with hfree | ⟨hholds, hplace, hwritten⟩
    · exact (has_of_usable hname husable hfree).uses hplain
    · obtain ⟨l, hl⟩ := stands_of_holds husable hholds
      refine hl.has_of_written hname (fun hadmits hfolder => ?_) hplain hwritten
      obtain ⟨_, -, hwalk⟩ := Tree.bind_eq_ok.1 (resolve_of_stands hname hadmits hl)
      rw [Tree.isFolder_eq_true.2 ⟨_, hwalk, hfolder⟩] at hplace
      cases hplace
  exact hhas.answers hname fun v => fits_of_last hfits

/-! ### Other names -/

/-- What is loaded depends on the name's own place only. -/
theorem load_congr {t' : Tree} (hname : IsPlain name) (hadmits : f.Admits name)
    (hl : f.Stands t l) (hl' : f.Stands t' l) (hplace : t'.at? (l ++ [name]) = t.at? (l ++ [name]))
    {α : Type} (reader : Json.Reader α) :
    f.load name reader t' = f.load name reader t ∧
      f.load? name reader t' = f.load? name reader t := by
  have hread : t'.readText (f.path name) = t.readText (f.path name) :=
    Tree.readText_congr (resolve_of_stands hname hadmits hl)
      (resolve_of_stands hname hadmits hl') hplace
  have hload : f.load name reader t' = f.load name reader t := by
    unfold load
    dsimp only
    rw [hread]
  refine ⟨hload, ?_⟩
  rw [load?, load?, hload, holds_of_stands hname hadmits hl, holds_of_stands hname hadmits hl',
    hplace]

/-- A use of another name where the folder stands. -/
theorem Stands.load_other (hl : f.Stands t l) (hname : IsPlain name) (hadmits : f.Admits name)
    (use : Use) (huse : IsPlain use.name) (hne : use.name ≠ name) {α : Type}
    (reader : Json.Reader α) :
    f.load name reader (use.after f t) = f.load name reader t ∧
      f.load? name reader (use.after f t) = f.load? name reader t := by
  refine load_congr hname hadmits hl (hl.after huse) ?_ reader
  exact at?_of_not_writes hl huse fun hwrites => hne (Use.name_of_writes hwrites)

theorem widens_prepare (f : Folder) (t : Tree) : t.Widens (f.prepare t).2 := by
  unfold prepare
  split
  · exact .refl t
  · exact Tree.widens_makeFolders t f.base

/-- What is missing before the folder is made is missing afterwards. -/
theorem Awaits.load_prepare (h : f.Awaits name t) (hname : IsPlain name) (hadmits : f.Admits name)
    {α : Type} (reader : Json.Reader α) :
    f.load name reader (f.prepare t).2 = f.load name reader t ∧
      f.load? name reader (f.prepare t).2 = f.load? name reader t := by
  obtain ⟨l, hl⟩ := h.keeps.stands
  have hresolve : t.resolve (f.path name) = .error .missing := by
    have hthere := resolve_of_stands hname hadmits hl
    unfold Tree.resolve at hthere ⊢
    rw [hadmits.1] at hthere ⊢
    rcases Tree.walk_of_widens (widens_prepare f t) hthere with hwalk | hmissing
    · obtain ⟨-, m, hm, -⟩ := (resolve_path hname).1
        (show t.resolve (f.path name) = .ok _ by unfold Tree.resolve; rw [hadmits.1]; exact hwalk)
      exact absurd hm (h.absent m)
    · exact hmissing
  have hbefore : t.readText (f.path name) = .error .missing := by
    refine Tree.readText_of_error ?_
    unfold Tree.read
    rw [hresolve]
    rfl
  have hafter : (f.prepare t).2.readText (f.path name) = .error .missing :=
    Tree.readText_of_error (Tree.read_of_none (resolve_of_stands hname hadmits hl)
      (h.keeps.place l hl hadmits))
  have hload : f.load name reader (f.prepare t).2 = f.load name reader t := by
    unfold load
    dsimp only
    rw [hbefore, hafter]
  refine ⟨hload, ?_⟩
  rw [load?, load?, h.holds hname, h.keeps.holds_none hname]
  rfl

/-- A use of another name, whether the folder is there or not. -/
theorem Awaits.load_other (h : f.Awaits name t) (hname : IsPlain name) (hadmits : f.Admits name)
    {use : Use} (huse : IsPlain use.name) (hne : use.name ≠ name) {α : Type}
    (reader : Json.Reader α) :
    f.load name reader (use.after f t) = f.load name reader t ∧
      f.load? name reader (use.after f t) = f.load? name reader t := by
  cases use with
  | save other v =>
    obtain ⟨l, hl⟩ := h.keeps.stands
    obtain ⟨hload, hload?⟩ := h.load_prepare hname hadmits reader
    rw [Use.after, h.save other v, ← hload, ← hload?]
    exact hl.load_other hname hadmits (.save other v) huse hne reader
  | load | loadOptional => exact ⟨rfl, rfl⟩
  | remove other =>
    have hother : IsPlain other := huse
    rw [Use.after, (load_of_absent (h.holds hother) Json.Reader.value).2.2]
    exact ⟨rfl, rfl⟩

/-- A folder that stands goes on to stand. -/
theorem Stands.afterAll (hl : f.Stands t l) {uses : List Use}
    (hplain : ∀ use ∈ uses, IsPlain use.name) : f.Stands (f.afterAll uses t) l := by
  induction uses generalizing t with
  | nil => exact hl
  | cons use uses ih =>
    exact ih (hl.after (hplain use List.mem_cons_self)) fun u hu =>
      hplain u (List.mem_cons_of_mem _ hu)

/-- A use of another name, after any uses. -/
theorem load_other_of_uses (husable : f.Usable t) {uses : List Use}
    (hplain : ∀ use ∈ uses, IsPlain use.name) (hname : IsPlain name) (hadmits : f.Admits name)
    (hfree : t.holds f.base = true ∨ (f.prepare t).2.holds (f.path name) = false) {use : Use}
    (huse : IsPlain use.name) (hne : use.name ≠ name) {α : Type} (reader : Json.Reader α) :
    f.load name reader (use.after f (f.afterAll uses t)) = f.load name reader (f.afterAll uses t) ∧
      f.load? name reader (use.after f (f.afterAll uses t)) =
        f.load? name reader (f.afterAll uses t) := by
  rcases hfree with hholds | hfree
  · obtain ⟨l, hl⟩ := stands_of_holds husable hholds
    exact (hl.afterAll hplain).load_other hname hadmits use huse hne reader
  · rcases (has_of_usable hname husable hfree).uses hplain with hkeeps | ⟨-, hawaits⟩
    · obtain ⟨l, hl⟩ := hkeeps.stands
      exact hl.load_other hname hadmits use huse hne reader
    · exact hawaits.load_other hname hadmits huse hne reader

/-- What is loaded stays the same, and where the name is admitted, so does what is said of a
failure. -/
structure LoadsAlike (f : Folder) (name : String) (t t' : Tree) : Prop where
  load : ∀ {α : Type} (reader : Json.Reader α),
    (f.load name reader t').toOption = (f.load name reader t).toOption
  load? : ∀ {α : Type} (reader : Json.Reader α), f.load? name reader t' = f.load? name reader t
  failure : f.Admits name → ∀ {α : Type} (reader : Json.Reader α),
    f.load name reader t' = f.load name reader t

/-- **A use of one name leaves what another one loads**, after any uses. -/
theorem loadsAlike_of_uses (husable : f.Usable t) {uses : List Use}
    (hplain : ∀ use ∈ uses, IsPlain use.name) (hname : IsPlain name)
    (hfree : t.holds f.base = true ∨ (f.prepare t).2.holds (f.path name) = false) {use : Use}
    (huse : IsPlain use.name) (hne : use.name ≠ name) :
    f.LoadsAlike name (f.afterAll uses t) (use.after f (f.afterAll uses t)) := by
  by_cases hadmits : f.Admits name
  · have hother := fun {α} (reader : Json.Reader α) =>
      load_other_of_uses husable hplain hname hadmits hfree huse hne reader
    exact ⟨fun reader => congrArg _ (hother reader).1, fun reader => (hother reader).2,
      fun _ _ reader => (hother reader).1⟩
  · -- Nothing is held at such a path, whatever the tree.
    have habsent : ∀ t : Tree, t.holds (f.path name) = false := fun t =>
      Bool.eq_false_iff.2 fun hholds => hadmits (holds_path hname hholds).1
    refine ⟨fun reader => ?_, fun reader => ?_, fun h => absurd h hadmits⟩
    · obtain ⟨⟨_, hbefore⟩, -⟩ := load_of_absent (habsent (f.afterAll uses t)) reader
      obtain ⟨⟨_, hafter⟩, -⟩ := load_of_absent (habsent (use.after f (f.afterAll uses t))) reader
      rw [hbefore, hafter]
      rfl
    · rw [(load_of_absent (habsent _) reader).2.1, (load_of_absent (habsent _) reader).2.1]

/-! ### Failures -/

/-- **A save that fails makes no file and changes none**, wherever the folder is. -/
theorem files_of_save_error {e : Failure} {v : Json.Value} (h : (f.save name v t).1 = .error e)
    (m : Location) (content : Text.Bytes) :
    (f.save name v t).2.at? m = some (.file content) ↔ t.at? m = some (.file content) := by
  refine Tree.Widens.files ?_ m content
  have hprepare := widens_prepare f t
  revert h
  unfold save
  generalize f.prepare t = prepared at hprepare
  obtain ⟨answer, t'⟩ := prepared
  cases answer with
  | error e => exact fun _ => hprepare
  | ok u =>
    dsimp only
    split
    · intro h
      cases h
    · exact fun _ => hprepare

/-! ### The map -/

/-- **A folder of documents is a map whose last write wins.** After any uses, a name answers by its
last save, unless it has been removed since; if it was neither saved nor removed there must have
been nothing under it before. A use of another name does not change what is loaded. And no save or
removal that fails, in any folder, changes a file. -/
theorem keeps_last_write (f : Folder) (t : Tree) (husable : f.Usable t) (uses : List Use)
    (hplain : ∀ use ∈ uses, IsPlain use.name) (hfits : ∀ use ∈ uses, use.Fits) :
    (∀ name, IsPlain name →
      ((f.prepare t).2.holds (f.path name) = false ∨ t.holds f.base = true ∧
        t.isFolder (f.path name).parts = false ∧ ∃ use ∈ uses, use.Writes name) →
      f.Answers name (f.last name uses) (f.afterAll uses t)) ∧
    (∀ name, IsPlain name →
      t.holds f.base = true ∨ (f.prepare t).2.holds (f.path name) = false →
      ∀ use : Use, IsPlain use.name → use.name ≠ name →
        f.LoadsAlike name (f.afterAll uses t) (use.after f (f.afterAll uses t))) ∧
    (∀ (g : Folder) (t : Tree) (name : String),
      (∀ v e, (g.save name v t).1 = .error e → ∀ l content,
        (g.save name v t).2.at? l = some (.file content) ↔ t.at? l = some (.file content)) ∧
      ∀ e, g.remove name t = .error e → (Use.remove name).after g t = t) := by
  refine ⟨fun name => answers_of_uses husable hplain hfits,
    fun name hname hfree use => loadsAlike_of_uses husable hplain hname hfree, ?_⟩
  intro g t name
  refine ⟨fun v e => files_of_save_error, fun e herror => ?_⟩
  rw [Use.after, herror]
  rfl

theorem keeps_last_write_made :
    let f : Folder := ⟨⟨"/store"⟩⟩
    let v : Json.Value := .object [("z", .whole 18446744073709551615), ("k", .text "é\n")]
    let uses : List Use := [.save "a" .null, .save "b" (.list [v]), .save "a" v, .remove "b"]
    f.Answers "a" (some v) (f.afterAll uses .empty) ∧
      f.Answers "b" none (f.afterAll uses .empty) := by
  intro f v uses
  have ha : IsPlain "a" := ⟨by decide, by decide, by decide, by decide⟩
  have hb : IsPlain "b" := ⟨by decide, by decide, by decide, by decide⟩
  have hadmits : f.Admits "a" := by decide
  have husable : f.Usable .empty := by
    unfold Usable
    decide
  have hv : ∀ depth, v.Fits (depth + 1) := fun depth =>
    .object (by decide) (by simp; exact ⟨.whole (by decide), .text _⟩)
  have hlist : (Json.Value.list [v]).Fits Json.deepest :=
    .list (by simpa using hv 125)
  have hkeeps := keeps_last_write f .empty husable uses (by simp [uses, Use.name, ha, hb])
    (by simpa [uses, Use.Fits, Json.Value.Fits.null] using ⟨hlist, hv 126⟩)
  have hlast : f.last "a" uses = some v := by simp [last, uses, Use.keep, hadmits]
  have hgone : f.last "b" uses = none := by simp [last, uses, Use.keep]
  rw [← hlast, ← hgone]
  exact ⟨hkeeps.1 "a" ha (.inl (by decide)), hkeeps.1 "b" hb (.inl (by decide))⟩

end LogWeave.Files.Folder

import LogWeave.Files.Folder
import LogWeave.Proofs.Files.Walking
import LogWeave.Proofs.Json.Taking
import LogWeave.Proofs.Text.Encoding
import Mathlib.Data.String.Basic

/-! What a folder of documents does to the tree.

A name that `IsPlain` leads into the folder and no further (`resolve_path`). Where the folder
stands, a document is put at its own place and nowhere else (`save_of_stands`), is read from there
(`load_of_file`) and taken from there (`remove_of_stands`). What is not there is not read, and not
missed when it is removed (`load_of_absent`). -/
namespace LogWeave.Files.Folder

variable {f : Folder} {t : Tree} {l : Location} {name : String}

/-- A name of one part. -/
structure IsPlain (name : String) : Prop where
  ne_empty : name ≠ ""
  slash : '/' ∉ name.toList
  dot : name ≠ "."
  dots : name ≠ ".."

/-- A name and a path that are not too long, without a zero byte in them. -/
def Admits (f : Folder) (name : String) : Prop :=
  Tree.check (f.path name) = .ok () ∧ name.utf8ByteSize ≤ Path.nameLength

instance (f : Folder) (name : String) : Decidable (f.Admits name) :=
  inferInstanceAs (Decidable (_ ∧ _))

/-- The folder is there. -/
def Stands (f : Folder) (t : Tree) (l : Location) : Prop :=
  t.walk [] f.base.parts = .ok l ∧ t.at? l = some .folder

theorem Stands.keep {t' : Tree} (h : f.Stands t l) (hkeeps : t.KeepsFolders t') :
    f.Stands t' l :=
  ⟨Tree.walk_of_keepsFolders hkeeps h.1, hkeeps l h.2⟩

theorem Stands.unique {m : Location} (h : f.Stands t l) (h' : f.Stands t m) : l = m :=
  Except.ok.inj (h.1.symm.trans h'.1)

/-! ### The place of a document -/

theorem path_text (hname : IsPlain name) : (f.path name).text =
    if f.base.text.isEmpty || f.base.endsInSlash then f.base.text ++ name
    else f.base.text ++ "/" ++ name := by
  have habsolute : (Path.isAbsolute ⟨name⟩) = false := by
    refine Bool.eq_false_iff.2 fun h => hname.slash (List.mem_of_mem_head? ?_)
    simpa [Path.isAbsolute] using h
  unfold path Path.join
  rw [habsolute]
  simp only [Bool.false_eq_true, if_false]
  split <;> rfl

/-- A plain name is one part more. -/
theorem parts_path (hname : IsPlain name) :
    (f.path name).parts = f.base.parts ++ [name] := by
  have hne : name.toList ≠ [] := by simpa using hname.ne_empty
  have hlast : Path.partsFrom [] name.toList = [name.toList] :=
    (Path.partsFrom_name [] _ hname.slash).trans rfl
  unfold Path.parts
  rw [path_text hname]
  split
  · rename_i h
    rcases Bool.or_eq_true _ _ ▸ h with hempty | hslash
    · have hbase : f.base.text.toList = [] := by simpa using hempty
      rw [String.toList_append, hbase, List.nil_append, hlast]
      simp [Path.partsFrom, hname.ne_empty]
    · have hends : f.base.text.toList.getLast? = some '/' := by
        simpa [Path.endsInSlash] using hslash
      obtain ⟨front, hfront⟩ := List.getLast?_eq_some_iff.1 hends
      rw [String.toList_append, hfront, List.append_assoc, List.singleton_append,
        Path.partsFrom_slash, Path.partsFrom_slash, hlast]
      simp [Path.partsFrom, hname.ne_empty]
  · rw [String.toList_append, String.toList_append, List.append_assoc]
    show List.map _ (List.filter _ (Path.partsFrom [] (_ ++ '/' :: name.toList))) = _
    rw [Path.partsFrom_slash, hlast]
    simp [hname.ne_empty]

theorem endsInSlash_path (hname : IsPlain name) : (f.path name).endsInSlash = false := by
  have hne : name.toList ≠ [] := by simpa using hname.ne_empty
  have hlast : (f.path name).text.toList.getLast? = name.toList.getLast? := by
    rw [path_text hname]
    split
    · rw [String.toList_append, List.getLast?_append_of_ne_nil _ hne]
    · rw [String.toList_append, List.getLast?_append_of_ne_nil _ hne]
  refine Bool.eq_false_iff.2 fun h => hname.slash (List.mem_of_getLast? ?_)
  rw [← hlast]
  simpa [Path.endsInSlash] using h

theorem check_eq_ok {p : Path} : Tree.check p = .ok () ↔
    '\x00' ∉ p.text.toList ∧ p.text.utf8ByteSize < Path.length := by
  unfold Tree.check
  split
  · rename_i h
    simp only [List.contains_iff_mem] at h
    simp [h]
  · rename_i h
    simp only [List.contains_iff_mem] at h
    split
    · rename_i hlong
      simp [h, Nat.not_lt.2 hlong]
    · rename_i hshort
      simp [h, Nat.not_le.1 hshort]

/-- What is wrong with a folder's own path is wrong with those in it. -/
theorem check_base (hname : IsPlain name) (h : Tree.check (f.path name) = .ok ()) :
    Tree.check f.base = .ok () := by
  rw [check_eq_ok, path_text hname] at h
  rw [check_eq_ok]
  obtain ⟨hzero, hsize⟩ := h
  split at hzero
  · rename_i hc
    rw [if_pos hc] at hsize
    simp only [String.toList_append, List.mem_append, not_or] at hzero
    rw [String.utf8ByteSize_append] at hsize
    exact ⟨hzero.1, by omega⟩
  · rename_i hc
    rw [if_neg hc] at hsize
    simp only [String.toList_append, List.mem_append, not_or] at hzero
    rw [String.utf8ByteSize_append, String.utf8ByteSize_append] at hsize
    exact ⟨hzero.1.1, by omega⟩

/-- A plain name steps into the folder. -/
theorem step_plain (hname : IsPlain name) (hfolder : t.at? l = some .folder) :
    t.step l name =
      if Path.nameLength < name.utf8ByteSize then .error .tooLong else .ok (l ++ [name]) := by
  unfold Tree.step
  rw [Tree.enter_eq_ok.2 hfolder, if_neg hname.dot, if_neg hname.dots]
  split <;> rfl

/-- **Where a document's path leads to.** -/
theorem resolve_path (hname : IsPlain name) {m : Location} :
    t.resolve (f.path name) = .ok m ↔ f.Admits name ∧ ∃ l, f.Stands t l ∧ m = l ++ [name] := by
  unfold Tree.resolve
  rw [Tree.bind_eq_ok, parts_path hname]
  constructor
  · rintro ⟨_, hcheck, hwalk⟩
    rw [Tree.walk_append] at hwalk
    obtain ⟨l, hbase, hstep⟩ := Tree.bind_eq_ok.1 hwalk
    rw [Tree.walk_singleton] at hstep
    have hfolder := Tree.folder_of_step hstep
    rw [step_plain hname hfolder] at hstep
    split at hstep
    · cases hstep
    · rename_i hsize
      exact ⟨⟨hcheck, Nat.not_lt.1 hsize⟩, l, ⟨hbase, hfolder⟩, (Except.ok.inj hstep).symm⟩
  · rintro ⟨⟨hcheck, hsize⟩, l, ⟨hbase, hfolder⟩, rfl⟩
    refine ⟨(), hcheck, ?_⟩
    rw [Tree.walk_append, hbase]
    show t.walk l [name] = _
    rw [Tree.walk_singleton, step_plain hname hfolder, if_neg (Nat.not_lt.2 hsize)]

theorem resolve_of_stands (hname : IsPlain name) (hadmits : f.Admits name) (h : f.Stands t l) :
    t.resolve (f.path name) = .ok (l ++ [name]) :=
  (resolve_path hname).2 ⟨hadmits, l, h, rfl⟩

theorem holds_of_stands (hname : IsPlain name) (hadmits : f.Admits name) (h : f.Stands t l) :
    t.holds (f.path name) = (t.at? (l ++ [name])).isSome := by
  unfold Tree.holds
  rw [resolve_of_stands hname hadmits h]
  dsimp only
  split
  · rename_i hnone
    rw [hnone]
    rfl
  · rename_i hfolder
    rw [hfolder]
    rfl
  · rename_i hfile
    rw [hfile, endsInSlash_path hname]
    rfl

/-- Nothing is held where the folder is not. -/
theorem holds_path (hname : IsPlain name) (h : t.holds (f.path name) = true) :
    f.Admits name ∧ ∃ l, f.Stands t l := by
  unfold Tree.holds at h
  split at h
  · cases h
  · obtain ⟨hadmits, l, hstands, -⟩ := (resolve_path hname).1 ‹_›
    exact ⟨hadmits, l, hstands⟩

/-! ### Nothing there -/

/-- **What is not there is not read, and not missed when it is removed.** -/
theorem load_of_absent (h : t.holds (f.path name) = false) {α : Type} (reader : Json.Reader α) :
    (∃ why, f.load name reader t = .error (.config why)) ∧
      f.load? name reader t = .ok none ∧ f.remove name t = .ok t := by
  refine ⟨?_, by rw [load?, h]; rfl, by rw [remove]; simp only [h]; rfl⟩
  have hread : ∃ e, t.read (f.path name) = .error e := by
    unfold Tree.holds at h
    split at h
    · rename_i e he
      refine ⟨e, ?_⟩
      unfold Tree.read
      rw [he]
      rfl
    · rename_i l hl
      split at h
      · exact ⟨.missing, Tree.read_of_none hl ‹_›⟩
      · cases h
      · refine ⟨.notFolder, ?_⟩
        rw [Tree.read_of_file hl ‹_›, if_pos (by simpa using h)]
  obtain ⟨e, he⟩ := hread
  unfold load
  dsimp only
  rw [Tree.readText_of_error he]
  exact ⟨_, rfl⟩

/-! ### A document there -/

/-- **A document is read from its place.** -/
theorem load_of_file (hname : IsPlain name) (hadmits : f.Admits name) (h : f.Stands t l)
    {text : List Char} (hfile : t.at? (l ++ [name]) = some (.file (Text.utf8 (String.ofList text))))
    {α : Type} {reader : Json.Reader α} {a : α} (htakes : reader.Takes text a) :
    f.load name reader t = .ok a ∧ f.load? name reader t = .ok (some a) := by
  have hread : t.readText (f.path name) = .ok (String.ofList text) := by
    unfold Tree.readText
    rw [Tree.read_of_file (resolve_of_stands hname hadmits h) hfile, endsInSlash_path hname,
      if_neg Bool.false_ne_true, Tree.ok_bind, Text.decode_utf8]
  have hload : f.load name reader t = .ok a := by
    unfold load
    dsimp only
    rw [hread]
    dsimp only
    rw [htakes.whole]
    rfl
  have hholds : t.holds (f.path name) = true := by
    rw [holds_of_stands hname hadmits h, hfile]
    rfl
  refine ⟨hload, ?_⟩
  rw [load?, hholds, hload]
  rfl

/-! ### Saving and removing -/

theorem holds_base (hcheck : Tree.check f.base = .ok ()) (h : f.Stands t l) :
    t.holds f.base = true := by
  have hresolve : t.resolve f.base = .ok l := Tree.bind_eq_ok.2 ⟨(), hcheck, h.1⟩
  unfold Tree.holds
  rw [hresolve]
  dsimp only
  rw [h.2]

/-- A folder that stands is not made again. -/
theorem prepare_tree_of_stands (h : f.Stands t l) : (f.prepare t).2 = t := by
  by_cases hcheck : Tree.check f.base = .ok ()
  · rw [prepare, holds_base hcheck h]
    rfl
  · unfold prepare
    split
    · rfl
    · show (t.makeFolders f.base).2 = t
      unfold Tree.makeFolders
      split
      · exact absurd ‹_› hcheck
      · rfl

theorem prepare_of_stands (hcheck : Tree.check f.base = .ok ()) (h : f.Stands t l) :
    f.prepare t = (.ok (), t) := by
  rw [prepare, holds_base hcheck h]
  rfl

/-- A document's text as bytes. -/
def written (v : Json.Value) : Node := .file (Text.utf8 (Json.Printer.lines v))

theorem write_of_stands (hname : IsPlain name) (hadmits : f.Admits name) (h : f.Stands t l)
    (content : Text.Bytes) : t.write (f.path name) content =
      if t.at? (l ++ [name]) = some .folder then .error .isFolder
      else .ok (t.set (l ++ [name]) (some (.file content))) := by
  have happroach : t.approach (f.path name).parts = .ok (l, name) := by
    unfold Tree.approach
    rw [parts_path hname, List.dropLast_concat, h.1]
    show (t.enter l >>= fun _ => Except.ok (l, _)) = _
    rw [Tree.enter_eq_ok.2 h.2]
    simp only [List.getLastD_concat]
    rfl
  have hstep : t.step l name = .ok (l ++ [name]) := by
    rw [step_plain hname h.2, if_neg (Nat.not_lt.2 hadmits.2)]
  unfold Tree.write
  rw [hadmits.1, happroach, endsInSlash_path hname]
  show (t.step l name >>= fun m => if t.at? m = some .folder then _ else _) = _
  rw [hstep]
  show (if _ then _ else _) = _
  split <;> rfl

/-- **A document is put at its own place.** -/
theorem save_of_stands (hname : IsPlain name) (hadmits : f.Admits name) (h : f.Stands t l)
    (hfree : t.at? (l ++ [name]) ≠ some .folder) (v : Json.Value) :
    f.save name v t = (.ok (), t.set (l ++ [name]) (some (written v))) := by
  unfold save
  rw [prepare_of_stands (check_base hname hadmits.1) h]
  dsimp only
  rw [write_of_stands hname hadmits h, if_neg hfree]
  rfl

/-- Bytes that cannot be written change nothing. -/
theorem write_of_not_admits (hname : IsPlain name) (hadmits : ¬f.Admits name) (t : Tree)
    (content : Text.Bytes) : ∃ e, t.write (f.path name) content = .error e := by
  cases hwrite : t.write (f.path name) content with
  | error e => exact ⟨e, rfl⟩
  | ok t' =>
    exfalso
    obtain ⟨_, hcheck, hrest⟩ := Tree.bind_eq_ok.1 hwrite
    obtain ⟨⟨m, last⟩, happroach, hrest⟩ := Tree.bind_eq_ok.1 hrest
    obtain ⟨m', -, henter⟩ := Tree.bind_eq_ok.1 happroach
    obtain ⟨_, hfolder, hlast⟩ := Tree.bind_eq_ok.1 henter
    cases hlast
    rw [parts_path hname, endsInSlash_path hname] at hrest
    simp only [List.getLastD_concat] at hrest
    obtain ⟨n, hstep, -⟩ := Tree.bind_eq_ok.1 hrest
    rw [step_plain hname (Tree.enter_eq_ok.1 hfolder)] at hstep
    split at hstep
    · cases hstep
    · rename_i hsize
      exact hadmits ⟨hcheck, Nat.not_lt.1 hsize⟩

/-- A document that cannot be put at its place leaves the tree alone. -/
theorem save_tree_of_stands (hname : IsPlain name) (h : f.Stands t l) (v : Json.Value) :
    (f.save name v t).2 = t ∨ f.Admits name ∧ t.at? (l ++ [name]) ≠ some .folder ∧
      (f.save name v t).2 = t.set (l ++ [name]) (some (written v)) := by
  by_cases hadmits : f.Admits name
  · by_cases hfolder : t.at? (l ++ [name]) = some .folder
    · left
      unfold save
      rw [prepare_of_stands (check_base hname hadmits.1) h]
      dsimp only
      rw [write_of_stands hname hadmits h, if_pos hfolder]
    · right
      exact ⟨hadmits, hfolder, congrArg Prod.snd (save_of_stands hname hadmits h hfolder v)⟩
  · left
    have hprepare := prepare_tree_of_stands h
    obtain ⟨e, he⟩ := write_of_not_admits hname hadmits t
      (Text.utf8 (Json.Printer.lines v))
    unfold save
    generalize f.prepare t = prepared at hprepare
    obtain ⟨answer, t'⟩ := prepared
    obtain rfl : t' = t := hprepare
    cases answer with
    | error e => rfl
    | ok u =>
      dsimp only
      rw [he]

/-- **A document is taken from its own place.** -/
theorem remove_of_stands (hname : IsPlain name) (hadmits : f.Admits name) (h : f.Stands t l)
    {content : Text.Bytes} (hfile : t.at? (l ++ [name]) = some (.file content)) :
    f.remove name t = .ok (t.set (l ++ [name]) none) := by
  have hholds : t.holds (f.path name) = true := by
    rw [holds_of_stands hname hadmits h, hfile]
    rfl
  unfold remove
  dsimp only
  rw [if_pos hholds]
  exact Json.mapError_eq_ok.2 (Tree.remove_eq_ok.2 ⟨_, content,
    resolve_of_stands hname hadmits h, hfile, endsInSlash_path hname, rfl⟩)

/-- Nothing but a document is taken away. -/
theorem remove_eq_ok (hname : IsPlain name) {t' : Tree} (h : f.remove name t = .ok t') :
    t' = t ∨ ∃ l content, f.Stands t l ∧ t.at? (l ++ [name]) = some (.file content) ∧
      t' = t.set (l ++ [name]) none := by
  unfold remove at h
  dsimp only at h
  split at h
  · right
    obtain ⟨m, content, hresolve, hfile, -, rfl⟩ :=
      Tree.remove_eq_ok.1 (Json.mapError_eq_ok.1 h)
    obtain ⟨-, l, hl, rfl⟩ := (resolve_path hname).1 hresolve
    exact ⟨l, content, hl, hfile, rfl⟩
  · cases h
    exact .inl rfl

end LogWeave.Files.Folder

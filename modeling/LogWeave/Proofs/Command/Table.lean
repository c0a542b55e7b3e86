import LogWeave.Command.Table
import LogWeave.Proofs.Docker.Listing

/-! The table of the services.

Names are measured in bytes and filled up by characters. A name has no more characters than bytes
(`length_le_utf8ByteSize`), so none reaches into the blanks in front of the second column, and that
column begins behind as many characters in each line (`isTable_lines`). With the listing of the
containers this tells what stands in the table, and where (`tabulates_services`). -/
namespace LogWeave.Command.Table

open Docker (Client Lists Summary)

/-- A line with a name, blanks up to a column, two at least, and a text. -/
def IsRow (column : Nat) (name text line : String) : Prop :=
  ∃ blanks, 2 ≤ blanks ∧ name.length + blanks = column ∧
    line = name ++ String.ofList (List.replicate blanks ' ') ++ text

/-- The lines of a table: a heading, and a row for each entry in their order, with the status in its
color. The second column is at one place in all of them. -/
def IsTable (entries : List (String × ServiceStatus)) (lines : List String) : Prop :=
  ∃ column head rows, lines = head :: rows ∧ IsRow column "SERVICE" "STATUS" head ∧
    List.Forall₂
      (fun e row => IsRow column e.1 (e.2.phase.color.paint e.2.describe) row) entries rows

/-! ### Widths -/

/-- A text has no more characters than bytes. -/
theorem length_le_utf8ByteSize (text : String) : text.length ≤ text.utf8ByteSize := by
  have hchars (cs : List Char) : cs.length ≤ (String.ofList cs).utf8ByteSize := by
    induction cs with
    | nil => exact Nat.zero_le _
    | cons c cs ih =>
      have hc := c.utf8Size_pos
      rw [← List.singleton_append, String.ofList_append, String.utf8ByteSize_append,
        ← String.singleton_eq_ofList, String.utf8ByteSize_singleton, List.length_append,
        List.length_singleton]
      omega
  rw [← String.length_toList]
  exact (hchars text.toList).trans_eq (by rw [String.ofList_toList])

theorem le_foldl_max {n size : Nat} {sizes : List Nat} (h : n ≤ size ∨ n ∈ sizes) :
    n ≤ sizes.foldl max size := by
  induction sizes generalizing size with
  | nil => simpa using h
  | cons next sizes ih =>
    refine ih ?_
    rcases h with hle | hmem
    · exact .inl (hle.trans (Nat.le_max_left ..))
    · rcases List.mem_cons.1 hmem with rfl | hmem
      · exact .inl (Nat.le_max_right ..)
      · exact .inr hmem

theorem length_heading_le (names : List String) : heading.length ≤ width names :=
  le_foldl_max (.inl (length_le_utf8ByteSize heading))

theorem length_le_width {names : List String} {name : String} (h : name ∈ names) :
    name.length ≤ width names :=
  (length_le_utf8ByteSize name).trans (le_foldl_max (.inr (List.mem_map_of_mem h)))

/-! ### Rows -/

theorem isRow_row {size : Nat} {name : String} (h : name.length ≤ size) (text : String) :
    IsRow (size + 2) name text (row size name text) := by
  refine ⟨size - name.length + 2, by omega, by omega, ?_⟩
  rw [row, filled, ← String.toList_inj]
  simp [List.replicate_add]

/-- The lines of services are a table of them. -/
theorem isTable_lines (services : List (String × ServiceStatus)) :
    IsTable services (lines services) := by
  refine ⟨width (services.map Prod.fst) + 2, _, _, rfl, isRow_row (length_heading_le _) _, ?_⟩
  rw [List.forall₂_map_right_iff, List.forall₂_same]
  exact fun e he => isRow_row (length_le_width (List.mem_map_of_mem he)) _

/-- **The table holds each service once, in order, and in columns.** Whatever containers an engine
lists, a client tells the one listing that they have: each container that carries the label of a
service once, by the bytes of the names and then as the engine has them. The lines of that listing
are a table of it, with all statuses at one place. -/
theorem tabulates_services {ε : Type} (c : Client ε) {e asked : ε} {containers : List Summary}
    (h : c.engine.list e (c.labels none) = (.ok containers, asked)) :
    ∃ services, c.services e = (.ok services, asked) ∧
      (∀ entries, (∃ carriers, Lists containers carriers entries) ↔ entries = services) ∧
      IsTable services (lines services) := by
  have hlists := Client.lists_servicesOf containers
  refine ⟨_, Client.services_eq h, fun entries => ⟨?_, ?_⟩, isTable_lines _⟩
  · rintro ⟨carriers, hentries⟩
    exact (hentries.unique hlists).2
  · rintro rfl
    exact ⟨_, hlists⟩

/-- A client of an engine that has some containers to list. -/
def showing (containers : List Summary) : Client Unit where
  engine := { Docker.Engine.missed .unreachable with list := fun e _ => (.ok containers, e) }
  project := none

/-- Two containers of one service, one of a service with a name in another script, one without the
label, and one of which nothing is said. -/
def mixed : List Summary := [
  ⟨some "c1", [(Summary.serviceLabel, "web")], some .running, some "Up 5 minutes"⟩,
  ⟨some "c2", [(Summary.serviceLabel, "データベース")], some .exited, some "Exited (1)"⟩,
  ⟨some "c3", [(Summary.projectLabel, "shop")], some .running, none⟩,
  ⟨some "c4", [(Summary.serviceLabel, "web")], some .created, none⟩,
  ⟨some "c5", [(Summary.serviceLabel, "db")], none, some ""⟩]

theorem servicesOf_mixed : Client.servicesOf mixed = [
    ("db", ⟨.unknown, none, none, some ""⟩),
    ("web", ⟨.running, none, none, some "Up 5 minutes"⟩),
    ("web", ⟨.pending, none, none, none⟩),
    ("データベース", ⟨.exited, none, none, some "Exited (1)"⟩)] := by
  have hnamed : mixed.filterMap (fun s => s.service?.map (·, s.status)) = [
      ("web", ⟨.running, none, none, some "Up 5 minutes"⟩),
      ("データベース", ⟨.exited, none, none, some "Exited (1)"⟩),
      ("web", ⟨.pending, none, none, none⟩),
      ("db", ⟨.unknown, none, none, some ""⟩)] := by
    decide +kernel
  have hscript : "web" ≤ "データベース" := by decide +kernel
  have hletters : ¬ "web" ≤ "db" := by decide +kernel
  rw [Client.servicesOf, hnamed]
  simp [List.mergeSort, List.MergeSort.Internal.splitInTwo, hscript, hletters]

/-- They are listed by their names, and the statuses stand below each other. -/
theorem tabulates_services_mixed :
    ∃ services, (showing mixed).services () = (.ok services, ()) ∧
      (∃ carriers, Lists mixed carriers services) ∧ IsTable services (lines services) ∧
      lines services = [
        "SERVICE             STATUS",
        "db                  \x1b[38;5;11mUnknown\x1b[39m",
        "web                 \x1b[38;5;10mRunning: Up 5 minutes\x1b[39m",
        "web                 \x1b[38;5;11mPending\x1b[39m",
        "データベース              \x1b[38;5;9mExited: Exited (1)\x1b[39m"] := by
  have hanswer : (showing mixed).engine.list () ((showing mixed).labels none) = (.ok mixed, ()) :=
    rfl
  obtain ⟨services, hservices, hlists, htable⟩ := tabulates_services (showing mixed) hanswer
  obtain rfl : Client.servicesOf mixed = services := by
    rw [Client.services_eq hanswer] at hservices
    exact Except.ok.inj (congrArg Prod.fst hservices)
  refine ⟨_, hservices, (hlists _).2 rfl, htable, ?_⟩
  rw [servicesOf_mixed]
  decide +kernel

end LogWeave.Command.Table

import LogWeave.Proofs.Json.KeepingUp
import LogWeave.Settings.Layers
import Mathlib.Data.List.ReduceOption
import Mathlib.Order.Bounds.Basic

/-! What settings come to that are laid over each other.

Each key is settled by the last layer that gives it, and the version is the greatest of all
(`Settings.LaidOver`). What a layer gives is what stands in its file: a member that is missing or
`null` gives nothing, any other gives its value, the standard one as well (`Layer.Gives`). Settings
are loaded just if each file that is there can be read and what they come to will do
(`Settings.loads_layers`). -/
namespace LogWeave

/-! ### The last one settles it -/

/-- The value that the last of these gives; the one at the start, if none gives any. -/
inductive Settles {α β : Type} (gives : α → Option β) (layers : List α) (start : β) : β → Prop where
  | last {before after : List α} {layer : α} {value : β} (hl : layers = before ++ layer :: after)
    (hv : gives layer = some value) (hafter : ∀ l ∈ after, gives l = none) :
    Settles gives layers start value
  | none (h : ∀ l ∈ layers, gives l = none) : Settles gives layers start start

namespace Settles

variable {α β : Type} {gives : α → Option β} {layers : List α} {layer : α} {start value : β}

theorem nil : Settles gives [] start start := .none (by simp)

/-- What the first of them gives is where the others start. -/
theorem cons (h : Settles gives layers ((gives layer).getD start) value) :
    Settles gives (layer :: layers) start value := by
  cases h with
  | last hl hv hafter => exact .last (by rw [hl, List.cons_append]) hv hafter
  | none hnone =>
    cases hg : gives layer with
    | none => exact .none (List.forall_mem_cons.2 ⟨hg, hnone⟩)
    | some v => exact .last (List.nil_append _).symm hg hnone

end Settles

namespace Settings

/-- Settings with layers laid over them, one after the other. -/
structure LaidOver (base : Settings) (layers : List Layer) (s : Settings) : Prop where
  version : IsGreatest {v | v = base.version ∨ ∃ l ∈ layers, l.version = some v} s.version
  host : Settles (fun l => l.host.map some) layers base.host s.host
  project : Settles (fun l => l.project.map some) layers base.project s.project
  window : Settles (fun l => l.tuning.window) layers base.tuning.window s.tuning.window
  reconnectDelay : Settles (fun l => l.tuning.reconnectDelay) layers base.tuning.reconnectDelay
    s.tuning.reconnectDelay
  retryDelay : Settles (fun l => l.tuning.retryDelay) layers base.tuning.retryDelay
    s.tuning.retryDelay
  linesPerSource : Settles (fun l => l.tuning.linesPerSource) layers base.tuning.linesPerSource
    s.tuning.linesPerSource
  pollInterval : Settles (fun l => l.tuning.pollInterval) layers base.tuning.pollInterval
    s.tuning.pollInterval

/-- A value that may be missing is replaced by one that is not. -/
theorem or_eq_getD {α : Type} (given base : Option α) :
    given.or base = (given.map some).getD base := by
  cases given <;> rfl

/-- The version of a layer counts if it is the greater one. -/
theorem version_overlaid (base : Settings) (layer : Layer) :
    base.version ≤ (base.overlaid layer).version ∧
      (∀ v, layer.version = some v → v ≤ (base.overlaid layer).version) ∧
      ((base.overlaid layer).version = base.version ∨
        layer.version = some (base.overlaid layer).version) := by
  cases hv : layer.version with
  | none => simp [overlaid, hv]
  | some v =>
    have hmax : (base.overlaid layer).version = if base.version ≤ v then v else base.version := by
      simp only [overlaid, hv]
      rfl
    rw [hmax]
    by_cases hle : base.version ≤ v
    · simp [hle]
    · have hge := (UInt32.le_total base.version v).resolve_left hle
      simp [hle, hge]

theorem isGreatest_overlaid {base : Settings} {layer : Layer} {layers : List Layer}
    {version : UInt32} (h : IsGreatest {v | v = (base.overlaid layer).version ∨
      ∃ l ∈ layers, l.version = some v} version) :
    IsGreatest {v | v = base.version ∨ ∃ l ∈ layer :: layers, l.version = some v} version := by
  obtain ⟨hmem, hupper⟩ := h
  obtain ⟨hbase, hlayer, hfrom⟩ := version_overlaid base layer
  have hle : (base.overlaid layer).version ≤ version := hupper (.inl rfl)
  refine ⟨?_, fun v hv => ?_⟩
  · rcases hmem with heq | ⟨l, hl, hv⟩
    · rw [← heq] at hfrom
      exact hfrom.imp_right fun hv => ⟨layer, List.mem_cons_self .., hv⟩
    · exact .inr ⟨l, List.mem_cons_of_mem layer hl, hv⟩
  · rcases hv with rfl | ⟨l, hl, hv⟩
    · exact UInt32.le_trans hbase hle
    · rcases List.mem_cons.1 hl with rfl | hl
      · exact UInt32.le_trans (hlayer v hv) hle
      · exact hupper (.inr ⟨l, hl, hv⟩)

/-- **Each key is settled by the last layer that gives it.** -/
theorem laidOver_foldl (base : Settings) (layers : List Layer) :
    LaidOver base layers (layers.foldl overlaid base) := by
  induction layers generalizing base with
  | nil =>
    refine ⟨⟨.inl rfl, fun v hv => ?_⟩, .nil, .nil, .nil, .nil, .nil, .nil, .nil⟩
    rcases hv with rfl | ⟨l, hl, -⟩
    · exact UInt32.le_refl _
    · cases hl
  | cons layer rest ih =>
    have h := ih (base.overlaid layer)
    exact ⟨isGreatest_overlaid h.version,
      .cons (or_eq_getD layer.host base.host ▸ h.host),
      .cons (or_eq_getD layer.project base.project ▸ h.project), .cons h.window,
      .cons h.reconnectDelay, .cons h.retryDelay, .cons h.linesPerSource, .cons h.pollInterval⟩

/-! ### What a file gives -/

/-- The members of a settings file as they stand: its own, and those of its tuning. -/
structure Bare where
  members : List (String × Json.Value)
  tuning : List (String × Json.Value)

/-- A settings file read member by member, as documents. -/
def Layer.bare : Json.Record Bare where
  name := Layer.record.name
  blank := ⟨[], []⟩
  fields := [
    .bare "version" false true (keep "version"),
    .bare "dockerHost" false true (keep "dockerHost"),
    .bare "project" false true (keep "project"),
    ⟨"logs", false, false, fun b => do
      pure { b with tuning := ← Tuning.Overlay.record.bare.reader }⟩]
where
  keep (name : String) (v : Json.Value) (b : Bare) : Bare :=
    { b with members := (name, v) :: b.members }

end Settings

/-- An overlay is what the members give. -/
@[mk_iff]
structure Tuning.Overlay.Gives (o : Overlay) (members : List (String × Json.Value)) : Prop where
  window : Json.given members "windowMs" = o.window.map (Json.Value.whole ·.toNat)
  reconnectDelay : Json.given members "reconnectDelayMs" =
    o.reconnectDelay.map (Json.Value.whole ·.toNat)
  retryDelay : Json.given members "openRetryDelayMs" = o.retryDelay.map (Json.Value.whole ·.toNat)
  linesPerSource : Json.given members "channelCapacityPerSource" =
    o.linesPerSource.map (Json.Value.whole ·.toNat)
  pollInterval : Json.given members "statusPollIntervalMs" =
    o.pollInterval.map (Json.Value.whole ·.toNat)

/-- A layer is what its file gives. -/
@[mk_iff]
structure Settings.Layer.Gives (l : Layer) (b : Bare) : Prop where
  version : Json.given b.members "version" = l.version.map (Json.Value.whole ·.toNat)
  host : Json.given b.members "dockerHost" = l.host.map Json.Value.text
  project : Json.given b.members "project" = l.project.map Json.Value.text
  tuning : l.tuning.Gives b.tuning

section Reading

open Json (given_cons_of_ne given_cons_optional)

/-- Amounts and counts are whole numbers that fit. -/
theorem Tuning.keepsUp_amount : Json.Reader.KeepsUp
    (fun (n : UInt64) v => v = Json.Value.whole n.toNat) amount Json.Reader.value :=
  (Json.keepsUp_unsigned _ "u64").map_left fun n v ⟨hv, hle⟩ => by
    rw [hv, UInt64.toNat_ofNat_of_lt' (by simp only [UInt64.size]; omega)]

theorem Tuning.keepsUp_count : Json.Reader.KeepsUp
    (fun (n : UInt64) v => v = Json.Value.whole n.toNat) count Json.Reader.value :=
  (Json.keepsUp_unsigned _ "usize").map_left fun n v ⟨hv, hle⟩ => by
    rw [hv, UInt64.toNat_ofNat_of_lt' (by simp only [UInt64.size]; omega)]

theorem Settings.keepsUp_version : Json.Reader.KeepsUp
    (fun (n : Nat) v => v = Json.Value.whole (UInt32.ofNat n).toNat) Json.Scalar.unsigned32
      Json.Reader.value := by
  have h := Json.keepsUp_unsigned 0xFFFFFFFF "u32"
  intro s s' n heq
  obtain ⟨v, hvalue, hv, hle⟩ := h heq
  have hsame : (UInt32.ofNat n).toNat = n :=
    UInt32.toNat_ofNat_of_lt' (by simp only [UInt32.size]; omega)
  exact ⟨v, hvalue, by simp only [hv, hsame]⟩

/-- What is read of a tuning is what stands there. -/
theorem Tuning.Overlay.keepsUp_record :
    Json.Reader.KeepsUp Gives record.reader record.bare.reader := by
  have hwhole (n : UInt64) : Json.Value.whole n.toNat ≠ .null := nofun
  refine Json.Record.keepsUp_reader (.cons (.optional keepsUp_amount ?_) <|
    .cons (.optional keepsUp_amount ?_) <| .cons (.optional keepsUp_amount ?_) <|
    .cons (.optional keepsUp_count ?_) <| .cons (.optional keepsUp_amount ?_) .nil)
    ⟨rfl, rfl, rfl, rfl, rfl⟩
  all_goals
    intro o members n h
    simp_all [gives_iff, field, given_cons_of_ne, given_cons_optional]

/-- What is read of a settings file is what stands there. -/
theorem Settings.Layer.keepsUp_record :
    Json.Reader.KeepsUp Gives record.reader bare.reader := by
  have hwhole (n : Nat) : Json.Value.whole (UInt32.ofNat n).toNat ≠ .null := nofun
  have htext (text : String) : Json.Value.text text ≠ .null := nofun
  refine Json.Record.keepsUp_reader (.cons (.optional keepsUp_version ?_) <|
    .cons (.optional (Json.keepsUp_text _) ?_) <| .cons (.optional (Json.keepsUp_text _) ?_) <|
    .cons ⟨rfl, rfl, rfl, fun l b h => ?_⟩ .nil) ⟨rfl, rfl, rfl, ⟨rfl, rfl, rfl, rfl, rfl⟩⟩
  iterate 3
    intro l b a h
    simp_all [gives_iff, bare.keep, given_cons_of_ne, given_cons_optional, Function.comp_def]
  exact Tuning.Overlay.keepsUp_record.bind fun o members ho =>
    .pure ⟨h.version, h.host, h.project, ho⟩

end Reading

/-! ### What files come to -/

/-- A window, a channel and an interval of something. -/
def Tuning.IsUsable (t : Tuning) : Prop :=
  t.window ≠ 0 ∧ t.linesPerSource ≠ 0 ∧ t.pollInterval ≠ 0

theorem Tuning.check_eq (t : Tuning) :
    (t.IsUsable ∧ t.check = .ok ()) ∨ ¬ t.IsUsable ∧ ∃ text, t.check = .error (.config text) := by
  unfold check
  by_cases hw : t.window = 0
  · exact .inr ⟨fun h => h.1 hw, _, by rw [if_pos hw]; rfl⟩
  by_cases hl : t.linesPerSource = 0
  · exact .inr ⟨fun h => h.2.1 hl, _, by rw [if_neg hw, if_pos hl]; rfl⟩
  by_cases hp : t.pollInterval = 0
  · exact .inr ⟨fun h => h.2.2 hp, _, by rw [if_neg hw, if_neg hl, if_pos hp]⟩
  · exact .inl ⟨⟨hw, hl, hp⟩, by rw [if_neg hw, if_neg hl, if_neg hp]; rfl⟩

namespace Settings

/-- What the settings file of a folder holds; nothing if there is no file. -/
inductive Holds (t : Files.Tree) (folder : Files.Folder) : Option Layer → Prop where
  | absent (h : t.holds (folder.path file) = false) : Holds t folder none
  | parsed {text : String} {layer : Layer} (h : t.holds (folder.path file) = true)
    (ht : t.readText (folder.path file) = .ok text)
    (hl : Json.read Layer.record.reader text = .ok layer) : Holds t folder (some layer)

variable {t : Files.Tree} {folder : Files.Folder} {folders : List Files.Folder}

theorem load?_eq {α : Type} (reader : Json.Reader α) : folder.load? file reader t =
    if t.holds (folder.path file) then
      match t.readText (folder.path file) with
      | .error e => .error (.config
        ("Failed to read " ++ (folder.path file).text ++ ": " ++ e.message))
      | .ok text => ((Json.read reader text).mapError fun e => .config
        ("Failed to parse " ++ (folder.path file).text ++ ": " ++ e.message)).map some
    else .ok none := by
  delta Files.Folder.load? Files.Folder.load
  dsimp only
  cases t.readText (folder.path file) <;> rfl

theorem load?_of_holds {found : Option Layer} (h : Holds t folder found) :
    folder.load? file Layer.record.reader t = .ok found := by
  cases h with
  | absent h => simp [load?_eq, h]
  | parsed h ht hl => simp [load?_eq, h, ht, hl, Except.mapError, Except.map]

/-- A file that is there and cannot be read, or not as settings. -/
theorem load?_of_broken (h : ∀ found, ¬ Holds t folder found) :
    ∃ text, folder.load? file Layer.record.reader t = .error (.config text) := by
  have hheld : t.holds (folder.path file) = true :=
    Bool.eq_true_of_not_eq_false fun hno => h none (.absent hno)
  simp only [load?_eq, hheld, if_true]
  cases ht : t.readText (folder.path file) with
  | error trouble => exact ⟨_, rfl⟩
  | ok text =>
    cases hl : Json.read Layer.record.reader text with
    | error fault =>
      simp only [hl, Except.mapError]
      exact ⟨_, rfl⟩
    | ok layer => exact absurd (.parsed hheld ht hl) (h (some layer))

/-- Files that are missing or can be read are laid over each other. -/
theorem layered_of_holds {found : List (Option Layer)} (h : List.Forall₂ (Holds t) folders found)
    (base : Settings) :
    base.layered t folders = .ok (found.reduceOption.foldl overlaid base) := by
  induction h generalizing base with
  | nil => rfl
  | @cons folder layer? _ _ hfound _ ih =>
    rw [layered, load?_of_holds hfound]
    cases layer? with
    | none => exact ih base
    | some layer => exact ih (base.overlaid layer)

/-- One file that is broken is enough. -/
theorem layered_of_broken (hmem : folder ∈ folders) (h : ∀ found, ¬ Holds t folder found)
    (base : Settings) : ∃ text, base.layered t folders = .error (.config text) := by
  induction folders generalizing base with
  | nil => cases hmem
  | cons first rest ih =>
    by_cases hfirst : ∃ found, Holds t first found
    · obtain ⟨found, hfound⟩ := hfirst
      have hrest : folder ∈ rest := by
        refine (List.mem_cons.1 hmem).resolve_left ?_
        rintro rfl
        exact h found hfound
      rw [layered, load?_of_holds hfound]
      cases found with
      | none => exact ih hrest base
      | some layer => exact ih hrest (base.overlaid layer)
    · obtain ⟨text, htext⟩ := load?_of_broken fun found hfound => hfirst ⟨found, hfound⟩
      rw [layered, htext]
      exact ⟨text, rfl⟩

/-- Settings are loaded if what the files come to will do. -/
theorem load_of_layered {user project : Option Files.Folder} {merged : Settings}
    (h : initial.layered t (user.toList ++ project.toList) = .ok merged) :
    (load user project t = .ok merged ↔ merged.tuning.IsUsable) ∧
      (¬ merged.tuning.IsUsable → ∃ text, load user project t = .error (.config text)) := by
  have hload : load user project t = merged.tuning.check.map fun _ => merged := by
    unfold load
    rw [h]
    show (merged.tuning.check >>= fun _ => Except.ok merged) = _
    cases merged.tuning.check <;> rfl
  rcases merged.tuning.check_eq with ⟨husable, hcheck⟩ | ⟨hnot, text, hcheck⟩
  · rw [hload, hcheck]
    exact ⟨⟨fun _ => husable, fun _ => rfl⟩, fun hnot => absurd husable hnot⟩
  · rw [hload, hcheck]
    exact ⟨⟨nofun, fun husable => absurd husable hnot⟩, fun _ => ⟨text, rfl⟩⟩

/-- **The last file that gives a key settles it.** Whatever the settings to begin with and the
layers laid over them, each key has the value that the last layer gives, and the version is the
greatest of all; a layer gives what stands in its file, without what is `null`. So whatever the
files of the user and the project hold, the settings are what these come to, laid over the standard
settings, if the window, the channel and the interval are not nothing; if one of them is, or a file
that is there cannot be read or is not a settings file, there is a complaint. -/
theorem loads_layers :
    (∀ (base : Settings) (layers : List Layer), LaidOver base layers (layers.foldl overlaid base)) ∧
    (∀ (text : String) (layer : Layer), Json.read Layer.record.reader text = .ok layer →
      ∃ b, Json.read Layer.bare.reader text = .ok b ∧ layer.Gives b) ∧
    ∀ (t : Files.Tree) (user project : Option Files.Folder),
      (∀ found, List.Forall₂ (Holds t) (user.toList ++ project.toList) found →
        (load user project t = .ok (found.reduceOption.foldl overlaid initial) ↔
          (found.reduceOption.foldl overlaid initial).tuning.IsUsable) ∧
        (¬ (found.reduceOption.foldl overlaid initial).tuning.IsUsable →
          ∃ text, load user project t = .error (.config text))) ∧
      ((∃ folder ∈ user.toList ++ project.toList, ∀ found, ¬ Holds t folder found) →
        ∃ text, load user project t = .error (.config text)) := by
  refine ⟨laidOver_foldl, fun text layer h => Layer.keepsUp_record.whole h,
    fun t user project => ⟨fun found h => load_of_layered (layered_of_holds h initial), ?_⟩⟩
  rintro ⟨folder, hmem, hbroken⟩
  obtain ⟨text, htext⟩ := layered_of_broken hmem hbroken initial
  refine ⟨text, ?_⟩
  unfold load
  rw [htext]
  rfl

/-- A user's settings with a window of nothing. -/
def userText : String :=
  "\x7b\"version\": 3, \"dockerHost\": \"local\", \"logs\": \x7b\"windowMs\": 0\x7d\x7d"

/-- A project's settings that give the standard window. -/
def projectText : String :=
  "\x7b\"version\": 2, \"dockerHost\": null, \"logs\": \x7b\"windowMs\": 100\x7d\x7d"

def userFolder : Files.Folder := ⟨⟨"/home"⟩⟩

def projectFolder : Files.Folder := ⟨⟨"/app"⟩⟩

/-- Both in their places. -/
def bothFiles : Files.Tree :=
  (Files.Tree.empty.plant (userFolder.path file) (.file (Text.utf8 userText))).plant
    (projectFolder.path file) (.file (Text.utf8 projectText))

def userLayer : Layer := ⟨some 3, some "local", none, ⟨some 0, none, none, none, none⟩⟩

def projectLayer : Layer := ⟨some 2, none, none, ⟨some 100, none, none, none, none⟩⟩

theorem holds_userFolder : Holds bothFiles userFolder (some userLayer) :=
  have hread : bothFiles.readText (userFolder.path file) = .ok userText := by decide +kernel
  .parsed (by decide +kernel) hread (by decide +kernel)

theorem holds_projectFolder : Holds bothFiles projectFolder (some projectLayer) :=
  have hread : bothFiles.readText (projectFolder.path file) = .ok projectText := by decide +kernel
  .parsed (by decide +kernel) hread (by decide +kernel)

/-- A file that begins like settings and breaks off. -/
def cutText : String := "\x7b\"version\": 3, "

def cutFile : Files.Tree :=
  Files.Tree.empty.plant (userFolder.path file) (.file (Text.utf8 cutText))

theorem not_holds_cutFile (found : Option Layer) : ¬ Holds cutFile userFolder found := by
  intro h
  have hread : cutFile.readText (userFolder.path file) = .ok cutText := by decide +kernel
  have hcut : (Json.read Layer.record.reader cutText).toOption = none := by decide +kernel
  cases h with
  | absent h => exact absurd h (by decide +kernel)
  | parsed _ ht hl =>
    obtain rfl := Except.ok.inj (hread.symm.trans ht)
    rw [hl] at hcut
    cases hcut

/-- The project's window counts, and the user's host; the user's window alone will not do, nor will
a file that breaks off. -/
theorem loads_layers_bothFiles :
    load (some userFolder) (some projectFolder) bothFiles =
        .ok ⟨3, some "local", none, Tuning.standard⟩ ∧
      (∃ text, load (some userFolder) none bothFiles = .error (.config text)) ∧
      ∃ text, load (some userFolder) none cutFile = .error (.config text) := by
  refine ⟨?_, ?_, ?_⟩
  · have h := (loads_layers.2.2 bothFiles (some userFolder) (some projectFolder)).1
      [some userLayer, some projectLayer] (.cons holds_userFolder (.cons holds_projectFolder .nil))
    exact h.1.2 (by unfold Tuning.IsUsable; decide)
  · have h := (loads_layers.2.2 bothFiles (some userFolder) none).1
      [some userLayer] (.cons holds_userFolder .nil)
    exact h.2 (by unfold Tuning.IsUsable; decide)
  · exact (loads_layers.2.2 cutFile (some userFolder) none).2
      ⟨userFolder, List.mem_cons_self .., not_holds_cutFile⟩

end Settings

end LogWeave

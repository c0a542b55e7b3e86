import LogWeave.Files.Folder
import LogWeave.Settings.Tuning

/-! Settings in layers.

The user's settings file and then the project's are laid over the standard settings; a key that a
file does not give keeps its value. -/
namespace LogWeave

structure Settings where
  version : UInt32
  /-- The engine to talk to; the local one if there is none. -/
  host : Option String
  /-- The project that the services belong to. -/
  project : Option String
  tuning : Tuning
  deriving DecidableEq, Repr

namespace Settings

/-- Settings before any file is read. -/
def bare : Settings := ⟨0, none, none, .standard⟩

def initial : Settings := { bare with version := 1 }

/-- What one settings file gives. -/
structure Layer where
  version : Option UInt32
  host : Option String
  project : Option String
  tuning : Tuning.Overlay
  deriving DecidableEq, Repr

def Layer.none : Layer := ⟨.none, .none, .none, .none⟩

/-- A layer laid over settings. The version never goes down. -/
def overlaid (base : Settings) (l : Layer) : Settings where
  version :=
    match l.version with
    | some version => max base.version version
    | .none => base.version
  host := l.host.or base.host
  project := l.project.or base.project
  tuning := base.tuning.overlaid l.tuning

def Layer.record : Json.Record Layer where
  name := "struct ConfigFile"
  blank := .none
  fields := [
    ⟨"version", false, true, fun l => do
      let version ← Json.Scalar.optional Json.Scalar.unsigned32
      pure { l with version := version.map UInt32.ofNat }⟩,
    ⟨"dockerHost", false, true, fun l => do
      pure { l with host := ← Json.Scalar.optional Json.Scalar.anyText }⟩,
    ⟨"project", false, true, fun l => do
      pure { l with project := ← Json.Scalar.optional Json.Scalar.anyText }⟩,
    ⟨"logs", false, false, fun l => do
      pure { l with tuning := ← Tuning.Overlay.record.reader }⟩]

def Layer.read (text : String) : Except Failure Layer :=
  (Json.read record.reader text).mapError fun e => .json e.message

/-- The file that settings are kept in. -/
def file : String := "config.json"

/-- Lays the settings files of folders over each other, later ones on top. -/
def layered (base : Settings) (t : Files.Tree) : List Files.Folder → Except Failure Settings
  | [] => .ok base
  | folder :: rest => do
    match ← folder.load? file Layer.record.reader t with
    | some layer => (base.overlaid layer).layered t rest
    | .none => base.layered t rest

/-- The settings of a user and a project, either of which may not be looked at. -/
def load (user project : Option Files.Folder) (t : Files.Tree) : Except Failure Settings := do
  let settings ← initial.layered t (user.toList ++ project.toList)
  settings.tuning.check
  pure settings

end Settings

end LogWeave

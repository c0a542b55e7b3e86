import LogWeave.Failure
import LogWeave.Files.Tree
import LogWeave.Json.Printer
import LogWeave.Json.Reader

/-! Documents kept in a folder, one to a file. -/
namespace LogWeave.Files

structure Folder where
  base : Path
  deriving DecidableEq, Repr

namespace Folder

/-- The folder of a project's own settings. -/
def ofProject (root : Path) : Folder := ⟨root.join ⟨".skiff"⟩⟩

/-- The folder of a user's settings, in a folder for all programs. -/
def ofUser (settings : Path) : Folder := ⟨settings.join ⟨"skiff"⟩⟩

def path (f : Folder) (name : String) : Path := f.base.join ⟨name⟩

/-- Makes the folder unless there is one. Folders around it that could be made stay. -/
def prepare (f : Folder) (t : Tree) : Except Failure Unit × Tree :=
  if t.holds f.base then (.ok (), t)
  else
    let (made, t) := t.makeFolders f.base
    (made.mapError fun e => .storage ("Failed to create directory: " ++ e.message), t)

/-- Writes a document, spread over lines. The tree is kept also when the writing fails: folders
may have been made by then. -/
def save (f : Folder) (name : String) (document : Json.Value) (t : Tree) :
    Except Failure Unit × Tree :=
  match f.prepare t with
  | (.error e, t) => (.error e, t)
  | (.ok (), t) =>
    let p := f.path name
    match t.write p (Text.utf8 (Json.Printer.lines document)) with
    | .ok t => (.ok (), t)
    | .error e => (.error (.storage ("Failed to write " ++ p.text ++ ": " ++ e.message)), t)

def load (f : Folder) (name : String) (reader : Json.Reader α) (t : Tree) : Except Failure α :=
  let p := f.path name
  match t.readText p with
  | .error e => .error (.config ("Failed to read " ++ p.text ++ ": " ++ e.message))
  | .ok text =>
    (Json.read reader text).mapError fun e =>
      .config ("Failed to parse " ++ p.text ++ ": " ++ e.message)

/-- The document of a name, if there is a file for it. -/
def load? (f : Folder) (name : String) (reader : Json.Reader α) (t : Tree) :
    Except Failure (Option α) :=
  if t.holds (f.path name) then (f.load name reader t).map some else .ok none

/-- Removes the document of a name, if there is a file for it. -/
def remove (f : Folder) (name : String) (t : Tree) : Except Failure Tree :=
  let p := f.path name
  if t.holds p then
    (t.remove p).mapError fun e => .storage ("Failed to remove " ++ p.text ++ ": " ++ e.message)
  else .ok t

end Folder

end LogWeave.Files

import LogWeave.Files.Path
import LogWeave.Text.Bytes

/-! A tree of folders and files.

Every location holds a folder, a file or nothing. A written path is walked part by part; what it
passes through must be a folder. A folder is made from the inside out: the nearest folder around
that is there, or can be made, is looked for first, and those inside it are made after it. -/
namespace LogWeave.Files

/-- The names from the root down. -/
abbrev Location := List String

inductive Node where
  | folder
  | file (content : Text.Bytes)
  deriving DecidableEq, Repr

/-- What keeps a path from being used. -/
inductive Trouble where
  | missing
  | occupied
  | notFolder
  | isFolder
  | tooLong
  | zeroByte
  | notText
  deriving DecidableEq, Repr

def Trouble.message : Trouble → String
  | missing => "No such file or directory (os error 2)"
  | occupied => "File exists (os error 17)"
  | notFolder => "Not a directory (os error 20)"
  | isFolder => "Is a directory (os error 21)"
  | tooLong => "File name too long (os error 36)"
  | zeroByte => "file name contained an unexpected NUL byte"
  | notText => "stream did not contain valid UTF-8"

structure Tree where
  at? : Location → Option Node

namespace Tree

/-- Only the root. -/
def empty : Tree := ⟨fun l => if l = [] then some .folder else none⟩

def set (t : Tree) (l : Location) (node : Option Node) : Tree :=
  ⟨fun m => if m = l then node else t.at? m⟩

theorem at?_set (t : Tree) (l m : Location) (node : Option Node) :
    (t.set l node).at? m = if m = l then node else t.at? m := rfl

@[simp] theorem at?_set_self (t : Tree) (l : Location) (node : Option Node) :
    (t.set l node).at? l = node := by
  simp [set]

theorem at?_set_of_ne (t : Tree) {l m : Location} (node : Option Node) (h : m ≠ l) :
    (t.set l node).at? m = t.at? m := by
  simp [set, h]

/-- Steps into a folder. -/
def enter (t : Tree) (l : Location) : Except Trouble Unit :=
  match t.at? l with
  | some .folder => .ok ()
  | some (.file _) => .error .notFolder
  | none => .error .missing

/-- Goes on from a folder to what a name in it stands for. -/
def step (t : Tree) (l : Location) (part : String) : Except Trouble Location := do
  t.enter l
  if part = "." then pure l
  else if part = ".." then pure l.dropLast
  else if Path.nameLength < part.utf8ByteSize then throw .tooLong
  else pure (l ++ [part])

/-- The location that parts lead to from another. -/
def walk (t : Tree) (l : Location) : List String → Except Trouble Location
  | [] => .ok l
  | part :: rest => do t.walk (← t.step l part) rest

/-- Refuses a path that leads nowhere in any tree. -/
def check (p : Path) : Except Trouble Unit :=
  if p.text.toList.contains '\x00' then .error .zeroByte
  else if Path.length ≤ p.text.utf8ByteSize then .error .tooLong
  else .ok ()

def resolve (t : Tree) (p : Path) : Except Trouble Location := do
  check p
  t.walk [] p.parts

/-- The folder that the last part of a path is looked up in, and that part. -/
def approach (t : Tree) (parts : List String) : Except Trouble (Location × String) := do
  let l ← t.walk [] parts.dropLast
  t.enter l
  pure (l, parts.getLastD ".")

/-- A path that ends in a slash leads to folders only. -/
def holds (t : Tree) (p : Path) : Bool :=
  match t.resolve p with
  | .error _ => false
  | .ok l =>
    match t.at? l with
    | none => false
    | some .folder => true
    | some (.file _) => !p.endsInSlash

def read (t : Tree) (p : Path) : Except Trouble Text.Bytes := do
  match t.at? (← t.resolve p) with
  | none => .error .missing
  | some .folder => .error .isFolder
  | some (.file content) => if p.endsInSlash then .error .notFolder else .ok content

/-- The content of a file as text. -/
def readText (t : Tree) (p : Path) : Except Trouble String := do
  match Text.decode (← t.read p) with
  | .ok s => .ok s
  | .error _ => .error .notText

/-- Puts a file in place of what the path leads to, unless that is a folder. -/
def write (t : Tree) (p : Path) (content : Text.Bytes) : Except Trouble Tree := do
  check p
  let (folder, name) ← t.approach p.parts
  if p.endsInSlash then throw .isFolder
  let l ← t.step folder name
  if t.at? l = some .folder then throw .isFolder
  pure (t.set l (some (.file content)))

/-- Takes away the file that the path leads to. -/
def remove (t : Tree) (p : Path) : Except Trouble Tree := do
  let l ← t.resolve p
  match t.at? l with
  | none => .error .missing
  | some .folder => .error .isFolder
  | some (.file _) => if p.endsInSlash then .error .notFolder else .ok (t.set l none)

/-- Makes a folder where there is nothing. -/
def makeFolder (t : Tree) (parts : List String) : Except Trouble Tree := do
  let (folder, name) ← t.approach parts
  let l ← t.step folder name
  if (t.at? l).isSome then throw .occupied
  pure (t.set l (some .folder))

def isFolder (t : Tree) (parts : List String) : Bool :=
  match t.walk [] parts with
  | .ok l => t.at? l = some .folder
  | .error _ => false

/-- Makes the first of these folders that can be made, unless one of them is there before it. The
answer holds the ones passed over, the last first. -/
def makeNearest (t : Tree) (passed : List (List String)) :
    List (List String) → Except Trouble (Tree × List (List String))
  | [] => .ok (t, passed)
  | parts :: outer =>
    match t.makeFolder parts with
    | .ok t => .ok (t, passed)
    | .error .missing => t.makeNearest (parts :: passed) outer
    | .error e =>
      if e = .occupied ∧ t.isFolder parts then .ok (t, passed) else .error e

/-- Makes folders one after the other; those that are there count as made. -/
def makeEach (t : Tree) : List (List String) → Except Trouble Unit × Tree
  | [] => (.ok (), t)
  | parts :: rest =>
    match t.makeFolder parts with
    | .ok t => t.makeEach rest
    | .error e =>
      if e = .occupied ∧ t.isFolder parts then t.makeEach rest else (.error e, t)

/-- Makes a folder and those around it, which are told the nearest first. Those made stay even if
one cannot be. -/
def makeAll (t : Tree) (ancestors : List (List String)) : Except Trouble Unit × Tree :=
  match t.makeNearest [] ancestors with
  | .ok (t, passed) => t.makeEach passed
  | .error e => (.error e, t)

/-- Makes the folder of a path, and the folders around it that are not there. -/
def makeFolders (t : Tree) (p : Path) : Except Trouble Unit × Tree :=
  match check p with
  | .ok () => t.makeAll p.ancestors
  | .error e => (.error e, t)

/-- A node put at a path, and the folders above it, as far as there is room for them. -/
def plant (t : Tree) (p : Path) : Node → Tree
  | .folder => (t.makeFolders p).2
  | .file content =>
    let t := (t.makeFolders p.outer).2
    (t.write p content).toOption.getD t

end Tree

end LogWeave.Files

import LogWeave.Command.Outcome
import LogWeave.Run.Rehearsal

/-! The program on the command line.

The files that a call may read are looked at before it and the credentials are written after it.
No engine is reached from here: a call that needs one says so. -/
namespace LogWeave.Main

open Files (Path Node Tree Folder)

/-- What stands at a path. What cannot be read is taken for a folder. -/
def look (p : Path) : IO (Option Node) := do
  try
    let content ← IO.FS.readBinFile p.text
    pure (some (.file content.toList))
  catch
    | .noFileOrDirectory .. => pure none
    | _ => pure (some .folder)

/-- The tree of the files at these paths. -/
def gather : Tree → List Path → IO Tree
  | t, [] => pure t
  | t, p :: rest => do
    match ← look p with
    | some node => gather (t.plant p node) rest
    | none => gather t rest

/-- Makes a file be what it is in a tree. -/
def settle (f : Folder) (name : String) (before after : Tree) : IO Unit := do
  let p := f.path name
  let kept := (after.read p).toOption
  if kept != (before.read p).toOption then
    match kept with
    | some content =>
      IO.FS.createDirAll f.base.text
      IO.FS.writeBinFile p.text ⟨content.toArray⟩
    | none => IO.FS.removeFile p.text

/-- The folder that holds the settings of all programs. -/
def settingsFolder : IO Path := do
  match ← IO.getEnv "XDG_CONFIG_HOME" with
  | some folder => if Path.isAbsolute ⟨folder⟩ then pure ⟨folder⟩ else homely
  | none => homely
where
  homely : IO Path := do
    pure (Path.join ⟨(← IO.getEnv "HOME").getD "/"⟩ ⟨".config"⟩)

/-- The socket of the local engine. -/
def localSocket : IO String := do
  match ← IO.getEnv "DOCKER_HOST" with
  | some host => pure (String.ofList (host.toList.drop "unix://".length))
  | none => pure "/var/run/docker.sock"

def call (arguments : List String) : IO UInt32 := do
  let user := Folder.ofUser (← settingsFolder)
  let project := Folder.ofProject ⟨toString (← IO.currentDir)⟩
  let socket ← localSocket
  let listens ← look ⟨socket⟩
  let engine (host : Option String) : Except Failure (Docker.Engine Unit) :=
    match host with
    | some place => .ok (.absent place)
    | none =>
      if listens.isSome then .ok (.missed .unreachable) else .error (Command.noSocket socket)
  let s : Command.Surroundings Unit := ⟨user, project, engine, Run.Rehearsal.clock, none⟩
  let before ← gather .empty
    [user.path Credentials.file, user.path Settings.file, project.path Settings.file]
  let (outcome, after, ()) := s.call arguments before ()
  settle user Credentials.file before after
  (← IO.getStdout).putStr outcome.output
  (← IO.getStderr).putStr outcome.errors
  pure (UInt32.ofNat outcome.code)

end LogWeave.Main

def main (arguments : List String) : IO UInt32 := LogWeave.Main.call arguments

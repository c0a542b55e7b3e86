import LogWeave.Command.Complaint
import LogWeave.Docker.Client
import LogWeave.Settings.Credentials
import LogWeave.Settings.Layers

/-! The sandbox of the user: logging in to it and out, and how a command finds it.

The token of a login is kept without the blanks around it; a blank one is refused, and what is kept
stays. A new login forgets the host of the one before. Nobody is let through who is not logged in.
Of several hosts the one given with the call comes first, then that of the login, then that of the
settings; without any the local engine is met. -/
namespace LogWeave.Command

namespace Session

def login (f : Files.Folder) (token : String) (host : Option String) (t : Files.Tree) :
    Except Complaint Unit × Files.Tree :=
  let token := Text.trim token
  if token.isEmpty then (.error .blankToken, t)
  else
    let (saved, t) := Credentials.save f ⟨token, host⟩ t
    (Task.saveCredentials.attempt saved, t)

def logout (f : Files.Folder) (t : Files.Tree) : Except Complaint Unit × Files.Tree :=
  match Credentials.clear f t with
  | .ok t => (.ok (), t)
  | .error why => (.error (.during .removeCredentials why), t)

end Session

/-- Where a command is carried out. -/
structure Surroundings (ε : Type) where
  user : Files.Folder
  project : Files.Folder
  /-- The engine at a host, or the local one. -/
  engine : Option String → Except Failure (Docker.Engine ε)
  /-- The times at which lines are received, in order. -/
  clock : Nat → Time.Instant
  /-- The user stops a run when so many lines are shown. -/
  stopAfter : Option Nat

/-- The local engine is not there. -/
def noSocket (path : String) : Failure :=
  .during "connect to sandbox" ("Socket not found: " ++ path)

/-- A part of a command that asks an engine in a state. -/
abbrev Carrying (ε : Type) (α : Type) := ExceptT Complaint (StateM ε) α

/-- Puts a question whose failure names no task. -/
def Carrying.ask {ε α : Type} (question : Docker.Asking ε α) : Carrying ε α := fun e =>
  let (answer, e) := question e
  (plainly answer, e)

/-- Puts a question whose failure names a task. -/
def Carrying.attempt {ε α : Type} (task : Task) (question : Docker.Asking ε α) : Carrying ε α :=
  fun e =>
    let (answer, e) := question e
    (task.attempt answer, e)

namespace Surroundings

variable {ε : Type} (s : Surroundings ε)

/-- The user who is logged in, and their settings. -/
def identify (t : Files.Tree) : Except Complaint (Credentials × Settings) := do
  let who ← Task.readCredentials.attempt (Credentials.load s.user t)
  plainly who.requireLogin
  let settings ← Task.loadSettings.attempt (Settings.load (some s.user) (some s.project) t)
  pure (who, settings)

/-- The host to turn to. -/
def host (given : Option String) (who : Credentials) (settings : Settings) : Option String :=
  (given.or who.host).or settings.host

/-- The way to the services, once the engine has answered. -/
def connect (given : Option String) (who : Credentials) (settings : Settings) :
    Carrying ε (Docker.Client ε) := do
  let engine ← plainly (s.engine (host given who settings))
  let c : Docker.Client ε := ⟨engine, settings.project⟩
  Carrying.attempt .connect c.ping
  pure c

end Surroundings

end LogWeave.Command

import LogWeave.Failure

/-! Why a command came to nothing, as it is told. -/
namespace LogWeave.Command

/-- A part of a command that names itself when it fails. -/
inductive Task where
  | readCredentials
  | saveCredentials
  | removeCredentials
  | loadSettings
  | connect
  deriving DecidableEq, Repr

def Task.message : Task → String
  | readCredentials => "Failed to read credentials"
  | saveCredentials => "Failed to save credentials"
  | removeCredentials => "Failed to remove credentials"
  | loadSettings => "Failed to load config"
  | connect => "Failed to connect to sandbox"

inductive Complaint where
  | blankToken
  | plain (why : Failure)
  | during (task : Task) (why : Failure)
  deriving DecidableEq, Repr

def Complaint.message : Complaint → String
  | blankToken => "The token must not be empty"
  | plain why => why.message
  | during task why => task.message ++ ": " ++ why.message

/-- Names the task in the failure of a part. -/
def Task.attempt {α : Type} (task : Task) (part : Except Failure α) : Except Complaint α :=
  part.mapError (.during task)

/-- The failure of a part that names no task. -/
def plainly {α : Type} (part : Except Failure α) : Except Complaint α := part.mapError .plain

end LogWeave.Command

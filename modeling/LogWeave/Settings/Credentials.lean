import LogWeave.Files.Folder
import LogWeave.Text.Blank

/-! Who the user is, and which sandbox is theirs. -/
namespace LogWeave

structure Credentials where
  token : String
  host : Option String
  deriving DecidableEq, Repr

namespace Credentials

/-- Nobody. -/
def none : Credentials := ⟨"", .none⟩

/-- A token that is blank is none. -/
def isLoggedIn (c : Credentials) : Bool := !(Text.trim c.token).isEmpty

def requireLogin (c : Credentials) : Except Failure Unit :=
  if c.isLoggedIn then .ok () else .error .notLoggedIn

def record : Json.Record Credentials where
  name := "struct AuthStore"
  blank := none
  fields := [
    ⟨"authToken", false, false, fun c => do
      pure { c with token := ← Json.Scalar.anyText }⟩,
    ⟨"sandboxHost", false, true, fun c => do
      pure { c with host := ← Json.Scalar.optional Json.Scalar.anyText }⟩]

def document (c : Credentials) : Json.Value :=
  .object (("authToken", .text c.token) ::
    (c.host.map fun host => ("sandboxHost", Json.Value.text host)).toList)

/-- The file that credentials are kept in. -/
def file : String := "auth.json"

def load (f : Files.Folder) (t : Files.Tree) : Except Failure Credentials :=
  (f.load? file record.reader t).map fun c => c.getD none

def save (f : Files.Folder) (c : Credentials) (t : Files.Tree) :
    Except Failure Unit × Files.Tree :=
  f.save file c.document t

def clear (f : Files.Folder) (t : Files.Tree) : Except Failure Files.Tree :=
  f.remove file t

end Credentials

end LogWeave

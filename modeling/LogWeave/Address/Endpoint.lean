import LogWeave.Address.Host

/-! Where an engine listens, as a user gives it.

A scheme may stand in front of the host, and a path behind it, which is not regarded. -/
namespace LogWeave.Address

structure Endpoint where
  host : Host
  port : Option Nat
  deriving DecidableEq, Repr

namespace Endpoint

/-- A text without the first place where some characters stand in it. -/
def without (gone : List Char) : List Char → List Char
  | [] => []
  | c :: rest =>
    if gone.isPrefixOf (c :: rest) then (c :: rest).drop gone.length else c :: without gone rest

/-- What stands before the first slash: the host, and what goes with it. Slashes in front are not
regarded, so that without a host the path begins with it. -/
def authority (path given : String) : List Char :=
  let given := without "http://".toList (without "tcp://".toList given.toList)
  let text := (given ++ path.toList).filter fun c => !isDropped c
  (text.dropWhile fun c => c == '/' || c == '\\').takeWhile fun c => !endsHost c

/-- What stands behind the last at sign. -/
def withoutUser (text : List Char) : List Char := (parts '@' text).getLastD []

/-- A host and, behind a colon, its port. Colons in brackets do not count. -/
def split : (inside : Bool) → List Char → List Char × Option (List Char)
  | _, [] => ([], none)
  | inside, c :: rest =>
    if c = ':' && !inside then ([], some rest)
    else
      let (host, port) := split (c == '[' || inside && c != ']') rest
      (c :: host, port)

/-- A port below 65536. Without digits there is none. -/
def readPort (digits : List Char) : Except Fault (Option Nat) :=
  match number? 10 digits with
  | some n =>
    if digits.isEmpty then .ok none else if n < 0x10000 then .ok (some n) else .error .port
  | none => .error .port

/-- Whether a host may be named in a request. -/
def isNameable : Host → Bool
  | .name text => !text.any ['"', '`', '\x7b', '\x7d'].contains
  | _ => true

/-- Where the engine listens whose requests begin with a path. -/
def read (path given : String) : Except Fault Endpoint := do
  let (host, port) := split false (withoutUser (authority path given))
  if host.isEmpty then throw .noHost
  let host ← Host.read host
  let port ← readPort (port.getD [])
  unless isNameable host do throw .character
  pure ⟨host, port⟩

end Endpoint

end LogWeave.Address

import LogWeave.Address.Spelling

/-! What a request for a container comes to ask for.

The name of the container is a part of the request's path, where some characters do not count, some
end the path, and dots lead elsewhere. -/
namespace LogWeave.Docker

open Address

inductive Route where
  | container (name : String)
  /-- All containers. -/
  | list
  /-- Nothing that an engine knows. -/
  | elsewhere
  deriving DecidableEq, Repr

namespace Route

/-- The version of requests, with which their paths begin. -/
def version : String := "v1.47"

/-- A version: digits and dots behind a letter. -/
def isVersion (part : List Char) : Bool :=
  match part with
  | 'v' :: c :: rest => (c :: rest).all fun d => d.isDigit || d == '.'
  | _ => false

/-- The parts of a path behind the version, which may be missing. -/
def unversioned (path : List (List Char)) : List (List Char) :=
  match path with
  | part :: rest => if isVersion part then rest else path
  | [] => []

/-- A text between slashes, its bytes spelt out. -/
def joined (parts : List (List Char)) : String :=
  let text := ['/'].intercalate parts
  (spelt? text).getD (String.ofList text)

/-- Where a request for a part of what is known of a container leads. -/
def ofName (part name : String) : Route :=
  let text := (name.toList ++ '/' :: part.toList).filter fun c => !isDropped c
  let start := [version.toList, "containers".toList]
  let path := walk [] (start ++ parts '/' (text.takeWhile fun c => !endsPath c))
  match unversioned path with
  | kind :: rest =>
    match rest.reverse with
    | last :: front =>
      if kind = "containers".toList && last = part.toList then
        if front.isEmpty then list else container (joined front.reverse)
      else elsewhere
    | [] => elsewhere
  | [] => elsewhere

end Route

end LogWeave.Docker

/-! What can go wrong, and how it is told.

A `Failure` names the part of the work that failed; `message` is the one place where its wording
is kept. -/
namespace LogWeave

inductive Failure where
  | config (text : String)
  | notLoggedIn
  | storage (text : String)
  | serviceNotFound (service : String)
  | serviceNotStarted (service : String)
  | transport (text : String)
  | malformedLine (text : String)
  | invalidInput (text : String)
  | io (text : String)
  | json (text : String)
  deriving DecidableEq, Repr

namespace Failure

def message : Failure → String
  | config text => "Configuration error: " ++ text
  | notLoggedIn => "Not logged in. Please run `skiff login`."
  | storage text => "Storage error: " ++ text
  | serviceNotFound service => "Service not found: " ++ service
  | serviceNotStarted service => "Service " ++ service ++ " has never started"
  | transport text => "Transport error: " ++ text
  | malformedLine text => "Malformed log line: " ++ text
  | invalidInput text => "Invalid input: " ++ text
  | io text => "IO error: " ++ text
  | json text => "JSON error: " ++ text

/-- A transport failure met while doing something. -/
def during (doing : String) (text : String) : Failure := transport (doing ++ ": " ++ text)

end Failure

end LogWeave

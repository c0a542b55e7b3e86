import LogWeave.Status.Basic

/-! Services and their statuses as a table.

The column of the statuses begins two characters behind the longest name. Names are measured in
bytes, and filled up by characters. -/
namespace LogWeave.Command.Table

/-- A heading above the names. -/
def heading : String := "SERVICE"

def width (names : List String) : Nat :=
  (names.map String.utf8ByteSize).foldl max heading.utf8ByteSize

/-- A text filled up with blanks. -/
def filled (width : Nat) (text : String) : String :=
  text ++ String.ofList (List.replicate (width - text.length) ' ')

def row (width : Nat) (name status : String) : String := filled width name ++ "  " ++ status

/-- The lines of the table, the heading first. -/
def lines (services : List (String × ServiceStatus)) : List String :=
  let width := width (services.map Prod.fst)
  row width heading "STATUS" ::
    services.map fun (name, status) => row width name (status.phase.color.paint status.describe)

/-- What is shown: the table, if there is anything in it. -/
def text (services : List (String × ServiceStatus)) : String :=
  if services.isEmpty then "No services found.\n"
  else String.join ((lines services).map (· ++ "\n"))

end LogWeave.Command.Table

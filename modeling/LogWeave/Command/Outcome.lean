import LogWeave.Command.Arguments
import LogWeave.Command.Live
import LogWeave.Command.Table

/-! A call of the program: what it shows, how it ends, and what it leaves in the files. -/
namespace LogWeave.Command

/-- What a call shows, and the code it ends with. -/
structure Outcome where
  output : String
  errors : String
  code : Nat
  deriving DecidableEq, Repr

namespace Outcome

def done (output : String) : Outcome := ⟨output, "", 0⟩

/-- A complaint is told after the output. -/
def ofPrinted (p : Live.Printed) : Outcome :=
  match p.outcome with
  | .ok () => done p.text
  | .error why => ⟨p.text, why.message ++ "\n", 1⟩

/-- The program breaks off over a run that cannot begin. What the machine says of it is left out. -/
def ofRun : Option Live.Printed → Outcome
  | some p => ofPrinted p
  | none => ⟨"", "", 101⟩

/-- What a part has to say, or its complaint. -/
def ofPart (part : Except Complaint String) : Outcome :=
  match part with
  | .ok text => done text
  | .error why => ofPrinted ⟨"", .error why⟩

/-- The version of the program. -/
def version : String := "skiff 0.1.0\n"

/-- How the program is called. -/
def usage : String := "Logs and status of your sandbox services

Usage: skiff [OPTIONS] <COMMAND>

Commands:
  logs [-f] [-p] [SERVICE]...  Print the logs of one or more services
  ps                           Show the status of every service
  login --token <TOKEN>        Store the sandbox token (and endpoint, with --host)
  logout                       Forget stored credentials
  help                         Print this message

Options:
  -d, --debug        Enable debug logging
      --host <HOST>  Docker endpoint of the sandbox (overrides login and config)
  -h, --help         Print help
  -V, --version      Print version
"

def ofRefrain : Refrain → Outcome
  | .help => done usage
  | .version => done version
  | .misuse => ⟨"", usage, 2⟩

end Outcome

namespace Surroundings

variable {ε : Type} (s : Surroundings ε)

/-- The table of all services. -/
def table (host : Option String) (t : Files.Tree) : Carrying ε String := do
  let (who, settings) ← s.identify t
  let c ← s.connect host who settings
  pure (Table.text (← .ask c.services))

/-- The logs of services. What is wrong with the request is told before the engine is asked. -/
def logs (services : List String) (follow previous : Bool) (host : Option String)
    (t : Files.Tree) : Carrying ε (Option Live.Printed) := do
  let (who, settings) ← s.identify t
  let r ← plainly (Request.new services (.ofTuning settings.tuning follow previous))
  let c ← s.connect host who settings
  let b ← Live.firstLook c r.services .new
  fun e =>
    let (printed, e) := Live.weave c s r settings.tuning.pollInterval.toNat b e
    (.ok printed, e)

/-- Carries out an order. -/
def carryOut (i : Invocation) (t : Files.Tree) (e : ε) : Outcome × Files.Tree × ε :=
  match i.order with
  | .login token =>
    let (result, t) := Session.login s.user token i.host t
    (.ofPart (result.map fun _ => "Logged in.\n"), t, e)
  | .logout =>
    let (result, t) := Session.logout s.user t
    (.ofPart (result.map fun _ => "Logged out.\n"), t, e)
  | .table =>
    let (result, e) := s.table i.host t e
    (.ofPart result, t, e)
  | .logs services follow previous =>
    match s.logs services follow previous i.host t e with
    | (.ok printed, e) => (.ofRun printed, t, e)
    | (.error why, e) => (.ofPrinted ⟨"", .error why⟩, t, e)

/-- A call with its arguments. -/
def call (arguments : List String) (t : Files.Tree) (e : ε) : Outcome × Files.Tree × ε :=
  match Invocation.read arguments with
  | .ok i => s.carryOut i t e
  | .error refrain => (.ofRefrain refrain, t, e)

end Surroundings

end LogWeave.Command

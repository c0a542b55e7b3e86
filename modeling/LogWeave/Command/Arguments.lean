/-! The words of a call, read as an order.

A call is read from left to right, and the first thing that decides its fate does: a request for
help or for the version, or a misuse. Options may stand before the command they go with if every
command takes them; what is given behind the command goes first. That a setting is given twice is
noticed when the next argument of its level is read, so a command that asks for help comes before
a setting repeated just in front of it. -/
namespace LogWeave.Command

/-- What is to be done. -/
inductive Order where
  | logs (services : List String) (follow previous : Bool)
  /-- Shows all services. -/
  | table
  | login (token : String)
  | logout
  deriving DecidableEq, Repr

/-- An order, and the host given with it. -/
structure Invocation where
  order : Order
  host : Option String
  deriving DecidableEq, Repr

/-- Why a call comes to no order. -/
inductive Refrain where
  | help
  | version
  | misuse
  deriving DecidableEq, Repr

/-- Options without a value. -/
inductive Switch where
  /-- Asks for diagnostics, which no command has. -/
  | debug
  | help
  | version
  | follow
  | previous
  deriving DecidableEq, Repr

/-- Options with a value. -/
inductive Setting where
  | host
  | token
  deriving DecidableEq, Repr

/-- What may stand where no option does. -/
inductive Words where
  /-- The name of a command, which ends the options before it. -/
  | command
  | none
  | any
  deriving DecidableEq, Repr

/-- One argument by its shape. -/
inductive Argument where
  | word
  /-- Two dashes: no option follows. -/
  | divider
  | long (name : String) (value : Option String)
  | letters (names : List Char)
  deriving DecidableEq, Repr

/-- The name before the first equals sign and the value after it. -/
def Argument.ofLong (cs : List Char) : Argument :=
  match cs.dropWhile (· != '=') with
  | [] => long (String.ofList cs) none
  | _ :: value => long (String.ofList (cs.takeWhile (· != '='))) (some (String.ofList value))

/-- A dash alone is a word. -/
def Argument.of (s : String) : Argument :=
  match s.toList with
  | ['-', '-'] => divider
  | '-' :: '-' :: cs => ofLong cs
  | '-' :: c :: cs => letters (c :: cs)
  | _ => word

/-- What has been given so far. -/
structure Given where
  switches : List Switch
  settings : List (Setting × String)
  words : List String
  deriving DecidableEq, Repr

namespace Given

def none : Given := ⟨[], [], []⟩

def has (g : Given) (s : Switch) : Bool := g.switches.contains s

def get? (g : Given) (s : Setting) : Option String := g.settings.lookup s

/-- A switch is given once. -/
def turn (g : Given) : Switch → Except Refrain Given
  | .help => .error .help
  | .version => .error .version
  | s => if g.has s then .error .misuse else .ok { g with switches := s :: g.switches }

def set (g : Given) (s : Setting) (value : String) : Given :=
  { g with settings := (s, value) :: g.settings }

/-- A setting is given once. -/
def settled (g : Given) : Except Refrain Given :=
  if (g.settings.map Prod.fst).Nodup then .ok g else .error .misuse

end Given

/-- The options that may be given at one place of a call. -/
structure Level where
  switches : List (Char × String × Switch)
  settings : List (String × Setting)
  words : Words

namespace Level

/-- Options that go with every command. -/
def common (words : Words) : Level where
  switches := [('d', "debug", .debug), ('h', "help", .help)]
  settings := [("host", .host)]
  words

/-- Before the command. -/
def top : Level :=
  let l := common .command
  { l with switches := ('V', "version", .version) :: l.switches }

def logs : Level :=
  let l := common .any
  { l with switches := ('f', "follow", .follow) :: ('p', "previous", .previous) :: l.switches }

def login : Level :=
  let l := common .none
  { l with settings := ("token", .token) :: l.settings }

/-- The switches that letters stand for, one after the other. -/
def turnLetters (l : Level) : Given → List Char → Except Refrain Given
  | g, [] => .ok g
  | g, c :: rest =>
    match l.switches.find? (·.1 == c) with
    | some (_, _, s) => do l.turnLetters (← g.turn s) rest
    | none => .error .misuse

/-- A switch by its name. It takes no value. -/
def turnNamed (l : Level) (g : Given) (name : String) (value : Option String) :
    Except Refrain Given :=
  match l.switches.find? (·.2.1 == name), value with
  | some (_, _, s), none => g.turn s
  | _, _ => .error .misuse

/-- What stands behind a divider is words. -/
def divide (l : Level) (g : Given) (rest : List String) : Except Refrain Given :=
  match l.words, rest with
  | .any, _ => .ok { g with words := g.words ++ rest }
  | .none, [] => .ok g
  | _, _ => .error .misuse

/-- Reads options and words. What begins with the name of a command is left over, and what was
given up to there may have to be settled still. -/
def read (l : Level) (g : Given) : List String → Except Refrain (Given × List String)
  | [] => do pure (← g.settled, [])
  | a :: rest =>
    match Argument.of a with
    | .word =>
      match l.words with
      | .command => .ok (g, a :: rest)
      | .none => .error .misuse
      | .any => do
        let g ← g.settled
        l.read { g with words := g.words ++ [a] } rest
    | .divider => do pure (← l.divide (← g.settled) rest, [])
    | .letters names => do l.read (← l.turnLetters (← g.settled) names) rest
    | .long name value => do
      let g ← g.settled
      match l.settings.lookup name, value with
      | some s, some value => l.read (← (g.set s value).settled) rest
      | some s, none =>
        match rest with
        | value :: rest =>
          if Argument.of value = .word then l.read (g.set s value) rest else .error .misuse
        | [] => .error .misuse
      | none, _ => l.read (← l.turnNamed g name value) rest

end Level

/-- Names of commands. -/
def names : List String := ["logs", "ps", "login", "logout", "help"]

/-- Help may be asked for on one command. -/
def readHelp : List String → Refrain
  | [] => .help
  | [name] => if names.contains name then .help else .misuse
  | _ => .misuse

/-- The order of a command, read off what follows its name. -/
def readOrder (name : String) (rest : List String) : Except Refrain (Order × Given) :=
  match name with
  | "logs" => do
    let (g, _) ← Level.logs.read .none rest
    pure (.logs g.words (g.has .follow) (g.has .previous), g)
  | "ps" => do
    let (g, _) ← (Level.common .none).read .none rest
    pure (.table, g)
  | "login" => do
    let (g, _) ← Level.login.read .none rest
    match g.get? .token with
    | some token => pure (.login token, g)
    | none => .error .misuse
  | "logout" => do
    let (g, _) ← (Level.common .none).read .none rest
    pure (.logout, g)
  | "help" => .error (readHelp rest)
  | _ => .error .misuse

def Invocation.read (arguments : List String) : Except Refrain Invocation := do
  match ← Level.top.read .none arguments with
  | (_, []) => .error .misuse
  | (before, name :: rest) =>
    let (order, g) ← readOrder name rest
    let before ← before.settled
    pure ⟨order, (g.get? .host).or (before.get? .host)⟩

end LogWeave.Command

import BuildAlign.Text.Cut

/-!
Reading the arguments of a command. Long options come with a value in the same argument, after an
equals sign, or in the next one, which must not look like an option; two dashes end the options. An
option that is not repeatable may be given once. The first mistake ends the reading, and so does a
request for the name of the program.
-/

namespace BuildAlign

inductive OptionArity where
  | flag
  | single
  | repeated
  deriving DecidableEq, Repr

structure OptionSpec where
  name : String
  arity : OptionArity
  /-- Whether a text is a value of the option. -/
  accepts : String → Bool := fun _ => true

structure CommandSpec where
  /-- The name that is given on request. -/
  title : String
  options : List OptionSpec
  /-- How many arguments there may be besides options. -/
  positionals : Nat

/-- Why the reading ends early. -/
inductive ArgumentStop where
  | usage
  | title (name : String)
  | help
  deriving DecidableEq, Repr

/-- The arguments read: options with their values in order, and the other arguments. -/
structure Arguments where
  options : List (String × String) := []
  positionals : List String := []
  deriving DecidableEq, Repr

namespace Arguments

def has (a : Arguments) (name : String) : Bool :=
  a.options.any (·.1 == name)

def value? (a : Arguments) (name : String) : Option String :=
  (a.options.find? (·.1 == name)).map Prod.snd

def values (a : Arguments) (name : String) : List String :=
  (a.options.filter (·.1 == name)).map Prod.snd

/-- Adds a value of an option, which must be acceptable. -/
def store (a : Arguments) (spec : OptionSpec) (value : String) : Except ArgumentStop Arguments :=
  if (spec.arity != .repeated && a.has spec.name) || !spec.accepts value then .error .usage
  else .ok { a with options := a.options ++ [(spec.name, value)] }

end Arguments

/-- The reading so far. An option whose value comes in the next argument waits for it, and its value
is not looked at before the argument after that. -/
structure ArgumentState where
  arguments : Arguments := {}
  waiting : Option (OptionSpec × Option String) := none
  onlyPositionals : Bool := false

namespace ArgumentState

/-- Stores the option that waits; without a value it is a mistake. -/
def settle (s : ArgumentState) : Except ArgumentStop ArgumentState :=
  match s.waiting with
  | none => .ok s
  | some (_, none) => .error .usage
  | some (spec, some value) =>
    (s.arguments.store spec value).map fun arguments => { s with arguments, waiting := none }

def store (s : ArgumentState) (spec : OptionSpec) (value : String) :
    Except ArgumentStop ArgumentState := do
  let s ← s.settle
  let arguments ← s.arguments.store spec value
  return { s with arguments }

def readLong (command : CommandSpec) (s : ArgumentState) (body : List Char) :
    Except ArgumentStop ArgumentState :=
  let (name, value) :=
    match Text.cutFirst? ['='] body with
    | some (name, value) => (String.ofList name, some (String.ofList value))
    | none => (String.ofList body, none)
  match command.options.find? (·.name == name), value with
  | some spec, value =>
    match spec.arity, value with
    | .flag, none => s.store spec ""
    | .flag, some _ => .error .usage
    | _, some value => s.store spec value
    | _, none => s.settle.map fun s => { s with waiting := some (spec, none) }
  | none, none =>
    if name = "version" then s.settle.bind fun _ => .error (.title command.title)
    else if name = "help" then s.settle.bind fun _ => .error .help
    else .error .usage
  | none, some _ => .error .usage

def readShort (command : CommandSpec) (s : ArgumentState) (letter : Char) :
    Except ArgumentStop ArgumentState :=
  if letter == 'V' then s.settle.bind fun _ => .error (.title command.title)
  else if letter == 'h' then s.settle.bind fun _ => .error .help
  else .error .usage

/-- Whether an argument is a plain one: a value, a command or a positional argument. -/
def isPlain (s : ArgumentState) (argument : String) : Bool :=
  s.onlyPositionals || argument = "-" || argument.toList.head? != some '-'

def wantsValue (s : ArgumentState) : Bool :=
  !s.onlyPositionals && s.waiting.any (·.2.isNone)

def readOption (command : CommandSpec) (s : ArgumentState) (argument : String) :
    Except ArgumentStop ArgumentState :=
  match argument.toList with
  | ['-', '-'] => .ok { s with onlyPositionals := true }
  | '-' :: '-' :: body => readLong command s body
  | '-' :: letter :: _ => readShort command s letter
  | _ => .error .usage

/-- Gives the option that waits its value. -/
def giveValue (s : ArgumentState) (value : String) : ArgumentState :=
  { s with waiting := s.waiting.map fun (spec, _) => (spec, some value) }

def readPositional (command : CommandSpec) (s : ArgumentState) (argument : String) :
    Except ArgumentStop ArgumentState := do
  let s ← s.settle
  if s.arguments.positionals.length < command.positionals then
    return { s with
      arguments := { s.arguments with positionals := s.arguments.positionals ++ [argument] } }
  else throw .usage

def read (command : CommandSpec) (s : ArgumentState) (argument : String) :
    Except ArgumentStop ArgumentState :=
  if !s.isPlain argument then readOption command s argument
  else if s.wantsValue then .ok (s.giveValue argument)
  else readPositional command s argument

end ArgumentState

def Arguments.read (command : CommandSpec) (arguments : List String) :
    Except ArgumentStop Arguments := do
  let s ← arguments.foldlM (ArgumentState.read command) {}
  return (← s.settle).arguments

/-- Reads the arguments in front of a subcommand: the state then, the name of the subcommand and its
arguments. -/
def ArgumentState.readToSubcommand (command : CommandSpec) (subcommands : List String) :
    ArgumentState → List String → Except ArgumentStop (ArgumentState × String × List String)
  | _, [] => .error .usage
  | s, argument :: rest =>
    if !s.isPlain argument then do
      readToSubcommand command subcommands (← s.readOption command argument) rest
    else if s.wantsValue then readToSubcommand command subcommands (s.giveValue argument) rest
    else if s.onlyPositionals then .error .usage
    else if argument = "help" then .error .help
    else if subcommands.contains argument then .ok (s, argument, rest)
    else .error .usage

end BuildAlign

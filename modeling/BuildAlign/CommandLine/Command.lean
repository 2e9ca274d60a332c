import BuildAlign.CommandLine.Arguments
import BuildAlign.CommandLine.Format
import BuildAlign.Text.Blank
import BuildAlign.Versioning.Policy

/-!
The commands of the program: aligning a reactor, rebuilding one version, and writing a request to
the alignment service. A command is read from the arguments and from the environment, which can
name the configuration file.
-/

namespace BuildAlign

def programName : String :=
  "realign"

def programVersion : String :=
  "0.3.0"

def defaultConfigPath : String :=
  "realign.toml"

/-- The variable that names the configuration file. -/
def configVariable : String :=
  "REALIGN_CONFIG"

structure AlignCommand where
  reactor : String
  bom : Option String
  rest : Option String
  /-- Named extra sources with their files. -/
  extra : List (String × String)
  candidates : Option String
  properties : Option String
  config : String
  format : OutputFormat
  output : Option String
  deriving DecidableEq, Repr

structure VersionCommand where
  present : String
  policy : VersionPolicy
  candidates : List String
  osgi : Bool
  deriving DecidableEq, Repr

structure RequestCommand where
  reactor : String
  config : String
  deriving DecidableEq, Repr

inductive Command where
  | align (c : AlignCommand)
  | version (c : VersionCommand)
  | restRequest (c : RequestCommand)
  deriving DecidableEq, Repr

abbrev Environment := String → Option String

namespace Command

/-- The name and the release of a part of the program, as it is given on request. -/
def title (part : String) : String :=
  programName ++ part ++ " " ++ programVersion

def isPath (s : String) : Bool :=
  !s.isEmpty

def namedPath? (s : String) : Option (String × String) := do
  let (name, path) ← Text.cutFirst? ['='] s.toList
  let name ← Text.nonBlank? (String.ofList name)
  let path ← Text.nonBlank? (String.ofList path)
  some (name, path)

def logOption : OptionSpec where
  name := "log-format"
  arity := .single
  accepts := fun s => (LogFormat.parse s).isOk

def pathOption (name : String) : OptionSpec :=
  { name, arity := .single, accepts := isPath }

/-- What may stand in front of a command. -/
def programSpec : CommandSpec where
  title := title ""
  options := [logOption]
  positionals := 0

def alignSpec : CommandSpec where
  title := title "-align"
  options :=
    ["reactor", "bom", "rest", "candidates", "properties", "config", "output"].map pathOption
      ++ [{ name := "extra-bom", arity := .repeated, accepts := fun s => (namedPath? s).isSome },
        { name := "format", arity := .single, accepts := fun s => (OutputFormat.parse? s).isSome },
        logOption]
  positionals := 0

def versionSpec : CommandSpec where
  title := title "-version"
  options :=
    [{ name := "suffix", arity := .single }, { name := "incremental", arity := .single },
      { name := "override", arity := .single }, { name := "candidate", arity := .repeated },
      { name := "preserve-snapshot", arity := .flag }, { name := "osgi", arity := .flag },
      logOption]
  positionals := 1

def requestSpec : CommandSpec where
  title := title "-rest-request"
  options := ["reactor", "config"].map pathOption ++ [logOption]
  positionals := 0

/-- An argument that has to be there. -/
def required {α : Type} : Option α → Except ArgumentStop α
  | some a => .ok a
  | none => .error .usage

/-- The configuration file: from the arguments, from the environment, or the default one. -/
def configPath (a : Arguments) (env : Environment) : Except ArgumentStop String :=
  match (a.value? "config").or (env configVariable) with
  | none => .ok defaultConfigPath
  | some path => if isPath path then .ok path else .error .usage

def readAlign (env : Environment) (arguments : List String) :
    Except ArgumentStop AlignCommand := do
  let a ← Arguments.read alignSpec arguments
  let config ← configPath a env
  let reactor ← required (a.value? "reactor")
  return {
    reactor, config
    bom := a.value? "bom"
    rest := a.value? "rest"
    extra := (a.values "extra-bom").filterMap namedPath?
    candidates := a.value? "candidates"
    properties := a.value? "properties"
    format := ((a.value? "format").bind OutputFormat.parse?).getD .text
    output := a.value? "output" }

def readVersion (arguments : List String) : Except ArgumentStop VersionCommand := do
  let a ← Arguments.read versionSpec arguments
  let present ← required a.positionals.head?
  if a.has "suffix" && a.has "incremental" then throw .usage
  return {
    present
    policy := {
      override := a.value? "override"
      suffix :=
        match a.value? "suffix", a.value? "incremental" with
        | some s, _ => .fixed s
        | none, some s => .incremental s
        | none, none => .none
      keepSnapshot := a.has "preserve-snapshot" }
    candidates := a.values "candidate"
    osgi := a.has "osgi" }

def readRequest (env : Environment) (arguments : List String) :
    Except ArgumentStop RequestCommand := do
  let a ← Arguments.read requestSpec arguments
  let config ← configPath a env
  let reactor ← required (a.value? "reactor")
  return { reactor, config }

def readNamed (env : Environment) (name : String) (arguments : List String) :
    Except ArgumentStop Command :=
  if name = "align" then (readAlign env arguments).map align
  else if name = "version" then (readVersion arguments).map version
  else if name = "rest-request" then (readRequest env arguments).map restRequest
  else .error .usage

def names : List String :=
  ["align", "version", "rest-request"]

def read (env : Environment) (arguments : List String) : Except ArgumentStop Command := do
  let (s, name, rest) ← ArgumentState.readToSubcommand programSpec names {} arguments
  let command ← readNamed env name rest
  let _ ← s.settle
  return command

end Command

end BuildAlign

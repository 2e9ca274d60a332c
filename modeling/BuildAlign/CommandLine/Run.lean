import BuildAlign.CommandLine.Command
import BuildAlign.CommandLine.Files
import BuildAlign.Config.Read
import BuildAlign.Json.Write
import BuildAlign.Override.Snapshot
import BuildAlign.Pass
import BuildAlign.Reactor.Json
import BuildAlign.Report.Json
import BuildAlign.Service.Response

/-!
Running commands. A command reads its files in a fixed order and stops at the first that it cannot
use; nothing is written before everything is read and the pass has succeeded.
-/

namespace BuildAlign

/-- Why a command fails: what failed, and the cause if it lies deeper. -/
structure Failure where
  context : String
  cause : Option String := none
  deriving DecidableEq, Repr

/-- The lines of a text with four blanks in front of each. -/
def indented (s : String) : String :=
  "\n".intercalate ((s.toList.splitOn '\n').map fun line => "    " ++ String.ofList line)

def Failure.message (f : Failure) : String :=
  "Error: " ++ f.context
    ++ (match f.cause with
      | some cause => "\n\nCaused by:\n" ++ indented cause
      | none => "")
    ++ "\n"

/-- How a run of the program ends: its exit code and what it writes. -/
structure Ending where
  code : Nat
  out : String := ""
  err : String := ""
  deriving DecidableEq, Repr

namespace CommandLine

variable {m : Type → Type} [Monad m]

/-- A step of a command: it may fail, and it may abort the run. -/
abbrev Run (m : Type → Type) := ExceptT Failure (OptionT m)

/-- Goes on with a value, or fails. -/
def orFail {α ε : Type} (failure : ε → Failure) : Except ε α → Run m α
  | .ok a => pure a
  | .error e => throw (failure e)

/-- Goes on with a value, or aborts the run. -/
def orAbort {α : Type} (value : Option α) : Run m α :=
  ExceptT.lift (OptionT.mk (pure value))

def system {α : Type} (action : m α) : Run m α :=
  ExceptT.lift (OptionT.lift action)

/-- Reads a file; the failure names what it is for. -/
def readFile (files : Files m) (what path : String) : Run m String := do
  let answer ← system (files.read path)
  orFail (fun e => { context := "Failed to read " ++ what ++ " " ++ path, cause := e.message })
    answer

def readJson {α : Type} (files : Files m) (what path : String)
    (decode : Json → Option (Except String α)) : Run m α := do
  let text ← readFile files what path
  orFail
    (fun cause => { context := "Failed to parse " ++ what ++ " " ++ path, cause := some cause })
    (((Json.read? text).bind decode).getD (.error "unexpected content"))

/-- Reads the configuration; without the file, everything has its default. -/
def readConfig (files : Files m) (path : String) : Run m Config := do
  match ← system (files.read path) with
  | .error .notFound => return {}
  | .error e => throw { context := path ++ ": could not read file: " ++ e.message }
  | .ok text =>
    orFail (fun line => { context := path ++ ": line " ++ toString line ++ ": invalid setting" })
      (Config.parse text)

def readReactor (files : Files m) (path : String) : Run m Reactor :=
  readJson files "reactor snapshot" path fun x =>
    (Reactor.ofJson? x).map fun r => r.mapError fun e => (AlignError.invalidReactor e).message

def readOverrides (files : Files m) (source : OverrideSource) (path : String) :
    Run m OverrideMap := do
  let snapshot ← readJson files "override file" path fun x =>
    (OverrideSnapshot.ofJson? x).map Except.ok
  orFail (fun e => { context := "Invalid overrides in " ++ path, cause := some e.message })
    (snapshot.toMap source)

def readExtra (files : Files m) (extra : List (String × String)) :
    Run m (Table String OverrideMap) :=
  extra.foldlM
    (fun known (name, path) => do
      return known.insert name (← readOverrides files (.extra name) path))
    ∅

def readCandidates (files : Files m) (path : String) : Run m (Table Artifact (KeySet String)) := do
  let entries ← readJson files "candidate file" path fun x =>
    (Json.tableOf? (Json.listOf? Json.text?) x).map Except.ok
  entries.entries.foldlM
    (fun known (text, versions) => do
      let artifact ← orFail
        (fun e => { context := "Invalid GA '" ++ text ++ "' in " ++ path, cause := some e.message })
        (Artifact.parse text)
      return known.insert artifact (KeySet.ofList versions))
    ∅

def readAnswers (files : Files m) (path : String) : Run m (List ServiceMatch) := do
  let body ← readFile files "REST response" path
  match ServiceMatch.parse? body with
  | some answers => return answers
  | none =>
    throw {
      context := "alignment service response is not a list of GAV objects: unexpected content."
        ++ "\n  To fix: check the service URL and that it answers with JSON"
      cause := some "unexpected content" }

/-- Reads something if a file is named for it. -/
def readOptional {α : Type} (read : String → Run m α) (default : α) : Option String → Run m α
  | some path => read path
  | none => pure default

def printed (format : OutputFormat) (report : Report) : String :=
  match format with
  | .text => report.text
  | .json => report.toJson.pretty ++ "\n"

def withAnswers (known : Table Artifact (KeySet String)) (answers : List ServiceMatch)
    (r : Reactor) : Table Artifact (KeySet String) :=
  (ServiceMatch.published answers r).entries.foldl
    (fun known (artifact, versions) => ServiceMatch.publish known artifact versions.keys) known

def runAlign (files : Files m) (c : AlignCommand) : Run m String := do
  let config ← readConfig files c.config
  let reactor ← readReactor files c.reactor
  let bom ← readOptional (readOverrides files .bom) ∅ c.bom
  let extra ← readExtra files c.extra
  let candidates ← readOptional (readCandidates files) ∅ c.candidates
  let answers ← readOptional (readAnswers files) [] c.rest
  let properties ← readOptional
    (fun path => readJson files "property file" path fun x =>
      (Json.tableOf? Json.text? x).map Except.ok)
    ∅ c.properties
  let inputs : PassInputs :=
    { sources := { bom, rest := ServiceMatch.overrides answers reactor, extra }
      candidates := .ofSets (withAnswers candidates answers reactor)
      properties }
  let result ← orFail (fun e => { context := e.message })
    (← orAbort (align? config inputs reactor).run)
  if let some path := c.output then
    let answer ← system (files.write path (result.reactor.toJson.pretty ++ "\n"))
    orFail (fun e => { context := "Failed to write " ++ path, cause := some e.message }) answer
  return printed c.format result.report

def runVersion (c : VersionCommand) : Run m String := do
  let v ← orAbort (c.policy.rebuild? c.present c.candidates)
  return (← orAbort (v.renderAs? c.osgi)) ++ "\n"

def runRequest (files : Files m) (c : RequestCommand) : Run m String := do
  let config ← readConfig files c.config
  let reactor ← readReactor files c.reactor
  let request ← orAbort (ServiceRequest.toJson? reactor config.versioning.keepSnapshot)
  return request.pretty ++ "\n"

def runCommand (files : Files m) : Command → Run m String
  | .align c => runAlign files c
  | .version c => runVersion c
  | .restRequest c => runRequest files c

/-- How the program ends when its arguments are no command. -/
def stopped : ArgumentStop → Ending
  | .usage => { code := 2, err := "error: see '" ++ programName ++ " --help'\n" }
  | .title name => { code := 0, out := name ++ "\n" }
  | .help => { code := 0, out := "Usage: " ++ programName ++ " <command> [options]\n" }

/-- The exit code that a shell gives for a run that was aborted. -/
def abortCode : Nat :=
  134

/-- Runs the program. A failure is exit code 1, and arguments that are no command are exit code 2.
-/
def run (files : Files m) (env : Environment) (arguments : List String) : m Ending := do
  match Command.read env arguments with
  | .error stop => return stopped stop
  | .ok command =>
    match ← (runCommand files command).run.run with
    | some (.ok out) => return { code := 0, out }
    | some (.error failure) => return { code := 1, err := failure.message }
    | none => return { code := abortCode }

end CommandLine

end BuildAlign

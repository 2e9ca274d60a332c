/-!
The formats of the log and of reports, by the words for them.
-/

namespace BuildAlign

inductive LogFormat where
  | human
  | json
  deriving DecidableEq, Repr

namespace LogFormat

def word : LogFormat → String
  | human => "human"
  | json => "json"

def parse : String → Except String LogFormat
  | "human" | "text" => .ok human
  | "json" => .ok json
  | other => .error ("unknown log format `" ++ other ++ "` (expected `human` or `json`)")

end LogFormat

inductive OutputFormat where
  | text
  | json
  deriving DecidableEq, Repr

/-- Reads a format, in any letter case. -/
def OutputFormat.parse? (s : String) : Option OutputFormat :=
  match s.toLower with
  | "text" => some text
  | "json" => some json
  | _ => none

end BuildAlign

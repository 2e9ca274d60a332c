import BuildAlign.Config.Decode
import BuildAlign.Toml.Read

/-!
Reading configurations, from a text or from a JSON value of the same structure.
-/

namespace BuildAlign.Config

/-- Reads a configuration text; a faulty one gives the line of the first mistake. -/
def parse (source : String) : Except Nat Config :=
  (Toml.read source).bind decode

def ofJson? (x : Json) : Option Config :=
  (decode (Tree.ofJson x)).toOption

end BuildAlign.Config

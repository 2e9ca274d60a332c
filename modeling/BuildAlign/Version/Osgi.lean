import BuildAlign.Version.Basic

/-!
The OSGi form of a version: at most three numeric segments and one qualifier segment. What follows
the third segment becomes the qualifier, with every character outside letters, digits, underscore
and dash replaced by an underscore; missing numeric segments are zero when there is a qualifier.
-/

namespace BuildAlign.Version

def osgiChar (c : Char) : Char :=
  if c.isAlphanum || c == '_' || c == '-' then c else '_'

def dropSeparator : List Char → List Char
  | [] => []
  | c :: s => if isSeparator c then s else c :: s

/-- The OSGi form of a version with a numeric core, from the whole of its text. -/
def osgiOf (v : Version) (full : List Char) : List Char :=
  let kept := v.core.take 3
  let numeric := joinSegments kept
  let qualifier := (dropSeparator (full.drop numeric.length)).map osgiChar
  if qualifier = [] then numeric
  else joinSegments (kept ++ List.replicate (3 - kept.length) ['0']) ++ '.' :: qualifier

/-- The OSGi form. A version without a numeric core has none and stays as it is. -/
def osgiChars (v : Version) : List Char :=
  if v.core = [] then v.chars else v.osgiOf v.chars

def renderOsgi (v : Version) : String :=
  String.ofList v.osgiChars

/-- The text of a version, in OSGi form if asked. -/
def renderAs (v : Version) (osgi : Bool) : String :=
  if osgi then v.renderOsgi else v.render

/-- Writes the OSGi form. It is made of the plain form, which is written first. -/
def osgiChars? (v : Version) : Option (List Char) :=
  if v.core = [] then v.chars? else v.chars?.map v.osgiOf

def renderOsgi? (v : Version) : Option String :=
  v.osgiChars?.map String.ofList

def renderAs? (v : Version) (osgi : Bool) : Option String :=
  if osgi then v.renderOsgi? else v.render?

end BuildAlign.Version

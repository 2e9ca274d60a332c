import BuildAlign.Progress

/-!
The injection of properties: given values are written to the main properties of the module that the
build starts from, the first one.
-/

namespace BuildAlign

namespace PropertyInjection

/-- Sets one property of the first module, which the report names by the given artifact. A value
that it has already is no edit. -/
def inject (artifact : Artifact) (p : Progress) (item : String × String) : Progress :=
  let (name, value) := item
  let old := (p.reactor.module 0).property? .main name
  if old = some value then p
  else
    p.edit (p.reactor.setProperty 0 .main name value) 0 artifact (.property name) old (some value)

/-- Sets all given properties, by name. The report names the module by its artifact as it is before
the first of them. -/
def run (properties : Properties) (p : Progress) : Progress :=
  properties.entries.foldl (inject (p.reactor.artifact 0)) p

end PropertyInjection

end BuildAlign

import BuildAlign.Config.Basic
import BuildAlign.Config.Tree

/-!
What configuration trees mean. Every setting has a default; a table must not hold anything else than
settings. The first mistake, in the order of the text, is the error, and it is given as the line of
the key that is not known or of the value that does not fit.
-/

namespace BuildAlign

/-- A decoded value, or the line of the first mistake. -/
abbrev Decoded := Except Nat

namespace Tree

def text? : Tree → Decoded String
  | text _ value => .ok value
  | x => .error x.line

def optionalText? : Tree → Decoded (Option String)
  | text _ value => .ok (some value)
  | null _ => .ok none
  | x => .error x.line

def flag? : Tree → Decoded Bool
  | flag _ value => .ok value
  | x => .error x.line

def list? {α : Type} (read : Tree → Decoded α) : Tree → Decoded (List α)
  | list _ items => items.mapM read
  | x => .error x.line

def word? {α : Type} (all : List α) (word : α → String) : Tree → Decoded α
  | text line value =>
    match all.find? fun a => word a == value with
    | some a => .ok a
    | none => .error line
  | x => .error x.line

/-- Reads a table entry after entry, each by its key. The entries may also be a list, in the order
of the given names. -/
def entries? {α : Type} (names : List String) (default : α)
    (read : α → String → Tree → Option (Decoded α)) (x : Tree) : Decoded α :=
  let visit (a : α) (e : String × Nat × Tree) : Decoded α :=
    (read a e.1 e.2.2).getD (.error e.2.1)
  match x with
  | table _ entries => entries.foldlM visit default
  | list line items =>
    if items.length ≤ names.length then
      (names.zip (items.map fun x => (x.line, x))).foldlM visit default
    else .error line
  | x => .error x.line

end Tree

namespace VersioningConfig

def decode : Tree → Decoded VersioningConfig :=
  Tree.entries? ["override", "suffix", "incremental_suffix", "preserve_snapshot", "osgi"] {}
    fun c name x =>
      match name with
      | "override" => some (x.optionalText?.map fun v => { c with override := v })
      | "suffix" => some (x.optionalText?.map fun v => { c with suffix := v })
      | "incremental_suffix" =>
        some (x.optionalText?.map fun v => { c with incrementalSuffix := v })
      | "preserve_snapshot" => some (x.flag?.map fun v => { c with keepSnapshot := v })
      | "osgi" => some (x.flag?.map fun v => { c with osgi := v })
      | _ => none

end VersioningConfig

namespace StrictConfig

def decode : Tree → Decoded StrictConfig :=
  Tree.entries? ["enabled", "fail_on_violation", "ignore_suffix", "rebuild_suffix", "pattern"] {}
    fun c name x =>
      match name with
      | "enabled" => some (x.flag?.map fun v => { c with enabled := v })
      | "fail_on_violation" => some (x.flag?.map fun v => { c with failOnViolation := v })
      | "ignore_suffix" => some (x.flag?.map fun v => { c with ignoreSuffix := v })
      | "rebuild_suffix" => some (x.optionalText?.map fun v => { c with rebuildSuffix := v })
      | "pattern" => some (x.optionalText?.map fun v => { c with pattern := v })
      | _ => none

end StrictConfig

namespace RuleConfig

structure Fields where
  target : Option String := none
  module : Option String := none
  version : Option String := none

/-- Reads a rule. The target and the version must be there. -/
def decode (x : Tree) : Decoded RuleConfig := do
  let fields ← x.entries? ["target", "module", "version"] ({} : Fields) fun f name x =>
    match name with
    | "target" => some (x.text?.map fun v => { f with target := some v })
    | "module" => some (x.optionalText?.map fun v => { f with module := v })
    | "version" => some (x.text?.map fun v => { f with version := some v })
    | _ => none
  match fields.target, fields.version with
  | some target, some version => return { target, module := fields.module, version }
  | _, _ => throw x.line

end RuleConfig

namespace AlignmentConfig

def decode : Tree → Decoded AlignmentConfig :=
  Tree.entries?
    ["precedence", "override_transitive", "enforce_project_version", "fail_on_property_clash",
      "property_validation", "strict", "overrides"] {}
    fun c name x =>
      match name with
      | "precedence" =>
        some ((x.word? Precedence.all Precedence.word).map fun v => { c with precedence := v })
      | "override_transitive" => some (x.flag?.map fun v => { c with overrideTransitive := v })
      | "enforce_project_version" =>
        some (x.flag?.map fun v => { c with enforceProjectVersion := v })
      | "fail_on_property_clash" =>
        some (x.flag?.map fun v => { c with failOnPropertyClash := v })
      | "property_validation" =>
        some ((x.word? ValidationLevel.all ValidationLevel.word).map fun v =>
          { c with propertyValidation := v })
      | "strict" => some ((StrictConfig.decode x).map fun v => { c with strict := v })
      | "overrides" => some ((x.list? RuleConfig.decode).map fun v => { c with overrides := v })
      | _ => none

end AlignmentConfig

namespace RemovalConfig

def decode : Tree → Decoded RemovalConfig :=
  Tree.entries? ["plugins", "profiles"] {} fun c name x =>
    match name with
    | "plugins" => some ((x.list? Tree.text?).map fun v => { c with plugins := v })
    | "profiles" => some ((x.list? Tree.text?).map fun v => { c with profiles := v })
    | _ => none

end RemovalConfig

namespace Stage

def decodeAll : Tree → Decoded (List Stage) :=
  Tree.entries? ["stages"] Stage.all fun _ name x =>
    match name with
    | "stages" => some (x.list? fun x => x.word? Stage.all Stage.word)
    | _ => none

end Stage

def Config.decode : Tree → Decoded Config :=
  Tree.entries? ["versioning", "alignment", "removal", "pipeline"] {} fun c name x =>
    match name with
    | "versioning" => some ((VersioningConfig.decode x).map fun v => { c with versioning := v })
    | "alignment" => some ((AlignmentConfig.decode x).map fun v => { c with alignment := v })
    | "removal" => some ((RemovalConfig.decode x).map fun v => { c with removal := v })
    | "pipeline" => some ((Stage.decodeAll x).map fun v => { c with stages := v })
    | _ => none

end BuildAlign

import BuildAlign.Override.Snapshot
import BuildAlign.Proofs.Alignment.Sourced

/-!
Which versions are never blank. Every version and every value that a run writes into a body has a
character that is not blank: candidates and forced versions are trimmed and left out if nothing is
left of them, and a text that is spliced ends as its target does. The version of a declared parent
is written as a rule gives it, and so is blank exactly if a rule takes a blank one from an extra
source.
-/

namespace BuildAlign

/-! ## Versions of rules -/

/-- A rule that was read forces no blank version, and refers to an extra source that there is. -/
structure Rule.Verdict.Read (extra : Table String OverrideMap) (v : Rule.Verdict) : Prop where
  forced : ∀ version, v = .force version → Text.isBlank version = false
  known : ∀ name entries, v = .fromBom name entries → extra.get? name = some entries

namespace ExplicitRules

open Rule

variable {extra : Table String OverrideMap}

theorem verdictParse_read (text : String) :
    Satisfies (Verdict.Read extra) (fun _ => True) (Verdict.parse extra text) := by
  simp only [Verdict.parse]
  split
  · exact ⟨nofun, nofun⟩
  · rename_i hne
    split
    · refine ⟨fun version heq => ?_, nofun⟩
      obtain rfl := Verdict.force.inj heq
      rw [Text.isBlank_trimmed, ← Bool.not_eq_true]
      exact fun hblank => hne (Text.trimmed_of_isBlank hblank)
    · split
      · rename_i hget
        refine ⟨nofun, fun name entries heq => ?_⟩
        obtain ⟨rfl, rfl⟩ := Verdict.fromBom.inj heq
        exact hget
      · trivial

theorem ruleParse_read (c : RuleConfig) :
    Satisfies (fun rule => rule.verdict.Read extra) (fun _ => True) (Rule.parse extra c) := by
  have hany : ∀ {α : Type} (x : Except OverrideError α),
      Satisfies (fun _ => True) (fun _ => True) x := fun x => by cases x <;> trivial
  exact (hany _).bind fun target _ => (hany _).bind fun module _ =>
    (verdictParse_read c.version).bind fun verdict hverdict => hverdict

theorem parse_read (configs : List RuleConfig) :
    Satisfies (fun x => ∀ rule ∈ x.rules, rule.verdict.Read extra) (fun _ => True)
      (parse configs extra) := by
  refine (Satisfies.mapM fun c _ => ruleParse_read c).map fun rules hrules rule hrule => ?_
  obtain ⟨rank, _, hrule⟩ := List.mem_flatMap.mp hrule
  exact hrules rule (List.mem_filter.mp hrule).1

/-- A blank version of a rule is the one of an entry in an extra source. -/
theorem exists_entry_of_isBlank {x : ExplicitRules}
    (hread : ∀ rule ∈ x.rules, rule.verdict.Read extra) {artifact : Artifact} {version : String}
    (hversion : x.versionFor? artifact = some version) (hblank : Text.isBlank version = true) :
    ∃ name entries e, extra.get? name = some entries ∧ entries.first? artifact = some e ∧
      e.version = version := by
  have hresolved : x.resolve? artifact = some (.version version) := by
    rw [versionFor?] at hversion
    split at hversion
    · rename_i hresolved
      rw [hresolved, Option.some.inj hversion]
    · cases hversion
  obtain ⟨rule, hrule, hanswer⟩ := List.exists_of_findSome?_eq_some hresolved
  have hread := hread rule (List.mem_filter.mp hrule).1
  rw [answer?] at hanswer
  cases hverdict : rule.verdict with
  | exclude =>
    rw [hverdict] at hanswer
    cases hanswer
  | force version' =>
    rw [hverdict] at hanswer
    obtain rfl : version' = version := by injection Option.some.inj hanswer
    rw [hread.forced version' hverdict] at hblank
    cases hblank
  | fromBom name entries =>
    rw [hverdict] at hanswer
    obtain ⟨e, hfirst, heq⟩ := Option.map_eq_some_iff.mp hanswer
    exact ⟨name, entries, e, hread.known name entries hverdict, hfirst, by injection heq⟩

end ExplicitRules

/-! ## Texts that are written -/

/-- A spliced text ends as the target does. -/
theorem exists_not_blank_of_spliceAt? {label old target new : List Char}
    (h : spliceAt? label old target = some new) (htrim : Text.trim target = target)
    (hne : target ≠ []) : ∃ c ∈ new, Text.isBlankChar c = false := by
  obtain ⟨front, _, skipped, tail, _, htarget, rfl⟩ := spliceAt?_eq_some_iff.mp h
  have hcut : target = skipped ++ (label ++ tail) := by
    rw [← List.append_assoc]
    exact Text.cutFirst?_eq_some htarget
  have hend : label ++ tail ≠ [] := by
    intro hnil
    obtain ⟨rfl, rfl⟩ := List.append_eq_nil_iff.mp hnil
    -- the empty label is found in front of everything
    cases target with
    | nil => exact hne rfl
    | cons c rest => cases htarget
  obtain ⟨c, hc⟩ := Option.ne_none_iff_exists'.mp (mt List.getLast?_eq_none_iff.mp hend)
  refine ⟨c, ?_, ?_⟩
  · rw [List.append_assoc]
    exact List.mem_append_right _ (List.mem_of_getLast? hc)
  · apply Text.isBlankChar_getLast?_trim (s := target)
    rw [htrim, hcut, List.getLast?_append_of_ne_nil _ hend]
    exact hc

theorem Evaluator.isBlank_literalText (e : Evaluator) (old : String) {version target : String}
    (htarget : Text.nonBlank? version = some target) :
    Text.isBlank (e.literalText old target) = false := by
  have hblank := Text.isBlank_of_nonBlank? htarget
  rcases e.literalText_cases old target with hsame | ⟨label, new, _, hspliced, hnew⟩
  · rw [hsame]
    exact hblank
  · have htrim : Text.trim target.toList = target.toList := by
      obtain ⟨rfl, _⟩ := Text.nonBlank?_eq_some htarget
      rw [Text.trimmed, String.toList_ofList, Text.trim_trim]
    have hne : target.toList ≠ [] := by
      obtain ⟨c, hc, _⟩ := Text.isBlank_eq_false.mp hblank
      exact List.ne_nil_of_mem hc
    rw [hnew, Text.isBlank_eq_false, String.toList_ofList]
    exact exists_not_blank_of_spliceAt? hspliced htrim hne

namespace DependencyAlignment

variable {a : DependencyAlignment} {r : Reactor} {id : Nat}

/-- A target is what is left of a version when the blanks around it are left out. -/
theorem Cause.nonBlank {v : Visit} {d : Declaration} {old target : String} {explicit : Bool}
    (h : Cause a v d r old target explicit) : ∃ version, Text.nonBlank? version = some target := by
  cases h with
  | matched hmatched =>
    obtain ⟨e, _, hversion⟩ :=
      mem_candidateVersions (StrictPolicy.mem_of_choose? hmatched.chosen)
    exact ⟨e.version, hversion⟩
  | forced _ hnonblank => exact ⟨_, hnonblank⟩

end DependencyAlignment

/-! ## What a run adds -/

/-- What is new in the bodies of a module is not blank: version texts of declarations, versions of
managed dependencies that are added in front, and values of properties. -/
structure Module.NoBlankAdded (m m' : Module) : Prop where
  declarations : ∃ (added : List Dependency) (f : Declaration → Declaration),
    m'.declarations = listDependencies .main .managedDependencies added ++
      (m.declarations.map f).map (Declaration.behind added.length) ∧
    (∀ d ∈ m.declarations, f d = d ∨
      ∃ new, f d = { d with version := some new } ∧ Text.isBlank new = false) ∧
    ∀ d ∈ added, ∃ new, d.version = some new ∧ Text.isBlank new = false
  properties : ∀ scope name, m'.property? scope name = m.property? scope name ∨
    ∃ new, m'.property? scope name = some new ∧ Text.isBlank new = false

/-- If the version of the declared parent is another one, it is not blank. -/
def Module.NoBlankParent (m m' : Module) : Prop :=
  ∀ new, m'.parent.map Parent.version = some new →
    m.parent.map Parent.version = some new ∨ Text.isBlank new = false

namespace DependencyAlignment

variable {a : DependencyAlignment} {r r' : Reactor} {id : Nat}

/-- A declaration is rewritten to a text that is not blank, or stays. -/
theorem realign_cases (d : Declaration) : a.realign r id d = d ∨
    ∃ new, a.realign r id d = { d with version := some new } ∧ Text.isBlank new = false := by
  have hasked := requestOf_asked a (a.visit r id) (a.asVisited r id) d
  rw [realign, request]
  generalize a.requestOf (a.visit r id) (a.asVisited r id) d = x at hasked
  cases hasked with
  | nothing | demand => exact .inl rfl
  | @rewrite old target explicit _ _ _ hcause =>
    obtain ⟨version, htarget⟩ := hcause.nonBlank
    exact .inr ⟨_, rfl, a.evaluator.isBlank_literalText old htarget⟩

theorem isBlank_of_mem_added {d : Dependency} (h : d ∈ a.added r id) :
    ∃ new, d.version = some new ∧ Text.isBlank new = false := by
  rw [added] at h
  split at h
  · obtain ⟨e, _, hinjection⟩ := mem_injections h
    obtain ⟨new, hnew, rfl⟩ := Option.map_eq_some_iff.mp hinjection
    exact ⟨new, rfl, Text.isBlank_of_nonBlank? hnew⟩
  · exact absurd h List.not_mem_nil

theorem isBlank_of_mapping {owner : PropertyOwner} {m : PropertyMapping}
    (h : (a.ledgerOf r).get? owner = some m) : Text.isBlank m.new = false := by
  obtain ⟨q, hq, hnew, _⟩ := exists_demand h
  obtain ⟨other, _, d, _, old, name, explicit, _, _, _, hcause⟩ := exists_cause hq
  obtain ⟨version, hversion⟩ := hcause.nonBlank
  rw [hnew]
  exact Text.isBlank_of_nonBlank? hversion

theorem Left.noBlankAdded (h : Left a r r') (hid : id < r.size) :
    (r.module id).NoBlankAdded (r'.module id) where
  declarations := ⟨a.added r id, a.realign r id, h.declarations hid, fun d _ => realign_cases d,
    fun _ => isBlank_of_mem_added⟩
  properties := fun scope name =>
    (h.property_cases hid scope name).imp_right fun ⟨m, hget, _, hnew⟩ =>
      ⟨m.new, hnew, isBlank_of_mapping hget⟩

/-! ## Declared parents -/

/-- A rule gives the declared parent of a root a blank version, which is another one than the parent
has. -/
structure ForcesBlankParent (a : DependencyAlignment) (r : Reactor) (id : Nat) (parent : Parent)
    (version : String) : Prop where
  root : r.isRoot id = true
  declared : (r.module id).parent = some parent
  forced : (a.rules.inModule (r.artifact id)).versionFor? parent.artifact = some version
  blank : Text.isBlank version = true
  other : version ≠ parent.version

/-- A declared parent gets a blank version exactly if a rule gives it one. The version of a rule is
not trimmed there. -/
theorem Left.noBlankParent_iff (h : Left a r r') (hid : id < r.size) :
    (r.module id).NoBlankParent (r'.module id) ↔
      ∀ parent version, ¬ ForcesBlankParent a r id parent version := by
  rw [Module.NoBlankParent, h.parent hid]
  constructor
  · intro hnoblank parent version hforces
    have hmove : a.parentMove? r (a.visit r id) = some version := by
      have hforced : (a.visit r id).rules.versionFor? parent.artifact = some version :=
        hforces.forced
      have hdeclared : (r.module (a.visit r id).module).parent = some parent := hforces.declared
      rw [parentMove?, hdeclared, Option.bind_some, hforced, Option.some_or,
        Option.filter_some_pos (by simpa using hforces.other)]
    rw [asVisited_parent hid hforces.root, hmove, hforces.declared] at hnoblank
    rcases hnoblank version rfl with hsame | hblank
    · exact hforces.other (Option.some.inj hsame).symm
    · rw [hforces.blank] at hblank
      cases hblank
  · intro hnone new hnew
    cases hroot : r.isRoot id with
    | false =>
      rw [asVisited, hroot, if_neg Bool.false_ne_true] at hnew
      exact .inl hnew
    | true =>
      rw [asVisited_parent hid hroot] at hnew
      cases hmove : a.parentMove? r (a.visit r id) with
      | none =>
        rw [hmove] at hnew
        exact .inl hnew
      | some version =>
        obtain ⟨parent, hdeclared, hother, hsource⟩ := parentMove?_eq_some hmove
        have hdeclared : (r.module id).parent = some parent := hdeclared
        rw [hmove, hdeclared] at hnew
        obtain rfl : version = new := Option.some.inj hnew
        right
        rcases hsource with hforced | hcandidate
        · rw [← Bool.not_eq_true]
          exact fun hblank => hnone parent version ⟨hroot, hdeclared, hforced, hblank, hother⟩
        · obtain ⟨e, _, hversion⟩ := mem_candidateVersions hcandidate
          exact Text.isBlank_of_nonBlank? hversion

/-! ## The whole run -/

/-- The version of the entry that a rule takes from an extra source for the declared parent of a
root is blank. -/
structure BlankParentEntry (a : DependencyAlignment) (extra : Table String OverrideMap) (r : Reactor)
    (id : Nat) (parent : Parent) (e : OverrideEntry) : Prop
    extends ForcesBlankParent a r id parent e.version where
  listed : ∃ name entries, extra.get? name = some entries ∧
    entries.first? parent.artifact = some e

/-- A run writes no blank version and no blank value into a body. It writes a blank version of a
declared parent exactly if a rule takes it from an extra source. -/
theorem blank_only_for_parent {configs : List RuleConfig} {extra : Table String OverrideMap}
    (hrules : ExplicitRules.parse configs extra = .ok a.rules) {p p' : Progress}
    (hrun : a.run p = .ok p') :
    ∀ id ∈ p.reactor.ids,
      (p.reactor.module id).NoBlankAdded (p'.reactor.module id) ∧
      ((p.reactor.module id).NoBlankParent (p'.reactor.module id) ↔
        ∀ parent e, ¬ BlankParentEntry a extra p.reactor id parent e) := by
  intro id hid
  have hid : id < p.reactor.size := List.mem_range.mp hid
  have hleft := left_of_run hrun
  have hread : ∀ rule ∈ a.rules.rules, rule.verdict.Read extra := by
    have hparsed := @ExplicitRules.parse_read extra configs
    rwa [hrules] at hparsed
  refine ⟨hleft.noBlankAdded hid, (hleft.noBlankParent_iff hid).trans ⟨?_, ?_⟩⟩
  · exact fun hnone parent e hentry => hnone parent e.version hentry.toForcesBlankParent
  · intro hnone parent version hforces
    have hread : ∀ rule ∈ (a.rules.inModule (p.reactor.artifact id)).rules,
        rule.verdict.Read extra :=
      fun rule hrule => hread rule (List.mem_filter.mp hrule).1
    obtain ⟨name, entries, e, hextra, hfirst, rfl⟩ :=
      ExplicitRules.exists_entry_of_isBlank hread hforces.forced hforces.blank
    exact hnone parent e ⟨hforces, name, entries, hextra, hfirst⟩

/-! ## A blank version from an extra source -/

/-- One module with an external parent and one dependency. -/
def childOfCorp : Progress where
  reactor := {
    modules := [
      { group := some "org.app", name := "app", version := some "1",
        parent := some { group := "org.corp", name := "corp-parent", version := "10" },
        body := {
          dependencies := [{ group := "org.b", name := "lib", version := some "1.0" }] } }]
    forest := Reactor.forest_of_checks (by simp) rfl rfl }
  report := {}

/-- An extra source whose object has a blank version for the external parent. -/
def blankSource : Table String OverrideMap :=
  let snapshot := OverrideSnapshot.pairs (Table.ofList [("org.corp:corp-parent", " ")])
  Table.ofList [("x", (snapshot.toMap (.extra "x")).toOption.getD ∅)]

/-- The rule that takes the version of the parent from that source. -/
def parentFromSource : List RuleConfig :=
  [{ target := "org.corp:corp-parent", version := "bom:x" }]

/-- The alignment with that rule, and with a version of the library that has blanks around it. -/
def blankForcing : DependencyAlignment where
  config := { precedence := .bom }
  strict := {}
  sources := {
    bom := .ofCoordinates .bom [Artifact.at { group := "org.b", name := "lib" } " 2.0 "] }
  rules := (ExplicitRules.parse parentFromSource blankSource).toOption.getD {}

def orphanedChild : Progress :=
  (blankForcing.run childOfCorp).toOption.getD childOfCorp

theorem blank_only_for_parent_childOfCorp :
    ExplicitRules.parse parentFromSource blankSource = .ok blankForcing.rules ∧
    blankForcing.run childOfCorp = .ok orphanedChild ∧
    (orphanedChild.reactor.module 0).declarations.map Declaration.version = [some "2.0"] ∧
    ∀ id ∈ childOfCorp.reactor.ids,
      (childOfCorp.reactor.module id).NoBlankAdded (orphanedChild.reactor.module id) ∧
      ((childOfCorp.reactor.module id).NoBlankParent (orphanedChild.reactor.module id) ↔
        ∀ parent e, ¬ BlankParentEntry blankForcing blankSource childOfCorp.reactor id parent e) := by
  have hrules : ExplicitRules.parse parentFromSource blankSource = .ok blankForcing.rules := by
    decide +kernel
  have hrun : blankForcing.run childOfCorp = .ok orphanedChild := by decide +kernel
  exact ⟨hrules, hrun, by decide +kernel, blank_only_for_parent hrules hrun⟩

/-- The version of the declared parent is replaced by a blank one. -/
theorem blank_parent_written :
    ExplicitRules.parse parentFromSource blankSource = .ok blankForcing.rules ∧
    blankForcing.run childOfCorp = .ok orphanedChild ∧
    (childOfCorp.reactor.module 0).parent.map Parent.version = some "10" ∧
    (orphanedChild.reactor.module 0).parent.map Parent.version = some " " := by
  decide +kernel

end DependencyAlignment

end BuildAlign

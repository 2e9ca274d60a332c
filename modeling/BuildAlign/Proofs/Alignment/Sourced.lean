import BuildAlign.Proofs.Alignment.Injections
import BuildAlign.Proofs.Alignment.Result
import BuildAlign.Proofs.Override.Entries

/-!
Where the versions come from that the alignment writes. Every target of a declaration, every version
of a declared parent, every injected dependency and every demand carries the version of an explicit
rule, or that of an override entry for the same artifact which counts in the module.
-/

namespace BuildAlign

theorem StrictPolicy.mem_of_choose? {p : StrictPolicy} {present target : String}
    {candidates : List String} (h : p.choose? present candidates = some target) :
    target ∈ candidates := by
  rw [choose?] at h
  split at h
  · exact List.mem_of_find?_eq_some h
  · exact List.mem_of_mem_head? h

namespace DependencyAlignment

/-- A version that an explicit rule gives for an artifact in a module, or that an override entry
gives which counts there: its source wins, the artifact is not excluded, and it is no module of the
reactor. Blanks around the version do not count. -/
inductive Sourced (a : DependencyAlignment) (r : Reactor) (id : Nat) (artifact : Artifact)
    (new : String) : Prop where
  | rule {version : String}
      (forced : (a.rules.inModule (r.artifact id)).versionFor? artifact = some version)
      (same : Text.trimmed new = Text.trimmed version)
  | entry {e : OverrideEntry} (named : e.artifact = artifact)
      (merged : e ∈ (a.sources.merge a.config.precedence).entries)
      (wins : e ∈ (a.sources.winner artifact a.config.precedence).entries)
      (allowed : (a.rules.inModule (r.artifact id)).excludes artifact = false)
      (foreign : artifact ∉ r.ids.map r.artifact)
      (same : Text.trimmed new = Text.trimmed e.version)

variable {a : DependencyAlignment} {r r' : Reactor} {id : Nat} {artifact : Artifact} {new : String}

theorem sourced_of_candidate
    (h : new ∈ candidateVersions ((a.visit r id).overrides.entriesOf artifact)) :
    Sourced a r id artifact new := by
  obtain ⟨e, he, hversion⟩ := mem_candidateVersions h
  have hentries := a.entriesOf_inModule r (a.rules.inModule (r.artifact id)) artifact
  rw [visit, hentries] at he
  split at he
  · exact absurd he List.not_mem_nil
  · rename_i hcounts
    obtain ⟨hallowed, hforeign⟩ := not_or.mp hcounts
    obtain ⟨hmerged, hnamed⟩ := List.mem_filter.mp he
    have hnamed : e.artifact = artifact := beq_iff_eq.mp hnamed
    obtain ⟨rfl, _⟩ := Text.nonBlank?_eq_some hversion
    refine .entry hnamed hmerged ?_ (by simpa using hallowed) hforeign (Text.trimmed_trimmed _)
    rw [← hnamed]
    exact OverrideSources.mem_winner hmerged

/-- The target of a declaration, in whatever reactor its artifact is read. -/
theorem sourced_of_cause {d : Declaration} {old : String} {explicit : Bool}
    (h : Cause a (a.visit r id) d r' old new explicit) :
    Sourced a r id (r'.declaredArtifact id d) new := by
  cases h with
  | matched hmatched => exact sourced_of_candidate (StrictPolicy.mem_of_choose? hmatched.chosen)
  | forced hforced hnonblank =>
    obtain ⟨rfl, _⟩ := Text.nonBlank?_eq_some hnonblank
    exact .rule hforced (Text.trimmed_trimmed _)

/-! ## Declared parents -/

/-- The declared parent that the declarations of a root see. -/
theorem asVisited_parent (hid : id < r.size) (hroot : r.isRoot id = true) :
    ((a.asVisited r id).module id).parent =
      (a.parentMove? r (a.visit r id)).elim (r.module id).parent fun new =>
        (r.module id).parent.map fun parent => { parent with version := new } := by
  rw [asVisited, if_pos hroot, module_moveParent hid, if_pos rfl]
  cases a.parentMove? r (a.visit r id) <;> rfl

/-- The version that a declared parent is moved to is that of a rule, or a candidate. -/
theorem parentMove?_eq_some {v : Visit} (h : a.parentMove? r v = some new) :
    ∃ parent, (r.module v.module).parent = some parent ∧ new ≠ parent.version ∧
      (v.rules.versionFor? parent.artifact = some new ∨
        new ∈ candidateVersions (v.overrides.entriesOf parent.artifact)) := by
  obtain ⟨parent, hparent, hnew⟩ := Option.bind_eq_some_iff.mp h
  obtain ⟨hnew, hother⟩ := Option.filter_eq_some_iff.mp hnew
  refine ⟨parent, hparent, by simpa using hother, ?_⟩
  exact (Option.or_eq_some_iff.mp hnew).imp_right fun h => StrictPolicy.mem_of_choose? h.2

/-- The declared parent that the declarations of a module see is the one of before, or that with a
sourced version, in a root. -/
theorem asVisited_parent_cases (hid : id < r.size) :
    ((a.asVisited r id).module id).parent = (r.module id).parent ∨
      ∃ parent new, r.isRoot id = true ∧ (r.module id).parent = some parent ∧
        ((a.asVisited r id).module id).parent = some { parent with version := new } ∧
        Sourced a r id parent.artifact new := by
  cases hroot : r.isRoot id with
  | false =>
    left
    rw [asVisited, hroot, if_neg Bool.false_ne_true]
  | true =>
    rw [asVisited_parent hid hroot]
    cases hmove : a.parentMove? r (a.visit r id) with
    | none => exact .inl rfl
    | some new =>
      obtain ⟨parent, hparent, _, hsource⟩ := parentMove?_eq_some hmove
      have hparent : (r.module id).parent = some parent := hparent
      refine .inr ⟨parent, new, rfl, hparent, ?_, ?_⟩
      · rw [Option.elim_some, hparent, Option.map_some]
      · rcases hsource with hforced | hcandidate
        · exact .rule hforced rfl
        · exact sourced_of_candidate hcandidate

/-! ## Added dependencies -/

theorem sourced_of_mem_added {d : Dependency} (h : d ∈ a.added r id) :
    ∃ new, d.version = some new ∧ Sourced a r id { group := d.group, name := d.name } new := by
  rw [added] at h
  split at h
  · obtain ⟨e, he, hinjection⟩ := mem_injections h
    obtain ⟨new, hnew, rfl⟩ := Option.map_eq_some_iff.mp hinjection
    refine ⟨new, rfl, sourced_of_candidate (List.mem_filterMap.mpr ⟨e, ?_, hnew⟩)⟩
    exact List.mem_filter.mpr ⟨he, beq_iff_eq.mpr rfl⟩
  · exact absurd h List.not_mem_nil

end DependencyAlignment

/-! ## The ledger -/

namespace PropertyLedger

variable {r : Reactor} {ledger : PropertyLedger} {d : Demand}

/-- The value of a mapping and its origin are those of before, or those of the demand. -/
theorem get?_record_cases {owner : PropertyOwner} {m : PropertyMapping}
    (h : (ledger.record r d).2.get? owner = some m) :
    (∃ m₀, ledger.get? owner = some m₀ ∧ m.new = m₀.new ∧ m.origin = m₀.origin) ∨
      owner = ownerFor r d ∧ m.new = d.new ∧ m.origin = d.origin := by
  rw [get?_record] at h
  split at h
  · rename_i howner
    obtain rfl := Option.some.inj h
    cases hget : ledger.get? owner with
    | none => exact .inr ⟨howner, rfl, rfl⟩
    | some m₀ =>
      by_cases hdisplaces : d.Displaces m₀
      · rw [Demand.mapping_of_displaces hdisplaces]
        exact .inr ⟨howner, rfl, rfl⟩
      · obtain ⟨hnew, horigin, _⟩ := Demand.mapping_kept (r := r) hdisplaces
        exact .inl ⟨m₀, rfl, hnew, horigin⟩
  · exact .inl ⟨m, h, rfl, rfl⟩

end PropertyLedger

namespace DependencyAlignment

variable {a : DependencyAlignment} {r : Reactor}

/-- Every mapping has the value and the origin of a demand on its property. -/
theorem exists_demand {owner : PropertyOwner} {m : PropertyMapping}
    (h : (a.ledgerOf r).get? owner = some m) :
    ∃ d ∈ a.demands r, m.new = d.new ∧ m.origin = d.origin ∧
      owner = PropertyLedger.ownerFor (a.asVisited r d.module) d := by
  have hfold : ∀ (ds : List Demand) (ledger : PropertyLedger) (m : PropertyMapping),
      (ds.foldl (a.recordDemand r) ledger).get? owner = some m →
      (∃ m₀, ledger.get? owner = some m₀ ∧ m.new = m₀.new ∧ m.origin = m₀.origin) ∨
        ∃ d ∈ ds, m.new = d.new ∧ m.origin = d.origin ∧
          owner = PropertyLedger.ownerFor (a.asVisited r d.module) d := by
    intro ds
    induction ds with
    | nil => exact fun ledger m hm => .inl ⟨m, hm, rfl, rfl⟩
    | cons d later ih =>
      intro ledger m hm
      rcases ih _ m hm with ⟨m₁, hm₁, hnew, horigin⟩ | ⟨d', hd', hrest⟩
      · rcases PropertyLedger.get?_record_cases hm₁ with ⟨m₀, hm₀, hnew₀, horigin₀⟩ | hd
        · exact .inl ⟨m₀, hm₀, hnew.trans hnew₀, horigin.trans horigin₀⟩
        · obtain ⟨howner, hnew₀, horigin₀⟩ := hd
          exact .inr ⟨d, List.mem_cons_self .., hnew.trans hnew₀, horigin.trans horigin₀, howner⟩
      · exact .inr ⟨d', List.mem_cons_of_mem _ hd', hrest⟩
  rcases hfold (a.demands r) ∅ m h with ⟨m₀, hm₀, _⟩ | hdemand
  · cases hm₀
  · exact hdemand

/-- Every demand is made for a declaration, and for a cause. -/
theorem exists_cause {q : Demand} (h : q ∈ a.demands r) :
    ∃ other < r.size, ∃ d ∈ (r.module other).declarations, ∃ old name explicit,
      d.version = some old ∧ propertyOf? old = some name ∧
      q = Evaluator.demandOf (Site.of (a.asVisited r other) other (r.artifact other) d) name q.new
        explicit ∧
      Cause a (a.visit r other) d (a.asVisited r other) old q.new explicit := by
  obtain ⟨other, hother, hq⟩ := List.mem_flatMap.mp h
  obtain ⟨d, hd, hq⟩ := List.mem_filterMap.mp hq
  have hasked := requestOf_asked a (a.visit r other) (a.asVisited r other) d
  rw [request] at hq
  generalize a.requestOf (a.visit r other) (a.asVisited r other) d = x at hasked hq
  cases hasked with
  | nothing | rewrite => cases hq
  | @demand old name target explicit hversion _ hproperty hcause =>
    obtain rfl := Option.some.inj hq
    exact ⟨other, Reactor.lt_of_mem_order hother, d, hd, old, name, explicit, hversion, hproperty,
      rfl, hcause⟩

/-- A declaration that a mapping is made for: it refers to the property, it names the origin of the
mapping, and the value has its source in the module that declares it. -/
structure Originates (a : DependencyAlignment) (r : Reactor) (owner : PropertyOwner)
    (m : PropertyMapping) (other : Nat) (d : Declaration) : Prop where
  inside : other < r.size
  declared : d ∈ (r.module other).declarations
  refers : ∃ name, d.version.bind propertyOf? = some name ∧
    (PropertyLedger.ownerOf r other name).1 = owner
  origin : (a.asVisited r other).declaredArtifact other d = m.origin
  sourced : Sourced a r other m.origin m.new

theorem ledgerOf_originates {owner : PropertyOwner} {m : PropertyMapping}
    (h : (a.ledgerOf r).get? owner = some m) : ∃ other d, Originates a r owner m other d := by
  obtain ⟨q, hq, hnew, horigin, howner⟩ := exists_demand h
  obtain ⟨other, hinside, d, hd, old, name, explicit, hversion, hproperty, hdemand, hcause⟩ :=
    exists_cause hq
  refine ⟨other, d, hinside, hd, ⟨name, ?_, ?_⟩, ?_, ?_⟩
  · rw [hversion]
    exact hproperty
  · have hlives := (a.sameFrame_asVisited r hinside).ownerOf other name
    rw [howner, hdemand, ← hlives]
    rfl
  · rw [horigin, hdemand]
    rfl
  · have hsourced := sourced_of_cause hcause
    rw [hnew, horigin, hdemand]
    exact hsourced

end DependencyAlignment

end BuildAlign

import BuildAlign.Proofs.Alignment.Standing

/-!
What a second run of the alignment changes. Without the strict check the version for an artifact
does not depend on the present one, so a run that is offered the same versions again finds its own
texts, values and parents. But a text whose references stood behind the rebuild label has lost them
and is replaced as a whole, and what was written may have changed what the next run reads: an
identity, the way to a property, or a reference to the own version.
-/

namespace BuildAlign

/-! ## Texts that are joined at the label -/

theorem spliceAt?_self {label target new : List Char}
    (h : spliceAt? label target target = some new) : new = target := by
  obtain ⟨head, rest, front, tail, hold, htarget, rfl⟩ := spliceAt?_eq_some_iff.mp h
  obtain ⟨rfl, rfl⟩ := Prod.mk.inj (Option.some.inj (hold.symm.trans htarget))
  exact (Text.cutFirst?_eq_some hold).symm

/-- The tail of the target is put in its own place. -/
theorem spliceAt?_spliceAt? {label old target new : List Char}
    (h : spliceAt? label old target = some new) : spliceAt? label new target = some new := by
  obtain ⟨head, rest, front, tail, hold, htarget, rfl⟩ := spliceAt?_eq_some_iff.mp h
  exact spliceAt?_eq_some_iff.mpr
    ⟨head, tail, front, tail, Text.cutFirst?_replace hold tail, htarget, rfl⟩

namespace Evaluator

variable (e : Evaluator) {old target : String}

theorem literalText_self (target : String) : e.literalText target target = target := by
  rcases e.literalText_cases target target with hsame | ⟨label, new, _, hspliced, hnew⟩
  · exact hsame
  · rw [hnew, spliceAt?_self hspliced, String.ofList_toList]

/-- A text that still has a reference after it was joined with the target stays as it is. -/
theorem literalText_literalText
    (hkept : Template.hasReference (e.literalText old target) = false →
      e.literalText old target = target) :
    e.literalText (e.literalText old target) target = e.literalText old target := by
  rcases e.literalText_cases old target with hsame | ⟨label, new, hlabel, hspliced, hnew⟩
  · rw [hsame, e.literalText_self]
  · cases hreference : Template.hasReference (e.literalText old target) with
    | false => rw [hkept hreference, e.literalText_self]
    | true =>
      rw [hnew] at hreference ⊢
      refine e.literalText_of_splice hreference hlabel ?_
      rw [String.toList_ofList]
      exact spliceAt?_spliceAt? hspliced

end Evaluator

/-! ## The same request for another artifact -/

theorem Demand.bid_withOrigin (r : Reactor) (d : Demand) (artifact : Artifact) :
    ({ d with origin := artifact } : Demand).bid r = d.bid r :=
  rfl

namespace Site

variable (r : Reactor) (id : Nat) (artifact : Artifact) (d : Declaration)

@[simp] theorem module_of : (of r id artifact d).module = id :=
  rfl

@[simp] theorem artifact_of : (of r id artifact d).artifact = r.declaredArtifact id d :=
  rfl

@[simp] theorem version?_of :
    (of r id artifact d).version? = d.version.filter fun v => !Text.isBlank v :=
  rfl

end Site

/-- The same request by a declaration that names another artifact. -/
def Request.withOrigin (artifact : Artifact) : Request → Request
  | demand d => demand { d with origin := artifact }
  | x => x

/-- What a version text asks for when it is moved to the same target in another reactor, where its
declaration may name another artifact. -/
theorem Evaluator.requestTo_congr (e : Evaluator) (site site' : Site)
    {target? target?' : String → Option (String × Bool)}
    (hmodule : site'.module = site.module) (hversion : site'.version? = site.version?)
    (htarget : ∀ old, site.version? = some old → target?' old = target? old) :
    e.requestTo site' target?' = (e.requestTo site target?).withOrigin site'.artifact := by
  rw [requestTo, requestTo, hversion]
  cases hold : site.version? with
  | none => rfl
  | some old =>
    dsimp only
    rw [htarget old hold]
    cases target? old with
    | none => rfl
    | some target =>
      simp only [requestMove]
      cases propertyOf? old with
      | some name =>
        dsimp only [Request.withOrigin]
        rw [demandOf, hmodule]
        rfl
      | none =>
        dsimp only
        split <;> rfl

/-- A text that its target leaves as it is asks for nothing. -/
theorem Evaluator.requestTo_of_fixed (e : Evaluator) {site : Site}
    {target? : String → Option (String × Bool)}
    (h : ∀ text, site.version? = some text → propertyOf? text = none ∧
      ∀ target explicit, target? text = some (target, explicit) → e.literalText text target = text) :
    e.requestTo site target? = .nothing := by
  rw [requestTo]
  cases hversion : site.version? with
  | none => rfl
  | some text =>
    obtain ⟨hplain, hfixed⟩ := h text hversion
    dsimp only
    cases htarget : target? text with
    | none => rfl
    | some found =>
      dsimp only
      rw [requestMove, hplain]
      dsimp only
      rw [if_pos (hfixed found.1 found.2 htarget)]

namespace DependencyAlignment

open Request

/-! ## What is offered -/

/-- What rules and overrides have for an artifact: the version that a rule forces, and the versions
of the override entries. -/
structure Offer where
  forced : Option String
  versions : List String
  deriving DecidableEq

def Visit.offer (v : Visit) (artifact : Artifact) : Offer where
  forced := v.rules.versionFor? artifact
  versions := candidateVersions (v.overrides.entriesOf artifact)

/-- Where an offer moves a declaration without the strict check. -/
def Offer.target? (o : Offer) (guarded : Bool) : Option (String × Bool) :=
  match o.forced with
  | some version => Evaluator.ruleTarget? version
  | none => if guarded then none else o.versions.head?.map (·, false)

/-- Where an offer moves a declared parent without the strict check. -/
def Offer.parentTarget? (o : Offer) : Option String :=
  o.forced.or o.versions.head?

/-- A guard may hold an offer back, and does nothing else to it. -/
theorem Offer.target?_cases {o : Offer} {guarded : Bool} {target : String × Bool}
    (h : o.target? guarded = some target) (guarded' : Bool) :
    o.target? guarded' = none ∨ o.target? guarded' = some target := by
  rw [target?] at h ⊢
  split at h
  · exact .inr h
  · cases guarded with
    | true => exact absurd h nofun
    | false =>
      cases guarded' with
      | true => exact .inl rfl
      | false => exact .inr h

section

variable {a : DependencyAlignment} (hstrict : a.strict.enabled = false) (v : Visit) (r : Reactor)

include hstrict

/-- Without the strict check a declaration is moved to what is offered first, or to nothing where
the guard holds it back. -/
theorem target?_eq_offer (site : Site) (old : String) :
    a.target? v r site old =
      (v.offer site.artifact).target? (Evaluator.isSelfReference r site.module old) := by
  have hchoose : ∀ present versions,
      a.evaluator.strict.choose? present versions = versions.head? := by
    intro present versions
    rw [StrictPolicy.choose?, if_neg]
    rw [evaluator, hstrict]
    exact Bool.false_ne_true
  cases hforced : v.rules.versionFor? site.artifact with
  | none => simp only [target?, Offer.target?, Visit.offer, hforced, Evaluator.entryTarget?, hchoose]
  | some version => simp only [target?, Offer.target?, Visit.offer, hforced]

theorem parentMove?_eq_offer : a.parentMove? r v = (r.module v.module).parent.bind fun parent =>
    (v.offer parent.artifact).parentTarget?.filter (· ≠ parent.version) := by
  simp only [parentMove?, StrictPolicy.choose?, hstrict, Bool.false_eq_true, if_false,
    Offer.parentTarget?, Visit.offer, Visit.parentCandidates]

end

/-! ## The second visit of a module -/

@[simp] theorem module_visit (a : DependencyAlignment) (r : Reactor) (id : Nat) :
    (a.visit r id).module = id :=
  rfl

/-- What the first run left such that the next one may change a module again. -/
inductive Unsettled (a : DependencyAlignment) (r r' : Reactor) (id : Nat) : Prop where
  /-- Another version is offered for the declared parent, since a module has another identity. -/
  | parent {parent : Parent} {other : Nat} (root : r.isRoot id = true)
      (declared : (r.module id).parent = some parent) (inside : other < r.size)
      (identity : r'.artifact other ≠ r.artifact other)
      (offered : (a.visit r' id).offer parent.artifact ≠ (a.visit r id).offer parent.artifact)
  /-- Another version is offered for a declaration, since it names another artifact, or since a
  module has another identity. -/
  | renamed {d : Declaration} (declared : d ∈ (r.module id).declarations)
      (identity : r'.declaredArtifact id d ≠ (a.asVisited r id).declaredArtifact id d ∨
        ∃ other < r.size, r'.artifact other ≠ r.artifact other)
      (offered : (a.visit r' id).offer (r'.declaredArtifact id d) ≠
        (a.visit r id).offer ((a.asVisited r id).declaredArtifact id d))
  /-- A declaration that was held back as a reference to the version of the module is one no longer,
  or the other way round. -/
  | released {d : Declaration} {old : String} (declared : d ∈ (r.module id).declarations)
      (version : d.version = some old)
      (unforced : ((a.visit r' id).offer (r'.declaredArtifact id d)).forced = none)
      (offered : ((a.visit r' id).offer (r'.declaredArtifact id d)).versions ≠ [])
      (changed : r'.isOwnVersion id old ≠ r.isOwnVersion id old)
  /-- A demanded property lives elsewhere. -/
  | rerouted {d : Declaration} {q : Demand} (declared : d ∈ (r.module id).declarations)
      (demanded : a.request r id d = .demand q)
      (lives : PropertyLedger.ownerFor r' q ≠ PropertyLedger.ownerFor r q)
  /-- A text was joined with its target at the label, and its references stood behind the label. -/
  | severed {d : Declaration} {old target : String} {explicit : Bool}
      (declared : d ∈ (r.module id).declarations) (version : d.version = some old)
      (mixed : Template.hasReference old = true)
      (cause : Cause a (a.visit r id) d (a.asVisited r id) old target explicit)
      (joined : a.evaluator.literalText old target ≠ target)
      (cut : Template.hasReference (a.evaluator.literalText old target) = false)
  /-- A version text was replaced by a reference to a property. -/
  | referring {d : Declaration} {new name : String} (declared : d ∈ (r.module id).declarations)
      (replaced : a.request r id d = .rewrite new) (refers : propertyOf? new = some name)

section

variable {a : DependencyAlignment} {r r' : Reactor} {id : Nat}

/-- A request that changes no text of a declaration which got what it asked for, and is the same bid
as before if it is one. -/
structure Repeats (r r' : Reactor) (first second : Request) : Prop where
  text : second.text? = none
  bid : second.demand?.map (Demand.bid r') = first.demand?.map (Demand.bid r)

theorem target?_of_cause {v : Visit} {d : Declaration} {old target : String} {explicit : Bool}
    (h : Cause a v d r old target explicit) :
    a.target? v r (Site.of r v.module v.artifact d) old = some (target, explicit) := by
  cases h with
  | matched hmatched =>
    obtain ⟨hguarded, hunforced, hchosen⟩ := hmatched
    rw [target?, hunforced]
    dsimp only
    rw [Evaluator.entryTarget?, hguarded, if_neg Bool.false_ne_true]
    exact congrArg (Option.map _) hchosen
  | forced hforced hnonblank =>
    rw [target?, Site.of, hforced]
    exact congrArg (Option.map _) hnonblank

/-- What is offered in a module changes only if a module gets another identity. -/
theorem offer_eq_of_artifact (hsize : r'.size = r.size) (hid : id < r.size)
    (hsame : ∀ other < r.size, r'.artifact other = r.artifact other) :
    (a.visit r' id).offer = (a.visit r id).offer := by
  have hnames : r'.artifacts = r.artifacts := by
    rw [Reactor.artifacts, Reactor.artifacts, Reactor.ids, Reactor.ids, hsize]
    refine congrArg _ (List.map_congr_left fun other hother => ?_)
    exact hsame other (List.mem_range.mp hother)
  funext artifact
  simp only [Visit.offer, visit, overridesFor, hnames, hsame id hid]

/-- In a settled module the second run offers a declaration what the first one did. -/
theorem offer_eq_of_settled (hsize : r'.size = r.size) (hid : id < r.size)
    (hsettled : ¬ Unsettled a r r' id) {d : Declaration} (hd : d ∈ (r.module id).declarations) :
    (a.visit r' id).offer (r'.declaredArtifact id d) =
      (a.visit r id).offer ((a.asVisited r id).declaredArtifact id d) := by
  by_contra hother
  refine hsettled (.renamed hd ?_ hother)
  by_contra hidentity
  push Not at hidentity
  obtain ⟨hdeclared, hsame⟩ := hidentity
  rw [hdeclared, offer_eq_of_artifact hsize hid hsame] at hother
  exact hother rfl

theorem offer_parent_of_settled (hsize : r'.size = r.size) (hid : id < r.size)
    (hsettled : ¬ Unsettled a r r' id) (hroot : r.isRoot id = true) {parent : Parent}
    (hparent : (r.module id).parent = some parent) :
    (a.visit r' id).offer parent.artifact = (a.visit r id).offer parent.artifact := by
  by_contra hother
  have hidentity : ∃ other < r.size, r'.artifact other ≠ r.artifact other := by
    by_contra hsame
    push Not at hsame
    rw [offer_eq_of_artifact hsize hid hsame] at hother
    exact hother rfl
  obtain ⟨other, hinside, hidentity⟩ := hidentity
  exact hsettled (.parent hroot hparent hinside hidentity hother)

/-- A text that was written is what its target makes of it. -/
theorem literalText_of_settled (hsettled : ¬ Unsettled a r r' id) {d : Declaration}
    (hd : d ∈ (r.module id).declarations) {old target : String} {explicit : Bool}
    (hversion : d.version = some old)
    (hcause : Cause a (a.visit r id) d (a.asVisited r id) old target explicit) :
    a.evaluator.literalText (a.evaluator.literalText old target) target =
      a.evaluator.literalText old target := by
  refine a.evaluator.literalText_literalText fun hcut => ?_
  by_contra hjoined
  have hmixed : Template.hasReference old = true := by
    by_contra hplain
    exact hjoined (Evaluator.literalText_of_not_hasReference _ (by simpa using hplain) target)
  exact hsettled (.severed hd hversion hmixed hcause hjoined hcut)

theorem propertyOf?_of_settled (hsettled : ¬ Unsettled a r r' id) {d : Declaration}
    (hd : d ∈ (r.module id).declarations) {new : String} (hx : a.request r id d = .rewrite new) :
    propertyOf? new = none := by
  by_contra hrefers
  obtain ⟨name, hname⟩ := Option.ne_none_iff_exists'.mp hrefers
  exact hsettled (.referring hd hx hname)

/-- Whatever text a declaration has now, it is moved to the target of the first run, or nowhere. -/
theorem target?_of_settled (hstrict : a.strict.enabled = false) (hsize : r'.size = r.size)
    (hid : id < r.size) (hsettled : ¬ Unsettled a r r' id) {d : Declaration}
    (hd : d ∈ (r.module id).declarations) {old target : String} {explicit : Bool}
    (hcause : Cause a (a.visit r id) d (a.asVisited r id) old target explicit)
    (version : Option String) {text : String} {found : String × Bool}
    (hfound : a.target? (a.visit r' id) r'
      (Site.of r' id (a.visit r' id).artifact { d with version }) text = some found) :
    found = (target, explicit) := by
  have hfirst := target?_of_cause hcause
  rw [target?_eq_offer hstrict, Site.module_of, Site.artifact_of, module_visit,
    ← offer_eq_of_settled hsize hid hsettled hd] at hfirst
  have hdeclared : r'.declaredArtifact id { d with version } = r'.declaredArtifact id d := rfl
  rw [target?_eq_offer hstrict, Site.module_of, Site.artifact_of, hdeclared] at hfound
  rcases Offer.target?_cases hfirst (Evaluator.isSelfReference r' id text) with hnone | hsome
  · rw [hnone] at hfound
    cases hfound
  · exact Option.some.inj (hfound.symm.trans hsome)

/-- A declaration that was rewritten asks for nothing more. -/
theorem requestOf_of_rewrite (hstrict : a.strict.enabled = false) (hsize : r'.size = r.size)
    (hid : id < r.size) (hsettled : ¬ Unsettled a r r' id) {d : Declaration}
    (hd : d ∈ (r.module id).declarations) {new : String} (hx : a.request r id d = .rewrite new) :
    a.requestOf (a.visit r' id) r' { d with version := some new } = .nothing := by
  have hasked := requestOf_asked a (a.visit r id) (a.asVisited r id) d
  have hx' : a.requestOf (a.visit r id) (a.asVisited r id) d = .rewrite new := hx
  rw [hx'] at hasked
  generalize hy : Request.rewrite new = y at hasked
  cases hasked with
  | nothing | demand => cases hy
  | @rewrite old target explicit hversion _ _ hcause =>
    obtain rfl := Request.rewrite.inj hy
    refine a.evaluator.requestTo_of_fixed fun text htext => ?_
    rw [Site.version?_of] at htext
    obtain rfl := Option.some.inj (Option.filter_eq_some_iff.mp htext).1
    refine ⟨propertyOf?_of_settled hsettled hd hx, fun found again hfound => ?_⟩
    obtain ⟨rfl, rfl⟩ := Prod.mk.inj
      (target?_of_settled hstrict hsize hid hsettled hd hcause _ hfound)
    exact literalText_of_settled hsettled hd hversion hcause

variable (h : Left a r r') (hid : id < r.size)

include h hid

theorem Left.writtenVersion :
    (r'.module id).writtenVersion = ((a.asVisited r id).module id).writtenVersion := by
  obtain ⟨q, hframe, _, hr'⟩ := h.written
  have hversion : (r'.module id).version = (r.module id).version := by
    rw [hr', ((a.ledgerOf r).sameDeclared_flush q id).version, (hframe.modules id).version]
  rw [Module.writtenVersion, Module.writtenVersion, hversion, h.parent hid,
    ((a.sameFrame_asVisited r hid).modules id).version]

theorem Left.isSelfReference {old : String}
    (hsame : r'.isOwnVersion id old = r.isOwnVersion id old) :
    Evaluator.isSelfReference r' id old = Evaluator.isSelfReference (a.asVisited r id) id old := by
  rw [Evaluator.isSelfReference, Evaluator.isSelfReference, h.writtenVersion hid, hsame,
    (a.sameFrame_asVisited r hid).isOwnVersion]

variable (hsettled : ¬ Unsettled a r r' id) {d : Declaration}
  (hd : d ∈ (r.module id).declarations)

include hsettled hd

/-- A text that is still there has the same target again. -/
theorem Left.offer_target? {old : String} (hversion : d.version = some old) :
    ((a.visit r' id).offer (r'.declaredArtifact id d)).target?
        (Evaluator.isSelfReference r' id old) =
      ((a.visit r id).offer ((a.asVisited r id).declaredArtifact id d)).target?
        (Evaluator.isSelfReference (a.asVisited r id) id old) := by
  rw [← offer_eq_of_settled h.sameLinks.size hid hsettled hd]
  generalize hoffer : (a.visit r' id).offer (r'.declaredArtifact id d) = o
  by_cases hsame : r'.isOwnVersion id old = r.isOwnVersion id old
  · rw [h.isSelfReference hid hsame]
  · rw [Offer.target?, Offer.target?]
    cases hforced : o.forced with
    | some version => rfl
    | none =>
      have hnothing : o.versions = [] := by
        by_contra hoffered
        exact hsettled (.released hd hversion (hoffer ▸ hforced) (hoffer ▸ hoffered) hsame)
      rw [hnothing]
      cases Evaluator.isSelfReference r' id old <;>
        cases Evaluator.isSelfReference (a.asVisited r id) id old <;> rfl

variable (hstrict : a.strict.enabled = false)

include hstrict

/-- A declaration that was not rewritten asks for the same again. -/
theorem Left.repeats_of_text? (hkept : (a.request r id d).text? = none) :
    Repeats r r' (a.request r id d) (a.requestOf (a.visit r' id) r' d) := by
  have hagain : a.requestOf (a.visit r' id) r' d =
      (a.request r id d).withOrigin (r'.declaredArtifact id d) := by
    rw [request, requestOf, requestOf, module_visit, module_visit,
      a.evaluator.requestTo_congr (Site.of (a.asVisited r id) id (a.visit r id).artifact d)
        (Site.of r' id (a.visit r' id).artifact d), Site.artifact_of]
    · rw [Site.module_of, Site.module_of]
    · rw [Site.version?_of, Site.version?_of]
    · intro old hversion
      rw [target?_eq_offer hstrict, target?_eq_offer hstrict, Site.module_of, Site.module_of,
        Site.artifact_of, Site.artifact_of]
      exact h.offer_target? hid hsettled hd (Site.version?_eq_some hversion).1
  rw [hagain]
  cases hx : a.request r id d with
  | nothing => exact ⟨rfl, rfl⟩
  | rewrite new =>
    rw [hx] at hkept
    cases hkept
  | demand q =>
    have hlives : PropertyLedger.ownerFor r' q = PropertyLedger.ownerFor r q := by
      by_contra hother
      exact hsettled (.rerouted hd hx hother)
    refine ⟨rfl, congrArg some ?_⟩
    rw [Demand.bid_withOrigin, Demand.bid, Demand.bid, hlives]

end

section

variable {a : DependencyAlignment} {r r' : Reactor} {id : Nat} (hstrict : a.strict.enabled = false)
  (h : Left a r r') (hid : id < r.size) (hsettled : ¬ Unsettled a r r' id)

include hstrict h hid hsettled

/-- A declared parent that was moved has the version that is offered for it. -/
theorem Left.asVisited_eq_self : a.asVisited r' id = r' := by
  rw [asVisited]
  split
  · rename_i hroot
    have hroot : r.isRoot id = true := by
      rwa [Reactor.isRoot, h.sameLinks.parent] at hroot
    have hafter := h.parent hid
    rw [asVisited, if_pos hroot, module_moveParent hid, if_pos rfl,
      parentMove?_eq_offer hstrict, module_visit] at hafter
    rw [parentMove?_eq_offer hstrict, module_visit]
    cases hparent : (r.module id).parent with
    | none =>
      rw [hparent, Option.bind_none, Option.elim_none, hparent] at hafter
      rw [hafter]
      rfl
    | some parent =>
      rw [hparent, Option.bind_some,
        ← offer_parent_of_settled h.sameLinks.size hid hsettled hroot hparent] at hafter
      generalize hmove : ((a.visit r' id).offer parent.artifact).parentTarget?.filter
        (· ≠ parent.version) = move at hafter
      cases move with
      | none =>
        rw [Option.elim_none, hparent] at hafter
        rw [hafter, Option.bind_some, hmove]
        rfl
      | some new =>
        obtain ⟨htarget, _⟩ := Option.filter_eq_some_iff.mp hmove
        have hafter : (r'.module id).parent = some { parent with version := new } := by
          rw [hafter, Option.elim_some, Module.withParentVersion, hparent]
          rfl
        have hartifact : ({ parent with version := new } : Parent).artifact = parent.artifact := rfl
        rw [hafter, Option.bind_some, hartifact, htarget, Option.filter_some_neg (by simp)]
        rfl
  · rfl

/-- Every declaration asks for what it asked for before, but for texts that are written. -/
theorem Left.repeats {d : Declaration} (hd : d ∈ (r.module id).declarations) :
    Repeats r r' (a.request r id d) (a.request r' id (a.realign r id d)) := by
  have hagain : ∀ d', a.request r' id d' = a.requestOf (a.visit r' id) r' d' := by
    intro d'
    rw [request, h.asVisited_eq_self hstrict hid hsettled]
  rw [hagain, realign, Request.realign]
  cases hx : (a.request r id d).text? with
  | none => exact h.repeats_of_text? hid hsettled hd hstrict hx
  | some new =>
    have hx : a.request r id d = .rewrite new := by
      cases hy : a.request r id d with
      | nothing | demand =>
        rw [hy] at hx
        cases hx
      | rewrite text =>
        rw [hy] at hx
        rw [Option.some.inj hx]
    dsimp only
    rw [requestOf_of_rewrite hstrict h.sameLinks.size hid hsettled hd hx, hx]
    exact ⟨rfl, rfl⟩

variable (htransitive : a.config.overrideTransitive = false)

include htransitive

theorem Left.alignedModule_eq_self : a.alignedModule r' id = r'.module id := by
  have hkept : ∀ d ∈ (r'.module id).declarations, (a.request r' id d).text? = none := by
    intro d hd
    rw [h.declarations_of_not_transitive hid htransitive] at hd
    obtain ⟨d, hbefore, rfl⟩ := List.mem_map.mp hd
    exact (h.repeats hstrict hid hsettled hbefore).text
  have hadded : a.added r' id = [] := by
    simp [added, injects, htransitive]
  rw [alignedModule, hadded, alignedDeclared, foldl_write_eq_self _ hkept,
    h.asVisited_eq_self hstrict hid hsettled]
  rfl

end

/-! ## The second run -/

section

variable {a : DependencyAlignment} {r r' r'' : Reactor}

theorem bids_eq_flatMap (a : DependencyAlignment) (r : Reactor) : a.bids r =
    r.order.flatMap fun id => (r.module id).declarations.filterMap fun d =>
      (a.request r id d).demand?.map (Demand.bid r) := by
  have hbid : ∀ d ∈ a.demands r, d.bid (a.asVisited r d.module) = d.bid r := by
    intro d hd
    rw [Demand.bid, Demand.bid, PropertyLedger.ownerFor, PropertyLedger.ownerFor,
      (a.sameFrame_asVisited r (module_lt_of_mem_demands hd)).ownerOf]
  rw [bids, List.map_congr_left hbid, demands, List.map_flatMap]
  simp only [demandsIn, List.map_filterMap]

variable (hstrict : a.strict.enabled = false) (htransitive : a.config.overrideTransitive = false)
  (h : Left a r r') (hsettled : ∀ id < r.size, ¬ Unsettled a r r' id)

include hstrict htransitive h hsettled

theorem Left.bids_eq : a.bids r' = a.bids r := by
  rw [bids_eq_flatMap, bids_eq_flatMap, h.sameLinks.order]
  refine List.flatMap_congr fun id hid => ?_
  have hid := Reactor.lt_of_mem_order hid
  rw [h.declarations_of_not_transitive hid htransitive, List.filterMap_map]
  refine List.filterMap_congr fun d hd => ?_
  exact (h.repeats hstrict hid (hsettled id hid) hd).bid

theorem Left.rerun_eq (h' : Left a r' r'') : r'' = r' := by
  obtain ⟨q, hframe, hmodules, hr''⟩ := h'.written
  have hsize : r'.size = r.size := h.sameLinks.size
  have hq : q.reactor = r' := by
    refine Reactor.eq_of_module hframe.size fun id hid => ?_
    rw [hmodules id hid]
    exact h.alignedModule_eq_self hstrict (hsize ▸ hid) (hsettled id (hsize ▸ hid)) htransitive
  rw [hr'']
  exact h.flush_eq_self (h.bids_eq hstrict htransitive hsettled) hq

end

/-- Run again on what it left, the alignment changes nothing, unless something in a module is not
settled. -/
theorem rerun_unchanged {a : DependencyAlignment} (hstrict : a.strict.enabled = false)
    (htransitive : a.config.overrideTransitive = false) {p p₁ q p₂ : Progress}
    (hrun : a.run p = .ok p₁) (hq : q.reactor = p₁.reactor) (hrerun : a.run q = .ok p₂) :
    p₂.reactor = p₁.reactor ∨
      ∃ id < p.reactor.size, Unsettled a p.reactor p₁.reactor id := by
  by_cases hsettled : ∀ id < p.reactor.size, ¬ Unsettled a p.reactor p₁.reactor id
  · have hagain : Left a p₁.reactor p₂.reactor := hq ▸ left_of_run hrerun
    exact .inl ((left_of_run hrun).rerun_eq hstrict htransitive hsettled hagain)
  · push Not at hsettled
    exact .inr hsettled

def oneLibrary (version : String) : Progress where
  reactor := {
    modules := [
      { group := some "org.app", name := "app", version := some "1"
        body := {
          properties := Table.ofList [("n", "1")]
          dependencies := [{ group := "org.b", name := "lib", version := some version }] } }]
    forest := Reactor.forest_of_checks (by simp) rfl rfl }
  report := {}

def theLibrary (version : String) : Declaration where
  address := ⟨.main, .dependencies, 0⟩
  group := "org.b"
  name := "lib"
  version := some version
  kind := "jar"
  classifier := none

/-- A rebuilt version of the library, and no strict check. -/
def relabelling : DependencyAlignment where
  config := { precedence := .bom }
  strict := { suffix := some (.label "redhat".toList), label := some "redhat" }
  sources := {
    bom := .ofCoordinates .bom [
      Artifact.at { group := "org.b", name := "lib" } "2.0.redhat-2"] }
  rules := {}

/-- A text with its reference in front of the label. -/
def inFront : String :=
  "$\x7bn\x7d.0.redhat-1"

/-- A text with its reference behind the label. -/
def behindLabel : String :=
  "1.0.redhat-$\x7bn\x7d"

def relabelled (version : String) : Progress :=
  (relabelling.run (oneLibrary version)).toOption.getD (oneLibrary version)

/-- A text that starts with its reference has it still. -/
theorem rerun_unchanged_inFront :
    ∃ p₁ p₂, relabelling.run (oneLibrary inFront) = .ok p₁ ∧
      (p₁.reactor.module 0).declarations.map Declaration.version =
        [some "$\x7bn\x7d.0.redhat-2"] ∧
      relabelling.run p₁ = .ok p₂ ∧ p₂.reactor = p₁.reactor := by
  have hrun : relabelling.run (oneLibrary inFront) = .ok (relabelled inFront) := by
    decide +kernel
  have hrerun : relabelling.run (relabelled inFront) =
      .ok ((relabelling.run (relabelled inFront)).toOption.getD (relabelled inFront)) := by
    decide +kernel
  refine ⟨_, _, hrun, by decide +kernel, hrerun,
    (rerun_unchanged rfl rfl hrun rfl hrerun).resolve_right ?_⟩
  rintro ⟨id, hid, hunsettled⟩
  obtain rfl : id = 0 := Nat.lt_one_iff.mp hid
  have hlib : ∀ d ∈ ((oneLibrary inFront).reactor.module 0).declarations,
      d = theLibrary inFront := by
    decide +kernel
  have hrequest : relabelling.request (oneLibrary inFront).reactor 0 (theLibrary inFront) =
      .rewrite "$\x7bn\x7d.0.redhat-2" := by
    decide +kernel
  have htarget : relabelling.target? (relabelling.visit (oneLibrary inFront).reactor 0)
      (relabelling.asVisited (oneLibrary inFront).reactor 0)
      (Site.of (relabelling.asVisited (oneLibrary inFront).reactor 0) 0
        (relabelling.visit (oneLibrary inFront).reactor 0).artifact (theLibrary inFront))
      inFront = some ("2.0.redhat-2", false) := by
    decide +kernel
  have hplain : propertyOf? "$\x7bn\x7d.0.redhat-2" = none := by
    decide +kernel
  cases hunsettled with
  | parent _ hparent => exact absurd hparent nofun
  | renamed hd _ hoffered =>
    obtain rfl := hlib _ hd
    exact hoffered (by decide +kernel)
  | released hd hversion _ _ hchanged =>
    obtain rfl := hlib _ hd
    obtain rfl := Option.some.inj hversion
    exact hchanged (by decide +kernel)
  | rerouted hd hdemanded =>
    obtain rfl := hlib _ hd
    exact absurd (hrequest.symm.trans hdemanded) nofun
  | severed hd hversion _ hcause _ hcut =>
    obtain rfl := hlib _ hd
    obtain rfl := Option.some.inj hversion
    obtain ⟨rfl, rfl⟩ := Prod.mk.inj (Option.some.inj
      (htarget.symm.trans (target?_of_cause hcause)))
    exact absurd hcut (by decide +kernel)
  | referring hd hreplaced hrefers =>
    obtain rfl := hlib _ hd
    obtain rfl := Request.rewrite.inj (hrequest.symm.trans hreplaced)
    exact absurd (hplain.symm.trans hrefers) nofun

/-- A text whose reference is behind the label loses it in the first run, and is replaced as a whole
in the second one. -/
theorem rerun_changes_behindLabel :
    ∃ p₁ p₂, relabelling.strict.enabled = false ∧
      relabelling.config.overrideTransitive = false ∧
      relabelling.run (oneLibrary behindLabel) = .ok p₁ ∧
      relabelling.run p₁ = .ok p₂ ∧
      (p₁.reactor.module 0).declarations.map Declaration.version = [some "1.0.redhat-2"] ∧
      (p₂.reactor.module 0).declarations.map Declaration.version = [some "2.0.redhat-2"] := by
  refine ⟨relabelled behindLabel,
    (relabelling.run (relabelled behindLabel)).toOption.getD (relabelled inFront),
    rfl, rfl, ?_⟩
  decide +kernel

end DependencyAlignment

end BuildAlign

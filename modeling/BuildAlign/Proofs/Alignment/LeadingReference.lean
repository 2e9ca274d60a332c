import BuildAlign.Proofs.Alignment.Request
import BuildAlign.Proofs.Reactor.Reference

/-!
Version texts that start with a property reference. Such a text is cut at the first place where the
rebuild label stands, which may be inside the reference. The reference is lost exactly if it is cut
there and the target does not go on with what is cut off.
-/

namespace BuildAlign

namespace Text

/-- What a text starts with is still in front after its tail was replaced behind a mark, if the new
tail completes what the mark cuts. -/
theorem isPrefix_splice_iff {s front mark rest : List Char} (h : s <+: front ++ mark ++ rest)
    (tail : List Char) :
    s <+: front ++ mark ++ tail ↔ ∀ inner, s = front ++ mark ++ inner → inner <+: tail := by
  constructor
  · rintro hkept inner rfl
    exact (List.prefix_append_right_inj (front ++ mark)).mp hkept
  · intro hcompleted
    -- the mark ends behind what the text starts with, or inside of it
    rcases List.prefix_or_prefix_of_prefix h (List.prefix_append (front ++ mark) rest) with
      hfront | ⟨inner, hinner⟩
    · exact hfront.trans (List.prefix_append (front ++ mark) tail)
    · rw [← hinner]
      exact (List.prefix_append_right_inj (front ++ mark)).mpr (hcompleted inner hinner.symm)

end Text

namespace Evaluator

/-- The rebuild label cuts through a reference that a text starts with: it stands there for the
first time inside of the reference, and the target, which starts otherwise, does not go on behind
its own label as the reference does. -/
def Severs (e : Evaluator) (name : List Char) (old target : String) : Prop :=
  ∃ label, e.strict.label = some label ∧ ∃ head inner rest front tail,
    Template.reference name = head ++ label.toList ++ inner ∧
    Text.cutFirst? label.toList old.toList = some (head, rest) ∧
    Text.cutFirst? label.toList target.toList = some (front, tail) ∧
    front ≠ head ∧ ¬ inner <+: tail

variable (e : Evaluator) {name : List Char} {old : String}

/-- A leading reference is lost exactly if the rebuild label severs it: the cut at the label then
falls inside of the reference. -/
theorem literalText_kept_iff (hold : Template.reference name <+: old.toList) (target : String) :
    e.literalText old target = target ∨
        Template.reference name <+: (e.literalText old target).toList ↔
      ¬ e.Severs name old target := by
  constructor
  · rintro hkept ⟨label, hlabel, head, inner, rest, front, tail, hinner, hcut, hcutTarget,
      hne, hnot⟩
    have hreference : Template.hasReference old = true := by
      refine Text.occurs_iff.mpr ((List.IsPrefix.trans ?_ hold).isInfix)
      rw [Template.reference, List.append_assoc]
      exact List.prefix_append ..
    have hspliced := spliceAt?_eq_some_iff.mpr ⟨head, rest, front, tail, hcut, hcutTarget, rfl⟩
    rw [e.literalText_of_splice hreference hlabel hspliced, String.toList_ofList] at hkept
    rcases hkept with hwhole | hkept
    · have hchars := congrArg String.toList hwhole
      rw [String.toList_ofList, Text.cutFirst?_eq_some hcutTarget] at hchars
      exact hne (List.append_cancel_right (List.append_cancel_right hchars)).symm
    · rw [Text.cutFirst?_eq_some hcut] at hold
      exact hnot ((Text.isPrefix_splice_iff hold tail).mp hkept inner hinner)
  · intro hwhole
    rcases e.literalText_cases old target with hsame | ⟨label, new, hlabel, hspliced, hnew⟩
    · exact .inl hsame
    obtain ⟨head, rest, front, tail, hcut, hcutTarget, rfl⟩ := spliceAt?_eq_some_iff.mp hspliced
    rw [hnew, String.toList_ofList]
    by_cases hfront : front = head
    -- joined with its own head the target is whole
    · left
      rw [← hfront, ← Text.cutFirst?_eq_some hcutTarget, String.ofList_toList]
    · right
      rw [Text.cutFirst?_eq_some hcut] at hold
      refine (Text.isPrefix_splice_iff hold tail).mpr fun inner hinner => ?_
      by_contra hnot
      exact hwhole ⟨label, hlabel, head, inner, rest, front, tail, hinner, hcut, hcutTarget,
        hfront, hnot⟩

/-! ## The text that an evaluation asks for -/

variable {r : Reactor} {s s' : Evaluation} {site : Site} {new : String}

/-- A text that is asked for is the one that the target gives. -/
theorem exists_target_of_replace {target? : String → Option (String × Bool)}
    (hversion : site.version? = some old)
    (h : (e.requestTo site target?).Fulfilled r s.ledger (.replace new, s')) :
    ∃ target explicit, target? old = some (target, explicit) ∧ new = e.literalText old target := by
  have htext : some new = (e.requestTo site target?).text? := h.text
  rw [requestTo, hversion] at htext
  dsimp only at htext
  cases htarget : target? old with
  | none =>
    rw [htarget] at htext
    cases htext
  | some target =>
    obtain ⟨target, explicit⟩ := target
    rw [htarget] at htext
    refine ⟨target, explicit, rfl, ?_⟩
    dsimp only [requestMove] at htext
    split at htext
    · cases htext
    · split at htext
      · cases htext
      · exact Option.some.inj htext

/-- A version text that starts with a reference is replaced by the whole target, or by a text that
starts with the same reference, exactly if the rebuild label does not cut through the reference. -/
theorem leading_reference_kept_iff (r : Reactor) (s : Evaluation) (site : Site)
    (hversion : site.version? = some old) (hold : Template.reference name <+: old.toList) :
    (∀ entries rules new s', e.evaluate r s site entries rules = .ok (.replace new, s') →
      ∃ target,
        e.strict.choose? (r.resolve site.module old) (candidateVersions entries) = some target ∧
        (new = target ∨ Template.reference name <+: new.toList ↔ ¬ e.Severs name old target)) ∧
    ∀ version new s', e.evaluateExplicit r s site version = .ok (.replace new, s') →
      ∃ target, Text.nonBlank? version = some target ∧
        (new = target ∨ Template.reference name <+: new.toList ↔ ¬ e.Severs name old target) := by
  constructor
  · intro entries rules new s' hevaluated
    have hexact := e.evaluate_exact r s site entries rules
    rw [hevaluated] at hexact
    obtain ⟨target, explicit, htarget, rfl⟩ := e.exists_target_of_replace hversion hexact
    refine ⟨target, ?_, e.literalText_kept_iff hold target⟩
    rw [unforcedTarget?, Option.ite_none_left_eq_some, entryTarget?,
      Option.ite_none_left_eq_some] at htarget
    obtain ⟨_, hchosen, heq⟩ := Option.map_eq_some_iff.mp htarget.2.2
    rw [hchosen, (Prod.mk.inj heq).1]
  · intro version new s' hevaluated
    have hexact := e.evaluateExplicit_exact r s site version
    rw [hevaluated] at hexact
    obtain ⟨target, explicit, htarget, rfl⟩ := e.exists_target_of_replace hversion hexact
    obtain ⟨_, hgiven, heq⟩ := Option.map_eq_some_iff.mp htarget
    exact ⟨target, by rw [hgiven, (Prod.mk.inj heq).1], e.literalText_kept_iff hold target⟩

/-! ## A label inside of a property name -/

def prefixedVersions : Reactor where
  modules := [
    { group := some "org.a", name := "app", version := some "1.0"
      body := {
        properties := Table.ofList [("foo.version", "1.0"), ("redhat.version", "1.0")]
        dependencies := [
          { group := "org.b", name := "first", version := some "$\x7bfoo.version\x7d.1-redhat-1" },
          { group := "org.b", name := "second",
            version := some "$\x7bredhat.version\x7d-redhat-1" }] } }]
  forest := Reactor.forest_of_checks (by simp) (by decide) (by decide)

def prefixedSite (index : Nat) (name version : String) : Site :=
  Site.of prefixedVersions 0 { group := "org.a", name := "app" }
    { address := { scope := .main, collection := .dependencies, index }
      group := "org.b"
      name
      version := some version
      kind := defaultKind
      classifier := none }

def redhatLabel : Evaluator where
  strict := { suffix := some (.label "redhat".toList), label := some "redhat" }
  failOnPropertyClash := false

def secondEntries (versions : List String) : List OverrideEntry :=
  versions.map fun version =>
    { target := Artifact.at { group := "org.b", name := "second" } version, source := .bom }

/-- Behind the reference the label is where the tail of the target is put. -/
theorem leading_reference_kept_mixed :
    let site := prefixedSite 0 "first" "$\x7bfoo.version\x7d.1-redhat-1"
    site.version? = some "$\x7bfoo.version\x7d.1-redhat-1" ∧
      Template.reference "foo.version".toList <+: "$\x7bfoo.version\x7d.1-redhat-1".toList ∧
      ¬ redhatLabel.Severs "foo.version".toList "$\x7bfoo.version\x7d.1-redhat-1" "1.0.1.redhat-2" ∧
      redhatLabel.evaluateExplicit prefixedVersions {} site " 1.0.1.redhat-2" =
        .ok (.replace "$\x7bfoo.version\x7d.1-redhat-2", {}) := by
  intro site
  have hversion : site.version? = some "$\x7bfoo.version\x7d.1-redhat-1" := by
    decide +kernel
  have hreference :
      Template.reference "foo.version".toList <+: "$\x7bfoo.version\x7d.1-redhat-1".toList := by
    decide
  have hevaluated : redhatLabel.evaluateExplicit prefixedVersions {} site " 1.0.1.redhat-2" =
      .ok (.replace "$\x7bfoo.version\x7d.1-redhat-2", {}) := by
    decide +kernel
  obtain ⟨target, htarget, hkept⟩ :=
    (redhatLabel.leading_reference_kept_iff prefixedVersions {} site hversion hreference).2 _ _ _
      hevaluated
  obtain rfl : "1.0.1.redhat-2" = target :=
    Option.some.inj (Eq.trans (by decide +kernel) htarget)
  exact ⟨hversion, hreference, hkept.mp (.inr (by decide)), hevaluated⟩

/-- The label is found in the name of the property, and the text is cut there. -/
theorem leading_reference_cut :
    let site := prefixedSite 1 "second" "$\x7bredhat.version\x7d-redhat-1"
    site.declaration ∈ (prefixedVersions.module 0).declarations ∧
      site.version? = some "$\x7bredhat.version\x7d-redhat-1" ∧
      propertyOf? "$\x7bredhat.version\x7d-redhat-1" = none ∧
      Template.reference "redhat.version".toList <+: "$\x7bredhat.version\x7d-redhat-1".toList ∧
      redhatLabel.evaluate prefixedVersions {} site (secondEntries ["1.0.redhat-2"]) {} =
        .ok (.replace "$\x7bredhat-2", {}) ∧
      redhatLabel.evaluateExplicit prefixedVersions {} site "1.0.redhat-2" =
        .ok (.replace "$\x7bredhat-2", {}) ∧
      ¬ Template.reference "redhat.version".toList <+: "$\x7bredhat-2".toList := by
  decide +kernel

end Evaluator

end BuildAlign

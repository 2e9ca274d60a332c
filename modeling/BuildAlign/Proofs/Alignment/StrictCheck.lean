import BuildAlign.Alignment.Strict
import BuildAlign.Proofs.Reactor.Reference
import BuildAlign.Proofs.Version.RoundTrip

/-!
The strict check of a version that is still a reference. No version without references agrees with
it: the texts differ, also without rebuild suffixes, and a reference is not read with a core.
-/

namespace BuildAlign

namespace Version

/-- A text that does not start with a digit is read without a core. -/
theorem core_ofChars {c : Char} {s : List Char} (hc : c.isDigit = false) :
    (ofChars (c :: s)).core = [] := by
  rw [ofChars]
  split
  · have hbody := splitSnapshot_append (c :: s)
    generalize splitSnapshot (c :: s) = cut at hbody ⊢
    obtain ⟨body, marker⟩ := cut
    have hhead : (body.head?.map Char.isDigit).getD false = false := by
      cases body with
      | nil => rfl
      | cons d body =>
        obtain ⟨rfl, _⟩ := List.cons.inj hbody
        exact hc
    simp [splitCore, hhead]
  · rfl

end Version

/-- A suffix that is recognised by a label of ASCII letters, digits and dashes. -/
def RebuildSuffix.IsLabel : RebuildSuffix → Bool
  | label text => text.all fun c => c.isAlphanum || c == '-'
  | pattern _ => false

namespace RebuildSuffix

/-- A text that is a suffix ends in a separator, in the label, or in a digit. -/
theorem getLast?_of_isLabelled {label s : List Char} {c : Char} (h : isLabelled label s = true)
    (hc : s.getLast? = some c) :
    Version.isSeparator c = true ∨ c ∈ label ∨ Unicode.isDigit c = true := by
  cases s with
  | nil => exact absurd hc nofun
  | cons sep s =>
    obtain ⟨hsep, htail⟩ := Bool.and_eq_true_iff.mp h
    obtain ⟨rest, hafter, htail⟩ := (Option.any_eq_true ..).mp htail
    rw [Text.after?_eq_some_iff.mp hafter, List.getLast?_cons, List.getLast?_append] at hc
    cases rest with
    | nil =>
      cases hlabel : label.getLast? with
      | none =>
        rw [hlabel] at hc
        obtain rfl : sep = c := by simpa using hc
        exact .inl hsep
      | some last =>
        rw [hlabel] at hc
        obtain rfl : last = c := by simpa using hc
        exact .inr (.inl (List.mem_of_getLast? hlabel))
    | cons d digits =>
      obtain ⟨hjoint, hdigits⟩ := Bool.and_eq_true_iff.mp htail
      obtain ⟨_, hne⟩ := Bool.and_eq_true_iff.mp hjoint
      cases hlast : digits.getLast? with
      | none => simp [List.getLast?_eq_none_iff.mp hlast] at hne
      | some last =>
        rw [List.getLast?_cons, hlast] at hc
        obtain rfl : last = c := by simpa using hc
        exact .inr (.inr (List.all_eq_true.mp hdigits last (List.mem_of_getLast? hlast)))

/-- A reference ends in no suffix. -/
theorem start?_reference {x : RebuildSuffix} (hx : x.IsLabel = true) (name : List Char) :
    x.start? (Template.reference name) = none := by
  cases x with
  | pattern p => exact absurd hx nofun
  | label text =>
    refine List.find?_eq_none.mpr fun i hi hlabelled => ?_
    have hlast : ((Template.reference name).drop i).getLast? = some Template.closing := by
      rw [List.getLast?_drop, if_neg (by simpa using hi), Template.reference,
        List.getLast?_append]
      rfl
    rcases getLast?_of_isLabelled hlabelled hlast with hsep | hmem | hdigit
    · exact absurd hsep (by decide)
    · exact absurd (List.all_eq_true.mp hx _ hmem) (by decide)
    · exact absurd hdigit (by decide)

end RebuildSuffix

namespace StrictPolicy

variable {p : StrictPolicy} {candidate : String}

theorem strip_reference (hp : ∀ x ∈ p.suffix, x.IsLabel = true) (name : String) :
    p.strip (Template.referenceText name) = Template.referenceText name := by
  rw [strip]
  cases hsuffix : p.suffix with
  | none => rfl
  | some x =>
    rw [Option.bind_some, Template.referenceText, String.toList_ofList,
      RebuildSuffix.start?_reference (hp x hsuffix)]

/-- What is left of a version without its suffix is a part of it. -/
theorem strip_infix (p : StrictPolicy) (version : String) :
    (p.strip version).toList <:+: version.toList := by
  rw [strip]
  split
  · rw [String.toList_ofList]
    exact (List.take_prefix _ _).isInfix
  · exact List.infix_rfl

/-- A reference does not agree with a version that has none. -/
theorem agree_reference (name : String) (h : Template.hasReference candidate = false) :
    agree (Template.referenceText name) candidate = false := by
  have hne : Template.referenceText name ≠ candidate := by
    rintro rfl
    exact absurd ((Template.hasReference_referenceText name).symm.trans h) nofun
  have hcore : (Version.parse (Template.referenceText name)).core = [] := by
    rw [Version.parse, Template.referenceText, String.toList_ofList]
    exact Version.core_ofChars (by decide)
  simp [agree, hne, hcore]

/-- A reference may be replaced by no version that has none. -/
theorem check_reference (hp : ∀ x ∈ p.suffix, x.IsLabel = true) (name : String)
    (h : Template.hasReference candidate = false) :
    p.check (Template.referenceText name) candidate = false := by
  have hstripped : Template.hasReference (p.strip candidate) = false :=
    Template.hasReference_of_infix (p.strip_infix candidate) h
  rw [check, strip_reference hp, ite_self, agree_reference name hstripped, Bool.and_false]

end StrictPolicy

end BuildAlign

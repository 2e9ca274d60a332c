import BuildAlign.Proofs.Reactor.Nesting
import BuildAlign.Proofs.Template.Clean
import Mathlib.Logic.Relation

/-!
Interpolation as substitution. In a clean text, every reference to a name that stands for something
is replaced by what the text behind the name is replaced by, and all the rest stays in its place.
This has no bound on the depth. Where all texts that are read on the way are clean, and references
end within the depth to which they are expanded, interpolation is this substitution, and nothing is
left in its result that could be replaced.
-/

namespace BuildAlign.Reactor

/-- The second text is the first one with all references replaced, however deep they are nested.
Plain text stays, and so do references to names that stand for nothing. -/
inductive Substituted (r : Reactor) (id : Nat) : List Char → List Char → Prop
  | nil : Substituted r id [] []
  | plain {text s t : List Char} (clean : (Template.Piece.plain text).Clean)
      (rest : Substituted r id s t) : Substituted r id (text ++ s) (text ++ t)
  | unknown {name s t : List Char} (clean : (Template.Piece.reference name).Clean)
      (unknown : r.lookup id (String.ofList name) = none) (rest : Substituted r id s t) :
      Substituted r id (Template.reference name ++ s) (Template.reference name ++ t)
  | value {name full s t : List Char} {value : String}
      (clean : (Template.Piece.reference name).Clean)
      (stands : r.lookup id (String.ofList name) = some value)
      (inner : Substituted r id value.toList full) (rest : Substituted r id s t) :
      Substituted r id (Template.reference name ++ s) (full ++ t)

/-- A text refers to a name that stands for another text. -/
def RefersTo (r : Reactor) (id : Nat) (text value : String) : Prop :=
  ∃ name ∈ Template.references text, r.lookup id name = some value

/-- A text of clean pieces in which nothing can be replaced. -/
def Settled (r : Reactor) (id : Nat) (text : List Char) : Prop :=
  ∃ ps : List Template.Piece, (∀ p ∈ ps, p.Clean) ∧ ps.flatMap Template.Piece.chars = text ∧
    ∀ name, .reference name ∈ ps → r.lookup id (String.ofList name) = none

variable {r : Reactor} {id : Nat}

/-! ## Expanding piece by piece -/

theorem expand_flatMap {ps : List Template.Piece} (hps : ∀ p ∈ ps, p.Clean) (depth : Nat) :
    r.expand id (depth + 1) (ps.flatMap Template.Piece.chars) =
      ps.flatMap (r.expandPiece id depth) := by
  rw [expand_eq_flatMap]
  exact Template.flatMap_pieces (fun _ _ => rfl) hps

theorem expand_plain_append {text : List Char} (htext : (Template.Piece.plain text).Clean)
    (depth : Nat) (s : List Char) :
    r.expand id depth (text ++ s) = text ++ r.expand id depth s := by
  cases depth with
  | zero => rfl
  | succ depth =>
    rw [expand_eq_flatMap, expand_eq_flatMap]
    exact Template.flatMap_pieces_plain (fun _ _ => rfl) htext s

theorem expand_reference_append {name : List Char}
    (hname : (Template.Piece.reference name).Clean) (depth : Nat) (s : List Char) :
    r.expand id (depth + 1) (Template.reference name ++ s) =
      r.expandPiece id depth (.reference name) ++ r.expand id (depth + 1) s := by
  rw [expand_eq_flatMap, expand_eq_flatMap, Template.pieces_reference_append hname.2,
    List.flatMap_cons, List.flatMap_cons, expandPiece, List.nil_append]

/-! ## Substitution is expansion -/

/-- Expanded deep enough, a text is what substitution makes of it. -/
theorem Substituted.expand {s t : List Char} (h : r.Substituted id s t) :
    ∃ least, ∀ depth, least ≤ depth → r.expand id depth s = t := by
  induction h with
  | nil =>
    refine ⟨0, fun depth _ => ?_⟩
    have hempty : Template.hasReference "" = false := rfl
    exact r.expand_of_not_hasReference id depth hempty
  | plain clean _ ih =>
    obtain ⟨least, hrest⟩ := ih
    refine ⟨least, fun depth hdepth => ?_⟩
    rw [expand_plain_append clean, hrest depth hdepth]
  | unknown clean unknown _ ih =>
    obtain ⟨least, hrest⟩ := ih
    refine ⟨least + 1, fun depth hdepth => ?_⟩
    obtain ⟨depth, rfl⟩ : ∃ k, depth = k + 1 := ⟨depth - 1, by omega⟩
    rw [expand_reference_append clean, hrest (depth + 1) (by omega)]
    simp only [expandPiece, unknown]
  | value clean stands _ _ ihinner ihrest =>
    obtain ⟨inside, hinner⟩ := ihinner
    obtain ⟨least, hrest⟩ := ihrest
    refine ⟨max inside least + 1, fun depth hdepth => ?_⟩
    obtain ⟨depth, rfl⟩ : ∃ k, depth = k + 1 := ⟨depth - 1, by omega⟩
    rw [expand_reference_append clean, hrest (depth + 1) (by omega)]
    simp only [expandPiece, stands]
    rw [hinner depth (by omega)]

/-- Pieces that are replaced one by one make up a text that is replaced. -/
theorem substituted_flatMap {f : Template.Piece → List Char}
    (hplain : ∀ text, f (.plain text) = text) {ps : List Template.Piece}
    (hps : ∀ p ∈ ps, p.Clean)
    (hreference : ∀ name, .reference name ∈ ps →
      r.lookup id (String.ofList name) = none ∧ f (.reference name) = Template.reference name ∨
        ∃ value, r.lookup id (String.ofList name) = some value ∧
          r.Substituted id value.toList (f (.reference name))) :
    r.Substituted id (ps.flatMap Template.Piece.chars) (ps.flatMap f) := by
  induction ps with
  | nil => exact .nil
  | cons p later ih =>
    obtain ⟨hp, hlater⟩ := List.forall_mem_cons.mp hps
    have hrest := ih hlater fun name hname => hreference name (List.mem_cons_of_mem _ hname)
    rw [List.flatMap_cons, List.flatMap_cons]
    cases p with
    | plain text =>
      rw [hplain]
      exact .plain hp hrest
    | reference name =>
      rcases hreference name (List.mem_cons_self ..) with ⟨hnone, hsame⟩ | ⟨value, hvalue, hfull⟩
      · rw [hsame]
        exact .unknown hp hnone hrest
      · exact .value hp hvalue hfull hrest

/-- A text that is nested no deeper than it is expanded is expanded to what substitution makes of
it, if it is clean and so is all that is read on the way. -/
theorem substituted_expand {depth : Nat} {raw : String}
    (hclean : ∀ text, Relation.ReflTransGen (r.RefersTo id) raw text →
      Template.Clean text.toList) (hnested : r.NestedUpTo id depth raw) :
    r.Substituted id raw.toList (r.expand id depth raw.toList) := by
  induction depth generalizing raw with
  | zero =>
    obtain ⟨ps, hps, hraw⟩ := hclean raw .refl
    rw [Reactor.expand, ← hraw]
    refine substituted_flatMap (f := Template.Piece.chars) (fun _ => rfl) hps fun name hname =>
      .inl ⟨?_, rfl⟩
    exact hnested _ ((Template.mem_references_of_clean hps hraw).mpr ⟨name, hname, rfl⟩)
  | succ depth ih =>
    obtain ⟨ps, hps, hraw⟩ := hclean raw .refl
    rw [← hraw, expand_flatMap hps]
    refine substituted_flatMap (fun _ => rfl) hps fun name hname => ?_
    have hread : String.ofList name ∈ Template.references raw :=
      (Template.mem_references_of_clean hps hraw).mpr ⟨name, hname, rfl⟩
    cases hlookup : r.lookup id (String.ofList name) with
    | none => exact .inl ⟨rfl, by simp only [expandPiece, hlookup]⟩
    | some value =>
      refine .inr ⟨value, rfl, ?_⟩
      simp only [expandPiece, hlookup]
      exact ih (fun text htext => hclean text (.head ⟨_, hread, hlookup⟩ htext))
        (hnested _ hread value hlookup)

/-! ## What is left -/

/-- Nothing can be replaced in the result of a substitution. -/
theorem Substituted.settled {s t : List Char} (h : r.Substituted id s t) : r.Settled id t := by
  induction h with
  | nil => exact ⟨[], nofun, rfl, nofun⟩
  | @plain text _ _ clean _ ih =>
    obtain ⟨ps, hps, rfl, hunknown⟩ := ih
    refine ⟨.plain text :: ps, List.forall_mem_cons.mpr ⟨clean, hps⟩, rfl, fun name hname => ?_⟩
    rcases List.mem_cons.mp hname with heq | hname
    · cases heq
    · exact hunknown name hname
  | @unknown name _ _ clean unknown _ ih =>
    obtain ⟨ps, hps, rfl, hunknown⟩ := ih
    refine ⟨.reference name :: ps, List.forall_mem_cons.mpr ⟨clean, hps⟩, rfl,
      fun name' hname' => ?_⟩
    rcases List.mem_cons.mp hname' with heq | hname'
    · cases heq
      exact unknown
    · exact hunknown name' hname'
  | value _ _ _ _ ihinner ihrest =>
    obtain ⟨ps, hps, rfl, hunknown⟩ := ihinner
    obtain ⟨ps', hps', rfl, hunknown'⟩ := ihrest
    refine ⟨ps ++ ps', List.forall_mem_append.mpr ⟨hps, hps'⟩, List.flatMap_append,
      fun name hname => ?_⟩
    rcases List.mem_append.mp hname with hname | hname
    · exact hunknown name hname
    · exact hunknown' name hname

theorem Settled.lookup_eq_none {text name : List Char} (h : r.Settled id text)
    (hname : Template.closing ∉ name) (hoccurs : Template.reference name <:+: text) :
    r.lookup id (String.ofList name) = none := by
  obtain ⟨ps, hps, rfl, hunknown⟩ := h
  exact hunknown name (Template.mem_of_reference_infix hps hname hoccurs)

theorem Settled.resolve_eq_self {text : String} (h : r.Settled id text.toList) :
    r.resolve id text = text := by
  obtain ⟨ps, hps, htext, hunknown⟩ := h
  have hread : ∀ name ∈ Template.references text, r.lookup id name = none := by
    intro name hname
    obtain ⟨chars, hchars, rfl⟩ := (Template.mem_references_of_clean hps htext).mp hname
    exact hunknown chars hchars
  rw [resolve, r.expand_of_unknown id hread, String.ofList_toList]

/-- A text is resolved to what substitution makes of it, and to nothing else, if all texts that it
leads to are clean and its references end after at most as many look-ups as are made; then they run
in no circle either. No reference is left in the result that stands for something, and resolving the
result again changes nothing. -/
theorem interpolation_complete {raw : String} {depth : Nat}
    (hclean : ∀ text, Relation.ReflTransGen (r.RefersTo id) raw text →
      Template.Clean text.toList)
    (hnested : r.NestedUpTo id depth raw) (hdepth : depth ≤ maxDepth + 1) :
    (∀ text, r.Substituted id raw.toList text ↔ text = (r.resolve id raw).toList) ∧
      (∀ name, Template.closing ∉ name →
        Template.reference name <:+: (r.resolve id raw).toList →
          r.lookup id (String.ofList name) = none) ∧
      r.resolve id (r.resolve id raw) = r.resolve id raw := by
  have hresolved : r.Substituted id raw.toList (r.resolve id raw).toList := by
    rw [resolve, String.toList_ofList, hnested.expand hdepth]
    exact substituted_expand hclean hnested
  refine ⟨fun text => ⟨fun htext => ?_, ?_⟩, fun name hname hoccurs => ?_, ?_⟩
  · obtain ⟨least, hexpand⟩ := htext.expand
    obtain ⟨least', hexpand'⟩ := hresolved.expand
    rw [← hexpand (max least least') (Nat.le_max_left ..),
      hexpand' (max least least') (Nat.le_max_right ..)]
  · intro heq
    rw [heq]
    exact hresolved
  · exact hresolved.settled.lookup_eq_none hname hoccurs
  · exact hresolved.settled.resolve_eq_self

/-- The texts that a text leads to are clean if it is in a list of clean texts that lead to no
others. -/
theorem clean_of_closed {texts : List String}
    (hpieces : ∀ text ∈ texts, ∀ p ∈ Template.pieces text.toList, p.Clean)
    (hclosed : ∀ text ∈ texts, ∀ name ∈ Template.references text, ∀ value ∈ r.lookup id name,
      value ∈ texts) {raw text : String} (hraw : raw ∈ texts)
    (htext : Relation.ReflTransGen (r.RefersTo id) raw text) : Template.Clean text.toList := by
  have hmem : text ∈ texts := by
    induction htext with
    | refl => exact hraw
    | tail _ hstep ih =>
      obtain ⟨name, hname, hvalue⟩ := hstep
      exact hclosed _ ih name hname _ hvalue
  exact ⟨_, hpieces text hmem, Template.chars_pieces _⟩

/-- Properties each of which is an alias of the next one. The last one refers to a name that stands
for nothing. -/
def aliases (n : Nat) : List (String × String) :=
  ("v" ++ toString n, "1.$\x7bmissing\x7d") :: (List.range n).map fun i =>
    ("v" ++ toString i, "$\x7bv" ++ toString (i + 1) ++ "\x7d")

def aliasedModule (n : Nat) : Reactor where
  modules := [{ name := "app", body := { properties := Table.ofList (aliases n) } }]
  forest := forest_of_checks (by simp) rfl rfl

/-- Seventeen properties are looked up one after the other. -/
theorem interpolation_complete_aliased :
    (aliasedModule 16).NestedUpTo 0 17 "x$\x7bv0\x7d$\x7bnone\x7d\x7d" ∧
      (aliasedModule 16).Substituted 0 "x$\x7bv0\x7d$\x7bnone\x7d\x7d".toList
        "x1.$\x7bmissing\x7d$\x7bnone\x7d\x7d".toList := by
  let raw := "x$\x7bv0\x7d$\x7bnone\x7d\x7d"
  have hnested : (aliasedModule 16).NestedUpTo 0 17 raw := by decide +kernel
  have hpieces : ∀ text ∈ raw :: (aliases 16).map Prod.snd,
      ∀ p ∈ Template.pieces text.toList, p.Clean := by
    decide +kernel
  have hclosed : ∀ text ∈ raw :: (aliases 16).map Prod.snd,
      ∀ name ∈ Template.references text, ∀ value ∈ (aliasedModule 16).lookup 0 name,
        value ∈ raw :: (aliases 16).map Prod.snd := by
    decide +kernel
  have hresolve : (aliasedModule 16).resolve 0 raw =
      "x1.$\x7bmissing\x7d$\x7bnone\x7d\x7d" := by
    decide +kernel
  have hcomplete := interpolation_complete
    (fun _ => clean_of_closed hpieces hclosed (List.mem_cons_self ..)) hnested (by decide)
  refine ⟨hnested, (hcomplete.1 _).mpr ?_⟩
  rw [hresolve]

/-- One more alias is one too many. -/
example : (aliasedModule 17).resolve 0 "$\x7bv0\x7d" = "$\x7bv17\x7d" := by decide +kernel

end BuildAlign.Reactor

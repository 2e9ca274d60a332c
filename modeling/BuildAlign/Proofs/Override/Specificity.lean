import BuildAlign.Override.Rule
import BuildAlign.Proofs.Reactor.Order
import BuildAlign.Proofs.Satisfies
import BuildAlign.Proofs.Sorting
import Mathlib.Data.Prod.Lex
import Mathlib.Data.Set.List

/-!
Which explicit rule decides. Reading the rules sorts them by rank and keeps the order of
configuration within a rank, so the first one that has a say is the least one in the order of
specificity and position. Where equally specific rules keep their order, the rules that are read are
the same.
-/

namespace BuildAlign

namespace Rule

/-! ## The order of rules -/

def Target.isGroup : Target → Bool
  | artifact _ => false
  | group _ => true

/-- How specific a rule is: a rule for one artifact comes before one for a group, and then a rule
for one module before one for all. -/
def specificity (rule : Rule) : Bool ×ₗ Bool :=
  toLex (rule.target.isGroup, rule.module.isNone)

/-- The place of a configured rule among all: of equally specific ones the earlier one comes first.
-/
def place (i : Nat) (rule : Rule) : (Bool ×ₗ Bool) ×ₗ Nat :=
  toLex (rule.specificity, i)

/-- A rule has a say on an artifact in a module: it holds there, is for the artifact, and does not
refer to a source without an entry for it. -/
structure Decides (rule : Rule) (module a : Artifact) : Prop where
  holds : rule.module = none ∨ rule.module = some module
  covers : rule.target = .artifact a ∨ rule.target = .group a.group
  known : ∀ name entries, rule.verdict = .fromBom name entries →
    ∃ e ∈ entries.entries, e.artifact = a

/-- The rank of the rules of one specificity. -/
def rankAt (k : Bool ×ₗ Bool) : Nat :=
  2 * (ofLex k).1.toNat + (ofLex k).2.toNat

theorem exists_rankAt : ∀ n < 4, ∃ b c : Bool, rankAt (toLex (b, c)) = n := by
  decide

theorem strictMono_rankAt : StrictMono rankAt := by
  have hpairs : ∀ b c b' c' : Bool,
      toLex (b, c) < toLex (b', c') → rankAt (toLex (b, c)) < rankAt (toLex (b', c')) := by
    decide
  exact fun k k' => hpairs (ofLex k).1 (ofLex k).2 (ofLex k').1 (ofLex k').2

theorem rank_eq_rankAt (rule : Rule) : rule.rank = rankAt rule.specificity := by
  obtain ⟨target, module, _⟩ := rule
  cases target <;> cases module <;> rfl

theorem rank_lt (rule : Rule) : rule.rank < 4 := by
  obtain ⟨target, module, _⟩ := rule
  cases target <;> cases module <;> simp [rank]

theorem place_le_iff {i j : Nat} {rule rule' : Rule} :
    rule.place i ≤ rule'.place j ↔
      rule.rank < rule'.rank ∨ rule.rank = rule'.rank ∧ i ≤ j := by
  rw [place, place, Prod.Lex.toLex_le_toLex, rank_eq_rankAt, rank_eq_rankAt,
    strictMono_rankAt.lt_iff_lt, strictMono_rankAt.injective.eq_iff]

/-! ## Sorting by rank -/

theorem mem_byRank {rules : List Rule} {rule : Rule} : rule ∈ byRank rules ↔ rule ∈ rules := by
  rw [byRank, List.mem_flatMap]
  constructor
  · rintro ⟨_, _, hrule⟩
    exact List.mem_of_mem_filter hrule
  · intro hrule
    exact ⟨rule.rank, List.mem_range.mpr rule.rank_lt,
      List.mem_filter.mpr ⟨hrule, beq_self_eq_true _⟩⟩

theorem rank_of_mem_filter {rules : List Rule} (n : Nat) :
    ∀ rule ∈ rules.filter (·.rank == n), rule.rank = n :=
  fun _ hrule => beq_iff_eq.mp (List.mem_filter.mp hrule).2

theorem pairwise_byRank (rules : List Rule) :
    (byRank rules).Pairwise fun rule rule' => rule.rank ≤ rule'.rank := by
  have hrank := @rank_of_mem_filter rules
  refine List.pairwise_flatMap.mpr ⟨fun n _ => ?_, ?_⟩
  · refine List.pairwise_iff_forall_sublist.mpr fun {rule rule'} hsub => ?_
    rw [hrank n rule (hsub.subset (by simp)), hrank n rule' (hsub.subset (by simp))]
  · refine List.pairwise_lt_range.imp fun {n n'} hlt rule hrule rule' hrule' => ?_
    rw [hrank n rule hrule, hrank n' rule' hrule']
    exact hlt.le

/-- Rules of one rank keep their order. -/
theorem filter_byRank (rules : List Rule) {n : Nat} (hn : n < 4) :
    (byRank rules).filter (·.rank = n) = rules.filter (·.rank = n) := by
  rw [byRank, filter_flatMap_of_key rank_of_mem_filter List.nodup_range (List.mem_range.mpr hn)]
  rfl

/-- The rules are sorted by rank, by a sort that keeps the order of rules of one rank. -/
theorem byRank_eq_mergeSort (rules : List Rule) :
    byRank rules = rules.mergeSort fun rule rule' => decide (rule.rank ≤ rule'.rank) := by
  have hsorted := pairwise_mergeSort_key rank rules
  refine eq_of_filter_key_eq (pairwise_byRank rules) hsorted fun n => ?_
  rw [filter_mergeSort_key]
  by_cases hn : n < 4
  · exact filter_byRank rules hn
  · -- there are no rules of other ranks
    have hnone : ∀ rule : Rule, ¬ rule.rank = n := fun rule hrank => hn (hrank ▸ rule.rank_lt)
    simp [hnone]

section

variable {β : Type} {f : Rule → Option β} {rules : List Rule} {b : β}

/-- What is found first in the sorted list is found in the least place. -/
theorem place_of_findSome?_byRank (h : (byRank rules).findSome? f = some b) :
    ∃ i rule, rules[i]? = some rule ∧ f rule = some b ∧
      ∀ j rule', rules[j]? = some rule' → f rule' ≠ none → rule.place i ≤ rule'.place j := by
  obtain ⟨front, rule, back, hsplit, hrule, hfront⟩ := List.findSome?_eq_some_iff.mp h
  have hsorted := pairwise_byRank rules
  have hfilter := filter_byRank rules rule.rank_lt
  rw [hsplit] at hsorted hfilter
  -- the rule is at the same place among those of its rank, and so behind no other with an answer
  rw [List.filter_append, List.filter_cons_of_pos (by simp), eq_comm] at hfilter
  obtain ⟨front₁, rest, rfl, hfront₁, hrest⟩ := List.filter_eq_append_iff.mp hfilter
  obtain ⟨front₂, back', rfl, hfront₂, -, -⟩ := List.filter_eq_cons_iff.mp hrest
  rw [← List.append_assoc] at *
  refine ⟨(front₁ ++ front₂).length, rule, by simp, hrule, fun j rule' hj hrule' => ?_⟩
  have hmem : rule' ∈ rule :: back := by
    have hmem : rule' ∈ front ++ rule :: back := hsplit ▸ mem_byRank.mpr (List.mem_of_getElem? hj)
    exact (List.mem_append.mp hmem).resolve_left fun hmem => hrule' (hfront rule' hmem)
  have hrank : rule.rank ≤ rule'.rank := by
    rcases List.mem_cons.mp hmem with rfl | hmem
    · exact le_rfl
    · exact (List.pairwise_cons.mp (List.pairwise_append.mp hsorted).2.1).1 rule' hmem
  refine place_le_iff.mpr (hrank.lt_or_eq.imp_right fun heq => ⟨heq, ?_⟩)
  by_contra hearlier
  have hj' : (front₁ ++ front₂)[j]? = some rule' := by
    rwa [List.getElem?_append_left (Nat.lt_of_not_le hearlier)] at hj
  rcases List.mem_append.mp (List.mem_of_getElem? hj') with hmem | hmem
  · have hmem : rule' ∈ front.filter (·.rank = rule.rank) :=
      hfront₁ ▸ List.mem_filter.mpr ⟨hmem, by simp [heq]⟩
    exact hrule' (hfront rule' (List.mem_of_mem_filter hmem))
  · exact hfront₂ rule' hmem (by simp [heq])

theorem findSome?_byRank_eq_none_iff :
    (byRank rules).findSome? f = none ↔
      ∀ (i : Nat) (rule : Rule), rules[i]? = some rule → f rule = none := by
  rw [List.findSome?_eq_none_iff]
  constructor
  · intro hnone i rule hi
    exact hnone rule (mem_byRank.mpr (List.mem_of_getElem? hi))
  · intro hnone rule hrule
    obtain ⟨i, hi⟩ := List.mem_iff_getElem?.mp (mem_byRank.mp hrule)
    exact hnone i rule hi

/-- What is found first in the sorted list is what is found in the least place. -/
theorem findSome?_byRank_eq_some_iff :
    (byRank rules).findSome? f = some b ↔
      ∃ i rule, rules[i]? = some rule ∧ f rule = some b ∧
        ∀ j rule', rules[j]? = some rule' → f rule' ≠ none → rule.place i ≤ rule'.place j := by
  refine ⟨place_of_findSome?_byRank, ?_⟩
  rintro ⟨i, rule, hi, hrule, hleast⟩
  cases hfound : (byRank rules).findSome? f with
  | none =>
    rw [findSome?_byRank_eq_none_iff.mp hfound i rule hi] at hrule
    cases hrule
  | some b' =>
    obtain ⟨j, rule', hj, hrule', hleast'⟩ := place_of_findSome?_byRank hfound
    have hplace : rule.place i = rule'.place j :=
      le_antisymm (hleast j rule' hj (by simp [hrule'])) (hleast' i rule hi (by simp [hrule]))
    obtain rfl : i = j := (Prod.mk.inj (toLex.injective hplace)).2
    obtain rfl := Option.some.inj (hi.symm.trans hj)
    rw [← hrule, hrule']

end

/-! ## What a rule says in a module -/

variable {rule : Rule} {module a : Artifact} {answer : Resolution}

/-- What a rule says about an artifact in a module; nothing where it does not hold. -/
def says? (module a : Artifact) (rule : Rule) : Option Resolution :=
  if rule.target.covers a ∧ rule.holdsIn module then rule.answer? a else none

theorem holdsIn_iff : rule.holdsIn module ↔ rule.module = none ∨ rule.module = some module := by
  rw [holdsIn]
  cases rule.module <;> simp

theorem covers_iff {target : Target} :
    target.covers a ↔ target = .artifact a ∨ target = .group a.group := by
  cases target <;> simp [Target.covers]

theorem answer?_ne_none_iff :
    rule.answer? a ≠ none ↔ ∀ name entries, rule.verdict = .fromBom name entries →
      ∃ e ∈ entries.entries, e.artifact = a := by
  rw [answer?]
  cases rule.verdict with
  | exclude | force => simp
  | fromBom name entries => simp [OverrideMap.first?]

theorem says?_eq_some_iff :
    rule.says? module a = some answer ↔ rule.Decides module a ∧ rule.answer? a = some answer := by
  rw [says?, Option.ite_none_right_eq_some, covers_iff, holdsIn_iff]
  constructor
  · rintro ⟨⟨hcovers, hholds⟩, hanswer⟩
    exact ⟨⟨hholds, hcovers, answer?_ne_none_iff.mp (by simp [hanswer])⟩, hanswer⟩
  · rintro ⟨hdecides, hanswer⟩
    exact ⟨⟨hdecides.covers, hdecides.holds⟩, hanswer⟩

theorem says?_ne_none_iff : rule.says? module a ≠ none ↔ rule.Decides module a := by
  rw [Option.ne_none_iff_exists']
  constructor
  · rintro ⟨answer, hsays⟩
    exact (says?_eq_some_iff.mp hsays).1
  · intro hdecides
    obtain ⟨answer, hanswer⟩ :=
      Option.ne_none_iff_exists'.mp (answer?_ne_none_iff.mpr hdecides.known)
    exact ⟨answer, says?_eq_some_iff.mpr ⟨hdecides, hanswer⟩⟩

theorem resolve?_inModule (x : ExplicitRules) (module a : Artifact) :
    (x.inModule module).resolve? a = x.rules.findSome? (says? module a) := by
  rw [ExplicitRules.resolve?, ExplicitRules.inModule, List.filter_filter, ← List.head?_filterMap,
    List.filterMap_filter, ← List.head?_filterMap]
  simp only [Bool.and_eq_true]
  rfl

end Rule

/-! ## Reading the rules -/

namespace ExplicitRules

/-- The rule that is configured at a position. -/
def Configured (extra : Table String OverrideMap) (configs : List RuleConfig) (i : Nat)
    (rule : Rule) : Prop :=
  ∃ c, configs[i]? = some c ∧ Rule.parse extra c = .ok rule

def read? (extra : Table String OverrideMap) (c : RuleConfig) : Option Rule :=
  (Rule.parse extra c).toOption

def specificity? (extra : Table String OverrideMap) (c : RuleConfig) : Option (Bool ×ₗ Bool) :=
  (read? extra c).map Rule.specificity

variable {configs configs' : List RuleConfig} {extra : Table String OverrideMap} {x : ExplicitRules}

theorem parse_eq_ok_iff :
    parse configs extra = .ok x ↔
      ∃ rules, rules.map .ok = configs.map (Rule.parse extra) ∧ x = ⟨Rule.byRank rules⟩ := by
  rw [parse]
  simp only [← mapM_eq_ok_iff]
  cases configs.mapM (Rule.parse extra) with
  | error e => simp [Except.map]
  | ok rules => simp [Except.map, eq_comm]

/-- The rules that are read are those that are configured, position by position. -/
theorem getElem?_of_parse {rules : List Rule}
    (h : rules.map .ok = configs.map (Rule.parse extra)) {i : Nat} {rule : Rule} :
    rules[i]? = some rule ↔ Configured extra configs i rule := by
  have hi : configs[i]?.map (Rule.parse extra) = rules[i]?.map .ok := by
    rw [← List.getElem?_map, ← h, List.getElem?_map]
  rw [Configured, ← Option.map_eq_some_iff, hi]
  simp

theorem filterMap_read? {rules : List Rule}
    (h : rules.map .ok = configs.map (Rule.parse extra)) :
    configs.filterMap (read? extra) = rules :=
  filterMap_toOption_of_map_eq h

/-- The rules of one rank are read from the configurations of one specificity. -/
theorem filter_filterMap_read? (configs : List RuleConfig) (k : Bool ×ₗ Bool) :
    (configs.filterMap (read? extra)).filter (·.rank == Rule.rankAt k) =
      (configs.filter (specificity? extra · = some k)).filterMap
        (read? extra) := by
  rw [List.filter_filterMap, List.filterMap_filter]
  refine List.filterMap_congr fun c _ => ?_
  rw [specificity?]
  cases read? extra c with
  | none => simp
  | some rule =>
    have hrank : rule.rank = Rule.rankAt k ↔ rule.specificity = k := by
      rw [Rule.rank_eq_rankAt, Rule.strictMono_rankAt.injective.eq_iff]
    simp [Option.filter, hrank]

/-- Rules may change places with rules of another specificity. -/
theorem parse_of_perm (hperm : configs'.Perm configs)
    (horder : ∀ k, (configs'.filter (specificity? extra · = some k)) =
      configs.filter (specificity? extra · = some k))
    (hparse : parse configs extra = .ok x) : parse configs' extra = .ok x := by
  obtain ⟨rules, hrules, rfl⟩ := parse_eq_ok_iff.mp hparse
  obtain ⟨rules', hrules'⟩ : configs'.map (Rule.parse extra) ∈ Set.range (List.map Except.ok) := by
    rw [Set.range_list_map]
    intro result hresult
    have hmem : result ∈ rules.map Except.ok := hrules.symm ▸ (hperm.map _).mem_iff.mp hresult
    obtain ⟨rule, -, heq⟩ := List.mem_map.mp hmem
    exact ⟨rule, heq⟩
  refine parse_eq_ok_iff.mpr ⟨rules', hrules', ?_⟩
  rw [← filterMap_read? hrules, ← filterMap_read? hrules', Rule.byRank, Rule.byRank]
  congr 1
  refine List.flatMap_congr fun n hn => ?_
  obtain ⟨_, _, rfl⟩ := Rule.exists_rankAt n (List.mem_range.mp hn)
  rw [filter_filterMap_read?, filter_filterMap_read?, horder]

/-- The answer for an artifact in a module is the one of the least configured rule that has a say
there. Rules of different specificity may change places. -/
theorem most_specific_decides (hparse : parse configs extra = .ok x) :
    (∀ module a answer, (x.inModule module).resolve? a = some answer ↔
      ∃ i rule, Configured extra configs i rule ∧ rule.Decides module a ∧
        rule.answer? a = some answer ∧
        ∀ j rule', Configured extra configs j rule' → rule'.Decides module a →
          rule.place i ≤ rule'.place j) ∧
    (∀ module a, (x.inModule module).resolve? a = none ↔
      ∀ i rule, Configured extra configs i rule → ¬ rule.Decides module a) ∧
    ∀ configs' : List RuleConfig, configs'.Perm configs →
      (∀ k, (configs'.filter (specificity? extra · = some k)) =
        configs.filter (specificity? extra · = some k)) →
      parse configs' extra = .ok x := by
  refine ⟨fun module a answer => ?_, fun module a => ?_, fun configs' hperm horder =>
    parse_of_perm hperm horder hparse⟩
  all_goals
    obtain ⟨rules, hrules, rfl⟩ := parse_eq_ok_iff.mp hparse
    rw [Rule.resolve?_inModule]
  · rw [Rule.findSome?_byRank_eq_some_iff]
    simp only [getElem?_of_parse hrules, Rule.says?_eq_some_iff, Rule.says?_ne_none_iff, and_assoc]
  · rw [Rule.findSome?_byRank_eq_none_iff]
    simp only [getElem?_of_parse hrules, ← Rule.says?_ne_none_iff, not_not]

/-! ## Rules for the artifacts of a platform -/

def platform : Table String OverrideMap :=
  Table.ofList [("platform",
    .ofCoordinates (.extra "platform") [(Artifact.mk "org.p" "core").at "7.0"])]

def groupRules : List RuleConfig :=
  [{ target := "org.p:*", version := "1.0" }, { target := "org.p:*", version := "2.0" },
    { target := "org.p:*", module := some "org.app:app", version := "bom:platform" }]

def artifactRules : List RuleConfig :=
  [{ target := "org.p:tool", version := "" },
    { target := "org.p:tool", module := some "org.app:app", version := "3.0" }]

/-- Without an entry in the platform it is the first of the unscoped rules that decides, also when
the rules for artifacts are configured first. -/
theorem groupRules_beyond_platform :
    ∃ x, parse (groupRules ++ artifactRules) platform = .ok x ∧
      (∃ i rule, Configured platform (groupRules ++ artifactRules) i rule ∧
        rule.Decides ⟨"org.app", "app"⟩ ⟨"org.p", "other"⟩ ∧
        rule.answer? ⟨"org.p", "other"⟩ = some (.version "1.0") ∧
        ∀ j rule', Configured platform (groupRules ++ artifactRules) j rule' →
          rule'.Decides ⟨"org.app", "app"⟩ ⟨"org.p", "other"⟩ → rule.place i ≤ rule'.place j) ∧
      parse (artifactRules ++ groupRules) platform = .ok x := by
  let x : ExplicitRules := ((parse (groupRules ++ artifactRules) platform).toOption).getD {}
  have hparse : parse (groupRules ++ artifactRules) platform = .ok x := by
    decide +kernel
  obtain ⟨hresolve, -, hreorder⟩ := most_specific_decides hparse
  refine ⟨x, hparse, (hresolve _ _ _).mp (by decide +kernel), hreorder _ List.perm_append_comm ?_⟩
  have hbools : ∀ b c : Bool,
      ((artifactRules ++ groupRules).filter (specificity? platform · = some (toLex (b, c)))) =
        (groupRules ++ artifactRules).filter (specificity? platform · = some (toLex (b, c))) := by
    decide +kernel
  exact fun k => hbools (ofLex k).1 (ofLex k).2

end ExplicitRules

end BuildAlign

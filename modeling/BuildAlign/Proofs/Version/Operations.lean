import BuildAlign.Proofs.Version.Plain
import BuildAlign.Proofs.Version.PlainSuffix

/-!
Versions after several changes. Each change keeps a version tidy, whatever was changed before, so a
version that was read from a plain text is still read back after any number of changes.
-/

namespace BuildAlign.Version

inductive Operation where
  | appendSuffix (suffix : String)
  | setBuild (n : Nat)
  | setSnapshot (on : Bool)
  deriving DecidableEq, Repr

namespace Operation

def run (v : Version) : Operation → Version
  | appendSuffix suffix => v.appendSuffix suffix.toList
  | setBuild n => v.setBuild n
  | setSnapshot on => v.setSnapshot on

/-- A change by a plain suffix, a number of at most 64 bits, or the snapshot marker. -/
def IsPlain : Operation → Prop
  | appendSuffix suffix => IsPlainSuffix suffix.toList
  | setBuild n => n ≤ Text.maxWord
  | setSnapshot _ => True

end Operation

/-- Each of the operations keeps a version tidy. This is the step of the induction on a series of
them. -/
theorem Tidy.run {v : Version} (hv : v.Tidy) {op : Operation} (hop : op.IsPlain) :
    (op.run v).Tidy := by
  cases op with
  | appendSuffix suffix => exact IsPlainSuffix.tidy_appendSuffix hop hv
  | setBuild n => exact hv.setBuild hop
  | setSnapshot on => exact hv.setSnapshot on

theorem Tidy.foldl_run {v : Version} (hv : v.Tidy) {ops : List Operation}
    (hops : ∀ op ∈ ops, op.IsPlain) : (ops.foldl Operation.run v).Tidy := by
  induction ops generalizing v with
  | nil => exact hv
  | cons op ops ih =>
    obtain ⟨hop, hops⟩ := List.forall_mem_cons.mp hops
    exact ih (hv.run hop) hops

theorem words_gaFoo : Words ['.', '-'] ['G', 'A', '-', 'f', 'o', 'o'] := by
  have hga : IsWord ['G', 'A'] := by decide
  have hfoo : IsWord ['f', 'o', 'o'] := by decide
  exact .more hga (by decide) (.one hfoo)

/-- The parts of `1.2.GA-foo-3-SNAPSHOT`. -/
def fooSnapshot : PlainText where
  core := [['1'], ['2']]
  core_ne_nil := List.cons_ne_nil _ _
  core_numerals := by decide
  label := some (some '.', ['G', 'A', '-', 'f', 'o', 'o'])
  label_words := by
    rintro _ ⟨⟩
    refine ⟨?_, words_gaFoo⟩
    rintro _ ⟨⟩
    rfl
  number := some ('-', ['3'])
  number_digits := by decide
  marker := some snapshotMarker
  marker_spelling := by decide

theorem isPlain_fooSnapshot : IsPlain "1.2.GA-foo-3-SNAPSHOT" :=
  ⟨fooSnapshot, by decide⟩

theorem isPlainSuffix_bar : IsPlainSuffix "bar-07".toList := by
  have hlabel : IsLabel ['b', 'a', 'r'] := .one (by decide)
  have hdigits : Text.word? ['0', '7'] = some 7 := rfl
  exact .numbered hlabel hdigits

/-- The number is moved into the qualifier, and another label with another number is behind it. -/
def threeChanges : List Operation :=
  [.appendSuffix "bar-07", .setSnapshot false, .setBuild 12]

theorem isPlain_threeChanges : ∀ op ∈ threeChanges, op.IsPlain := by
  have hsuffix : (Operation.appendSuffix "bar-07").IsPlain := isPlainSuffix_bar
  have hnumber : 12 ≤ Text.maxWord := by decide
  rw [threeChanges, List.forall_mem_cons, List.forall_mem_cons, List.forall_mem_singleton]
  exact ⟨hsuffix, trivial, hnumber⟩

end BuildAlign.Version

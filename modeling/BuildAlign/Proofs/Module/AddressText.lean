import BuildAlign.Module.Declaration
import Mathlib.Data.List.Basic

/-!
Addresses as texts. The text of an address is a list of steps, joined with dots, and a step is a
word with an index in brackets. No word contains a dot or a bracket, so the steps are read back from
the text, and the address from the steps.
-/

namespace BuildAlign.Address

/-- A list that a step picks an entry of: the profiles of a module or a collection. -/
inductive Word where
  | profiles
  | dependencies
  | managedDependencies
  | plugins
  | managedPlugins

namespace Word

def text : Word → String
  | profiles => "profiles"
  | dependencies => "dependencies"
  | managedDependencies => "managedDependencies"
  | plugins => "plugins"
  | managedPlugins => "managedPlugins"

theorem text_injective : Function.Injective text := by
  intro w w' h
  cases w <;> cases w' <;> first | rfl | simp [text] at h

/-- Words have letters only. -/
theorem not_mem_text {c : Char} (hc : c.isAlpha = false) (w : Word) : c ∉ w.text.toList := by
  have hletters : w.text.toList.all Char.isAlpha = true := by cases w <;> rfl
  intro hmem
  rw [List.all_eq_true.mp hletters c hmem] at hc
  cases hc

end Word

/-- One step on the way from a module to an entry. -/
structure Step where
  word : Word
  index : Nat

namespace Step

def text (s : Step) : String :=
  s.word.text ++ indexText s.index

theorem toList_text (s : Step) :
    s.text.toList = s.word.text.toList ++ '[' :: (Nat.toDigits 10 s.index ++ [']']) := by
  simp [text, indexText]

theorem not_mem_toDigits {c : Char} (hc : c.isDigit = false) (i : Nat) :
    c ∉ Nat.toDigits 10 i := by
  intro hmem
  rw [Nat.isDigit_of_mem_toDigits (by decide) (by decide) hmem] at hc
  cases hc

theorem dot_not_mem_text (s : Step) : '.' ∉ s.text.toList := by
  have hword := s.word.not_mem_text (c := '.') rfl
  have hindex := not_mem_toDigits (c := '.') rfl s.index
  simp [toList_text, hword, hindex]

/-- The word and the index are read back: the word ends at the first bracket. -/
theorem text_injective : Function.Injective text := by
  intro s s' h
  have hindex := not_mem_toDigits (c := '[') rfl s.index
  rw [← String.toList_inj, toList_text, toList_text,
    List.append_cons_inj_of_notMem (s.word.not_mem_text rfl) (by simp [hindex])] at h
  obtain ⟨hword, _, hdigits⟩ := h
  have hword : s.word = s'.word := Word.text_injective (String.toList_inj.mp hword)
  have hindex : s.index = s'.index := by
    have hnumbers := congrArg (Nat.ofDigitChars 10 · 0) (List.append_cancel_right hdigits)
    simpa using hnumbers
  cases s
  cases s'
  cases hword
  cases hindex
  rfl

end Step

def pluginWord (managed : Bool) : Word :=
  if managed then .managedPlugins else .plugins

def scopeSteps : Scope → List Step
  | .main => []
  | .profile i => [⟨.profiles, i⟩]

/-- The steps from a body to an entry. -/
def entrySteps : Collection → Nat → List Step
  | .dependencies, i => [⟨.dependencies, i⟩]
  | .managedDependencies, i => [⟨.managedDependencies, i⟩]
  | .plugins, i => [⟨pluginWord false, i⟩]
  | .managedPlugins, i => [⟨pluginWord true, i⟩]
  | .pluginDependencies plugin managed, i => [⟨pluginWord managed, plugin⟩, ⟨.dependencies, i⟩]

def steps (a : Address) : List Step :=
  scopeSteps a.scope ++ entrySteps a.collection a.index

theorem steps_ne_nil (a : Address) : a.steps ≠ [] := by
  refine List.append_ne_nil_of_right_ne_nil _ ?_
  cases a.collection <;> exact List.cons_ne_nil _ _

theorem text_eq_intercalate (a : Address) : a.text = ".".intercalate (a.steps.map Step.text) := by
  obtain ⟨scope, c, i⟩ := a
  rw [← String.toList_inj, String.toList_intercalate]
  cases c with
  | pluginDependencies plugin managed =>
    cases scope <;> cases managed <;>
      simp [text, steps, scopeSteps, entrySteps, pluginWord, Step.text, Word.text, List.intercalate]
  | dependencies | managedDependencies | plugins | managedPlugins =>
    cases scope <;>
      simp [text, steps, scopeSteps, entrySteps, pluginWord, Step.text, Word.text, List.intercalate]

def ofEntrySteps? (scope : Scope) : List Step → Option Address
  | [⟨.dependencies, i⟩] => some ⟨scope, .dependencies, i⟩
  | [⟨.managedDependencies, i⟩] => some ⟨scope, .managedDependencies, i⟩
  | [⟨.plugins, i⟩] => some ⟨scope, .plugins, i⟩
  | [⟨.managedPlugins, i⟩] => some ⟨scope, .managedPlugins, i⟩
  | [⟨.plugins, plugin⟩, ⟨.dependencies, i⟩] => some ⟨scope, .pluginDependencies plugin false, i⟩
  | [⟨.managedPlugins, plugin⟩, ⟨.dependencies, i⟩] =>
    some ⟨scope, .pluginDependencies plugin true, i⟩
  | _ => none

def ofSteps? : List Step → Option Address
  | ⟨.profiles, i⟩ :: later => ofEntrySteps? (.profile i) later
  | later => ofEntrySteps? .main later

/-- The address is read back from its steps. -/
theorem ofSteps?_steps (a : Address) : ofSteps? a.steps = some a := by
  obtain ⟨scope, c, i⟩ := a
  cases c with
  | pluginDependencies plugin managed => cases scope <;> cases managed <;> rfl
  | dependencies | managedDependencies | plugins | managedPlugins => cases scope <;> rfl

/-- The steps are what is between the dots of the text. -/
theorem splitOn_text (a : Address) :
    a.text.toList.splitOn '.' = a.steps.map fun s => s.text.toList := by
  rw [text_eq_intercalate, String.toList_intercalate, List.map_map]
  refine List.splitOn_intercalate '.' ?_ (by simpa using a.steps_ne_nil)
  intro l hl
  obtain ⟨s, _, rfl⟩ := List.mem_map.mp hl
  exact s.dot_not_mem_text

/-- Different addresses have different texts. -/
theorem text_injective : Function.Injective text := by
  intro a a' h
  have hstep : Function.Injective fun s : Step => s.text.toList :=
    fun _ _ hs => Step.text_injective (String.toList_inj.mp hs)
  have hsteps : a.steps = a'.steps := by
    apply List.map_injective_iff.mpr hstep
    rw [← splitOn_text, ← splitOn_text, h]
  have hread := ofSteps?_steps a
  rw [hsteps, ofSteps?_steps] at hread
  exact (Option.some.inj hread).symm

end BuildAlign.Address

import BuildAlign.Alignment.Error
import BuildAlign.Report

/-!
Two computations that differ in what they do about one kind of problem: one is aborted where the
other goes on with a warning. If no warning of that kind is ever taken back, the first succeeds
exactly when the second does without such a warning, and then with the same result. The relation is
put together along the computations by `Escalates.bind` and `Escalates.foldlM`.
-/

namespace BuildAlign

namespace Report

theorem warned_warn (r : Report) (kind kind' : WarningKind) (module : Option Artifact)
    (message : String) :
    (r.warn kind' module message).warned kind = (r.warned kind || kind' == kind) := by
  simp [warned, warn, List.any_append]

theorem warned_warn_of_ne (r : Report) {kind kind' : WarningKind} (hne : kind' ≠ kind)
    (module : Option Artifact) (message : String) :
    (r.warn kind' module message).warned kind = r.warned kind := by
  simp [warned_warn, hne]

/-- A loop whose steps change nothing about the warnings of a kind. -/
theorem warned_foldl {α σ : Type} {kind : WarningKind} (report : σ → Report) {f : σ → α → σ}
    (hf : ∀ s a, (report (f s a)).warned kind = (report s).warned kind) (items : List α) (s : σ) :
    (report (items.foldl f s)).warned kind = (report s).warned kind := by
  induction items generalizing s with
  | nil => rfl
  | cons a later ih => exact (ih (f s a)).trans (hf s a)

end Report

variable {α β σ : Type}

/-- From the same report on, `fatal` is aborted where `lenient` warns of the given kind, and they
differ in nothing else. -/
structure Escalates (kind : WarningKind) (start : Report) (report : α → Report)
    (fatal lenient : Except AlignError α) : Prop where
  /-- No warning of the kind is taken back. -/
  keeps : ∀ a, lenient = .ok a → start.warned kind = true → (report a).warned kind = true
  agrees : start.warned kind = false →
    ∀ a, fatal = .ok a ↔ lenient = .ok a ∧ (report a).warned kind = false

namespace Escalates

variable {kind : WarningKind} {start : Report} {report : α → Report} {report' : β → Report}
  {x y : Except AlignError α}

/-- One computation that has nothing to do with the kind. -/
theorem same (h : ∀ a, x = .ok a → (report a).warned kind = start.warned kind) :
    Escalates kind start report x x := by
  constructor
  · intro a hx hstart
    rw [h a hx, hstart]
  · intro hstart a
    constructor
    · intro hx
      exact ⟨hx, (h a hx).trans hstart⟩
    · intro hx
      exact hx.1

/-- Without a problem of the kind, both runs give the same. -/
theorem ok {a : α} (h : (report a).warned kind = start.warned kind) :
    Escalates kind start report (.ok a) (.ok a) := by
  apply same
  intro a' ha'
  obtain rfl : a = a' := Except.ok.inj ha'
  exact h

/-- Other warnings may come first. -/
theorem restart {start' : Report} (h : Escalates kind start report x y)
    (hstart : start.warned kind = start'.warned kind) : Escalates kind start' report x y := by
  constructor
  · intro a hy hwarned
    exact h.keeps a hy (hstart.trans hwarned)
  · intro hquiet
    exact h.agrees (hstart.trans hquiet)

/-- The problem is met: one computation is aborted and the other warns. -/
theorem raised {a : α} (h : (report a).warned kind = true) (e : AlignError) :
    Escalates kind start report (.error e) (.ok a) := by
  constructor
  · intro a' ha' _
    obtain rfl : a = a' := Except.ok.inj ha'
    exact h
  · intro _ a'
    constructor
    · intro herror
      cases herror
    · rintro ⟨hok, hquiet⟩
      obtain rfl : a = a' := Except.ok.inj hok
      exact absurd (h.symm.trans hquiet) nofun

/-- A setting decides between the error and a warning. The two computations have it differently if
the warning is of the given kind, and alike otherwise. -/
theorem guarded (kind' : WarningKind) {fatal lenient : Bool} {a : α}
    (hsetting : kind' = kind ∧ fatal = true ∧ lenient = false ∨ kind' ≠ kind ∧ fatal = lenient)
    (ha : (report a).warned kind = (start.warned kind || kind' == kind)) (e : AlignError) :
    Escalates kind start report (if fatal then .error e else .ok a)
      (if lenient then .error e else .ok a) := by
  rcases hsetting with ⟨rfl, rfl, rfl⟩ | ⟨hne, rfl⟩
  · apply raised
    simp [ha]
  · cases fatal with
    | true =>
      apply same
      intro a' ha'
      cases ha'
    | false =>
      apply ok
      simp [ha, hne]

/-- The result may be dressed differently as long as the warnings stay. -/
theorem map {f : α → β} (h : Escalates kind start report x y)
    (hf : ∀ a, (report' (f a)).warned kind = (report a).warned kind) :
    Escalates kind start report' (x.map f) (y.map f) := by
  have hmap : ∀ (z : Except AlignError α) b, z.map f = .ok b ↔ ∃ a, z = .ok a ∧ f a = b := by
    intro z b
    cases z <;> simp [Except.map]
  constructor
  · intro b hb hstart
    obtain ⟨a, hy, rfl⟩ := (hmap y b).mp hb
    rw [hf, h.keeps a hy hstart]
  · intro hstart b
    rw [hmap, hmap]
    constructor
    · rintro ⟨a, hx, rfl⟩
      obtain ⟨hy, hquiet⟩ := (h.agrees hstart a).mp hx
      exact ⟨⟨a, hy, rfl⟩, (hf a).trans hquiet⟩
    · rintro ⟨⟨a, hy, rfl⟩, hquiet⟩
      exact ⟨a, (h.agrees hstart a).mpr ⟨hy, (hf a).symm.trans hquiet⟩, rfl⟩

/-- Runs that escalate one after the other escalate together: the first problem of the lenient run
is the error of the fatal one, in whichever part it comes up. -/
theorem bind {f g : α → Except AlignError β} (h : Escalates kind start report x y)
    (hfg : ∀ a, Escalates kind (report a) report' (f a) (g a)) :
    Escalates kind start report' (x >>= f) (y >>= g) := by
  have hbind : ∀ (z : Except AlignError α) (k : α → Except AlignError β) b,
      z >>= k = .ok b ↔ ∃ a, z = .ok a ∧ k a = .ok b := by
    intro z k b
    cases z <;> simp [Bind.bind, Except.bind]
  constructor
  · intro b hb hstart
    obtain ⟨a, hy, hg⟩ := (hbind y g b).mp hb
    exact (hfg a).keeps b hg (h.keeps a hy hstart)
  · intro hstart b
    rw [hbind, hbind]
    constructor
    · rintro ⟨a, hx, hf⟩
      obtain ⟨hy, hquiet⟩ := (h.agrees hstart a).mp hx
      obtain ⟨hg, hquiet'⟩ := ((hfg a).agrees hquiet b).mp hf
      exact ⟨⟨a, hy, hg⟩, hquiet'⟩
    · rintro ⟨⟨a, hy, hg⟩, hquiet'⟩
      -- a warning after the first part would still be there
      have hquiet : (report a).warned kind = false := by
        cases hwarned : (report a).warned kind with
        | false => rfl
        | true => exact absurd ((hfg a).keeps b hg hwarned) (by simp [hquiet'])
      exact ⟨a, (h.agrees hstart a).mpr ⟨hy, hquiet⟩,
        ((hfg a).agrees hquiet b).mpr ⟨hg, hquiet'⟩⟩

/-- Two loops over the same items. -/
theorem foldlM {report : σ → Report} {f g : σ → α → Except AlignError σ}
    (hfg : ∀ s a, Escalates kind (report s) report (f s a) (g s a)) (items : List α) (s : σ) :
    Escalates kind (report s) report (items.foldlM f s) (items.foldlM g s) := by
  induction items generalizing s with
  | nil => exact ok rfl
  | cons a later ih =>
    rw [List.foldlM_cons, List.foldlM_cons]
    exact (hfg s a).bind ih

end Escalates

end BuildAlign

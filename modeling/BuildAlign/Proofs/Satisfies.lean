/-!
Computations that may fail, and what holds of their results and of their errors. A statement on a
whole computation is put together from statements on its parts: `Satisfies.bind` for a sequence and
`Satisfies.foldlM` for a loop with an invariant.
-/

namespace BuildAlign

variable {ε α β σ : Type}

/-- A result of the computation has the property `Q`, and an error of it the property `E`. -/
def Satisfies (Q : α → Prop) (E : ε → Prop) : Except ε α → Prop
  | .ok a => Q a
  | .error e => E e

namespace Satisfies

variable {Q : α → Prop} {E : ε → Prop} {x : Except ε α}

theorem mono {Q' : α → Prop} (h : Satisfies Q E x) (hQ : ∀ a, Q a → Q' a) : Satisfies Q' E x := by
  cases x with
  | ok a => exact hQ a h
  | error e => exact h

theorem monoError {E' : ε → Prop} (h : Satisfies Q E x) (hE : ∀ e, E e → E' e) :
    Satisfies Q E' x := by
  cases x with
  | ok a => exact h
  | error e => exact hE e h

/-- Two results about one computation hold together. -/
theorem and {Q' : α → Prop} {E' : ε → Prop} (h : Satisfies Q E x) (h' : Satisfies Q' E' x) :
    Satisfies (fun a => Q a ∧ Q' a) (fun e => E e ∧ E' e) x := by
  cases x with
  | ok a => exact ⟨h, h'⟩
  | error e => exact ⟨h, h'⟩

theorem bind {Q' : β → Prop} {f : α → Except ε β} (h : Satisfies Q E x)
    (hf : ∀ a, Q a → Satisfies Q' E (f a)) : Satisfies Q' E (x >>= f) := by
  cases x with
  | ok a => exact hf a h
  | error e => exact h

theorem map {Q' : β → Prop} {f : α → β} (h : Satisfies Q E x) (hf : ∀ a, Q a → Q' (f a)) :
    Satisfies Q' E (x.map f) := by
  cases x with
  | ok a => exact hf a h
  | error e => exact h

/-- A loop keeps an invariant of the items that are left and the state. -/
theorem foldlM {I : List α → σ → Prop} {f : σ → α → Except ε σ} {items : List α} {s : σ}
    (h : I items s)
    (hstep : ∀ a later s, I (a :: later) s → Satisfies (I later) E (f s a)) :
    Satisfies (I []) E (items.foldlM f s) := by
  induction items generalizing s with
  | nil => exact h
  | cons a later ih =>
    rw [List.foldlM_cons]
    exact (hstep a later s h).bind fun _ hs => ih hs

/-- The results of a computation on every item of a list. -/
theorem mapM {Q : β → Prop} {f : α → Except ε β} {items : List α}
    (h : ∀ a ∈ items, Satisfies Q E (f a)) :
    Satisfies (fun results => ∀ b ∈ results, Q b) E (items.mapM f) := by
  induction items with
  | nil => exact fun b hb => absurd hb List.not_mem_nil
  | cons a later ih =>
    obtain ⟨ha, hlater⟩ := List.forall_mem_cons.mp h
    rw [List.mapM_cons]
    refine ha.bind fun b hb => (ih hlater).bind fun results hresults => ?_
    exact List.forall_mem_cons.mpr ⟨hb, hresults⟩

end Satisfies

/-- A computation on every item of a list has results if every item has one. -/
theorem mapM_eq_ok_iff {f : α → Except ε β} {items : List α} {results : List β} :
    items.mapM f = .ok results ↔ results.map .ok = items.map f := by
  induction items generalizing results with
  | nil => cases results <;> simp [pure, Except.pure]
  | cons item later ih =>
    rw [List.mapM_cons, List.map_cons, List.map_eq_cons_iff]
    constructor
    · intro h
      cases hitem : f item with
      | error e =>
        rw [hitem] at h
        cases h
      | ok b =>
        cases hlater : later.mapM f with
        | error e =>
          rw [hitem, hlater] at h
          cases h
        | ok rest =>
          rw [hitem, hlater] at h
          exact ⟨b, rest, (Except.ok.inj h).symm, rfl, ih.mp hlater⟩
    · rintro ⟨b, rest, rfl, hitem, hrest⟩
      rw [← hitem, ih.mpr hrest]
      rfl

/-- If every item has a result, leaving out the failures leaves all results. -/
theorem filterMap_toOption_of_map_eq {f : α → Except ε β} {items : List α} {results : List β}
    (h : results.map .ok = items.map f) : (items.filterMap fun a => (f a).toOption) = results := by
  calc items.filterMap fun a => (f a).toOption
    _ = (items.map f).filterMap Except.toOption := by rw [List.filterMap_map]; rfl
    _ = (results.map .ok).filterMap Except.toOption := by rw [← h]
    _ = results := by rw [List.filterMap_map]; exact List.filterMap_some

end BuildAlign

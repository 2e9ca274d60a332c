import BuildAlign.Pass
import BuildAlign.Proofs.Versioning.Aborted
import BuildAlign.Service.Request

/-!
What a run comes to that is not aborted. Of the stages, only the versioning writes versions, and of
the rest of the program, only the request to the service does. Where nothing is written that is too
wide, a pass ends as `align` says and a request is the one that `gavs` lists, so what is proved of
those holds of every run that comes to an end.
-/

namespace BuildAlign

/-! ## Stages -/

/-- The versioning meets a module whose version cannot be rebuilt or written. -/
def VersioningConfig.Aborts (c : VersioningConfig) (candidates : Candidates) (p : Progress) : Prop :=
  ∃ policy ∈ c.policy?, ∃ id ∈ p.reactor.ids, VersionChanges.Aborts p.reactor policy candidates id

theorem VersioningConfig.run?_eq_some_iff {c : VersioningConfig} {candidates : Candidates}
    {p p' : Progress} :
    c.run? candidates p = some p' ↔ ¬ c.Aborts candidates p ∧ c.run candidates p = p' := by
  rw [run?, run, Aborts]
  cases c.policy? with
  | none => simp
  | some policy =>
    simp only [Option.map_eq_some_iff, VersionChanges.ofPolicy?_eq_some_iff]
    simp

variable {c : Config} {inputs : PassInputs} {x : PassRules}

def Stage.Aborts (c : Config) (inputs : PassInputs) (p : Progress) : Stage → Prop
  | versioning => c.versioning.Aborts inputs.candidates p
  | _ => False

theorem Stage.run?_eq_some_iff {stage : Stage} {p : Progress} {result : Except AlignError Progress} :
    (stage.run? c inputs x p).run = some result ↔
      ¬ stage.Aborts c inputs p ∧ stage.run c inputs x p = result := by
  cases stage with
  | versioning =>
    simp [run?, run, Stage.Aborts, ExceptT.run_lift, VersioningConfig.run?_eq_some_iff]
  | _ => simp [run?, Stage.Aborts]

/-! ## Passes -/

/-- Two steps come to an end if the first one does, and if it succeeds, the second one too. -/
theorem bind_eq_some_iff {α β : Type} {f : Attempt α} {g : α → Attempt β}
    {result : Except AlignError β} :
    (f >>= g).run = some result ↔
      (∃ a, f.run = some (.ok a) ∧ (g a).run = some result) ∨
        ∃ e, f.run = some (.error e) ∧ .error e = result := by
  rw [ExceptT.run_bind]
  cases hf : f.run with
  | none => simp
  | some ending => cases ending <;> simp

/-- A stage of a pass is aborted, and all stages in front of it succeed. -/
inductive PassAborts (c : Config) (inputs : PassInputs) (x : PassRules) :
    List Stage → Progress → Prop
  | here {stage : Stage} {later : List Stage} {p : Progress}
      (h : stage.Aborts c inputs p.restart) : PassAborts c inputs x (stage :: later) p
  | later {stage : Stage} {later : List Stage} {p p' : Progress}
      (hrun : stage.run c inputs x p.restart = .ok p') (h : PassAborts c inputs x later p') :
      PassAborts c inputs x (stage :: later) p

theorem passAborts_cons_iff {stage : Stage} {later : List Stage} {p : Progress} :
    PassAborts c inputs x (stage :: later) p ↔ stage.Aborts c inputs p.restart ∨
      ∃ p', stage.run c inputs x p.restart = .ok p' ∧ PassAborts c inputs x later p' := by
  constructor
  · intro h
    cases h with
    | here h => exact .inl h
    | later hrun h => exact .inr ⟨_, hrun, h⟩
  · rintro (h | ⟨p', hrun, h⟩)
    · exact .here h
    · exact .later hrun h

/-- A series of stages is carried through exactly if none of them aborts at the progress that it
meets, and then it gives what the stages give that cannot abort. -/
theorem runStages_eq_some_iff {stages : List Stage} {p : Progress}
    {result : Except AlignError Progress} :
    (stages.foldlM (fun p stage => Stage.run? c inputs x p.restart stage) p).run = some result ↔
      ¬ PassAborts c inputs x stages p ∧
        stages.foldlM (fun p stage => Stage.run c inputs x p.restart stage) p = result := by
  induction stages generalizing p with
  | nil =>
    have hno : ¬ PassAborts c inputs x [] p := nofun
    have hpure : (pure p : Attempt Progress).run = some (.ok p) := rfl
    rw [List.foldlM_nil, List.foldlM_nil, hpure, Option.some_inj]
    exact (and_iff_right hno).symm
  | cons stage stages ih =>
    rw [List.foldlM_cons, List.foldlM_cons, bind_eq_some_iff, passAborts_cons_iff]
    simp only [Stage.run?_eq_some_iff, ih]
    -- a stage that fails ends the series, and one that succeeds hands its progress on
    cases hrun : stage.run c inputs x p.restart with
    | error e => simp [bind, Except.bind, and_assoc]
    | ok p' => simp [bind, Except.bind, and_assoc]

/-- A pass that comes to an end ends as `align` says, and it comes to an end unless a stage that it
gets to is aborted. -/
theorem align?_eq_some_iff {r : Reactor} {result : Except AlignError Progress} :
    (align? c inputs r).run = some result ↔
      (∀ x, PassRules.read c inputs.sources.extra = .ok x →
        ¬ PassAborts c inputs x c.stages { reactor := r, report := {} }) ∧
      align c inputs r = result := by
  rw [align?, align, bind_eq_some_iff]
  cases hread : PassRules.read c inputs.sources.extra with
  | error e => simp [bind, Except.bind]
  | ok x => simpa [bind, Except.bind] using runStages_eq_some_iff

/-! ## Requests to the service -/

namespace ServiceRequest

def ask (keepSnapshot : Bool) (x : Gav) : Gav :=
  { x with version := requested keepSnapshot x.version }

theorem ask?_eq_some_iff (keepSnapshot : Bool) (x y : Gav) :
    ask? keepSnapshot x = some y ↔
      (keepSnapshot = true ∨ (Version.parse x.version).Writable) ∧ ask keepSnapshot x = y := by
  cases keepSnapshot with
  | true => simp [ask?, ask, requested]
  | false => simp [ask?, ask, requested, Version.render?_eq]

theorem moduleGavs_eq_map (r : Reactor) (keepSnapshot : Bool) (id : Nat) :
    moduleGavs r keepSnapshot id = (moduleGavs r true id).map (ask keepSnapshot) := by
  have hmodule : moduleGav? r keepSnapshot id = (moduleGav? r true id).map (ask keepSnapshot) := by
    simp [moduleGav?, ask, requested, Function.comp_def]
  have hdeclared : declaredGav? r keepSnapshot id =
      fun d => (declaredGav? r true id d).map (ask keepSnapshot) := by
    funext d
    simp only [declaredGav?, Option.map_bind]
    congr 1
    funext version
    simp only [Function.comp_apply]
    split <;> simp [ask, requested]
  rw [moduleGavs, moduleGavs, hmodule, hdeclared, List.map_append, List.map_filterMap]
  cases moduleGav? r true id <;> rfl

/-- The request is the one that is listed without regard to writing, unless it has a version that
cannot be written without its snapshot marker. -/
theorem gavs?_eq_some_iff {r : Reactor} {keepSnapshot : Bool} {xs : List Gav} :
    gavs? r keepSnapshot = some xs ↔
      (∀ id ∈ r.ids, ∀ x ∈ moduleGavs r true id,
        keepSnapshot = true ∨ (Version.parse x.version).Writable) ∧ gavs r keepSnapshot = xs := by
  have hasked : (r.ids.flatMap (moduleGavs r true)).map (ask keepSnapshot) =
      r.ids.flatMap (moduleGavs r keepSnapshot) := by
    rw [List.map_flatMap]
    congr 1
    funext id
    exact (moduleGavs_eq_map r keepSnapshot id).symm
  simp only [gavs?, gavs, Option.pure_def, Option.bind_eq_bind, Option.bind_eq_some_iff,
    mapM_eq_some_iff (ask?_eq_some_iff keepSnapshot), hasked, List.mem_flatMap]
  constructor
  · rintro ⟨_, ⟨hwrite, rfl⟩, hxs⟩
    exact ⟨fun id hid x hx => hwrite x ⟨id, hid, hx⟩, Option.some.inj hxs⟩
  · rintro ⟨hwrite, rfl⟩
    exact ⟨_, ⟨fun x ⟨id, hid, hx⟩ => hwrite id hid x hx, rfl⟩, rfl⟩

end ServiceRequest

end BuildAlign

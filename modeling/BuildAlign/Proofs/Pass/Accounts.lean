import BuildAlign.Proofs.Reactor.Chain
import BuildAlign.Proofs.Reactor.Frame
import BuildAlign.Proofs.Reactor.Tree
import BuildAlign.Progress

/-!
Changes that account for the difference between two reactors. Every edit of a stage replaces one
module and is reported as one change of it. If the change names what the edit writes, it accounts
for the edit, and lists of changes that account for two differences together account for the sum of
the two. The tree of the modules is no part of the difference: no edit touches it, and no change
could name it.
-/

namespace BuildAlign

/-- A value of a module that the report follows. -/
inductive Cell where
  | ownVersion
  | parentVersion
  /-- A property of the main body. -/
  | property (name : String)

namespace Cell

def target : Cell → ChangeTarget
  | ownVersion => .moduleVersion
  | parentVersion => .parentVersion
  | property name => .property name

def value? (m : Module) : Cell → Option String
  | ownVersion => m.version
  | parentVersion => m.parent.map Parent.version
  | property name => m.property? .main name

/-- Changes of bodies that keep the properties keep all values. -/
theorem value?_modifyBody (m : Module) {edit : Body → Body}
    (hedit : ∀ b, (edit b).properties = b.properties) (scope : Scope) (cell : Cell) :
    cell.value? (m.modifyBody edit scope) = cell.value? m := by
  cases cell with
  | ownVersion => cases scope <;> rfl
  | parentVersion => cases scope <;> rfl
  | property name => exact m.property?_modifyBody hedit scope .main name

theorem value?_setProperty (m : Module) (scope : Scope) (name value : String) (cell : Cell) :
    cell.value? (m.setProperty scope name value) = cell.value? m ∨
      cell.value? (m.setProperty scope name value) = some value ∧
        cell.target = .property name := by
  cases cell with
  | ownVersion => cases scope <;> exact .inl rfl
  | parentVersion => cases scope <;> exact .inl rfl
  | property name' =>
    rcases m.property?_setProperty_cases scope .main name name' value with h | ⟨_, rfl, h⟩
    · exact .inl h
    · exact .inr ⟨h, rfl⟩

end Cell

/-- The change reports that a cell of a module was set to a value. -/
structure Change.Reports (c : Change) (id : Nat) (cell : Cell) (value : String) : Prop where
  module : c.module = id
  target : c.target = cell.target
  new : c.new = some value

/-- The changes account for the difference between two reactors: they name every module that
differs, and give the final value of every cell that does. The nodes of the tree do not differ. -/
structure Accounts (changes : List Change) (r r' : Reactor) : Prop extends
    Reactor.SameTree r r' where
  unnamed : ∀ id, (∀ c ∈ changes, c.module ≠ id) → r'.module id = r.module id
  cells : ∀ (id : Nat) (cell : Cell), cell.value? (r'.module id) = cell.value? (r.module id) ∨
    ∃ value, cell.value? (r'.module id) = some value ∧ ∃ c ∈ changes, c.Reports id cell value

namespace Accounts

theorem refl (changes : List Change) (r : Reactor) : Accounts changes r r :=
  ⟨⟨rfl, fun _ => .refl _⟩, fun _ _ => rfl, fun _ _ => .inl rfl⟩

/-- The changes of two steps together. Of several changes of a cell the last one has the final
value. -/
theorem trans {changes changes' : List Change} {r r' r'' : Reactor} (h : Accounts changes r r')
    (h' : Accounts changes' r' r'') : Accounts (changes ++ changes') r r'' where
  size := h'.size.trans h.size
  node id := (h.node id).trans (h'.node id)
  unnamed := by
    intro id hid
    rw [h'.unnamed id fun c hc => hid c (List.mem_append_right _ hc)]
    exact h.unnamed id fun c hc => hid c (List.mem_append_left _ hc)
  cells := by
    intro id cell
    rcases h'.cells id cell with hsame | ⟨value, hvalue, c, hc, hreports⟩
    · -- the last value of the cell is the one that the first changes leave
      rw [hsame]
      rcases h.cells id cell with hsame | ⟨value, hvalue, c, hc, hreports⟩
      · exact .inl hsame
      · exact .inr ⟨value, hvalue, c, List.mem_append_left _ hc, hreports⟩
    · exact .inr ⟨value, hvalue, c, List.mem_append_right _ hc, hreports⟩

/-- A change of a module accounts for an edit of it that leaves its node and touches no other cell
than the one that the change reports. -/
theorem of_modify {c : Change} (r : Reactor) {edit : Module → Module}
    (keeps : ∀ m, (edit m).parentModule = m.parentModule)
    (hnode : ∀ m : Module, m.SameNode (edit m))
    (hcells : ∀ (m : Module) (cell : Cell), cell.value? (edit m) = cell.value? m ∨
      ∃ value, cell.value? (edit m) = some value ∧ c.target = cell.target ∧ c.new = some value) :
    Accounts [c] r (r.modify c.module edit keeps) where
  size := by simp [Reactor.size, Reactor.modify]
  node := by
    intro id
    rcases r.module_modify_cases c.module edit keeps id with hsame | ⟨_, hedited⟩
    · exact hsame ▸ .refl _
    · exact hedited ▸ hnode _
  unnamed := by
    intro id hid
    have hne : c.module ≠ id := hid c (List.mem_singleton.mpr rfl)
    rcases r.module_modify_cases c.module edit keeps id with hsame | ⟨heq, _⟩
    · exact hsame
    · exact absurd heq.symm hne
  cells := by
    intro id cell
    rcases r.module_modify_cases c.module edit keeps id with hsame | ⟨rfl, hedited⟩
    · exact .inl (by rw [hsame])
    · rw [hedited]
      rcases hcells (r.module c.module) cell with hsame | ⟨value, hvalue, htarget, hnew⟩
      · exact .inl hsame
      · exact .inr ⟨value, hvalue, c, List.mem_singleton.mpr rfl, rfl, htarget, hnew⟩

section

variable {c : Change} (r : Reactor)

/-- Any change of a module accounts for an edit of one of its bodies that keeps the properties. -/
theorem modifyBody (scope : Scope) {edit : Body → Body}
    (hedit : ∀ b, (edit b).properties = b.properties) :
    Accounts [c] r (r.modifyBody c.module scope edit) := by
  refine of_modify _ _ (fun m => m.sameNode_modifyBody edit scope) fun m cell => ?_
  exact .inl (cell.value?_modifyBody m hedit scope)

theorem setSlot (a : Address) (version : String) :
    Accounts [c] r (r.setSlot c.module a version) := by
  refine of_modify _ _ (fun m => m.sameNode_modifyBody _ a.scope) fun m cell => ?_
  exact .inl (cell.value?_modifyBody m
    (fun b => Module.properties_setSlot b version a.collection a.index) a.scope)

theorem setVersion {version : String} (htarget : c.target = .moduleVersion)
    (hnew : c.new = some version) : Accounts [c] r (r.setVersion c.module version) := by
  refine of_modify _ _ (fun m => ⟨rfl, rfl, rfl, rfl, rfl⟩) fun m cell => ?_
  cases cell with
  | ownVersion => exact .inr ⟨version, rfl, htarget, hnew⟩
  | parentVersion => exact .inl rfl
  | property name => exact .inl rfl

theorem setParentVersion {version : String} (htarget : c.target = .parentVersion)
    (hnew : c.new = some version) : Accounts [c] r (r.setParentVersion c.module version) := by
  refine of_modify _ _ (fun m => m.sameNode_parentVersion version) fun m cell => ?_
  cases cell with
  | ownVersion => exact .inl rfl
  | parentVersion =>
    cases hparent : m.parent with
    | none => exact .inl (by simp [Cell.value?, hparent])
    | some parent => exact .inr ⟨version, by simp [Cell.value?], htarget, hnew⟩
  | property name => exact .inl rfl

theorem setProperty {name value : String} (scope : Scope) (htarget : c.target = .property name)
    (hnew : c.new = some value) : Accounts [c] r (r.setProperty c.module scope name value) := by
  refine of_modify _ _ (fun m => m.sameNode_modifyBody _ scope) fun m cell => ?_
  rcases cell.value?_setProperty m scope name value with hsame | ⟨hvalue, hcell⟩
  · exact .inl hsame
  · exact .inr ⟨value, hvalue, htarget.trans hcell.symm, hnew⟩

end

end Accounts

/-- The changes that the report has got since account for the progress. -/
def Recorded (p p' : Progress) : Prop :=
  ∃ added, p'.report.changes = p.report.changes ++ added ∧ Accounts added p.reactor p'.reactor

namespace Recorded

variable {p p' p'' : Progress}

/-- Steps that keep the reactor and the list of changes, such as warnings, need no change. -/
theorem of_eq (hreactor : p'.reactor = p.reactor)
    (hchanges : p'.report.changes = p.report.changes) : Recorded p p' :=
  ⟨[], by rw [hchanges, List.append_nil], hreactor ▸ .refl [] p.reactor⟩

theorem refl (p : Progress) : Recorded p p :=
  of_eq rfl rfl

theorem trans (h : Recorded p p') (h' : Recorded p' p'') : Recorded p p'' := by
  obtain ⟨added, hchanges, haccounts⟩ := h
  obtain ⟨added', hchanges', haccounts'⟩ := h'
  refine ⟨added ++ added', ?_, haccounts.trans haccounts'⟩
  rw [hchanges', hchanges, List.append_assoc]

/-- If every step records what it changes, so does a series of steps. -/
theorem foldl {α : Type} {f : Progress → α → Progress} (hf : ∀ p a, Recorded p (f p a))
    (items : List α) (p : Progress) : Recorded p (items.foldl f p) := by
  induction items generalizing p with
  | nil => exact refl p
  | cons a later ih => exact (hf p a).trans (ih (f p a))

/-- An edit is recorded if the change that it reports accounts for it. -/
theorem edit {reactor : Reactor} {id : Nat} {artifact : Artifact} {target : ChangeTarget}
    {old new : Option String}
    (h : Accounts [{ module := id, artifact, target, old, new }] p.reactor reactor) :
    Recorded p (p.edit reactor id artifact target old new) :=
  ⟨_, rfl, h⟩

/-- Several changes that are reported with one edit: the first one accounts for it. -/
theorem editAll {α : Type} {reactor : Reactor} {id : Nat} {artifact : Artifact}
    {target : α → ChangeTarget} {new : α → Option String}
    (h : ∀ c : Change, c.module = id → Accounts [c] p.reactor reactor) (items : List α) :
    Recorded p
      (items.foldl (fun p a => p.edit reactor id artifact (target a) none (new a)) p) := by
  have hagain : ∀ (items : List α) (p : Progress), p.reactor = reactor →
      Recorded p
        (items.foldl (fun p a => p.edit reactor id artifact (target a) none (new a)) p) := by
    intro items
    induction items with
    | nil => exact fun p _ => refl p
    | cons a later ih =>
      intro p hp
      exact (edit (hp ▸ .refl _ p.reactor)).trans (ih _ rfl)
  cases items with
  | nil => exact refl p
  | cons a later => exact (edit (h _ rfl)).trans (hagain later _ rfl)

end Recorded

end BuildAlign

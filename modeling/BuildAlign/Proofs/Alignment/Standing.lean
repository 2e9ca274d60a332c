import BuildAlign.Proofs.Alignment.Outcome
import BuildAlign.Proofs.Alignment.Result

/-!
The values that stand in a ledger. Whatever else is recorded, the value of a property follows from
the bids on it alone, in their order: the first one stands, unless the first explicit one is for
another value. So two runs that get the same bids write the same values, and writing values that are
there already changes nothing.
-/

namespace BuildAlign

/-- A value for the property at an owner, and whether an explicit rule gives it. -/
structure Bid where
  owner : PropertyOwner
  new : String
  explicit : Bool
  deriving DecidableEq

namespace Bid

/-- What stands after a bid, if something stands there already. -/
def outcome (b : Bid) : Option (String × Bool) → String × Bool
  | none => (b.new, b.explicit)
  | some (new, explicit) =>
    if new = b.new then (new, explicit)
    else if b.explicit ∧ ¬ explicit then (b.new, true)
    else (new, explicit)

def place (standing : PropertyOwner → Option (String × Bool)) (b : Bid) (owner : PropertyOwner) :
    Option (String × Bool) :=
  if owner = b.owner then some (b.outcome (standing owner)) else standing owner

end Bid

def Demand.bid (r : Reactor) (d : Demand) : Bid where
  owner := PropertyLedger.ownerFor r d
  new := d.new
  explicit := d.explicit

namespace PropertyLedger

/-- The value that stands at an owner, and whether an explicit rule gave it. -/
def standing (ledger : PropertyLedger) (owner : PropertyOwner) : Option (String × Bool) :=
  (ledger.get? owner).map fun m => (m.new, m.explicit)

/-- What stands at the owner of a demand is what the demand makes of it as a bid. -/
theorem outcome_bid (r : Reactor) (d : Demand) (m : Option PropertyMapping) :
    (d.bid r).outcome (m.map fun m => (m.new, m.explicit)) =
      ((d.mapping r m).new, (d.mapping r m).explicit) := by
  cases m with
  | none => rfl
  | some m =>
    rw [Option.map_some, Bid.outcome, Demand.bid]
    dsimp only
    by_cases hdisplaces : d.Displaces m
    · rw [Demand.mapping_of_displaces hdisplaces]
      obtain ⟨hnew, hexplicit, hautomatic⟩ := hdisplaces
      rw [if_neg hnew, if_pos ⟨hexplicit, by simp [hautomatic]⟩]
    · obtain ⟨hnew, _, hexplicit⟩ := Demand.mapping_kept (r := r) hdisplaces
      rw [hnew, hexplicit]
      split
      · rfl
      · rename_i hother
        rw [if_neg]
        rintro ⟨hforced, hautomatic⟩
        exact hdisplaces ⟨hother, hforced, by simpa using hautomatic⟩

theorem standing_record (ledger : PropertyLedger) (r : Reactor) (d : Demand) :
    (ledger.record r d).2.standing = (d.bid r).place ledger.standing := by
  funext owner
  rw [standing, get?_record, Bid.place, standing, outcome_bid]
  show _ = if owner = ownerFor r d then _ else _
  split <;> rfl

/-- Values that are there already are not written again. -/
theorem flush_eq_self {ledger : PropertyLedger} {p : Progress}
    (h : ∀ m ∈ ledger.values,
      (p.reactor.module m.module).property? (m.scope.getD .main) m.name = some m.new) :
    (ledger.flush p).reactor = p.reactor := by
  rw [flush]
  generalize ledger.values = mappings at h
  induction mappings generalizing p with
  | nil => rfl
  | cons m later ih =>
    obtain ⟨hm, hlater⟩ := List.forall_mem_cons.mp h
    have hwrite : (write p m).reactor = p.reactor := by
      rw [reactor_write, if_pos hm]
    rw [List.foldl_cons, ih (by rwa [hwrite]), hwrite]

end PropertyLedger

namespace DependencyAlignment

variable {a : DependencyAlignment} {r r' : Reactor}

def bids (a : DependencyAlignment) (r : Reactor) : List Bid :=
  (a.demands r).map fun d => d.bid (a.asVisited r d.module)

theorem standing_ledgerOf (a : DependencyAlignment) (r : Reactor) :
    (a.ledgerOf r).standing = (a.bids r).foldl Bid.place fun _ => none := by
  have hfold : ∀ (ds : List Demand) (ledger : PropertyLedger),
      (ds.foldl (a.recordDemand r) ledger).standing =
        (ds.map fun d => d.bid (a.asVisited r d.module)).foldl Bid.place ledger.standing := by
    intro ds
    induction ds with
    | nil => exact fun _ => rfl
    | cons d later ih =>
      intro ledger
      rw [List.foldl_cons, ih, recordDemand, PropertyLedger.standing_record]
      rfl
  exact hfold (a.demands r) ∅

namespace Left

variable (h : Left a r r')

include h

theorem flushed : ∃ q : Progress, r.SameFrame q.reactor ∧
    PropertyLedger.Written q ((a.ledgerOf r).flush q) (a.ledgerOf r).values ∧
    r' = ((a.ledgerOf r).flush q).reactor := by
  obtain ⟨q, hframe, _, hr'⟩ := h.written
  exact ⟨q, hframe, PropertyLedger.written_flush ((a.fits_ledgerOf r).sameFrame hframe), hr'⟩

theorem sameLinks : r.SameLinks r' := by
  obtain ⟨q, hframe, hwritten, rfl⟩ := h.flushed
  exact ⟨hwritten.links.size.trans hframe.size, fun id =>
    (hwritten.links.parent id).trans (hframe.sameLinks.parent id)⟩

/-- Every mapping is found where it was written. -/
theorem owned {owner : PropertyOwner} {m : PropertyMapping}
    (hm : (a.ledgerOf r).get? owner = some m) :
    (r'.module owner.module).ownProperty? owner.name = some (m.scope.getD .main, m.new) := by
  obtain ⟨q, _, hwritten, rfl⟩ := h.flushed
  obtain rfl := (a.fits_ledgerOf r).keyed owner m hm
  exact hwritten.owned m (Table.mem_values_iff.mpr ⟨_, hm⟩)

end Left

/-- A run that gets the bids of the run before it finds their values. -/
theorem Left.flush_eq_self (h : Left a r r') (hbids : a.bids r' = a.bids r) {q : Progress}
    (hq : q.reactor = r') : ((a.ledgerOf r').flush q).reactor = r' := by
  rw [PropertyLedger.flush_eq_self, hq]
  intro m hmem
  obtain ⟨owner, hm⟩ := Table.mem_values_iff.mp hmem
  obtain rfl := (a.fits_ledgerOf r').keyed owner m hm
  have hstanding : (a.ledgerOf r).standing m.owner = some (m.new, m.explicit) := by
    rw [standing_ledgerOf, ← hbids, ← standing_ledgerOf, PropertyLedger.standing, hm,
      Option.map_some]
  obtain ⟨m₁, hm₁, heq⟩ := Option.map_eq_some_iff.mp hstanding
  have hnew : m₁.new = m.new := congrArg Prod.fst heq
  have howned := h.owned hm₁
  have hscope := (writable_ledgerOf hm).scope_found
  rw [howned, Option.map_some] at hscope
  rw [hq, hscope, Option.getD_some, ← hnew]
  exact Module.property?_of_ownProperty? howned

end DependencyAlignment

end BuildAlign

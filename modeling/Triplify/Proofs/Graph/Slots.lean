import Triplify.Proofs.Graph.Deed
/-!
# Names of slots

A slot has a name from the deed that opens it, or from the deed that identifies it. No other deed has
to do with slots.
-/

namespace Triplify

namespace Graph

/-- The name of a slot, if it has one. -/
def nameAt? (g : Graph) (slot : Nat) : Option String := g.slots[slot]?.join

variable {g : Graph} {slot : Nat} {iri : String}

theorem nameAt?_eq_none_of_le (h : g.slots.size ≤ slot) : g.nameAt? slot = none := by
  rw [nameAt?, Array.getElem?_eq_none h]
  rfl

theorem nameAt?_opened (g : Graph) (name : Option String) (slot : Nat) :
    (g.enact (.opened name)).nameAt? slot = if slot = g.slots.size then name else g.nameAt? slot := by
  simp only [nameAt?, enact, Array.getElem?_push]
  split <;> simp

theorem nameAt?_identified (h : slot < g.slots.size) (iri : String) (other : Nat) :
    (g.enact (.identified slot iri)).nameAt? other =
      if other = slot then some iri else g.nameAt? other := by
  simp only [nameAt?, enact, Array.getElem?_setIfInBounds]
  split
  · next heq =>
    subst heq
    simp
  · next hne => rw [if_neg (Ne.symm hne)]

/-- A graph with the names of another one. There may be more slots. -/
structure KeepsNames (g g' : Graph) : Prop where
  size : g.slots.size ≤ g'.slots.size
  names : ∀ slot, g'.nameAt? slot = g.nameAt? slot

namespace KeepsNames

variable {g' g'' : Graph}

theorem refl (g : Graph) : KeepsNames g g := ⟨Nat.le_refl _, fun _ => rfl⟩

theorem trans (h : KeepsNames g g') (h' : KeepsNames g' g'') : KeepsNames g g'' where
  size := Nat.le_trans h.size h'.size
  names slot := (h'.names slot).trans (h.names slot)

theorem of_slots (h : g'.slots = g.slots) : KeepsNames g g' where
  size := Nat.le_of_eq (congrArg Array.size h.symm)
  names slot := by rw [nameAt?, h, nameAt?]

theorem opened (g : Graph) : KeepsNames g (g.enact (.opened none)) where
  size := by simp [enact]
  names slot := by
    rw [nameAt?_opened]
    split
    · next heq => exact (nameAt?_eq_none_of_le (Nat.le_of_eq heq.symm)).symm
    · rfl

end KeepsNames

end Graph

/-- A deed that has to do with statements only. -/
def Deed.leavesSlots : Deed → Bool
  | .stated _ => true
  | .sealed _ => true
  | _ => false

/-- A call that has to do with statements only. -/
def GraphCall.leavesSlots : GraphCall → Bool
  | .addObject .. => true
  | .addLiteral .. => true
  | .link .. => true
  | .sealAs _ => true
  | _ => false

theorem Graph.enactAll_slots {ds : List Deed} (h : ∀ d ∈ ds, d.leavesSlots) (g : Graph) :
    (g.enactAll ds).slots = g.slots := by
  induction ds generalizing g with
  | nil => rfl
  | cons d ds ih =>
    rw [enactAll_cons, ih fun e he => h e (.tail _ he)]
    have hd := h d (.head _)
    cases d with
    | stated s => rfl
    | sealed name => rfl
    | opened name => cases hd
    | identified slot iri => cases hd

theorem Naming.leavesSlots_of_deeds {v : Naming} {slots : Nat} {c : GraphCall}
    {r : Option Nat × List Deed} (hc : c.leavesSlots) (h : v.deeds slots c = .ok r) :
    ∀ d ∈ r.2, d.leavesSlots := by
  cases c with
  | addResource => cases hc
  | addNamed id => cases hc
  | identify handle id => cases hc
  | addBlank type => cases hc
  | _ =>
    simp only [Naming.deeds, bind, Except.bind] at h
    repeat' split at h
    all_goals cases h
    all_goals simp [Deed.leavesSlots]

namespace GraphEdit

theorem exec_addNamed (id : ShortIri) (g : Graph) : (addNamed id).exec g =
    g.outcome (g.shortIri id >>= fun iri => .ok (g.slots.size, [.opened (some iri)])) :=
  exec_look_bind (·.shortIri id) fun iri => exec_newSlot (some iri) g

theorem exec_identify (handle : Nat) (id : ShortIri) (g : Graph) : (identify handle id).exec g =
    g.outcome (do
      let slot ← slotOf g.slots.size handle
      let iri ← g.shortIri id
      return ((), [.identified slot iri])) := by
  refine exec_look_bind (·.slot handle) fun slot => ?_
  exact exec_look_bind (·.shortIri id) fun iri => rfl

theorem exec_addBlank (type : QualifiedName) (g : Graph) : (addBlank type).exec g =
    g.outcome (g.nameIri type >>= fun iri =>
      .ok (g.slots.size, [.opened none, .stated ⟨g.slots.size, Rdf.typeIri, .iri iri⟩])) := by
  refine exec_look_bind (·.nameIri type) fun iri => ?_
  exact exec_bind_ok (exec_newSlot none g) _

/-- A link leaves the slots alone, whether it fails or not. -/
theorem exec_link_slots (handle : Nat) (predicate : QualifiedName) (target : Nat) (g : Graph) :
    ((link handle predicate target).exec g).2.slots = g.slots := by
  have hlink : (link handle predicate target).exec g = g.outcome (do
      let slot ← slotOf g.slots.size handle
      let target ← slotOf g.slots.size target
      let predicate ← g.nameIri predicate
      return ((), [.stated ⟨slot, predicate, .slot target⟩])) := by
    refine exec_look_bind (·.slot handle) fun slot => ?_
    refine exec_look_bind (·.slot target) fun target => ?_
    exact exec_look_bind (·.nameIri predicate) fun predicate => rfl
  rw [hlink]
  cases slotOf g.slots.size handle with
  | error e => rfl
  | ok slot =>
    cases slotOf g.slots.size target with
    | error e => rfl
    | ok target => cases g.nameIri predicate <;> rfl

end GraphEdit

end Triplify

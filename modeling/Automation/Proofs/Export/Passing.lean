import Automation.Proofs.Export.Passes
import Automation.Proofs.Library.Lineage

/-!
# What interfaces pass on

While the interfaces are filled, each passes on the ids and slots of its functions and of those that
it inherits. `fills_lineage` says that what reaches an interface is what the types of its lineage
have.
-/

namespace Automation.Export

open Library Source

/-- What is passed on is what the types at the given places have. -/
structure Carries (types : List TypeInfo) (inherited : Inherited) (places : List Nat) : Prop where
  ids : ∀ id, id ∈ inherited.ids ↔ id ∈ places.flatMap (idsAt types)
  slots : inherited.slots = (places.map (slotsAt types)).sum

theorem carries_nil (types : List TypeInfo) : Carries types {} [] := ⟨fun _ => Iff.rfl, rfl⟩

/-- The places of types in a library. -/
def placesOf (order : List Placed) : List Nat := order.map (·.handle.index)

/-- The interfaces have their bases among them, and the library has the same bases. -/
structure Based (types : List TypeInfo) (refs : ReferenceTable) (order : List Placed) : Prop where
  own : ∀ p ∈ order, ∀ id handle, p.base? refs = some (.own id handle) →
    ownBase? types p.handle.index = some handle.index ∧
      ∃ q ∈ order, q.type.id = id ∧ q.handle = handle
  other : ∀ p ∈ order, (∀ id handle, p.base? refs ≠ some (.own id handle)) →
    ownBase? types p.handle.index = none

/-- What the interfaces so far pass on is what the types of their lineages have. -/
structure Passed (types : List TypeInfo) (order done : List Placed)
    (passedOn : List (TypeId × Inherited)) : Prop where
  found : ∀ p ∈ done, ∃ inherited bases, passedOn.lookup p.type.id = some inherited ∧
    Lineage types (placesOf order) p.handle.index bases ∧
    Carries types inherited (p.handle.index :: bases)
  key : ∀ id inherited, passedOn.lookup id = some inherited → ∃ p ∈ done, p.type.id = id

variable {types : List TypeInfo} {s : Setting} {order done later : List Placed}
  {passedOn : List (TypeId × Inherited)}

theorem idxOf_placesOf (hnodup : (order.map (·.handle)).Nodup) {i : Nat} {q : Placed}
    (hi : order[i]? = some q) : (placesOf order).idxOf q.handle.index = i := by
  have hplaces : (placesOf order).Nodup := by
    have hindex : placesOf order = (order.map (·.handle)).map Handle.index := by
      simp [placesOf, Function.comp_def]
    rw [hindex]
    refine hnodup.map fun a b h => ?_
    cases a
    cases b
    exact congrArg Handle.mk h
  have hget : (placesOf order)[i]? = some q.handle.index := by
    unfold placesOf
    rw [List.getElem?_map, hi]
    rfl
  obtain ⟨hlt, hget⟩ := List.getElem?_eq_some_iff.mp hget
  rw [← hget]
  exact hplaces.idxOf_getElem _ hlt

/-- What comes before an interface in the order has been filled before it. -/
theorem before_iff_mem {p q : Placed} (horder : order = done ++ p :: later)
    (hnodup : (order.map (·.handle)).Nodup) (hq : q ∈ order) :
    Before (placesOf order) q.handle.index p.handle.index ↔ q ∈ done := by
  have hp : order[done.length]? = some p := by simp [horder]
  unfold Before
  rw [idxOf_placesOf hnodup hp]
  constructor
  · intro hlt
    obtain ⟨i, hi⟩ := List.mem_iff_getElem?.mp hq
    rw [idxOf_placesOf hnodup hi] at hlt
    rw [horder, List.getElem?_append_left hlt] at hi
    exact List.mem_of_getElem? hi
  · intro hdone
    obtain ⟨i, hi⟩ := List.mem_iff_getElem?.mp hdone
    have hlt := (List.getElem?_eq_some_iff.mp hi).1
    have hi' : order[i]? = some q := by rw [horder, List.getElem?_append_left hlt, hi]
    rwa [idxOf_placesOf hnodup hi']

/-- What reaches an interface is what the types of its lineage have. -/
theorem Passed.base (h : Passed types order done passedOn) {p : Placed}
    (horder : order = done ++ p :: later) (hhandles : (order.map (·.handle)).Nodup)
    (hids : (order.map (·.type.id)).Nodup) (hbased : Based types s.scope.refs order) :
    ∃ bases, Lineage types (placesOf order) p.handle.index bases ∧
      Carries types
        (match (p.base? s.scope.refs).bind BaseInterface.id? with
          | some id => (passedOn.lookup id).getD {}
          | none => {}) bases := by
  have hp : p ∈ order := horder ▸ List.mem_append_right _ List.mem_cons_self
  rcases hbase : p.base? s.scope.refs with - | ⟨⟨id, handle⟩ | ref⟩
  · have hnone := hbased.other p hp (by rw [hbase]; exact fun _ _ h => nomatch h)
    refine ⟨[], .last fun b hb => ?_, carries_nil types⟩
    rw [hnone] at hb
    exact nomatch hb
  · obtain ⟨hown, q, hq, rfl, rfl⟩ := hbased.own p hp id handle hbase
    simp only [Option.bind_some, BaseInterface.id?]
    by_cases hdone : q ∈ done
    · obtain ⟨inherited, bases, hlookup, hlineage, hcarries⟩ := h.found q hdone
      rw [hlookup]
      exact ⟨q.handle.index :: bases,
        .base hown ((before_iff_mem horder hhandles hq).mpr hdone) hlineage, hcarries⟩
    · -- The base is filled later: it is a cycle that is cut here.
      have hlookup : passedOn.lookup q.type.id = none := by
        rw [Option.eq_none_iff_forall_ne_some]
        intro inherited hsome
        obtain ⟨q', hq', hsame⟩ := h.key _ _ hsome
        have hmem : q' ∈ order := horder ▸ List.mem_append_left _ hq'
        exact hdone (List.inj_on_of_nodup_map hids hmem hq hsame ▸ hq')
      rw [hlookup]
      refine ⟨[], .last fun b hb hbefore => ?_, carries_nil types⟩
      obtain rfl : q.handle.index = b := Option.some.inj (hown.symm.trans hb)
      exact hdone ((before_iff_mem horder hhandles hq).mp hbefore)
  · have hnone := hbased.other p hp (by
      rw [hbase]
      exact fun _ _ h => BaseInterface.noConfusion (Option.some.inj h))
    refine ⟨[], .last fun b hb => ?_, carries_nil types⟩
    rw [hnone] at hb
    exact nomatch hb

/-- An interface passes on what reaches it and its own functions. -/
theorem Carries.cons {inherited : Inherited} {places : List Nat} (h : Carries types inherited places)
    {y : Synthesis} {owner : TypeDecl} {place : Nat}
    (hfunctions : idsAt types place =
      (interfaceFunctions y owner inherited).functions.map (·.desc.memid)) :
    Carries types (interfaceFunctions y owner inherited).inherited (place :: places) where
  ids id := by
    rw [inherited_eq.1, List.flatMap_cons, List.mem_append, List.mem_append, h.ids, hfunctions]
    exact or_comm
  slots := by
    rw [inherited_eq.2, List.map_cons, List.sum_cons, h.slots, ← length_idsAt, hfunctions,
      List.length_map, Nat.add_comm]

/-- **What reaches an interface while the interfaces are filled** is what the types of its lineage
have. -/
theorem fills_lineage (horder : order = done ++ later) (hhandles : (order.map (·.handle)).Nodup)
    (hids : (order.map (·.type.id)).Nodup) (hbased : Based types s.scope.refs order)
    (hinterfaces : ∀ p ∈ order, p.type.target.isInterface = true)
    (hfunctions : ∀ f ∈ fills s passedOn later,
      idsAt types f.1.handle.index = f.2.functions.map (·.desc.memid))
    (hpassed : Passed types order done passedOn) :
    ∀ f ∈ fills s passedOn later, ∃ binding base bases, f.1.type.target = .interface binding ∧
      f.2 = interfaceFunctions (s.synthesis binding) f.1.type.decl base ∧
      Lineage types (placesOf order) f.1.handle.index bases ∧ Carries types base bases := by
  induction later generalizing done passedOn with
  | nil => exact fun f hf => nomatch hf
  | cons p later ih =>
    have hp : p ∈ order := horder ▸ List.mem_append_right _ List.mem_cons_self
    obtain ⟨binding, htarget⟩ : ∃ binding, p.type.target = .interface binding := by
      have hinterface := hinterfaces p hp
      cases ht : p.type.target with
      | interface binding => exact ⟨binding, rfl⟩
      | _ => rw [ht] at hinterface; exact Bool.noConfusion hinterface
    have hbinding : p.type.target.binding? = some binding := by rw [htarget]; rfl
    obtain ⟨bases, hlineage, hcarries⟩ := hpassed.base horder hhandles hids hbased
    unfold fills at hfunctions ⊢
    rw [hbinding] at hfunctions ⊢
    obtain ⟨hfirst, hlater⟩ := List.forall_mem_cons.mp hfunctions
    refine List.forall_mem_cons.mpr ⟨⟨binding, _, bases, htarget, rfl, hlineage, hcarries⟩, ?_⟩
    refine @ih (done ++ [p]) _ (by rw [horder, List.append_assoc]; rfl) hlater ⟨?_, ?_⟩
    · intro q hq
      rw [List.lookup_cons]
      rcases List.mem_append.mp hq with hq | hq
      · have hne : q.type.id ≠ p.type.id := by
          intro hsame
          rw [horder, List.map_append, List.nodup_append] at hids
          refine hids.2.2 _ (List.mem_map_of_mem hq) _ (List.mem_map_of_mem List.mem_cons_self) hsame
        rw [beq_false_of_ne hne]
        exact hpassed.found q hq
      · obtain rfl := List.mem_singleton.mp hq
        rw [beq_self_eq_true]
        exact ⟨_, bases, rfl, hlineage, hcarries.cons hfirst⟩
    · intro id inherited hlookup
      rw [List.lookup_cons] at hlookup
      split at hlookup
      · next hsame => exact ⟨p, List.mem_append_right _ List.mem_cons_self, (beq_iff_eq.mp hsame).symm⟩
      · obtain ⟨q, hq, hid⟩ := hpassed.key id inherited hlookup
        exact ⟨q, List.mem_append_left _ hq, hid⟩

end Automation.Export

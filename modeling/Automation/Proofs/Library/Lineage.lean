import Automation.Proofs.Library.BaseChain
import Mathlib

/-!
# Bases that come before what derives from them

Types that are filled in some order can only take over from bases that come before them. `Lineage`
follows the bases of a type as long as each comes before what derives from it, and stops at the first
one that does not: there a cycle was cut. A lineage is the beginning of the base chain
(`Lineage.isPrefix`), and all of it unless a cycle was cut.
-/

namespace Automation.Library

/-- The place `a` comes before `b` in the order. -/
def Before (order : List Nat) (a b : Nat) : Prop := order.idxOf a < order.idxOf b

/-- The bases of a type, nearest first, as long as each comes before what derives from it. -/
inductive Lineage (types : List TypeInfo) (order : List Nat) : Nat → List Nat → Prop
  | last {t : Nat} : (∀ b, ownBase? types t = some b → ¬Before order b t) →
    Lineage types order t []
  | base {t b : Nat} {bases : List Nat} : ownBase? types t = some b → Before order b t →
    Lineage types order b bases → Lineage types order t (b :: bases)

variable {types : List TypeInfo} {order : List Nat} {t : Nat} {bases : List Nat}

theorem Before.mem {a b : Nat} (h : Before order a b) : a ∈ order :=
  List.idxOf_lt_length_iff.mp (Nat.lt_of_lt_of_le h List.idxOf_le_length)

theorem before_of_sublist {a b : Nat} (h : [a, b].Sublist order) (hnodup : order.Nodup) :
    Before order a b := by
  obtain ⟨earlier, later, rfl, ha, hb⟩ := List.cons_sublist_iff.mp h
  have hb := List.singleton_sublist.mp hb
  have hnot : b ∉ earlier := fun hmem => List.disjoint_of_nodup_append hnodup hmem hb
  unfold Before
  rw [List.idxOf_append_of_mem ha, List.idxOf_append_of_notMem hnot]
  exact Nat.lt_add_right _ (List.idxOf_lt_length_iff.mpr ha)

namespace Lineage

theorem before (h : Lineage types order t bases) : ∀ b ∈ bases, Before order b t := by
  induction h with
  | last => simp
  | base _ hbefore _ ih =>
    refine List.forall_mem_cons.mpr ⟨hbefore, fun b hb => ?_⟩
    exact Nat.lt_trans (ih b hb) hbefore

theorem nodup (h : Lineage types order t bases) : (t :: bases).Nodup := by
  refine List.nodup_cons.mpr ⟨fun hmem => Nat.lt_irrefl _ (h.before t hmem), ?_⟩
  induction h with
  | last => exact .nil
  | base _ _ hlineage ih =>
    exact List.nodup_cons.mpr ⟨fun hmem => Nat.lt_irrefl _ (hlineage.before _ hmem), ih⟩

theorem isWay (h : Lineage types order t bases) : IsWay (ownBase? types) (t :: bases) := by
  induction h with
  | last => exact .singleton _
  | base hbase _ _ ih =>
    refine List.isChain_cons.mpr ⟨fun b hb => ?_, ih⟩
    obtain rfl := Option.some.inj hb
    exact hbase

/-- **A lineage is the beginning of the base chain.** -/
theorem isPrefix (h : Lineage types order t bases) (horder : ∀ b ∈ order, b < types.length) :
    bases <+: baseChain types t :=
  prefix_baseChain h.isWay h.nodup fun b hb => horder b (h.before b hb).mem

/-- A type has one lineage. -/
theorem unique {bases' : List Nat} (h : Lineage types order t bases)
    (h' : Lineage types order t bases') : bases = bases' := by
  induction h generalizing bases' with
  | last hnone =>
    cases h' with
    | last => rfl
    | base hbase hbefore _ => exact (hnone _ hbase hbefore).elim
  | base hbase hbefore _ ih =>
    cases h' with
    | last hnone => exact (hnone _ hbase hbefore).elim
    | base hbase' _ hlineage' =>
      obtain rfl := Option.some.inj (hbase.symm.trans hbase')
      rw [ih hlineage']

end Lineage

/-! ## Functions along a lineage -/

/-- The number of functions of the type at a place. -/
def slotsAt (types : List TypeInfo) (place : Nat) : Nat :=
  match types[place]? with
  | some t => t.functions.length
  | none => 0

/-- The number of functions along the base chain of the type at a place. -/
def inheritedSlots (types : List TypeInfo) (place : Nat) : Nat :=
  ((baseChain types place).map (slotsAt types)).sum

theorem length_idsAt (types : List TypeInfo) (place : Nat) :
    (idsAt types place).length = slotsAt types place := by
  unfold idsAt slotsAt
  cases types[place]? with
  | none => rfl
  | some t => exact List.length_map _

theorem length_flatMap_idsAt (types : List TypeInfo) (places : List Nat) :
    (places.flatMap (idsAt types)).length = (places.map (slotsAt types)).sum := by
  rw [List.length_flatMap]
  simp only [length_idsAt]

theorem map_slotsAt_range :
    (List.range types.length).map (slotsAt types) = types.map (·.functions.length) := by
  refine List.ext_getElem (by simp) fun i hi hi' => ?_
  rw [List.length_map] at hi'
  simp [slotsAt, hi']

/-- Different types have no more functions than the library. -/
theorem sum_slotsAt_le {places : List Nat} (hnodup : places.Nodup)
    (hlength : ∀ b ∈ places, b < types.length) :
    (places.map (slotsAt types)).sum ≤ (types.map (·.functions.length)).sum := by
  have hsubset : places ⊆ List.range types.length := fun b hb =>
    List.mem_range.mpr (hlength b hb)
  obtain ⟨l, hperm, hsub⟩ := List.subperm_of_subset hnodup hsubset
  rw [← (hperm.map (slotsAt types)).sum_nat, ← map_slotsAt_range]
  exact (hsub.map (slotsAt types)).sum_le_sum fun _ _ => Nat.zero_le _

end Automation.Library

import Automation.Proofs.Library.Lineage

/-!
# Base chains that cross a cut

Where bases form a cycle, an order that puts bases before what derives from them has to cut it: one
type of the cycle comes before its base. Base chains go on across the cut, lineages end there. A
chain that meets functions on the other side (`Crosses`) has more of them than its lineage
(`crossesAt_iff_lt`).
-/

namespace Automation.Library

variable {types : List TypeInfo} {order : List Nat} {t : Nat} {bases : List Nat}

/-! ## Lineages -/

namespace Lineage

theorem isChain (h : Lineage types order t bases) :
    (t :: bases).IsChain fun a b => ownBase? types a = some b ∧ Before order b a := by
  induction h with
  | last => exact .singleton _
  | base hbase hbefore _ ih =>
    refine List.isChain_cons.mpr ⟨fun b hb => ?_, ih⟩
    obtain rfl := Option.some.inj hb
    exact ⟨hbase, hbefore⟩

/-- A lineage ends at a type whose base does not come before it. -/
theorem exists_end (h : Lineage types order t bases) : ∃ earlier x, t :: bases = earlier ++ [x] ∧
    ∀ b, ownBase? types x = some b → ¬Before order b x := by
  induction h with
  | @last t hnone => exact ⟨[], t, rfl, hnone⟩
  | @base t b bases _ _ _ ih =>
    obtain ⟨earlier, x, hsplit, hnone⟩ := ih
    exact ⟨t :: earlier, x, by rw [hsplit]; rfl, hnone⟩

/-- Orders that agree on the bases in question have the same lineages. -/
theorem congr {order' : List Nat} {P : Nat → Prop} (h : Lineage types order t bases)
    (hagree : ∀ x b, P x → ownBase? types x = some b →
      P b ∧ (Before order b x ↔ Before order' b x)) (ht : P t) : Lineage types order' t bases := by
  induction h with
  | last hnone => exact .last fun b hb hbefore => hnone b hb ((hagree _ b ht hb).2.mpr hbefore)
  | base hbase hbefore _ ih =>
    obtain ⟨hb, hiff⟩ := hagree _ _ ht hbase
    exact .base hbase (hiff.mp hbefore) (ih hb)

end Lineage

/-! ## Cuts -/

/-- The types in an order with bases before what derives from them. -/
def baseOrder (types : List TypeInfo) : List Nat :=
  walks (ownBase? types) (List.range types.length) (List.range types.length)

/-- The base of the type does not come before it. -/
def IsCut (types : List TypeInfo) (x : Nat) : Prop :=
  ∃ b, ownBase? types x = some b ∧ ¬Before (baseOrder types) b x

/-- The type has functions, and its base chain goes on across a cut to others that have functions. -/
def CrossesAt (types : List TypeInfo) (t : Nat) : Prop :=
  0 < slotsAt types t ∧ ∃ x earlier later, t :: baseChain types t = earlier ++ x :: later ∧
    IsCut types x ∧ ∃ b ∈ later, 0 < slotsAt types b

/-- The base chain of some type of the library crosses a cut. -/
def Crosses (types : List TypeInfo) : Prop := ∃ t, CrossesAt types t

/-- Across a cut means: beyond the lineage. -/
theorem crossesAt_iff {rest : List Nat} (h : Lineage types (baseOrder types) t bases)
    (hrest : baseChain types t = bases ++ rest) :
    CrossesAt types t ↔ 0 < slotsAt types t ∧ ∃ b ∈ rest, 0 < slotsAt types b := by
  refine and_congr_right fun _ => ⟨?_, ?_⟩
  · rintro ⟨x, earlier, later, hsplit, ⟨b, hbase, hcut⟩, hlater⟩
    -- The cut does not lie within the lineage, so what follows it lies beyond.
    have hsuffix : later <:+ rest := by
      have hboth : (t :: bases) ++ rest = earlier ++ x :: later := by
        rw [← hsplit, hrest]
        rfl
      rcases List.append_eq_append_iff.mp hboth with ⟨middle, -, hrest⟩ | ⟨middle, hbases, hlater⟩
      · exact ⟨middle ++ [x], by rw [hrest, List.append_assoc]; rfl⟩
      · cases middle with
        | nil => exact ⟨[x], by simpa using hlater⟩
        | cons y more =>
          obtain ⟨rfl, rfl⟩ := List.cons.inj hlater
          cases more with
          | nil => exact ⟨[], rfl⟩
          | cons z more =>
            have hchain := h.isChain
            rw [hbases] at hchain
            obtain ⟨hz, hbefore⟩ := (List.isChain_cons.mp hchain.right_of_append).1 z rfl
            obtain rfl : z = b := Option.some.inj (hz.symm.trans hbase)
            exact (hcut hbefore).elim
    obtain ⟨b, hb, hfunctions⟩ := hlater
    exact ⟨b, hsuffix.subset hb, hfunctions⟩
  · rintro ⟨b, hb, hfunctions⟩
    obtain ⟨earlier, x, hsplit, hnone⟩ := h.exists_end
    have hall : t :: baseChain types t = earlier ++ x :: rest := by
      rw [hrest, ← List.cons_append, hsplit, List.append_assoc]
      rfl
    refine ⟨x, earlier, rest, hall, ?_, b, hb, hfunctions⟩
    have hway : IsWay (ownBase? types) (earlier ++ x :: rest) := hall ▸ isWay_cons_baseChain
    obtain ⟨y, more, rfl⟩ := List.exists_cons_of_ne_nil (List.ne_nil_of_mem hb)
    have hbase := (List.isChain_cons.mp hway.right_of_append).1 y rfl
    exact ⟨y, hbase, hnone y hbase⟩

/-- A chain that crosses no cut has no more functions than its lineage. -/
theorem crossesAt_iff_lt (h : Lineage types (baseOrder types) t bases) :
    CrossesAt types t ↔
      0 < slotsAt types t ∧ (bases.map (slotsAt types)).sum < inheritedSlots types t := by
  obtain ⟨rest, hrest⟩ := h.isPrefix fun b hb =>
    List.mem_range.mp (mem_of_mem_walks List.nodup_range hb)
  rw [crossesAt_iff h hrest.symm]
  refine and_congr_right fun _ => ?_
  have hsum : inheritedSlots types t =
      (bases.map (slotsAt types)).sum + (rest.map (slotsAt types)).sum := by
    unfold inheritedSlots
    rw [← hrest, List.map_append, List.sum_append]
  rw [hsum, Nat.lt_add_right_iff_pos, Nat.pos_iff_ne_zero, ne_eq, List.sum_eq_zero_iff]
  simp [Nat.pos_iff_ne_zero]

/-- **No chain crosses a cut** where bases form no cycle. -/
theorem not_crosses_of_rank (rank : Nat → Nat)
    (hrank : ∀ x b, ownBase? types x = some b → rank b < rank x) : ¬Crosses types := by
  rintro ⟨t, -, x, earlier, later, hsplit, ⟨b, hbase, hcut⟩, b', hb', -⟩
  have hway : IsWay (ownBase? types) (earlier ++ x :: later) := hsplit ▸ isWay_cons_baseChain
  obtain ⟨y, more, rfl⟩ := List.exists_cons_of_ne_nil (List.ne_nil_of_mem hb')
  have hnext := (List.isChain_cons.mp hway.right_of_append).1 y rfl
  obtain rfl : b = y := Option.some.inj (hbase.symm.trans hnext)
  have hmem : b ∈ baseChain types t := by
    cases earlier with
    | nil =>
      obtain ⟨-, hchain⟩ := List.cons.inj hsplit
      simp [hchain]
    | cons e rest =>
      obtain ⟨-, hchain⟩ := List.cons.inj hsplit
      simp [hchain]
  have hx : x ∈ baseOrder types :=
    mem_walks List.nodup_range (List.mem_range.mpr (lt_length_of_ownBase? hbase))
      (List.mem_range.mpr (lt_length_of_ownBase? hbase))
  have hb : b ∈ List.range types.length := List.mem_range.mpr (mem_baseChain hmem).2
  rcases sublist_walks_or_closes List.nodup_range hx hbase hb with hsub | ⟨places, hcloses⟩
  · exact hcut (before_of_sublist hsub (nodup_walks List.nodup_range))
  · -- A cut closes a cycle, on which the rank would have to go up again.
    have hle : ∀ c, Relation.ReflTransGen (fun c d => rank d ≤ rank c) b c → rank c ≤ rank b := by
      intro c hc
      induction hc with
      | refl => exact Nat.le_refl _
      | tail _ hstep ih => exact Nat.le_trans hstep ih
    have hback := hcloses.leadsBack fun c _ d _ hcd => Nat.le_of_lt (hrank c d hcd)
    exact Nat.not_lt_of_le (hle x hback) (hrank x b hbase)

end Automation.Library

import Automation.Library.Draft
import Automation.Proofs.Walk

/-!
# The base chain of a type

The base chain of a type is the longest way along bases of the same library that repeats nothing:
`prefix_baseChain` says that every such way from the type is the beginning of it. So what comes later
on the chain of a type is on the chains of those before it (`mem_baseChain_of_append`).
-/

namespace Automation.Library

variable {types : List TypeInfo} {place : Nat}

theorem lt_length_of_ownBase? {base : Nat} (h : ownBase? types place = some base) :
    place < types.length := by
  unfold ownBase? at h
  by_contra hlt
  rw [List.getElem?_eq_none (by omega)] at h
  exact Option.noConfusion rfl (heq_of_eq h)

theorem baseChain_of_none (h : ownBase? types place = none) : baseChain types place = [] := by
  unfold baseChain
  rw [h]

theorem baseChain_of_some {base : Nat} (h : ownBase? types place = some base) :
    baseChain types place =
      (walk (ownBase? types) ((List.range types.length).erase place) base).1 := by
  unfold baseChain
  rw [h]

/-- No type is on its own base chain, and the chain stays within the library. -/
theorem mem_baseChain {b : Nat} (h : b ∈ baseChain types place) : b ≠ place ∧ b < types.length := by
  cases hbase : ownBase? types place with
  | none => simp [baseChain_of_none hbase] at h
  | some base =>
    rw [baseChain_of_some hbase] at h
    obtain ⟨hne, hmem⟩ := (List.nodup_range.mem_erase_iff).mp (mem_of_mem_walk h)
    exact ⟨hne, List.mem_range.mp hmem⟩

theorem nodup_cons_baseChain : (place :: baseChain types place).Nodup := by
  refine List.nodup_cons.mpr ⟨fun h => (mem_baseChain h).1 rfl, ?_⟩
  cases hbase : ownBase? types place with
  | none => simp [baseChain_of_none hbase]
  | some base =>
    rw [baseChain_of_some hbase]
    exact nodup_walk (List.nodup_range.erase place)

/-- A type and its base chain are a way along bases. -/
theorem isWay_cons_baseChain : IsWay (ownBase? types) (place :: baseChain types place) := by
  refine List.isChain_cons.mpr ⟨fun b hb => ?_, ?_⟩
  all_goals cases hbase : ownBase? types place with
  | none => simp_all [baseChain_of_none hbase]
  | some base => ?_
  · rw [baseChain_of_some hbase] at hb
    rw [head?_walk b hb]
  · rw [baseChain_of_some hbase]
    exact isWay_walk

/-- **A way along bases that repeats nothing is the beginning of the base chain.** -/
theorem prefix_baseChain {places : List Nat} (hway : IsWay (ownBase? types) (place :: places))
    (hnodup : (place :: places).Nodup) (hlength : ∀ b ∈ places, b < types.length) :
    places <+: baseChain types place := by
  obtain ⟨hhead, htail⟩ := List.isChain_cons.mp hway
  obtain ⟨hnot, hnodup⟩ := List.nodup_cons.mp hnodup
  cases places with
  | nil => exact List.nil_prefix
  | cons base later =>
    rw [baseChain_of_some (hhead base rfl)]
    refine prefix_walk htail hnodup (fun b hb => ?_) fun b hb => ?_
    · have hne : b ≠ place := fun h => hnot (h ▸ hb)
      exact (List.mem_erase_of_ne hne).mpr (List.mem_range.mpr (hlength b hb))
    · simpa [eq_comm] using hb

/-- What comes after a type on a base chain is on the base chain of that type. -/
theorem prefix_baseChain_of_append {t x : Nat} {before after : List Nat}
    (h : t :: baseChain types t = before ++ x :: after) : after <+: baseChain types x := by
  have hway : IsWay (ownBase? types) (before ++ x :: after) := h ▸ isWay_cons_baseChain
  have hnodup : (before ++ x :: after).Nodup := h ▸ nodup_cons_baseChain
  have hafter : ∀ b ∈ after, b < types.length := by
    intro b hb
    have hmem : b ∈ t :: baseChain types t := by
      rw [h]
      exact List.mem_append_right _ (List.mem_cons_of_mem _ hb)
    rcases List.mem_cons.mp hmem with rfl | hmem
    · -- The chain of `t` would repeat `t`.
      cases before with
      | nil =>
        obtain ⟨rfl, rfl⟩ := List.cons.inj h
        exact (mem_baseChain hb).2
      | cons a rest =>
        obtain ⟨rfl, hrest⟩ := List.cons.inj h
        have : b ∈ baseChain types b := by
          rw [hrest]
          exact List.mem_append_right _ (List.mem_cons_of_mem _ hb)
        exact ((mem_baseChain this).1 rfl).elim
    · exact (mem_baseChain hmem).2
  refine prefix_baseChain (List.IsChain.right_of_append hway) ?_ hafter
  exact (List.nodup_append.mp hnodup).2.1

/-- Of two types on one chain, one is on the base chain of the other. -/
theorem mem_baseChain_or {t x y : Nat} (hx : x ∈ t :: baseChain types t)
    (hy : y ∈ t :: baseChain types t) (hne : x ≠ y) :
    y ∈ baseChain types x ∨ x ∈ baseChain types y := by
  obtain ⟨before, after, hsplit⟩ := List.mem_iff_append.mp hx
  rw [hsplit] at hy
  rcases List.mem_append.mp hy with hy | hy
  · obtain ⟨first, rest, rfl⟩ := List.mem_iff_append.mp hy
    rw [List.append_assoc, List.cons_append] at hsplit
    refine .inr ((prefix_baseChain_of_append hsplit).subset ?_)
    exact List.mem_append_right _ List.mem_cons_self
  · rcases List.mem_cons.mp hy with rfl | hy
    · exact (hne rfl).elim
    · exact .inl ((prefix_baseChain_of_append hsplit).subset hy)

/-- **A base chain depends on the types along it only.** -/
theorem baseChain_congr {types' : List TypeInfo} (hplace : ownBase? types' place = ownBase? types place)
    (hbases : ∀ b ∈ baseChain types place, types'[b]? = types[b]?)
    (htargets : ∀ x ∈ place :: baseChain types place, ∀ b, ownBase? types x = some b →
      b < types.length) : baseChain types' place = baseChain types place := by
  have hlinks : ∀ x ∈ place :: baseChain types place, ownBase? types' x = ownBase? types x :=
    List.forall_mem_cons.mpr ⟨hplace, fun b hb => by unfold ownBase?; rw [hbases b hb]⟩
  have hprefix : baseChain types place <+: baseChain types' place := by
    refine prefix_baseChain ?_ nodup_cons_baseChain fun b hb => ?_
    · refine List.IsChain.imp_of_mem_imp ?_ isWay_cons_baseChain
      exact fun x b hx _ hlink => (hlinks x hx).trans hlink
    · have hsame := hbases b hb
      rw [List.getElem?_eq_getElem (mem_baseChain hb).2] at hsame
      exact (List.getElem?_eq_some_iff.mp hsame).1
  obtain ⟨rest, hrest⟩ := hprefix
  cases rest with
  | nil => rw [← hrest, List.append_nil]
  | cons b rest =>
    -- The last type of the chain would have the base `b` in either list.
    exfalso
    have hsplit : place :: baseChain types' place =
        (place :: baseChain types place) ++ [b] ++ rest := by
      rw [← hrest]
      simp
    have hway : IsWay (ownBase? types') ((place :: baseChain types place) ++ [b]) :=
      (hsplit ▸ @isWay_cons_baseChain types' place).left_of_append
    have hnodup : ((place :: baseChain types place) ++ [b]).Nodup :=
      (List.nodup_append.mp (hsplit ▸ @nodup_cons_baseChain types' place)).1
    obtain ⟨-, -, hlast⟩ := List.isChain_append.mp hway
    have hlast' : ∀ x ∈ (place :: baseChain types place).getLast?, ownBase? types x = some b :=
      fun x hx => (hlinks x (List.mem_of_getLast? hx)).symm.trans (hlast x hx b rfl)
    have hlonger : baseChain types place ++ [b] <+: baseChain types place := by
      refine prefix_baseChain ?_ hnodup fun c hc => ?_
      · refine List.isChain_append.mpr ⟨isWay_cons_baseChain, .singleton b, fun x hx c hc => ?_⟩
        obtain rfl := Option.some.inj hc
        exact hlast' x hx
      · rcases List.mem_append.mp hc with hc | hc
        · exact (mem_baseChain hc).2
        · obtain rfl := List.mem_singleton.mp hc
          have hx := List.getLast?_eq_some_getLast (List.cons_ne_nil place (baseChain types place))
          exact htargets _ (List.mem_of_getLast? hx) c (hlast' _ hx)
    have hlength := hlonger.length_le
    rw [List.length_append, List.length_singleton] at hlength
    omega

/-- Only interfaces have a base chain. -/
theorem isInterface_of_mem_baseChain {b : Nat} (h : b ∈ baseChain types place) :
    ∃ t, types[place]? = some t ∧ t.kind.isInterface = true := by
  cases hbase : ownBase? types place with
  | none => simp [baseChain_of_none hbase] at h
  | some base =>
    have hlt := lt_length_of_ownBase? hbase
    refine ⟨types[place], List.getElem?_eq_getElem hlt, ?_⟩
    unfold ownBase? at hbase
    rw [List.getElem?_eq_getElem hlt, Option.bind_some] at hbase
    unfold TypeInfo.base? at hbase
    by_contra hkind
    rw [if_neg hkind] at hbase
    exact Option.noConfusion rfl (heq_of_eq hbase)

/-! ## Ids along the chain -/

/-- The ids of the functions of the type at a place. -/
def idsAt (types : List TypeInfo) (place : Nat) : List MemberId :=
  match types[place]? with
  | some t => t.functions.map (·.desc.memid)
  | none => []

theorem inheritedIds_eq (d : Draft) (h : Handle) :
    d.inheritedIds h = (baseChain d.infos h.index).flatMap (idsAt d.infos) := rfl

end Automation.Library

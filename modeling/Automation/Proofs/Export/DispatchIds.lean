import Mathlib.Data.List.Induction
import Automation.Export.DispatchIds
import Automation.Proofs.FirstFree

/-!
# Dispatch ids are apart

`assignIds_sound` says that the identities of an interface get different ids, none of which is
inherited or stands for none. `groupIdentities_sound` says which functions share an identity:
accessors of one property that are invoked in different ways.
-/

namespace Automation.Export

open Library

/-! ## Assignment -/

theorem freeId_fresh (claimed awaited : List MemberId) :
    freeId claimed awaited ∉ claimed ∧ freeId claimed awaited ∉ awaited ∧
      0 < freeId claimed awaited := by
  unfold freeId
  dsimp only
  generalize hplace : firstFree _ _ 1 = place
  have hfree : (claimed.contains (place : Int) || awaited.contains (place : Int)) = false := by
    rw [← hplace]
    refine @not_taken_firstFree
      (fun n : Nat => claimed.contains (n : Int) || awaited.contains (n : Int)) _ 1 MemberId
      (fun n : Nat => (n : Int)) (claimed ++ awaited) ?_ ?_ ?_
    · intro n _ htaken
      simpa using htaken
    · intro m n _ _ h
      exact Int.ofNat_inj.mp h
    · rw [List.length_append]
      omega
  have hpos : 1 ≤ place := hplace ▸ le_firstFree _ _ 1
  refine ⟨?_, ?_, Int.natCast_pos.mpr hpos⟩
  · simpa using (Bool.or_eq_false_iff.mp hfree).1
  · simpa using (Bool.or_eq_false_iff.mp hfree).2

/-- The id that an identity gets is new, and stands for an id. -/
theorem assigned_fresh {first : MemberId} {place : Nat} {claimed : List MemberId}
    {request : Option MemberId} (hrequest : request ≠ some MemberId.none) (awaited : List MemberId)
    {wanted : MemberId} {usable : Bool}
    (hw : wantedId first place claimed request = (wanted, usable)) :
    (if usable then wanted else freeId claimed awaited) ∉ claimed ∧
      (if usable then wanted else freeId claimed awaited) ≠ MemberId.none := by
  cases usable with
  | false =>
    obtain ⟨hnew, -, hpos⟩ := freeId_fresh claimed awaited
    refine ⟨hnew, fun h => ?_⟩
    rw [if_neg Bool.false_ne_true] at h
    exact absurd (h ▸ hpos) (by decide)
  | true =>
    rw [if_pos rfl]
    unfold wantedId at hw
    split at hw
    · next id _ =>
      simp only [Prod.mk.injEq, Bool.not_eq_true', List.contains_eq_mem,
        decide_eq_false_iff_not] at hw
      obtain ⟨rfl, hnew⟩ := hw
      exact ⟨hnew, fun h => hrequest (by rw [h])⟩
    · next id _ =>
      simp only [Prod.mk.injEq, Bool.and_eq_true, decide_eq_true_eq, Bool.not_eq_true',
        List.contains_eq_mem, decide_eq_false_iff_not] at hw
      obtain ⟨rfl, hpos, hnew⟩ := hw
      exact ⟨hnew, fun h => absurd (h ▸ hpos) (by decide)⟩
    · simp at hw

/-- **The ids of an interface are apart**: they differ, and none is claimed or stands for none. -/
theorem assignFrom_sound (first : MemberId) (place : Nat) (claimed : List MemberId)
    {requests : List (Option MemberId)} (hrequests : some MemberId.none ∉ requests) :
    (assignFrom first place claimed requests).ids.length = requests.length ∧
      (assignFrom first place claimed requests).ids.Nodup ∧
      ∀ id ∈ (assignFrom first place claimed requests).ids,
        id ∉ claimed ∧ id ≠ MemberId.none := by
  induction requests generalizing place claimed with
  | nil => simp [assignFrom]
  | cons request later ih =>
    have hrequest : request ≠ some MemberId.none := fun h => hrequests (h ▸ List.mem_cons_self)
    rcases hw : wantedId first place claimed request with ⟨wanted, usable⟩
    have hfresh := assigned_fresh hrequest (later.filterMap id) hw
    unfold assignFrom
    simp only [hw]
    generalize (if usable then wanted else freeId claimed (later.filterMap id)) = new at hfresh ⊢
    obtain ⟨hlength, hnodup, hlater⟩ := ih (place + 1) (new :: claimed)
      fun h => hrequests (List.mem_cons_of_mem _ h)
    refine ⟨by rw [List.length_cons, hlength, List.length_cons], ?_, ?_⟩
    · exact List.nodup_cons.mpr ⟨fun h => (hlater new h).1 List.mem_cons_self, hnodup⟩
    · intro id hid
      rcases List.mem_cons.mp hid with rfl | hid
      · exact hfresh
      · exact ⟨fun h => (hlater id hid).1 (List.mem_cons_of_mem _ h), (hlater id hid).2⟩

theorem assignIds_sound (first : MemberId) (inherited : List MemberId)
    (requests : List (Option MemberId)) :
    (assignIds first inherited requests).ids.length = requests.length ∧
      (assignIds first inherited requests).ids.Nodup ∧
      ∀ id ∈ (assignIds first inherited requests).ids, id ∉ inherited ∧ id ≠ MemberId.none := by
  have hdeclared : some MemberId.none ∉ requests.map declared? := by
    intro h
    obtain ⟨request, -, hrequest⟩ := List.mem_map.mp h
    simp [declared?, Option.filter_eq_some_iff] at hrequest
  have hsound := assignFrom_sound first 0 inherited hdeclared
  rwa [List.length_map] at hsound

/-! ## Grouping -/

namespace Grouping

/-- The grouping with a function at the place of an identity. -/
def joinAt (g : Grouping) (p : Nat) (c : Claimant) : Grouping where
  identities := g.identities.modify p (·.join c)
  places := g.places ++ [p]

/-- The grouping with a function in an identity of its own. -/
def openFor (g : Grouping) (c : Claimant) : Grouping where
  identities := g.identities ++ [⟨c.property, [c.invoke], c.requested⟩]
  places := g.places ++ [g.identities.length]

variable {g : Grouping} {c : Claimant} {p : Nat}

theorem add_of_some (h : g.identities.findIdx? (·.hasRoom c) = some p) : g.add c = g.joinAt p c := by
  rw [add, h]
  rfl

theorem add_of_none (h : g.identities.findIdx? (·.hasRoom c) = none) : g.add c = g.openFor c := by
  rw [add, h]
  rfl

end Grouping

/-- What the grouping of a list of functions says about them. -/
structure Grouped (claimants : List Claimant) (g : Grouping) : Prop where
  length : g.places.length = claimants.length
  /-- The identity of a function is that of its property and holds the way it is invoked. -/
  member : ∀ {i p : Nat} {c : Claimant}, claimants[i]? = some c → g.places[i]? = some p →
    ∃ identity, g.identities[p]? = some identity ∧ identity.property = c.property ∧
      c.invoke ∈ identity.kinds
  /-- Functions that share an identity are accessors of one property, invoked in different ways. -/
  apart : ∀ {i j p : Nat} {c d : Claimant}, i < j → claimants[i]? = some c → claimants[j]? = some d →
    g.places[i]? = some p → g.places[j]? = some p →
    c.property.isSome ∧ c.property = d.property ∧ c.invoke ≠ d.invoke

theorem getElem?_concat_eq_some {α : Type} {l : List α} {x y : α} {i : Nat}
    (h : (l ++ [x])[i]? = some y) : l[i]? = some y ∨ i = l.length ∧ x = y := by
  rw [List.getElem?_append] at h
  split at h
  · exact .inl h
  · obtain ⟨hi, hx⟩ := List.getElem?_eq_some_iff.mp h
    rw [List.length_singleton] at hi
    exact .inr ⟨by omega, by simpa using hx⟩

/-- One more function at the place of an identity that has room for it, or of none so far. -/
theorem Grouped.concat {claimants : List Claimant} {g : Grouping} (h : Grouped claimants g)
    {c : Claimant} {identities : List Identity} {place : Nat}
    (kept : ∀ {p : Nat} {i : Identity}, g.identities[p]? = some i → ∃ i', identities[p]? = some i' ∧
      i'.property = i.property ∧ i.kinds ⊆ i'.kinds)
    (new : ∃ i, identities[place]? = some i ∧ i.property = c.property ∧ c.invoke ∈ i.kinds)
    (room : ∀ i, g.identities[place]? = some i → i.hasRoom c) :
    Grouped (claimants ++ [c]) { identities := identities, places := g.places ++ [place] } where
  length := by rw [List.length_append, List.length_append, h.length]; rfl
  member {i p d} hd hp := by
    rcases getElem?_concat_eq_some hd with hd | ⟨hi, rfl⟩ <;>
      rcases getElem?_concat_eq_some hp with hp | ⟨hi', rfl⟩
    · obtain ⟨identity, hidentity, hproperty, hinvoke⟩ := h.member hd hp
      obtain ⟨identity', hidentity', hproperty', hkinds⟩ := kept hidentity
      exact ⟨identity', hidentity', hproperty'.trans hproperty, hkinds hinvoke⟩
    · have hlt := (List.getElem?_eq_some_iff.mp hd).1
      have := h.length
      omega
    · have hlt := (List.getElem?_eq_some_iff.mp hp).1
      have := h.length
      omega
    · exact new
  apart {i j p d e} hij hd he hp hq := by
    have hlength := h.length
    rcases getElem?_concat_eq_some he with he | ⟨hj, rfl⟩ <;>
      rcases getElem?_concat_eq_some hq with hq | ⟨hj', rfl⟩
    · have hlt := (List.getElem?_eq_some_iff.mp he).1
      rw [List.getElem?_append_left (by omega)] at hd hp
      exact h.apart hij hd he hp hq
    · have hlt := (List.getElem?_eq_some_iff.mp he).1
      omega
    · have hlt := (List.getElem?_eq_some_iff.mp hq).1
      omega
    · rw [List.getElem?_append_left (by omega)] at hd hp
      obtain ⟨identity, hidentity, hproperty, hinvoke⟩ := h.member hd hp
      have hroom := room identity hidentity
      simp only [Identity.hasRoom, Bool.and_eq_true, beq_iff_eq, Bool.not_eq_true',
        List.contains_eq_mem, decide_eq_false_iff_not] at hroom
      obtain ⟨⟨hsome, hsame⟩, hnew⟩ := hroom
      rw [hproperty] at hsame
      exact ⟨by rw [hsame]; exact hsome, hsame, fun heq => hnew (heq ▸ hinvoke)⟩

theorem Grouped.add {claimants : List Claimant} {g : Grouping} (h : Grouped claimants g)
    (c : Claimant) : Grouped (claimants ++ [c]) (g.add c) := by
  cases hplace : g.identities.findIdx? (·.hasRoom c) with
  | some place =>
    rw [Grouping.add_of_some hplace]
    obtain ⟨hlt, hroom, -⟩ := List.findIdx?_eq_some_iff_getElem.mp hplace
    have hidentity : g.identities[place]? = some g.identities[place] :=
      List.getElem?_eq_getElem hlt
    refine h.concat (fun {p i} hi => ?_) ⟨g.identities[place].join c, ?_, ?_, ?_⟩ ?_
    · by_cases hp : place = p
      · subst hp
        refine ⟨i.join c, ?_, rfl, List.subset_append_left _ _⟩
        rw [List.getElem?_modify_eq, hi]
        rfl
      · exact ⟨i, by rw [List.getElem?_modify_ne _ _ hp, hi], rfl, fun _ h => h⟩
    · rw [List.getElem?_modify_eq, hidentity]
      rfl
    · simp only [Identity.hasRoom, Bool.and_eq_true, beq_iff_eq] at hroom
      exact hroom.1.2
    · exact List.mem_append_right _ (List.mem_singleton.mpr rfl)
    · intro i hi
      rw [hidentity, Option.some.injEq] at hi
      exact hi ▸ hroom
  | none =>
    rw [Grouping.add_of_none hplace]
    refine h.concat (fun {p i} hi => ⟨i, ?_, rfl, fun _ h => h⟩)
      ⟨⟨c.property, [c.invoke], c.requested⟩, by simp, rfl, List.mem_singleton.mpr rfl⟩ ?_
    · rw [List.getElem?_append_left (List.getElem?_eq_some_iff.mp hi).1, hi]
    · intro i hi
      simp at hi

theorem groupIdentities_concat (claimants : List Claimant) (c : Claimant) :
    groupIdentities (claimants ++ [c]) = (groupIdentities claimants).add c := List.foldl_append

/-- **Functions share an identity only as different accessors of one property.** -/
theorem groupIdentities_sound (claimants : List Claimant) :
    Grouped claimants (groupIdentities claimants) := by
  induction claimants using List.reverseRecOn with
  | nil => exact ⟨rfl, fun h => by simp at h, fun _ h => by simp at h⟩
  | append_singleton earlier c ih =>
    rw [groupIdentities_concat]
    exact ih.add c

/-- Every function has a place among the identities. -/
theorem Grouped.lt_of_mem {claimants : List Claimant} {g : Grouping} {p : Nat}
    (h : Grouped claimants g) (hp : p ∈ g.places) : p < g.identities.length := by
  obtain ⟨k, hk⟩ := List.mem_iff_getElem?.mp hp
  have hlt : k < claimants.length := h.length ▸ (List.getElem?_eq_some_iff.mp hk).1
  obtain ⟨i, hi, -⟩ := h.member (List.getElem?_eq_getElem hlt) hk
  exact (List.getElem?_eq_some_iff.mp hi).1

/-- No identity is without a function. -/
def Grouping.IsCovered (g : Grouping) : Prop := ∀ p < g.identities.length, p ∈ g.places

theorem Grouping.IsCovered.add {g : Grouping} (h : g.IsCovered) (c : Claimant) :
    (g.add c).IsCovered := by
  cases hplace : g.identities.findIdx? (·.hasRoom c) with
  | some place =>
    rw [Grouping.add_of_some hplace]
    intro p hp
    rw [Grouping.joinAt, List.length_modify] at hp
    exact List.mem_append_left _ (h p hp)
  | none =>
    rw [Grouping.add_of_none hplace]
    intro p hp
    rw [Grouping.openFor, List.length_append, List.length_singleton] at hp
    rcases Nat.lt_succ_iff_lt_or_eq.mp hp with hlt | rfl
    · exact List.mem_append_left _ (h p hlt)
    · exact List.mem_append_right _ List.mem_cons_self

theorem isCovered_groupIdentities (claimants : List Claimant) :
    (groupIdentities claimants).IsCovered := by
  induction claimants using List.reverseRecOn with
  | nil => exact fun p hp => (Nat.not_lt_zero p hp).elim
  | append_singleton earlier c ih =>
    rw [groupIdentities_concat]
    exact ih.add c

end Automation.Export

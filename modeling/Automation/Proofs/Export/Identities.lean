import Mathlib.Data.Finset.Card
import Mathlib.Data.Finset.Max
import Mathlib.Data.Fintype.Basic
import Mathlib.Order.Bounds.Basic
import Automation.Proofs.Export.DispatchIds

/-!
# Which functions share an identity

The rank of an accessor is the number of accessors of the same property before it that are invoked
in the same way. Each accessor joins the first identity of its property with room for it
(`Arranged.joinAt`) or else gets one of its own (`Arranged.openFor`). `Arranged` says what becomes of
the identities: the one with `n` identities of its property before it holds the accessors of rank
`n`. `groupIdentities_ranked` reads off who shares an identity and how many a property has.
-/

namespace Automation.Export

open Library

/-! ## Ranks in a list -/

section Ranks

variable {α : Type} {P : α → Bool} {l : List α} {x y : α} {m n : Nat}

theorem countP_take_lt (hx : l[m]? = some x) (hP : P x = true) (hmn : m < n) :
    (l.take m).countP P < (l.take n).countP P := by
  have hsucc : l.take (m + 1) = l.take m ++ [x] := by rw [List.take_add_one, hx]; rfl
  have hle := (List.take_sublist_take_left (l := l) (Nat.succ_le_of_lt hmn)).countP_le (p := P)
  rw [hsucc, List.countP_append, List.countP_singleton, if_pos hP] at hle
  exact hle

theorem countP_take_lt_countP (hx : l[m]? = some x) (hP : P x = true) :
    (l.take m).countP P < l.countP P := by
  have hlt := countP_take_lt hx hP (List.getElem?_eq_some_iff.mp hx).1
  rwa [List.take_length] at hlt

/-- Elements that satisfy a predicate are told apart by how many come before them. -/
theorem countP_take_inj (hx : l[m]? = some x) (hy : l[n]? = some y) (hPx : P x = true)
    (hPy : P y = true) (h : (l.take m).countP P = (l.take n).countP P) : m = n := by
  rcases Nat.lt_trichotomy m n with hlt | heq | hlt
  · exact absurd h (Nat.ne_of_lt (countP_take_lt hx hPx hlt))
  · exact heq
  · exact absurd h.symm (Nat.ne_of_lt (countP_take_lt hy hPy hlt))

theorem exists_of_lt_countP (h : n < l.countP P) :
    ∃ m x, l[m]? = some x ∧ P x = true ∧ (l.take m).countP P = n := by
  induction l generalizing n with
  | nil => simp at h
  | cons head later ih =>
    cases hP : P head with
    | false =>
      rw [List.countP_cons_of_neg (by simp [hP])] at h
      obtain ⟨m, x, hx, hPx, hcount⟩ := ih h
      refine ⟨m + 1, x, hx, hPx, ?_⟩
      rw [List.take_succ_cons, List.countP_cons_of_neg (by simp [hP]), hcount]
    | true =>
      rw [List.countP_cons_of_pos hP] at h
      cases n with
      | zero => exact ⟨0, head, rfl, hP, rfl⟩
      | succ n =>
        obtain ⟨m, x, hx, hPx, hcount⟩ := ih (Nat.lt_of_succ_lt_succ h)
        refine ⟨m + 1, x, hx, hPx, ?_⟩
        rw [List.take_succ_cons, List.countP_cons_of_pos hP, hcount]

end Ranks

/-! ## Accessors -/

/-- Whether a function is an accessor of a property that is invoked in a given way. -/
def Claimant.isAccessor (property : String) (kind : InvokeKind) (c : Claimant) : Bool :=
  c.property == some property && c.invoke == kind

theorem Claimant.isAccessor_iff {property : String} {kind : InvokeKind} {c : Claimant} :
    c.isAccessor property kind = true ↔ c.property = some property ∧ c.invoke = kind := by
  simp [isAccessor]

/-- How many of some functions are accessors of a property that are invoked in a given way. -/
def accessorCount (claimants : List Claimant) (property : String) (kind : InvokeKind) : Nat :=
  claimants.countP (Claimant.isAccessor property kind)

/-- The function at an index is an accessor of a property that is invoked in a given way. Its rank
is the number of such accessors before it. -/
structure IsAccessor (claimants : List Claimant) (i : Nat) (property : String) (kind : InvokeKind)
    (rank : Nat) : Prop where
  exists_claimant : ∃ c, claimants[i]? = some c ∧ c.isAccessor property kind = true
  rank_eq : accessorCount (claimants.take i) property kind = rank

theorem accessorCount_concat (claimants : List Claimant) (c : Claimant) (property : String)
    (kind : InvokeKind) : accessorCount (claimants ++ [c]) property kind =
      accessorCount claimants property kind + if c.isAccessor property kind then 1 else 0 := by
  rw [accessorCount, List.countP_append, List.countP_singleton, ← accessorCount]

/-! ## Identities of a property -/

namespace Grouping

/-- The property of each identity. -/
def properties (g : Grouping) : List (Option String) := g.identities.map (·.property)

/-- How many identities of a property there are. -/
def identityCount (g : Grouping) (property : String) : Nat :=
  g.properties.countP (· == some property)

/-- How many identities of a property come before a place. -/
def ordinal (g : Grouping) (property : String) (place : Nat) : Nat :=
  (g.properties.take place).countP (· == some property)

variable {g : Grouping} {property : String} {p q n : Nat} {i j : Identity}

theorem getElem?_properties (hi : g.identities[p]? = some i) (hp : i.property = some property) :
    g.properties[p]? = some (some property) := by
  rw [properties, List.getElem?_map, hi, Option.map_some, hp]

theorem ordinal_lt (hi : g.identities[p]? = some i) (hp : i.property = some property) :
    g.ordinal property p < g.identityCount property :=
  countP_take_lt_countP (getElem?_properties hi hp) (beq_self_eq_true _)

theorem ordinal_inj (hi : g.identities[p]? = some i) (hj : g.identities[q]? = some j)
    (hp : i.property = some property) (hq : j.property = some property)
    (h : g.ordinal property p = g.ordinal property q) : p = q :=
  countP_take_inj (P := (· == some property)) (getElem?_properties hi hp)
    (getElem?_properties hj hq) (beq_self_eq_true _) (beq_self_eq_true _) h

theorem ordinal_le (h : p ≤ q) : g.ordinal property p ≤ g.ordinal property q :=
  (List.take_sublist_take_left h).countP_le

theorem exists_of_lt_identityCount (h : n < g.identityCount property) :
    ∃ p i, g.identities[p]? = some i ∧ i.property = some property ∧ g.ordinal property p = n := by
  obtain ⟨p, x, hx, hproperty, hcount⟩ := exists_of_lt_countP h
  rw [properties, List.getElem?_map, Option.map_eq_some_iff] at hx
  obtain ⟨i, hi, rfl⟩ := hx
  exact ⟨p, i, hi, beq_iff_eq.mp hproperty, hcount⟩

variable {c : Claimant}

theorem properties_joinAt : (g.joinAt p c).properties = g.properties := by
  refine List.ext_getElem? fun k => ?_
  simp only [properties, joinAt, List.getElem?_map, List.getElem?_modify]
  split <;> cases g.identities[k]? <;> rfl

@[simp] theorem ordinal_joinAt : (g.joinAt p c).ordinal property q = g.ordinal property q := by
  rw [ordinal, properties_joinAt, ← ordinal]

@[simp] theorem identityCount_joinAt :
    (g.joinAt p c).identityCount property = g.identityCount property := by
  rw [identityCount, properties_joinAt, ← identityCount]

theorem properties_openFor : (g.openFor c).properties = g.properties ++ [c.property] := by
  rw [properties, openFor, List.map_append, ← properties]
  rfl

theorem ordinal_openFor (h : q ≤ g.identities.length) :
    (g.openFor c).ordinal property q = g.ordinal property q := by
  rw [ordinal, properties_openFor, List.take_append_of_le_length, ← ordinal]
  rwa [properties, List.length_map]

/-- The new identity has all those of its property before it. -/
theorem ordinal_openFor_length :
    (g.openFor c).ordinal property g.identities.length = g.identityCount property := by
  rw [ordinal_openFor (Nat.le_refl _), ordinal, List.take_of_length_le, ← identityCount]
  rw [properties, List.length_map]

theorem identityCount_openFor : (g.openFor c).identityCount property =
    g.identityCount property + if c.property = some property then 1 else 0 := by
  rw [identityCount, properties_openFor, List.countP_append, List.countP_singleton, ← identityCount]
  simp

end Grouping

/-- The identities of a property hold its accessors by rank. -/
structure Arranged (claimants : List Claimant) (g : Grouping) : Prop where
  /-- An identity has an accessor of a kind if enough accessors of that kind have come. -/
  kinds : ∀ {p : Nat} {i : Identity} {property : String}, g.identities[p]? = some i →
    i.property = some property → ∀ kind,
      kind ∈ i.kinds ↔ g.ordinal property p < accessorCount claimants property kind
  /-- There are as many identities as accessors of one kind. -/
  enough : ∀ property kind, accessorCount claimants property kind ≤ g.identityCount property
  /-- The ordinal of its identity is the rank of an accessor. -/
  placed : ∀ {k p : Nat} {c : Claimant} {property : String}, claimants[k]? = some c →
    c.property = some property → g.places[k]? = some p →
      g.ordinal property p = accessorCount (claimants.take k) property c.invoke

variable {claimants : List Claimant} {g : Grouping} {c : Claimant} {p : Nat} {i : Identity}

namespace Arranged

theorem hasRoom_iff (h : Arranged claimants g) (hi : g.identities[p]? = some i) :
    i.hasRoom c = true ↔ ∃ property, c.property = some property ∧ i.property = some property ∧
      accessorCount claimants property c.invoke ≤ g.ordinal property p := by
  simp only [Identity.hasRoom, Bool.and_eq_true, beq_iff_eq, Bool.not_eq_true',
    List.contains_eq_mem, decide_eq_false_iff_not]
  constructor
  · rintro ⟨⟨hsome, hsame⟩, hnew⟩
    obtain ⟨property, hc⟩ := Option.isSome_iff_exists.mp hsome
    rw [hc] at hsame
    rw [h.kinds hi hsame, Nat.not_lt] at hnew
    exact ⟨property, hc, hsame, hnew⟩
  · rintro ⟨property, hc, hp, hle⟩
    rw [hc, hp, h.kinds hi hp, Nat.not_lt]
    exact ⟨⟨rfl, rfl⟩, hle⟩

/-- The first identity with room for an accessor has as many others before it as the accessor. -/
theorem ordinal_of_findIdx? (h : Arranged claimants g)
    (hp : g.identities.findIdx? (·.hasRoom c) = some p) : ∃ property i, c.property = some property ∧
      g.identities[p]? = some i ∧ i.property = some property ∧
        g.ordinal property p = accessorCount claimants property c.invoke := by
  obtain ⟨hlt, hroom, hfirst⟩ := List.findIdx?_eq_some_iff_getElem.mp hp
  have hi : g.identities[p]? = some g.identities[p] := List.getElem?_eq_getElem hlt
  obtain ⟨property, hc, hproperty, hle⟩ := (h.hasRoom_iff hi).mp hroom
  refine ⟨property, _, hc, hi, hproperty, Nat.le_antisymm (Nat.not_lt.mp fun hgt => ?_) hle⟩
  -- Otherwise the identity with that ordinal comes earlier, and has room too.
  obtain ⟨q, j, hj, hq, hordinal⟩ :=
    Grouping.exists_of_lt_identityCount (hgt.trans (Grouping.ordinal_lt hi hproperty))
  have hroom' : j.hasRoom c = true := (h.hasRoom_iff hj).mpr ⟨property, hc, hq, hordinal.ge⟩
  obtain ⟨hlt', rfl⟩ := List.getElem?_eq_some_iff.mp hj
  have hpq : p ≤ q := Nat.not_lt.mp fun hqp => hfirst q hqp hroom'
  have hle' : g.ordinal property p ≤ g.ordinal property q := Grouping.ordinal_le hpq
  omega

/-- If no identity has room for an accessor, then all of its property have one of its kind. -/
theorem identityCount_of_findIdx? (h : Arranged claimants g)
    (hnone : g.identities.findIdx? (·.hasRoom c) = none) {property : String}
    (hc : c.property = some property) :
    g.identityCount property = accessorCount claimants property c.invoke := by
  refine Nat.le_antisymm (Nat.not_lt.mp fun hlt => ?_) (h.enough property c.invoke)
  obtain ⟨p, i, hi, hp, hordinal⟩ := Grouping.exists_of_lt_identityCount hlt
  have hroom := (h.hasRoom_iff hi).mpr ⟨property, hc, hp, hordinal.ge⟩
  have hfull := List.findIdx?_eq_none_iff.mp hnone i (List.mem_of_getElem? hi)
  exact Bool.false_ne_true (hfull.symm.trans hroom)

/-- The accessors keep their ranks when one more function comes, if their identities keep their
ordinals and the new one has its own rank. -/
theorem placed_concat (h : Arranged claimants g) (hg : Grouped claimants g) {g' : Grouping}
    (hplaces : g'.places = g.places ++ [p])
    (kept : ∀ property, ∀ q ∈ g.places, g'.ordinal property q = g.ordinal property q)
    (new : ∀ property, c.property = some property →
      g'.ordinal property p = accessorCount claimants property c.invoke) {k q : Nat} {d : Claimant}
    {property : String} (hd : (claimants ++ [c])[k]? = some d) (hproperty : d.property = some property)
    (hq : g'.places[k]? = some q) :
    g'.ordinal property q = accessorCount ((claimants ++ [c]).take k) property d.invoke := by
  rw [hplaces] at hq
  have hlength := hg.length
  rcases getElem?_concat_eq_some hd with hd | ⟨hk, rfl⟩
  · have hlt := (List.getElem?_eq_some_iff.mp hd).1
    rw [List.getElem?_append_left (by omega)] at hq
    rw [List.take_append_of_le_length (by omega), kept _ q (List.mem_of_getElem? hq)]
    exact h.placed hd hproperty hq
  · rw [hk, ← hlength, List.getElem?_concat_length, Option.some.injEq] at hq
    rw [hk, List.take_left, ← hq]
    exact new property hproperty

section Join

variable (h : Arranged claimants g) (hp : g.identities.findIdx? (·.hasRoom c) = some p)

include h hp

theorem kinds_joinAt {q : Nat} {j : Identity} {property : String}
    (hj : (g.joinAt p c).identities[q]? = some j) (hq : j.property = some property)
    (kind : InvokeKind) :
    kind ∈ j.kinds ↔ (g.joinAt p c).ordinal property q <
      accessorCount (claimants ++ [c]) property kind := by
  obtain ⟨property', i, hc, hi, hproperty, hordinal⟩ := h.ordinal_of_findIdx? hp
  rw [Grouping.ordinal_joinAt, accessorCount_concat]
  rw [Grouping.joinAt] at hj
  by_cases hpq : p = q
  · -- The identity that is joined: its ordinal is the number of such accessors so far.
    subst hpq
    rw [List.getElem?_modify_eq, hi] at hj
    obtain rfl : i.join c = j := Option.some.inj hj
    obtain rfl : property' = property := Option.some.inj (hproperty.symm.trans hq)
    rw [Identity.join, List.mem_append, List.mem_singleton, h.kinds hi hproperty, hordinal]
    by_cases hkind : kind = c.invoke
    · simp [Claimant.isAccessor, hc, hkind]
    · simp [Claimant.isAccessor, hc, hkind, Ne.symm hkind]
  · -- Any other has another ordinal.
    rw [List.getElem?_modify_ne _ _ hpq] at hj
    rw [h.kinds hj hq kind]
    split
    · next haccessor =>
      obtain ⟨hc', rfl⟩ := Claimant.isAccessor_iff.mp haccessor
      obtain rfl := Option.some.inj (hc.symm.trans hc')
      have hne : g.ordinal property' q ≠ g.ordinal property' p :=
        fun heq => hpq (Grouping.ordinal_inj hj hi hq hproperty heq).symm
      omega
    · rfl

theorem enough_joinAt (property : String) (kind : InvokeKind) :
    accessorCount (claimants ++ [c]) property kind ≤ (g.joinAt p c).identityCount property := by
  obtain ⟨property', i, hc, hi, hproperty, hordinal⟩ := h.ordinal_of_findIdx? hp
  rw [Grouping.identityCount_joinAt, accessorCount_concat]
  split
  · next haccessor =>
    obtain ⟨hc', rfl⟩ := Claimant.isAccessor_iff.mp haccessor
    obtain rfl := Option.some.inj (hc.symm.trans hc')
    rw [← hordinal]
    exact Grouping.ordinal_lt hi hproperty
  · exact h.enough property kind

/-- An accessor that joins the first identity with room for it has its rank there. -/
theorem joinAt (hg : Grouped claimants g) : Arranged (claimants ++ [c]) (g.joinAt p c) := by
  refine ⟨h.kinds_joinAt hp, h.enough_joinAt hp,
    h.placed_concat hg rfl (fun _ _ _ => Grouping.ordinal_joinAt) fun property hc => ?_⟩
  obtain ⟨property', i, hc', -, -, hordinal⟩ := h.ordinal_of_findIdx? hp
  obtain rfl := Option.some.inj (hc'.symm.trans hc)
  rw [Grouping.ordinal_joinAt, hordinal]

end Join

theorem enough_openFor (h : Arranged claimants g) (property : String) (kind : InvokeKind) :
    accessorCount (claimants ++ [c]) property kind ≤ (g.openFor c).identityCount property := by
  have henough := h.enough property kind
  rw [Grouping.identityCount_openFor, accessorCount_concat]
  split
  · next haccessor =>
    rw [if_pos (Claimant.isAccessor_iff.mp haccessor).1]
    exact Nat.succ_le_succ henough
  · exact henough.trans (Nat.le_add_right _ _)

section Open

variable (h : Arranged claimants g) (hnone : g.identities.findIdx? (·.hasRoom c) = none)

include h hnone

/-- The new identity has the rank of its accessor. -/
theorem ordinal_openFor {property : String} (hc : c.property = some property) :
    (g.openFor c).ordinal property g.identities.length =
      accessorCount claimants property c.invoke := by
  rw [Grouping.ordinal_openFor_length, h.identityCount_of_findIdx? hnone hc]

theorem kinds_openFor {q : Nat} {j : Identity} {property : String}
    (hj : (g.openFor c).identities[q]? = some j) (hq : j.property = some property)
    (kind : InvokeKind) :
    kind ∈ j.kinds ↔ (g.openFor c).ordinal property q <
      accessorCount (claimants ++ [c]) property kind := by
  rw [accessorCount_concat]
  rcases getElem?_concat_eq_some hj with hj | ⟨rfl, rfl⟩
  · -- An identity that was there has an accessor of the new kind.
    rw [Grouping.ordinal_openFor (Nat.le_of_lt (List.getElem?_eq_some_iff.mp hj).1),
      h.kinds hj hq kind]
    split
    · next haccessor =>
      obtain ⟨hc, rfl⟩ := Claimant.isAccessor_iff.mp haccessor
      have hlt : g.ordinal property q < g.identityCount property := Grouping.ordinal_lt hj hq
      rw [h.identityCount_of_findIdx? hnone hc] at hlt
      omega
    · rfl
  · -- The new one has no other accessor.
    have hc : c.property = some property := hq
    have henough := h.enough property kind
    rw [h.identityCount_of_findIdx? hnone hc] at henough
    rw [List.mem_singleton, h.ordinal_openFor hnone hc]
    by_cases hkind : kind = c.invoke
    · simp [Claimant.isAccessor, hc, hkind]
    · simp [Claimant.isAccessor, hkind, Ne.symm hkind, henough]

/-- An accessor that finds no room has its rank in an identity of its own. -/
theorem openFor (hg : Grouped claimants g) : Arranged (claimants ++ [c]) (g.openFor c) :=
  ⟨h.kinds_openFor hnone, h.enough_openFor,
    h.placed_concat hg rfl
      (fun _ _ hq => Grouping.ordinal_openFor (Nat.le_of_lt (hg.lt_of_mem hq)))
      fun _ => h.ordinal_openFor hnone⟩

end Open

theorem add (h : Arranged claimants g) (hg : Grouped claimants g) (c : Claimant) :
    Arranged (claimants ++ [c]) (g.add c) := by
  cases hp : g.identities.findIdx? (·.hasRoom c) with
  | none =>
    rw [Grouping.add_of_none hp]
    exact h.openFor hp hg
  | some p =>
    rw [Grouping.add_of_some hp]
    exact h.joinAt hp hg

end Arranged

theorem arranged_groupIdentities (claimants : List Claimant) :
    Arranged claimants (groupIdentities claimants) := by
  induction claimants using List.reverseRecOn with
  | nil =>
    exact ⟨fun hi => by simp [groupIdentities] at hi, fun _ _ => Nat.zero_le _,
      fun hc => by simp at hc⟩
  | append_singleton earlier c ih =>
    rw [groupIdentities_concat]
    exact ih.add (groupIdentities_sound earlier) c

/-! ## Who shares an identity -/

section Accessors

variable {property : String} {kind kind' : InvokeKind} {k k' q rank : Nat}

/-- The identity of an accessor has as many of its property before it as the accessor's rank. -/
theorem IsAccessor.ordinal_eq (hk : IsAccessor claimants k property kind rank)
    (hg : Grouped claimants g) (h : Arranged claimants g) (hp : g.places[k]? = some p) :
    ∃ i, g.identities[p]? = some i ∧ i.property = some property ∧ g.ordinal property p = rank := by
  obtain ⟨c, hc, haccessor⟩ := hk.exists_claimant
  obtain ⟨hproperty, rfl⟩ := Claimant.isAccessor_iff.mp haccessor
  obtain ⟨i, hi, hsame, -⟩ := hg.member hc hp
  exact ⟨i, hi, hsame.trans hproperty, (h.placed hc hproperty hp).trans hk.rank_eq⟩

/-- Accessors of one property that have the same rank share an identity. -/
theorem IsAccessor.place_eq (hk : IsAccessor claimants k property kind rank)
    (hk' : IsAccessor claimants k' property kind' rank) (hg : Grouped claimants g)
    (h : Arranged claimants g) (hp : g.places[k]? = some p) (hq : g.places[k']? = some q) : p = q := by
  obtain ⟨i, hi, hproperty, hordinal⟩ := hk.ordinal_eq hg h hp
  obtain ⟨j, hj, hproperty', hordinal'⟩ := hk'.ordinal_eq hg h hq
  exact Grouping.ordinal_inj hi hj hproperty hproperty' (hordinal.trans hordinal'.symm)

/-- There is an accessor of every rank below the number of accessors. -/
theorem exists_isAccessor (h : rank < accessorCount claimants property kind) :
    ∃ k < claimants.length, IsAccessor claimants k property kind rank := by
  obtain ⟨k, c, hc, haccessor, hrank⟩ := exists_of_lt_countP h
  exact ⟨k, (List.getElem?_eq_some_iff.mp hc).1, ⟨c, hc, haccessor⟩, hrank⟩

theorem exists_most_accessors (claimants : List Claimant) (property : String) :
    ∃ kind, ∀ kind', accessorCount claimants property kind' ≤ accessorCount claimants property kind := by
  obtain ⟨kind, -, hmost⟩ := Finset.exists_max_image
    {.function, .propertyGet, .propertyPut, .propertyPutRef} (accessorCount claimants property)
    ⟨.function, Finset.mem_insert_self _ _⟩
  exact ⟨kind, fun kind' => hmost kind' (by cases kind' <;> decide)⟩

end Accessors

/-- The places of the identities of a property. -/
def propertyPlaces (claimants : List Claimant) (g : Grouping) (property : String) : Finset Nat :=
  (((claimants.zip g.places).filter fun (c, _) => c.property == some property).map (·.2)).toFinset

theorem mem_propertyPlaces {property : String} : p ∈ propertyPlaces claimants g property ↔
    ∃ (k : Nat) (c : Claimant), claimants[k]? = some c ∧ c.property = some property ∧
      g.places[k]? = some p := by
  simp only [propertyPlaces, List.mem_toFinset, List.mem_map, List.mem_filter, Prod.exists, beq_iff_eq]
  constructor
  · rintro ⟨c, p, ⟨hmem, hproperty⟩, rfl⟩
    obtain ⟨k, hk⟩ := List.mem_iff_getElem?.mp hmem
    obtain ⟨hc, hp⟩ := List.getElem?_zip_eq_some.mp hk
    exact ⟨k, c, hc, hproperty, hp⟩
  · rintro ⟨k, c, hc, hproperty, hp⟩
    exact ⟨c, p, ⟨List.mem_of_getElem? (List.getElem?_zip_eq_some.mpr ⟨hc, hp⟩), hproperty⟩, rfl⟩

/-- **How functions are grouped.** -/
structure RankedGrouping (claimants : List Claimant) (g : Grouping) : Prop where
  /-- Every function has a place. -/
  length : g.places.length = claimants.length
  /-- The places are those of identities. -/
  inRange : ∀ p ∈ g.places, p < g.identities.length
  /-- Two functions share an identity exactly if they are accessors of one property that have the
  same rank and are invoked in different ways. -/
  shared {i j : Nat} : i < claimants.length → j < claimants.length → i ≠ j →
    (g.places[i]? = g.places[j]? ↔ ∃ property kind kind' rank, kind ≠ kind' ∧
      IsAccessor claimants i property kind rank ∧ IsAccessor claimants j property kind' rank)
  /-- A function without a property has an identity of its own. -/
  alone {i j : Nat} {c : Claimant} : claimants[i]? = some c → c.property = none → i ≠ j →
    g.places[i]? ≠ g.places[j]?
  /-- A property has as many identities as accessors that are invoked in one way. -/
  count (property : String) : IsGreatest (Set.range (accessorCount claimants property))
    (propertyPlaces claimants g property).card

/-- The ordinals of the identities of a property are the ranks of its accessors. -/
theorem mem_image_ordinal (hg : Grouped claimants g) (h : Arranged claimants g) {property : String}
    {rank : Nat} : rank ∈ (propertyPlaces claimants g property).image (g.ordinal property) ↔
      ∃ kind, rank < accessorCount claimants property kind := by
  simp only [Finset.mem_image, mem_propertyPlaces]
  constructor
  · rintro ⟨p, ⟨k, c, hc, hproperty, hp⟩, rfl⟩
    refine ⟨c.invoke, ?_⟩
    rw [h.placed hc hproperty hp]
    exact countP_take_lt_countP hc (Claimant.isAccessor_iff.mpr ⟨hproperty, rfl⟩)
  · rintro ⟨kind, hlt⟩
    obtain ⟨k, hk, haccessor⟩ := exists_isAccessor hlt
    obtain ⟨p, hp⟩ : ∃ p, g.places[k]? = some p := ⟨_, List.getElem?_eq_getElem (hg.length ▸ hk)⟩
    obtain ⟨-, -, -, hordinal⟩ := haccessor.ordinal_eq hg h hp
    obtain ⟨c, hc, hc'⟩ := haccessor.exists_claimant
    exact ⟨_, ⟨k, c, hc, (Claimant.isAccessor_iff.mp hc').1, hp⟩, hordinal⟩

theorem injOn_ordinal (hg : Grouped claimants g) (property : String) :
    Set.InjOn (g.ordinal property) (propertyPlaces claimants g property) := by
  intro p hp q hq hordinal
  obtain ⟨k, c, hc, hproperty, hk⟩ := mem_propertyPlaces.mp hp
  obtain ⟨k', d, hd, hproperty', hk'⟩ := mem_propertyPlaces.mp hq
  obtain ⟨i, hi, hsame, -⟩ := hg.member hc hk
  obtain ⟨j, hj, hsame', -⟩ := hg.member hd hk'
  exact Grouping.ordinal_inj hi hj (hsame.trans hproperty) (hsame'.trans hproperty') hordinal

theorem card_propertyPlaces (hg : Grouped claimants g) (h : Arranged claimants g) (property : String) :
    IsGreatest (Set.range (accessorCount claimants property))
      (propertyPlaces claimants g property).card := by
  obtain ⟨kind, hmost⟩ := exists_most_accessors claimants property
  have himage : (propertyPlaces claimants g property).image (g.ordinal property) =
      Finset.range (accessorCount claimants property kind) := by
    ext rank
    rw [mem_image_ordinal hg h, Finset.mem_range]
    exact ⟨fun ⟨kind', hlt⟩ => hlt.trans_le (hmost kind'), fun hlt => ⟨kind, hlt⟩⟩
  have hcard : accessorCount claimants property kind = (propertyPlaces claimants g property).card := by
    rw [← Finset.card_image_of_injOn (injOn_ordinal hg property), himage, Finset.card_range]
  refine ⟨⟨kind, hcard⟩, ?_⟩
  rintro _ ⟨kind', rfl⟩
  exact hcard ▸ hmost kind'

theorem exists_isAccessor_of_lt (hg : Grouped claimants g) (h : Arranged claimants g)
    {k k' : Nat} (hlt : k < k') (hp : g.places[k]? = some p) (hp' : g.places[k']? = some p) :
    ∃ property kind kind' rank, kind ≠ kind' ∧ IsAccessor claimants k property kind rank ∧
      IsAccessor claimants k' property kind' rank := by
  have hk' : k' < claimants.length := hg.length ▸ (List.getElem?_eq_some_iff.mp hp').1
  obtain ⟨c, hc⟩ : ∃ c, claimants[k]? = some c := ⟨_, List.getElem?_eq_getElem (hlt.trans hk')⟩
  obtain ⟨d, hd⟩ : ∃ d, claimants[k']? = some d := ⟨_, List.getElem?_eq_getElem hk'⟩
  obtain ⟨hsome, hsame, hinvoke⟩ := hg.apart hlt hc hd hp hp'
  obtain ⟨property, hproperty⟩ := Option.isSome_iff_exists.mp hsome
  refine ⟨property, c.invoke, d.invoke, g.ordinal property p, hinvoke, ⟨⟨c, hc, ?_⟩, ?_⟩,
    ⟨⟨d, hd, ?_⟩, ?_⟩⟩
  · exact Claimant.isAccessor_iff.mpr ⟨hproperty, rfl⟩
  · exact (h.placed hc hproperty hp).symm
  · exact Claimant.isAccessor_iff.mpr ⟨hsame ▸ hproperty, rfl⟩
  · exact (h.placed hd (hsame ▸ hproperty) hp').symm

/-- An identity that two functions share has accessors of one rank, invoked in different ways. -/
theorem exists_isAccessor_of_ne (hg : Grouped claimants g) (h : Arranged claimants g)
    {k k' : Nat} (hne : k ≠ k') (hp : g.places[k]? = some p) (hp' : g.places[k']? = some p) :
    ∃ property kind kind' rank, kind ≠ kind' ∧ IsAccessor claimants k property kind rank ∧
      IsAccessor claimants k' property kind' rank := by
  rcases Nat.lt_or_gt_of_ne hne with hlt | hlt
  · exact exists_isAccessor_of_lt hg h hlt hp hp'
  · obtain ⟨property, kind, kind', rank, hkind, hk', hk⟩ := exists_isAccessor_of_lt hg h hlt hp' hp
    exact ⟨property, kind', kind, rank, hkind.symm, hk, hk'⟩

/-- **Accessors of a property share identities by rank.** -/
theorem groupIdentities_ranked (claimants : List Claimant) :
    RankedGrouping claimants (groupIdentities claimants) := by
  have hg := groupIdentities_sound claimants
  have h := arranged_groupIdentities claimants
  generalize groupIdentities claimants = g at hg h ⊢
  have hplace : ∀ {k}, k < claimants.length → ∃ p, g.places[k]? = some p := fun hk =>
    ⟨_, List.getElem?_eq_getElem (hg.length ▸ hk)⟩
  refine ⟨hg.length, fun p hp => hg.lt_of_mem hp, fun {i j} hi hj hij => ?_,
    fun {i j c} hc hproperty hij hsame => ?_, card_propertyPlaces hg h⟩
  · obtain ⟨p, hp⟩ := hplace hi
    obtain ⟨q, hq⟩ := hplace hj
    constructor
    · intro hsame
      rw [hp, hq, Option.some.injEq] at hsame
      exact exists_isAccessor_of_ne hg h hij hp (hsame ▸ hq)
    · rintro ⟨property, kind, kind', rank, -, haccessor, haccessor'⟩
      rw [hp, hq, haccessor.place_eq haccessor' hg h hp hq]
  · obtain ⟨p, hp⟩ := hplace (List.getElem?_eq_some_iff.mp hc).1
    obtain ⟨property, kind, -, rank, -, haccessor, -⟩ :=
      exists_isAccessor_of_ne hg h hij hp (hsame ▸ hp)
    obtain ⟨d, hd, hd'⟩ := haccessor.exists_claimant
    obtain rfl := Option.some.inj (hc.symm.trans hd)
    rw [(Claimant.isAccessor_iff.mp hd').1] at hproperty
    exact absurd hproperty (Option.some_ne_none _)

/-- Two getters of one property, its setter and a method: the setter goes with the first getter. -/
example : (groupIdentities
    [⟨some "item", .propertyGet, none⟩, ⟨some "item", .propertyGet, none⟩,
      ⟨some "item", .propertyPut, none⟩, ⟨none, .function, none⟩]).places = [0, 1, 0, 2] := by
  decide

end Automation.Export

import Mathlib.Algebra.Group.Nat.Defs
import Mathlib.Order.Bounds.Basic
import Automation.Proofs.Export.DispatchIds

/-!
# Which dispatch ids are given

`DispatchIds` shows that the ids of an interface are apart; this module says which ids they are.
`assignFrom_getElem?` reads off the id at a place from those at earlier places and from what later
places declare, and `assignIds_numbered` describes the whole assignment with it: who gets the id it
wants, what the others get instead, and that exactly the others are listed as moved.
-/

namespace Automation.Export

open Library

variable {first : MemberId} {place k : Nat} {claimed inherited ids : List MemberId}
  {request : Option MemberId} {requests : List (Option MemberId)} {x : MemberId}

/-! ## Free ids -/

theorem freeId_isLeast (claimed awaited : List MemberId) :
    IsLeast {id : MemberId | 0 < id ∧ id ∉ claimed ∧ id ∉ awaited} (freeId claimed awaited) := by
  obtain ⟨hclaimed, hawaited, hpos⟩ := freeId_fresh claimed awaited
  refine ⟨⟨hpos, hclaimed, hawaited⟩, fun id hid => ?_⟩
  obtain ⟨hid, hnew, hlater⟩ := hid
  obtain ⟨n, rfl⟩ := Int.eq_ofNat_of_zero_le (Int.le_of_lt hid)
  refine Int.not_lt.mp fun hlt => ?_
  -- A smaller free id would have ended the search.
  have hbelow : n < firstFree (fun n => claimed.contains (n : Int) || awaited.contains (n : Int))
    (claimed.length + awaited.length + 1) 1 := Int.ofNat_lt.mp hlt
  have htaken := taken_of_lt_firstFree (Int.ofNat_lt.mp hid) hbelow
  simp [hnew, hlater] at htaken

theorem freeId_le (claimed awaited : List MemberId) :
    freeId claimed awaited ≤ claimed.length + awaited.length + 2 := by
  have hle := firstFree_le (fun n => claimed.contains (n : Int) || awaited.contains (n : Int))
    (claimed.length + awaited.length + 1) 1
  refine Int.le_trans (Int.ofNat_le.mpr hle) ?_
  omega

/-! ## Place by place -/

@[simp] theorem length_assignFrom :
    (assignFrom first place claimed requests).ids.length = requests.length := by
  induction requests generalizing place claimed with
  | nil => rfl
  | cons head later ih => simp [assignFrom, ih]

/-- Whether an identity that wants an id may have it, when the given ids are claimed. -/
inductive Grants (first : MemberId) (place : Nat) (claimed : List MemberId) :
    Option MemberId → MemberId → Prop
  | declared {x : MemberId} : x ∉ claimed → Grants first place claimed (some x) x
  | automatic {x : MemberId} : idAfter? first place = some x → 0 < x → x ∉ claimed →
    Grants first place claimed none x

theorem wantedId_eq_true_iff :
    wantedId first place claimed request = (x, true) ↔ Grants first place claimed request x := by
  unfold wantedId
  constructor
  · intro h
    split at h
    · simp only [Prod.mk.injEq, Bool.not_eq_true', List.contains_eq_mem,
        decide_eq_false_iff_not] at h
      obtain ⟨rfl, hnew⟩ := h
      exact .declared hnew
    · next id hid =>
      simp only [Prod.mk.injEq, Bool.and_eq_true, decide_eq_true_eq, Bool.not_eq_true',
        List.contains_eq_mem, decide_eq_false_iff_not] at h
      obtain ⟨rfl, hpos, hnew⟩ := h
      exact .automatic hid hpos hnew
    · simp at h
  · rintro (hnew | ⟨hid, hpos, hnew⟩)
    · simp [hnew]
    · simp [hid, hpos, hnew]

/-- The id of an identity, when the given ids are claimed and the given requests are to come. -/
def givenId (first : MemberId) (place : Nat) (claimed : List MemberId) (request : Option MemberId)
    (later : List (Option MemberId)) : MemberId :=
  if (wantedId first place claimed request).2 then (wantedId first place claimed request).1
  else freeId claimed (later.filterMap id)

theorem givenId_of_grants (h : Grants first place claimed request x)
    (later : List (Option MemberId)) : givenId first place claimed request later = x := by
  simp [givenId, wantedId_eq_true_iff.mpr h]

theorem givenId_of_not_grants (h : ∀ x, ¬ Grants first place claimed request x)
    (later : List (Option MemberId)) :
    givenId first place claimed request later = freeId claimed (later.filterMap id) := by
  rcases hw : wantedId first place claimed request with ⟨wanted, usable⟩
  cases usable with
  | false => simp [givenId, hw]
  | true => exact absurd (wantedId_eq_true_iff.mp hw) (h wanted)

theorem ids_assignFrom_cons (later : List (Option MemberId)) :
    (assignFrom first place claimed (request :: later)).ids =
      givenId first place claimed request later ::
        (assignFrom first (place + 1) (givenId first place claimed request later :: claimed)
          later).ids := by
  rw [assignFrom]
  rfl

theorem reassigned_assignFrom_cons (later : List (Option MemberId)) :
    (assignFrom first place claimed (request :: later)).reassigned =
      (if (wantedId first place claimed request).2 then []
        else [⟨place, (wantedId first place claimed request).1,
          givenId first place claimed request later⟩]) ++
        (assignFrom first (place + 1) (givenId first place claimed request later :: claimed)
          later).reassigned := by
  rw [assignFrom]
  unfold givenId
  dsimp only
  split <;> rfl

/-- The ids that are claimed when it is the turn of a place. -/
def claimedAt (claimed ids : List MemberId) (k : Nat) : List MemberId :=
  (ids.take k).reverse ++ claimed

@[simp] theorem mem_claimedAt : x ∈ claimedAt claimed ids k ↔ x ∈ ids.take k ∨ x ∈ claimed := by
  simp [claimedAt]

theorem claimedAt_cons_succ (id : MemberId) :
    claimedAt claimed (id :: ids) (k + 1) = claimedAt (id :: claimed) ids k := by
  simp [claimedAt]

/-- **The id at a place** is given by the ids at earlier places and the later requests. -/
theorem assignFrom_getElem? (hrequest : requests[k]? = some request) :
    (assignFrom first place claimed requests).ids[k]? = some (givenId first (place + k)
      (claimedAt claimed (assignFrom first place claimed requests).ids k) request
      (requests.drop (k + 1))) := by
  induction requests generalizing place claimed k with
  | nil => simp at hrequest
  | cons head later ih =>
    rw [ids_assignFrom_cons]
    cases k with
    | zero =>
      simp only [List.getElem?_cons_zero, Option.some.injEq] at hrequest
      subst hrequest
      simp [claimedAt]
    | succ k =>
      rw [List.getElem?_cons_succ] at hrequest ⊢
      rw [claimedAt_cons_succ, ih hrequest, List.drop_succ_cons, Nat.add_right_comm, Nat.add_assoc]

/-- An identity is listed as moved if it may not have the id it wants when it is its turn. -/
theorem mem_reassigned_assignFrom {r : Reassignment} :
    r ∈ (assignFrom first place claimed requests).reassigned ↔
      ∃ k request, requests[k]? = some request ∧ r.place = place + k ∧
        wantedId first (place + k)
          (claimedAt claimed (assignFrom first place claimed requests).ids k) request =
            (r.wanted, false) ∧
        (assignFrom first place claimed requests).ids[k]? = some r.assigned := by
  induction requests generalizing place claimed with
  | nil => simp [assignFrom]
  | cons head later ih =>
    rw [reassigned_assignFrom_cons, List.mem_append, ih, ids_assignFrom_cons]
    generalize hid : givenId first place claimed head later = id
    constructor
    · rintro (hhead | ⟨k, request, hrequest, hplace, hwanted, hassigned⟩)
      · refine ⟨0, head, rfl, ?_⟩
        rcases hw : wantedId first place claimed head with ⟨wanted, usable⟩
        cases usable <;> simp_all [claimedAt]
      · refine ⟨k + 1, request, hrequest, by omega, ?_, hassigned⟩
        rwa [claimedAt_cons_succ, Nat.add_comm k, ← Nat.add_assoc]
    · rintro ⟨k, request, hrequest, hplace, hwanted, hassigned⟩
      cases k with
      | zero =>
        left
        obtain ⟨p, w, a⟩ := r
        simp_all [claimedAt]
      | succ k =>
        refine .inr ⟨k, request, hrequest, by omega, ?_, hassigned⟩
        rwa [claimedAt_cons_succ, Nat.add_comm k, ← Nat.add_assoc] at hwanted

/-- The moved identities are listed in order. -/
theorem pairwise_reassigned_assignFrom :
    (assignFrom first place claimed requests).reassigned.Pairwise (·.place < ·.place) := by
  induction requests generalizing place claimed with
  | nil => simp [assignFrom]
  | cons head later ih =>
    rw [reassigned_assignFrom_cons]
    refine List.pairwise_append.mpr ⟨by split <;> simp, ih, fun r hr s hs => ?_⟩
    obtain ⟨k, -, -, hplace, -⟩ := mem_reassigned_assignFrom.mp hs
    split at hr
    · simp at hr
    · rw [List.mem_singleton.mp hr]
      dsimp only
      omega

/-! ## The whole assignment -/

/-- An identity that declares no id is given the automatic one of its place. -/
def IsAutomatic (first : MemberId) (requests : List (Option MemberId)) (ids : List MemberId)
    (k : Nat) (x : MemberId) : Prop :=
  requests[k]? = some none ∧ idAfter? first k = some x ∧ ids[k]? = some x

/-- The identity at a place is moved away from the id it wants: from a declared id that it is not
given, from an automatic id that is not positive or taken, or because its place has none. -/
inductive Moved (first : MemberId) (inherited : List MemberId) (requests : List (Option MemberId))
    (ids : List MemberId) (k : Nat) : MemberId → Prop
  | declared {x : MemberId} : requests[k]? = some (some x) → ids[k]? ≠ some x →
    Moved first inherited requests ids k x
  | automatic {x : MemberId} : requests[k]? = some none → idAfter? first k = some x →
    (x ≤ 0 ∨ x ∈ inherited ∨ x ∈ ids.take k) → Moved first inherited requests ids k x
  | overflow : requests[k]? = some none → idAfter? first k = none →
    Moved first inherited requests ids k MemberId.max

theorem Moved.exists_request (h : Moved first inherited requests ids k x) :
    ∃ request, requests[k]? = some request := by
  cases h <;> exact ⟨_, ‹_›⟩

theorem mem_take_iff_getElem? {α : Type} {l : List α} {y : α} {k : Nat} :
    y ∈ l.take k ↔ ∃ j < k, l[j]? = some y := by
  simp only [List.mem_iff_getElem?, List.getElem?_take]
  constructor
  · rintro ⟨j, hj⟩
    split at hj
    · exact ⟨j, ‹_›, hj⟩
    · simp at hj
  · rintro ⟨j, hlt, hj⟩
    exact ⟨j, by rw [if_pos hlt, hj]⟩

theorem mem_awaited_iff : x ∈ (requests.drop (k + 1)).filterMap id ↔
    ∃ j > k, requests[j]? = some (some x) := by
  simp only [List.mem_filterMap, id_eq, exists_eq_right]
  simp only [List.mem_iff_getElem?, List.getElem?_drop]
  constructor
  · rintro ⟨i, hi⟩
    exact ⟨k + 1 + i, by omega, hi⟩
  · rintro ⟨j, hj, hx⟩
    exact ⟨j - (k + 1), by rwa [Nat.add_sub_cancel' hj]⟩

section Assigned

variable (hids : ids = (assignFrom first 0 inherited requests).ids)

include hids

theorem getElem?_of_grants (hrequest : requests[k]? = some request)
    (h : Grants first k (claimedAt inherited ids k) request x) : ids[k]? = some x := by
  subst hids
  rw [assignFrom_getElem? hrequest, Nat.zero_add, givenId_of_grants h]

theorem getElem?_of_not_grants (hrequest : requests[k]? = some request)
    (h : ∀ x, ¬ Grants first k (claimedAt inherited ids k) request x) :
    ids[k]? = some (freeId (claimedAt inherited ids k) ((requests.drop (k + 1)).filterMap id)) := by
  subst hids
  rw [assignFrom_getElem? hrequest, Nat.zero_add, givenId_of_not_grants h]

/-- A declared id is granted if nobody has it yet. -/
theorem getElem?_declared_iff (hrequest : requests[k]? = some (some x)) :
    ids[k]? = some x ↔ x ∉ claimedAt inherited ids k := by
  constructor
  · intro hid hclaimed
    have hnot : ∀ y, ¬ Grants first k (claimedAt inherited ids k) (some x) y := by
      intro y hy
      cases hy with
      | declared hnew => exact hnew hclaimed
    rw [getElem?_of_not_grants hids hrequest hnot, Option.some.injEq] at hid
    exact (freeId_fresh _ _).1 (hid ▸ hclaimed)
  · intro hnew
    exact getElem?_of_grants hids hrequest (.declared hnew)

/-- An id that a later identity declares is not what an earlier one is moved to. -/
theorem declared_or_isAutomatic {j : Nat} (hrequest : requests[k]? = some (some x)) (hjk : j < k)
    (hj : ids[j]? = some x) :
    requests[j]? = some (some x) ∨ IsAutomatic first requests ids j x := by
  have hlt : j < requests.length := hjk.trans (List.getElem?_eq_some_iff.mp hrequest).1
  obtain ⟨request, hrequest'⟩ : ∃ request, requests[j]? = some request :=
    ⟨_, List.getElem?_eq_getElem hlt⟩
  by_cases hgrants : ∃ y, Grants first j (claimedAt inherited ids j) request y
  · obtain ⟨y, hy⟩ := hgrants
    have hyx : y = x := Option.some.inj ((getElem?_of_grants hids hrequest' hy).symm.trans hj)
    subst hyx
    cases hy with
    | declared => exact .inl hrequest'
    | automatic hid => exact .inr ⟨hrequest', hid, hj⟩
  · rw [getElem?_of_not_grants hids hrequest' (not_exists.mp hgrants), Option.some.injEq] at hj
    refine absurd (hj ▸ ?_) (freeId_fresh (claimedAt inherited ids j)
      ((requests.drop (j + 1)).filterMap id)).2.1
    exact mem_awaited_iff.mpr ⟨k, hjk, hrequest⟩

theorem granted_iff (hrequest : requests[k]? = some (some x)) : ids[k]? = some x ↔
    x ∉ inherited ∧ (∀ j < k, requests[j]? ≠ some (some x)) ∧
      ∀ j < k, ¬ IsAutomatic first requests ids j x := by
  rw [getElem?_declared_iff hids hrequest, mem_claimedAt, not_or, mem_take_iff_getElem?]
  constructor
  · rintro ⟨htake, hinherited⟩
    refine ⟨hinherited, fun j hj hdeclared => ?_, fun j hj hauto => htake ⟨j, hj, hauto.2.2⟩⟩
    -- Whoever declares it first has it, unless it was claimed even before.
    have hclaimed : x ∈ claimedAt inherited ids j := by
      by_contra hnew
      exact htake ⟨j, hj, (getElem?_declared_iff hids hdeclared).mpr hnew⟩
    rcases mem_claimedAt.mp hclaimed with hbefore | hbefore
    · obtain ⟨i, hi, hid⟩ := mem_take_iff_getElem?.mp hbefore
      exact htake ⟨i, hi.trans hj, hid⟩
    · exact hinherited hbefore
  · rintro ⟨hinherited, hdeclared, hauto⟩
    refine ⟨?_, hinherited⟩
    rintro ⟨j, hj, hid⟩
    rcases declared_or_isAutomatic hids hrequest hj hid with h | h
    · exact hdeclared j hj h
    · exact hauto j hj h

theorem wantedId_eq_false_iff (hrequest : requests[k]? = some request) :
    wantedId first k (claimedAt inherited ids k) request = (x, false) ↔
      Moved first inherited requests ids k x := by
  constructor
  · intro h
    unfold wantedId at h
    split at h
    · simp only [Prod.mk.injEq, Bool.not_eq_false', List.contains_eq_mem, decide_eq_true_eq] at h
      obtain ⟨rfl, hclaimed⟩ := h
      exact .declared hrequest fun hid => (getElem?_declared_iff hids hrequest).mp hid hclaimed
    · next a ha =>
      simp only [Prod.mk.injEq, Bool.and_eq_false_iff, decide_eq_false_iff_not, Int.not_lt,
        Bool.not_eq_false', List.contains_eq_mem, decide_eq_true_eq, mem_claimedAt] at h
      obtain ⟨rfl, hbad⟩ := h
      exact .automatic hrequest ha (hbad.imp_right Or.symm)
    · next ha =>
      simp only [Prod.mk.injEq, and_true] at h
      exact h ▸ .overflow hrequest ha
  · intro h
    cases h with
    | declared hrequest' hid =>
      obtain rfl := Option.some.inj (hrequest.symm.trans hrequest')
      have hclaimed := not_not.mp fun hnew => hid ((getElem?_declared_iff hids hrequest).mpr hnew)
      simp only [wantedId, Prod.mk.injEq, true_and, Bool.not_eq_false', List.contains_eq_mem,
        decide_eq_true_eq]
      exact hclaimed
    | automatic hrequest' ha hbad =>
      obtain rfl := Option.some.inj (hrequest.symm.trans hrequest')
      simp only [wantedId, ha, Prod.mk.injEq, true_and, Bool.and_eq_false_iff,
        decide_eq_false_iff_not, Int.not_lt, Bool.not_eq_false', List.contains_eq_mem,
        decide_eq_true_eq, mem_claimedAt]
      exact hbad.imp_right Or.symm
    | overflow hrequest' ha =>
      obtain rfl := Option.some.inj (hrequest.symm.trans hrequest')
      simp [wantedId, ha]

theorem moved_isLeast (hmoved : Moved first inherited requests ids k x) : ∃ id,
    ids[k]? = some id ∧ IsLeast {id : MemberId | 0 < id ∧ id ∉ inherited ∧ id ∉ ids.take k ∧
      ∀ j > k, requests[j]? ≠ some (some id)} id := by
  obtain ⟨request, hrequest⟩ := hmoved.exists_request
  have hwanted := (wantedId_eq_false_iff hids hrequest).mpr hmoved
  have hnot : ∀ y, ¬ Grants first k (claimedAt inherited ids k) request y := by
    intro y hy
    rw [wantedId_eq_true_iff.mpr hy] at hwanted
    simp at hwanted
  refine ⟨_, getElem?_of_not_grants hids hrequest hnot, ?_⟩
  have hleast := freeId_isLeast (claimedAt inherited ids k) ((requests.drop (k + 1)).filterMap id)
  convert hleast using 1
  ext id
  simp only [Set.mem_ofPred_eq, mem_claimedAt, mem_awaited_iff, not_or, not_exists, not_and]
  tauto

end Assigned

/-- An id fits a word of 32 bits. -/
def FitsWord (id : MemberId) : Prop := -MemberId.max ≤ id + 1 ∧ id ≤ MemberId.max

/-- **How the identities of an interface are numbered**, given the first automatic id, the inherited
ids and the declared ids. -/
structure NumberedIds (first : MemberId) (inherited : List MemberId)
    (requests : List (Option MemberId)) (out : Assignment) : Prop where
  length : out.ids.length = requests.length
  apart : out.ids.Nodup
  fresh : ∀ id ∈ out.ids, id ∉ inherited ∧ id ≠ MemberId.none
  /-- A declared id is granted unless it is inherited, declared earlier or an earlier identity was
  given it as its automatic id. -/
  declared {k : Nat} {x : MemberId} : requests[k]? = some (some x) → (out.ids[k]? = some x ↔
    x ∉ inherited ∧ (∀ j < k, requests[j]? ≠ some (some x)) ∧
      ∀ j < k, ¬ IsAutomatic first requests out.ids j x)
  /-- An automatic id is given if it is positive and not yet taken. -/
  automatic {k : Nat} {x : MemberId} : requests[k]? = some none → idAfter? first k = some x →
    0 < x → x ∉ inherited → x ∉ out.ids.take k → out.ids[k]? = some x
  /-- A moved identity gets the least id that is free and that no later identity declares. -/
  moved {k : Nat} {x : MemberId} : Moved first inherited requests out.ids k x → ∃ id,
    out.ids[k]? = some id ∧ IsLeast {id : MemberId | 0 < id ∧ id ∉ inherited ∧
      id ∉ out.ids.take k ∧ ∀ j > k, requests[j]? ≠ some (some id)} id
  /-- Exactly the moved identities are listed, in order. -/
  reassigned {r : Reassignment} : r ∈ out.reassigned ↔
    Moved first inherited requests out.ids r.place r.wanted ∧ out.ids[r.place]? = some r.assigned
  ordered : out.reassigned.Pairwise (·.place < ·.place)
  /-- The ids fit a word if the given ids do and are not too many. -/
  fits : FitsWord first → (∀ id, some id ∈ requests → FitsWord id) → inherited.length < 2 ^ 30 →
    requests.length < 2 ^ 30 → ∀ id ∈ out.ids, FitsWord id

theorem le_of_idAfter? {n : Nat} (h : idAfter? first n = some x) :
    first ≤ x ∧ x ≤ MemberId.max := by
  unfold idAfter? at h
  split at h
  · next hle =>
    obtain rfl := Option.some.inj h
    exact ⟨Int.le_add_of_nonneg_right (Int.natCast_nonneg n), hle⟩
  · simp at h

theorem freeId_fits {awaited : List MemberId}
    (hfew : claimed.length + awaited.length + 3 ≤ 2 ^ 31) : FitsWord (freeId claimed awaited) := by
  have hpos : (0 : Int) < freeId claimed awaited := (freeId_fresh claimed awaited).2.2
  have hmax : (claimed.length + awaited.length + 2 : Int) ≤ 0x7FFFFFFF := by omega
  refine ⟨?_, Int.le_trans (freeId_le claimed awaited) hmax⟩
  show -(0x7FFFFFFF : Int) ≤ freeId claimed awaited + 1
  omega

/-- Too few ids are claimed or awaited for a moved identity to leave the words. -/
theorem fits_assignFrom (hfirst : FitsWord first)
    (hrequests : ∀ id, some id ∈ requests → FitsWord id) (hinherited : inherited.length < 2 ^ 30)
    (hlength : requests.length < 2 ^ 30) :
    ∀ id ∈ (assignFrom first 0 inherited requests).ids, FitsWord id := by
  generalize hids : (assignFrom first 0 inherited requests).ids = ids
  intro id hid
  obtain ⟨k, hk⟩ := List.mem_iff_getElem?.mp hid
  have hlt : k < requests.length := by
    have hlt := (List.getElem?_eq_some_iff.mp hk).1
    rwa [← hids, length_assignFrom] at hlt
  obtain ⟨request, hrequest⟩ : ∃ request, requests[k]? = some request :=
    ⟨_, List.getElem?_eq_getElem hlt⟩
  by_cases hgrants : ∃ x, Grants first k (claimedAt inherited ids k) request x
  · obtain ⟨x, hx⟩ := hgrants
    obtain rfl := Option.some.inj ((getElem?_of_grants hids.symm hrequest hx).symm.trans hk)
    cases hx with
    | declared => exact hrequests x (List.mem_of_getElem? hrequest)
    | automatic hid =>
      obtain ⟨hle, hmax⟩ := le_of_idAfter? hid
      exact ⟨hfirst.1.trans (Int.add_le_add_right hle 1), hmax⟩
  · have hfree := getElem?_of_not_grants hids.symm hrequest (not_exists.mp hgrants)
    obtain rfl := Option.some.inj (hfree.symm.trans hk)
    apply freeId_fits
    have hawaited := List.length_filterMap_le (fun r : Option MemberId => r)
      (requests.drop (k + 1))
    have hclaimed : (claimedAt inherited ids k).length ≤ k + inherited.length := by
      simp [claimedAt]
    rw [List.length_drop] at hawaited
    change _ + (List.filterMap (fun r => r) (requests.drop (k + 1))).length + 3 ≤ _
    omega

/-- **The numbering of an interface.** -/
theorem assignIds_numbered (first : MemberId) (inherited : List MemberId)
    (requests : List (Option MemberId)) :
    NumberedIds first inherited (requests.map declared?) (assignIds first inherited requests) where
  length := by rw [(assignIds_sound first inherited requests).1, List.length_map]
  apart := (assignIds_sound first inherited requests).2.1
  fresh := (assignIds_sound first inherited requests).2.2
  declared := granted_iff rfl
  automatic hrequest hid hpos hinherited htake :=
    getElem?_of_grants rfl hrequest (.automatic hid hpos (by simp [hinherited, htake]))
  moved := moved_isLeast rfl
  reassigned {r} := by
    unfold assignIds
    rw [mem_reassigned_assignFrom]
    constructor
    · rintro ⟨k, request, hrequest, hplace, hwanted, hassigned⟩
      rw [Nat.zero_add] at hplace hwanted
      rw [hplace]
      exact ⟨(wantedId_eq_false_iff rfl hrequest).mp hwanted, hassigned⟩
    · rintro ⟨hmoved, hassigned⟩
      obtain ⟨request, hrequest⟩ := hmoved.exists_request
      refine ⟨r.place, request, hrequest, (Nat.zero_add _).symm, ?_, hassigned⟩
      rw [Nat.zero_add]
      exact (wantedId_eq_false_iff rfl hrequest).mpr hmoved
  ordered := pairwise_reassigned_assignFrom
  fits := fits_assignFrom

example : (assignIds 5 [] [some 7, some 7, some 1, some 2]).ids = [7, 3, 1, 2] := by decide

example : (assignIds 1 [] [none, some 1]).reassigned = [⟨1, 1, 2⟩] := by decide

end Automation.Export

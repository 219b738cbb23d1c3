import Mathlib.Data.List.Perm.Basic
import Automation.Proofs.Export.Functions
import Automation.Proofs.Export.Numbering
import Automation.Proofs.Export.Phases

/-!
# Automatic ids along a chain of interfaces

The automatic id of an identity adds up two counts: the automatic identities of the bases and the
place of the identity among all of its interface. So the automatic ids of an interface go on after
those of its bases only as long as no base has an automatic identity behind one with a declared id.
`chain_undisturbed_iff` says for chains of any length when nobody is moved: when the automatic ids
of the chain are different, given that the declared ids are out of their way.
-/

namespace Automation.Export

open Library Source Diagnostic

variable {first : MemberId}

/-! ## Wishes -/

section Wishes

variable {place : Nat} {claimed : List MemberId}

/-- The ids that identities want from a place on, as long as there are ids. -/
def wishes (first : MemberId) (place : Nat) : List (Option MemberId) → List MemberId
  | [] => []
  | request :: later => request.getD (first + place) :: wishes first (place + 1) later

/-- While automatic ids are positive and do not run out, an identity may have the id that it wants
if nobody has it yet. -/
theorem wantedId_eq (hfirst : 0 < first) (hfit : first + place ≤ MemberId.max)
    (request : Option MemberId) : wantedId first place claimed request =
      (request.getD (first + place), !claimed.contains (request.getD (first + place))) := by
  have hauto : idAfter? first place = some (first + place) := if_pos hfit
  have hpos : 0 < first + (place : Int) :=
    Int.add_pos_of_pos_of_nonneg hfirst (Int.natCast_nonneg _)
  cases request with
  | some id => simp [wantedId]
  | none => simp [wantedId, hauto, hpos]

/-- **Nobody is moved exactly if all wishes are different and new**, and then all are granted. -/
theorem reassigned_assignFrom_eq_nil_iff (claimed : List MemberId)
    {requests : List (Option MemberId)} (hfirst : 0 < first)
    (hfit : first + (place + requests.length : Nat) ≤ MemberId.max) :
    ((assignFrom first place claimed requests).reassigned = [] ↔
      (wishes first place requests).Nodup ∧ ∀ id ∈ wishes first place requests, id ∉ claimed) ∧
      ((assignFrom first place claimed requests).reassigned = [] →
        (assignFrom first place claimed requests).ids = wishes first place requests) := by
  induction requests generalizing place claimed with
  | nil => simp [assignFrom, wishes]
  | cons request later ih =>
    have hplace : first + (place : Int) ≤ MemberId.max :=
      Int.le_trans (Int.add_le_add_left (Int.ofNat_le.mpr (Nat.le_add_right _ _)) _) hfit
    have hlater : first + ((place + 1 + later.length : Nat) : Int) ≤ MemberId.max := by
      rwa [Nat.add_assoc, Nat.add_comm 1, ← List.length_cons]
    have hwanted : wantedId first place claimed request = _ := wantedId_eq hfirst hplace request
    rw [reassigned_assignFrom_cons, ids_assignFrom_cons, wishes]
    generalize request.getD (first + place) = wish at hwanted ⊢
    by_cases hclaimed : wish ∈ claimed
    · simp [hwanted, hclaimed]
    · have hgiven : givenId first place claimed request later = wish := by
        simp [givenId, hwanted, hclaimed]
      obtain ⟨hnil, hids⟩ := @ih (place + 1) (wish :: claimed) hlater
      simp only [hgiven, hwanted, hclaimed, List.contains_eq_mem, decide_false, Bool.not_false,
        if_true, List.nil_append, List.nodup_cons, List.forall_mem_cons, not_false_eq_true,
        true_and]
      refine ⟨hnil.trans ⟨fun h => ?_, fun h => ?_⟩, fun h => by rw [hids h]⟩
      · exact ⟨⟨fun hmem => h.2 _ hmem List.mem_cons_self, h.1⟩,
          fun id hid hold => h.2 id hid (List.mem_cons_of_mem _ hold)⟩
      · refine ⟨h.1.2, fun id hid hold => ?_⟩
        rcases List.mem_cons.mp hold with rfl | hold
        · exact h.1.1 hid
        · exact h.2 id hid hold

end Wishes

/-! ## The interfaces of a chain -/

/-- An interface of a chain, and what its functions are made with. -/
structure Tier where
  synthesis : Synthesis
  owner : TypeDecl

namespace Tier

/-- The ids that the identities of the interface declare. -/
def requests (t : Tier) : List (Option MemberId) :=
  (memberGrouping t.synthesis t.owner).identities.map fun i => declared? i.requested

/-- The functions of the interface, given what its bases pass on. -/
def functions (t : Tier) (base : Inherited) : InterfaceFunctions :=
  interfaceFunctions t.synthesis t.owner base

/-- The ids of its identities, and which of them are moved. -/
def assignment (t : Tier) (base : Inherited) : Assignment :=
  assignIds (firstAutoId t.synthesis.settings base) base.ids
    ((memberGrouping t.synthesis t.owner).identities.map (·.requested))

/-- No identity is moved, and nothing says that one is. -/
structure Undisturbed (t : Tier) (base : Inherited) : Prop where
  unmoved : (t.assignment base).reassigned = []
  unsaid : ∀ d, Remark.raised d ∈ (t.functions base).remarks → d.code ≠ .idReassigned

variable {t : Tier} {base : Inherited}

theorem assignment_eq : t.assignment base =
    assignFrom (firstAutoId t.synthesis.settings base) 0 base.ids t.requests := by
  unfold assignment assignIds requests
  rw [List.map_map]
  rfl

/-- The interface passes on the ids of its bases and those of its own identities. -/
theorem mem_inherited_ids {id : MemberId} : id ∈ (t.functions base).inherited.ids ↔
    id ∈ base.ids ∨ id ∈ (t.assignment base).ids := by
  unfold functions
  rw [inherited_eq.1, List.mem_append]
  refine or_congr_right ⟨fun h => ?_, fun h => ?_⟩
  · obtain ⟨f, hf, rfl⟩ := List.mem_map.mp h
    obtain ⟨j, hj⟩ := List.mem_iff_getElem?.mp hf
    obtain ⟨s, p, memid, name, -, -, hmemid, rfl⟩ := getElem?_functions hj
    exact List.mem_of_getElem? hmemid
  · -- Every identity is that of some function, which has its id.
    obtain ⟨p, hp⟩ := List.mem_iff_getElem?.mp h
    have hlt := (List.getElem?_eq_some_iff.mp hp).1
    rw [assignment_eq, length_assignFrom, requests, List.length_map] at hlt
    obtain ⟨j, hj⟩ := List.mem_iff_getElem?.mp (isCovered_groupIdentities _ p hlt)
    have hj' := (List.getElem?_eq_some_iff.mp hj).1
    have hlength : (t.functions base).functions.length = _ := length_functions
    rw [← memberGrouping, length_places, ← hlength] at hj'
    obtain ⟨s, p', memid, name, -, hp', hmemid, hf⟩ :=
      getElem?_functions (List.getElem?_eq_getElem hj')
    obtain rfl := Option.some.inj (hj.symm.trans hp')
    obtain rfl := Option.some.inj (hp.symm.trans hmemid)
    refine List.mem_map.mpr ⟨_, List.getElem_mem hj', ?_⟩
    rw [hf]
    rfl

theorem automatic_inherited :
    (t.functions base).inherited.automatic = base.automatic + t.requests.count none := by
  unfold functions
  rw [inherited_mk]
  rfl

/-- Only a moved identity makes an interface say that one is moved. -/
theorem undisturbed_iff : t.Undisturbed base ↔ (t.assignment base).reassigned = [] := by
  refine ⟨Undisturbed.unmoved, fun h => ⟨h, fun d hd hcode => ?_⟩⟩
  rcases List.mem_append.mp hd with hd | hd
  · obtain ⟨_, hmade, hd⟩ := List.mem_flatMap.mp hd
    obtain ⟨m, -, rfl⟩ := List.mem_map.mp hmade
    have hof : d.code ∈ Code.memberExcluded :: degradedCodes :=
      ((allOf_synthesize t.synthesis t.owner m : AllOf .members _ _) _
        (List.mem_map_of_mem hd)).1
    rw [hcode] at hof
    exact absurd hof (by decide)
  · obtain ⟨r, hr, -⟩ := List.mem_map.mp hd
    rw [filterMap_made] at hr
    exact List.not_mem_nil (h ▸ hr)

variable (t base) in
/-- **Nobody of an interface is moved exactly if all wishes are different and new**, and then they are
what it passes on. -/
theorem undisturbed_iff_wishes (hfirst : 0 < first) (hstart : t.synthesis.settings.firstAuto = first)
    (hfit : first + (base.automatic + t.requests.length : Nat) ≤ MemberId.max) :
    (t.Undisturbed base ↔ (wishes (first + base.automatic) 0 t.requests).Nodup ∧
      ∀ id ∈ wishes (first + base.automatic) 0 t.requests, id ∉ base.ids) ∧
      (t.Undisturbed base →
        (t.assignment base).ids = wishes (first + base.automatic) 0 t.requests) := by
  have hauto : firstAutoId t.synthesis.settings base = first + (base.automatic : Int) := by
    unfold firstAutoId
    rw [hstart, idAfter?, if_pos]
    · rfl
    · exact Int.le_trans (Int.add_le_add_left (Int.ofNat_le.mpr (Nat.le_add_right _ _)) _) hfit
  have hpos : 0 < first + (base.automatic : Int) :=
    Int.add_pos_of_pos_of_nonneg hfirst (Int.natCast_nonneg _)
  have hown : first + (base.automatic : Int) + (0 + t.requests.length : Nat) ≤ MemberId.max := by
    rwa [Nat.zero_add, Int.add_assoc, ← Int.natCast_add]
  rw [undisturbed_iff, assignment_eq, hauto]
  exact reassigned_assignFrom_eq_nil_iff base.ids hpos hown

end Tier

/-! ## Wishes along a chain -/

/-- Along a chain, no identity is moved, and nothing says that one is. -/
def Undisturbed : Inherited → List Tier → Prop
  | _, [] => True
  | base, t :: later => t.Undisturbed base ∧ Undisturbed (t.functions base).inherited later

/-- The ids that the identities of a chain want, after a number of automatic identities. -/
def wishesAlong (first : MemberId) (before : Nat) : List (List (Option MemberId)) → List MemberId
  | [] => []
  | requests :: later =>
    wishes (first + before) 0 requests ++ wishesAlong first (before + requests.count none) later

theorem undisturbed_iff_wishesAlong {chain : List Tier} {base : Inherited} (hfirst : 0 < first)
    (hstart : ∀ t ∈ chain, t.synthesis.settings.firstAuto = first)
    (hfit : first + (base.automatic + (chain.flatMap Tier.requests).length : Nat) ≤ MemberId.max) :
    Undisturbed base chain ↔ (wishesAlong first base.automatic (chain.map Tier.requests)).Nodup ∧
      ∀ id ∈ wishesAlong first base.automatic (chain.map Tier.requests), id ∉ base.ids := by
  induction chain generalizing base with
  | nil => simp [Undisturbed, wishesAlong]
  | cons t later ih =>
    obtain ⟨hstart, hlater⟩ := List.forall_mem_cons.mp hstart
    rw [List.flatMap_cons, List.length_append, ← Nat.add_assoc] at hfit
    obtain ⟨hwishes, hids⟩ := t.undisturbed_iff_wishes base hfirst hstart
      (Int.le_trans (Int.add_le_add_left (Int.ofNat_le.mpr (Nat.le_add_right _ _)) _) hfit)
    have hremaining : first + ((t.functions base).inherited.automatic +
        (later.flatMap Tier.requests).length : Nat) ≤ MemberId.max := by
      refine Int.le_trans (Int.add_le_add_left (Int.ofNat_le.mpr ?_) _) hfit
      rw [Tier.automatic_inherited]
      exact Nat.add_le_add_right (Nat.add_le_add_left List.count_le_length _) _
    have hrest := ih hlater hremaining
    rw [Tier.automatic_inherited] at hrest
    simp only [Undisturbed, List.map_cons, wishesAlong, hrest, List.nodup_append',
      List.forall_mem_append]
    -- Unmoved, the interface passes on its wishes, so later wishes are to differ from them.
    constructor
    · rintro ⟨hown, hnodup, hnew⟩
      obtain ⟨hdifferent, hfresh⟩ := hwishes.mp hown
      refine ⟨⟨hdifferent, hnodup, fun id hid hid' => ?_⟩, hfresh, fun id hid hbase => ?_⟩
      · exact hnew id hid' (Tier.mem_inherited_ids.mpr (.inr (hids hown ▸ hid)))
      · exact hnew id hid (Tier.mem_inherited_ids.mpr (.inl hbase))
    · rintro ⟨⟨hdifferent, hnodup, hdisjoint⟩, hfresh, hfresh'⟩
      have hown := hwishes.mpr ⟨hdifferent, hfresh⟩
      refine ⟨hown, hnodup, fun id hid hold => ?_⟩
      rcases Tier.mem_inherited_ids.mp hold with hold | hold
      · exact hfresh' id hid hold
      · exact hdisjoint (hids hown ▸ hold) hid

/-! ## Automatic ids along a chain -/

/-- The automatic ids of the identities that declare none, from a place on. -/
def automaticIds (first : MemberId) (place : Nat) : List (Option MemberId) → List MemberId
  | [] => []
  | some _ :: later => automaticIds first (place + 1) later
  | none :: later => (first + place) :: automaticIds first (place + 1) later

/-- The automatic ids along a chain, after a number of automatic identities. -/
def automaticIdsAlong (first : MemberId) (before : Nat) :
    List (List (Option MemberId)) → List MemberId
  | [] => []
  | requests :: later => automaticIds (first + before) 0 requests ++
      automaticIdsAlong first (before + requests.count none) later

theorem wishes_perm (place : Nat) (requests : List (Option MemberId)) :
    (wishes first place requests).Perm
      (automaticIds first place requests ++ requests.filterMap id) := by
  induction requests generalizing place with
  | nil => rfl
  | cons request later ih =>
    cases request with
    | none => exact (ih (place + 1)).cons _
    | some x => exact ((ih (place + 1)).cons x).trans List.perm_middle.symm

/-- What a chain wants are its automatic and its declared ids. -/
theorem wishesAlong_perm (before : Nat) (chain : List (List (Option MemberId))) :
    (wishesAlong first before chain).Perm
      (automaticIdsAlong first before chain ++ chain.flatten.filterMap id) := by
  induction chain generalizing before with
  | nil => rfl
  | cons requests later ih =>
    rw [wishesAlong, automaticIdsAlong, List.flatten_cons, List.filterMap_append]
    refine ((wishes_perm 0 requests).append (ih _)).trans ?_
    simp only [List.append_assoc]
    exact (List.perm_append_comm_assoc _ _ _).append_left _

theorem bounds_automaticIds {first x : Int} {place : Nat} {requests : List (Option MemberId)}
    (h : x ∈ automaticIds first place requests) :
    first + place ≤ x ∧ x < first + place + requests.length := by
  induction requests generalizing place with
  | nil => simp [automaticIds] at h
  | cons request later ih =>
    rw [List.length_cons]
    cases request with
    | none =>
      rcases List.mem_cons.mp h with rfl | h
      · omega
      · have hlater := ih h
        omega
    | some y =>
      have hlater := ih h
      omega

theorem bounds_automaticIdsAlong {first x : Int} {before : Nat}
    {chain : List (List (Option MemberId))} (h : x ∈ automaticIdsAlong first before chain) :
    first + before ≤ x ∧ x < first + before + chain.flatten.length := by
  induction chain generalizing before with
  | nil => simp [automaticIdsAlong] at h
  | cons requests later ih =>
    rw [List.flatten_cons, List.length_append]
    have hcount : requests.count none ≤ requests.length := List.count_le_length
    rcases List.mem_append.mp h with h | h
    · have hown := bounds_automaticIds h
      omega
    · have hlater := ih h
      omega

/-- The automatic ids of an interface rise. -/
theorem pairwise_automaticIds (first : Int) (place : Nat) (requests : List (Option MemberId)) :
    (automaticIds first place requests).Pairwise (· < ·) := by
  induction requests generalizing place with
  | nil => exact .nil
  | cons request later ih =>
    cases request with
    | none =>
      refine .cons (fun x hx => ?_) (ih _)
      have hlater := bounds_automaticIds hx
      show (first + place : Int) < x
      omega
    | some y => exact ih _

/-- The identities that declare no id come before those that declare one. -/
def Leading (requests : List (Option MemberId)) : Prop :=
  requests.Pairwise fun r s => s = none → r = none

theorem none_mem_of_mem_automaticIds {first x : Int} {place : Nat}
    {requests : List (Option MemberId)} (h : x ∈ automaticIds first place requests) :
    none ∈ requests := by
  induction requests generalizing place with
  | nil => simp [automaticIds] at h
  | cons request later ih =>
    cases request with
    | none => exact List.mem_cons_self
    | some y => exact List.mem_cons_of_mem _ (ih h)

instance (requests : List (Option MemberId)) : Decidable (Leading requests) :=
  inferInstanceAs (Decidable (requests.Pairwise _))

/-- If automatic identities come first, then their ids end where those of the next interface
begin. -/
theorem Leading.automaticIds_lt {first x : Int} {place : Nat} {requests : List (Option MemberId)}
    (hleading : Leading requests) (h : x ∈ automaticIds first place requests) :
    x < first + place + requests.count none := by
  induction requests generalizing place with
  | nil => simp [automaticIds] at h
  | cons request later ih =>
    obtain ⟨hhead, hlater⟩ := List.pairwise_cons.mp hleading
    cases request with
    | none =>
      rw [List.count_cons_self]
      rcases List.mem_cons.mp h with rfl | h
      · omega
      · have hlt := ih hlater h
        omega
    | some y => exact nomatch hhead none (none_mem_of_mem_automaticIds h) rfl

theorem pairwise_automaticIdsAlong (first : Int) (before : Nat)
    {chain : List (List (Option MemberId))}
    (hleading : ∀ requests ∈ chain.dropLast, Leading requests) :
    (automaticIdsAlong first before chain).Pairwise (· < ·) := by
  induction chain generalizing before with
  | nil => exact .nil
  | cons requests later ih =>
    cases later with
    | nil =>
      rw [automaticIdsAlong, automaticIdsAlong, List.append_nil]
      exact pairwise_automaticIds _ _ _
    | cons next later =>
      obtain ⟨hfirst, hlater⟩ := List.forall_mem_cons.mp hleading
      refine List.pairwise_append.mpr ⟨pairwise_automaticIds _ _ _, ih _ hlater, ?_⟩
      intro x hx y hy
      have hlt := hfirst.automaticIds_lt hx
      have hle := (bounds_automaticIdsAlong hy).1
      refine Int.lt_of_lt_of_le hlt (Int.le_trans (Int.le_of_eq ?_) hle)
      omega

/-! ## Chains without collisions -/

/-- The ids that the identities of a chain declare. -/
def declaredIds (chain : List Tier) : List MemberId := (chain.flatMap Tier.requests).filterMap id

/-- The interfaces of a chain start from one positive id, there are ids for all identities, and the
declared ids are different and out of the way of those. -/
structure Spaced (first : MemberId) (chain : List Tier) : Prop where
  start : ∀ t ∈ chain, t.synthesis.settings.firstAuto = first
  positive : 0 < first
  fits : first + (chain.flatMap Tier.requests).length ≤ MemberId.max
  distinct : (declaredIds chain).Nodup
  outside : ∀ id ∈ declaredIds chain,
    ¬ (first ≤ id ∧ id < first + (chain.flatMap Tier.requests).length)

/-- **Nobody along a chain is moved exactly if the automatic ids of the chain are different**, given
that the declared ids are different and out of their way. So nobody is if in every interface but the
last the automatic identities come first. -/
theorem chain_undisturbed_iff {first : MemberId} {chain : List Tier} (h : Spaced first chain) :
    (Undisturbed {} chain ↔ (automaticIdsAlong first 0 (chain.map Tier.requests)).Nodup) ∧
      ((∀ t ∈ chain.dropLast, Leading t.requests) → Undisturbed {} chain) := by
  have hflatten : (chain.map Tier.requests).flatten = chain.flatMap Tier.requests := rfl
  have hiff : Undisturbed {} chain ↔
      (automaticIdsAlong first 0 (chain.map Tier.requests)).Nodup := by
    rw [undisturbed_iff_wishesAlong h.positive h.start (by simpa using h.fits),
      (wishesAlong_perm 0 _).nodup_iff, List.nodup_append', hflatten, ← declaredIds]
    constructor
    · exact fun h => h.1.1
    · intro hnodup
      refine ⟨⟨hnodup, h.distinct, fun id hid hdeclared => ?_⟩, fun _ _ => List.not_mem_nil⟩
      have hbounds := bounds_automaticIdsAlong hid
      rw [hflatten, Int.natCast_zero, Int.add_zero] at hbounds
      exact h.outside id hdeclared hbounds
  refine ⟨hiff, fun hleading => hiff.mpr ?_⟩
  have hleading' : ∀ requests ∈ (chain.map Tier.requests).dropLast, Leading requests := by
    rw [← List.map_dropLast]
    exact List.forall_mem_map.mpr hleading
  exact (pairwise_automaticIdsAlong first 0 hleading').imp Int.ne_of_lt

/-- An interface of the space `N` whose members have no parameters and no results, each with the
dispatch id that it declares. -/
def plainTier (name : String) (members : List (String × Option MemberId)) : Tier where
  synthesis :=
    { scope := { type? := fun _ => none, refs := {}, width := .bits64 }
      resolver := .keep, settings := {}, binding := .dual }
  owner :=
    { space := "N", name := name, body := .interface none
      members := members.map fun (name, dispid) => { Member.method name .void with dispid } }

/-- The interface `IAccount` and one that derives from it. -/
def accounts : List Tier :=
  [plainTier "IAccount" [("Close", none), ("Open", some 7)],
    plainTier "ISavings" [("Interest", none)]]

theorem accounts_undisturbed : Spaced defaultFirstAuto accounts ∧ Undisturbed {} accounts := by
  have hspaced : Spaced defaultFirstAuto accounts :=
    ⟨by decide +kernel, by decide, by decide +kernel, by decide +kernel, by decide +kernel⟩
  exact ⟨hspaced, (chain_undisturbed_iff hspaced).2 (by decide +kernel)⟩

/-- The same interfaces, where the members of `IAccount` come in the other order. -/
def ledgers : List Tier :=
  [plainTier "IAccount" [("Open", some 7), ("Close", none)],
    plainTier "ISavings" [("Interest", none)]]

/-- The automatic member of `IAccount` has the id that the one of `ISavings` is to get, so that one
is moved, and the interface says so. -/
theorem ledgers_disturbed : Spaced defaultFirstAuto ledgers ∧ ¬ Undisturbed {} ledgers := by
  have hspaced : Spaced defaultFirstAuto ledgers :=
    ⟨by decide +kernel, by decide, by decide +kernel, by decide +kernel, by decide +kernel⟩
  refine ⟨hspaced, ?_⟩
  rintro ⟨-, hsavings, -⟩
  exact absurd hsavings.unmoved (by decide +kernel)

end Automation.Export

import Automation.Proofs.Export.DeclaredIds

/-!
# Members that declare the id that stands for none

A member that declares the id that stands for none declares no id. But its identity takes that for
the first declared id, and the later members of the identity are not asked. Requests decide nothing
but ids (`MadeAlike.unrequested_eq`), so such declarations can be left out exactly if no later member
is asked in their place: `interfaceFunctions_cleared_iff`.
-/

namespace Automation.Export

open Library Source

/-! ## Identities without requests -/

/-- The function without the id that its member declares. -/
def Claimant.unrequested (c : Claimant) : Claimant := { c with requested := none }

/-- The identity without its request. -/
def Identity.unrequested (i : Identity) : Identity := { i with requested := none }

/-- The grouping without requests. -/
def Grouping.unrequested (g : Grouping) : Grouping where
  identities := g.identities.map Identity.unrequested
  places := g.places

/-- Requests do not decide which identity a function joins. -/
theorem Grouping.unrequested_add (g : Grouping) (c : Claimant) :
    (g.add c).unrequested = g.unrequested.add c.unrequested := by
  have hfind : g.unrequested.identities.findIdx? (·.hasRoom c.unrequested) =
      g.identities.findIdx? (·.hasRoom c) := List.findIdx?_map ..
  cases hp : g.identities.findIdx? (·.hasRoom c) with
  | none =>
    rw [add_of_none hp, add_of_none (hfind.trans hp)]
    simp [openFor, unrequested, Claimant.unrequested, Identity.unrequested]
  | some p =>
    rw [add_of_some hp, add_of_some (hfind.trans hp)]
    unfold joinAt unrequested
    dsimp only
    congr 1
    refine List.ext_getElem? fun q => ?_
    by_cases hpq : p = q
    · subst hpq
      simp only [List.getElem?_map, List.getElem?_modify_eq]
      cases g.identities[p]? <;> rfl
    · simp [List.getElem?_modify_ne _ _ hpq]

theorem unrequested_groupIdentities (claimants : List Claimant) :
    (groupIdentities claimants).unrequested =
      groupIdentities (claimants.map Claimant.unrequested) := by
  induction claimants using List.reverseRecOn with
  | nil => rfl
  | append_singleton earlier c ih =>
    rw [List.map_append, List.map_singleton, groupIdentities_concat, groupIdentities_concat, ← ih,
      Grouping.unrequested_add]

/-! ## Functions without requests -/

/-- The function without the id that its member declares. -/
def SynthesizedFunction.unrequested (f : SynthesizedFunction) : SynthesizedFunction :=
  { f with requested := none }

/-- The functions of an interface without the ids that their members declare. -/
def InterfaceFunctions.unrequested (made : InterfaceFunctions) : InterfaceFunctions :=
  { made with functions := made.functions.map SynthesizedFunction.unrequested }

variable {y : Synthesis} {owner owner' : TypeDecl} {base : Inherited}

/-- What the members of a declaration make, without requests, and what is said about it. -/
def unrequestedMade (y : Synthesis) (owner : TypeDecl) :
    List (Option SynthesizedFunction × List Remark) :=
  (owner.members.filter Member.isExportable).map fun m =>
    ((synthesize y owner m).1.map SynthesizedFunction.unrequested, (synthesize y owner m).2)

theorem map_unrequested_memberFunctions :
    (memberFunctions y owner).map SynthesizedFunction.unrequested =
      (unrequestedMade y owner).filterMap (·.1) := by
  unfold memberFunctions unrequestedMade
  rw [List.map_filterMap, List.filterMap_map]
  rfl

variable (y owner) in
theorem flatMap_made : ((owner.members.filter Member.isExportable).map
    (synthesize y owner)).flatMap (·.2) = (unrequestedMade y owner).flatMap (·.2) := by
  unfold unrequestedMade
  rw [List.flatMap_map, List.flatMap_map]

theorem unrequested_memberGrouping : (memberGrouping y owner).unrequested =
    groupIdentities (((memberFunctions y owner).map SynthesizedFunction.unrequested).map
      (·.claimant)) := by
  unfold memberGrouping
  rw [unrequested_groupIdentities, List.map_map, List.map_map]
  rfl

theorem map_unrequested_functions :
    (interfaceFunctions y owner base).functions.map SynthesizedFunction.unrequested =
      ((((((memberFunctions y owner).map SynthesizedFunction.unrequested).zip
        (memberGrouping y owner).places).zip
          (tellApart [] (((memberFunctions y owner).map (·.name)).zip
            (memberGrouping y owner).places))).zipIdx).map
        fun (((f, place), name), index) =>
          f.placed ((memberIds y owner base).getD place MemberId.none)
            ((memberTable y base).offset index) name) := by
  rw [functions_eq, List.map_map]
  generalize tellApart [] _ = names
  rw [List.zip_map_left, List.zip_map_left, List.zipIdx_map, List.map_map]
  rfl

theorem memberAssignment_congr (hrequests : memberRequests y owner' = memberRequests y owner) :
    memberAssignment y owner' base = memberAssignment y owner base := by
  unfold memberAssignment
  rw [hrequests]

/-- The members of two declarations make functions that differ in their requests only. -/
structure MadeAlike (y : Synthesis) (owner owner' : TypeDecl) : Prop where
  qualified : owner'.qualified = owner.qualified
  made : unrequestedMade y owner' = unrequestedMade y owner

namespace MadeAlike

theorem functions (h : MadeAlike y owner owner') :
    (memberFunctions y owner').map SynthesizedFunction.unrequested =
      (memberFunctions y owner).map SynthesizedFunction.unrequested := by
  rw [map_unrequested_memberFunctions, map_unrequested_memberFunctions, h.made]

theorem names (h : MadeAlike y owner owner') :
    (memberFunctions y owner').map (·.name) = (memberFunctions y owner).map (·.name) := by
  have hnames := congrArg (List.map (·.name)) h.functions
  rwa [List.map_map, List.map_map] at hnames

theorem grouping (h : MadeAlike y owner owner') :
    (memberGrouping y owner').unrequested = (memberGrouping y owner).unrequested := by
  rw [unrequested_memberGrouping, unrequested_memberGrouping, h.functions]

theorem places (h : MadeAlike y owner owner') :
    (memberGrouping y owner').places = (memberGrouping y owner).places := by
  have hplaces := congrArg Grouping.places h.grouping
  exact hplaces

theorem length_identities (h : MadeAlike y owner owner') :
    (memberGrouping y owner').identities.length = (memberGrouping y owner).identities.length := by
  have hlength := congrArg (·.identities.length) h.grouping
  simpa [Grouping.unrequested] using hlength

theorem identityName_eq (h : MadeAlike y owner owner') (place : Nat) :
    identityName y owner' place = identityName y owner place := by
  unfold identityName
  rw [h.places, h.names]

section SameRequests

variable (h : MadeAlike y owner owner')
  (hrequests : memberRequests y owner' = memberRequests y owner)

include h hrequests

theorem functions_eq :
    (interfaceFunctions y owner' base).functions.map SynthesizedFunction.unrequested =
      (interfaceFunctions y owner base).functions.map SynthesizedFunction.unrequested := by
  rw [map_unrequested_functions, map_unrequested_functions, h.functions, h.names, h.places,
    memberIds_eq, memberIds_eq, memberAssignment_congr hrequests]

theorem inherited_eq : (interfaceFunctions y owner' base).inherited =
    (interfaceFunctions y owner base).inherited := by
  have hfunctions : (interfaceFunctions y owner' base).functions.map
      SynthesizedFunction.unrequested = _ := h.functions_eq hrequests
  have hids := congrArg (List.map (·.desc.memid)) hfunctions
  have hlength := congrArg List.length hfunctions
  rw [List.map_map, List.map_map] at hids
  rw [List.length_map, List.length_map] at hlength
  rw [inherited_mk, inherited_mk, hlength, hrequests]
  exact congrArg (fun ids => Inherited.mk (base.ids ++ ids) _ _) hids

theorem remarks_eq : (interfaceFunctions y owner' base).remarks =
    (interfaceFunctions y owner base).remarks := by
  simp only [Export.remarks_eq, flatMap_made, h.made, memberAssignment_congr hrequests, h.qualified,
    h.identityName_eq]

/-- **Requests decide nothing but ids**: with the same requests of identities, the functions are the
same, so is what is passed on, and so is what is said. -/
theorem unrequested_eq : (interfaceFunctions y owner' base).unrequested =
    (interfaceFunctions y owner base).unrequested := by
  unfold InterfaceFunctions.unrequested
  rw [h.functions_eq hrequests, h.inherited_eq hrequests, h.remarks_eq hrequests]

end SameRequests

end MadeAlike

/-! ## Clearing -/

/-- A member, or the same one without an id if it declares the id that stands for none. -/
inductive Clears : Member → Member → Prop
  | same (m : Member) : Clears m m
  | cleared {m : Member} : m.dispid = some MemberId.none → Clears m { m with dispid := none }

/-- A declaration some of whose members declare no id any more instead of the one that stands for
none. -/
def Cleared (owner owner' : TypeDecl) : Prop :=
  ∃ members, List.Forall₂ Clears owner.members members ∧
    owner' = { owner with members := members }

theorem synthesize_redeclared (m : Member) (id : Option MemberId) :
    synthesize y owner { m with dispid := id } =
      ((synthesize y owner m).1.map fun f => { f with requested := id },
        (synthesize y owner m).2) := by
  have hinvoke : invokeKind? y.scope { m with dispid := id } = invokeKind? y.scope m := rfl
  have hsignature : describeSignature y.scope { m with dispid := id } =
      describeSignature y.scope m := rfl
  unfold synthesize
  rw [hinvoke]
  cases invokeKind? y.scope m with
  | none => rfl
  | some invoke =>
    dsimp only
    rw [hsignature]
    cases describeSignature y.scope m <;> rfl

/-- A cleared member makes the same function, up to its request. -/
theorem Clears.synthesize {m m' : Member} (h : Clears m m') :
    (synthesize y owner m').1.map SynthesizedFunction.unrequested =
        (synthesize y owner m).1.map SynthesizedFunction.unrequested ∧
      (synthesize y owner m').2 = (synthesize y owner m).2 := by
  cases h with
  | same => exact ⟨rfl, rfl⟩
  | cleared =>
    rw [synthesize_redeclared]
    refine ⟨?_, rfl⟩
    rw [Option.map_map]
    rfl

theorem Clears.dispid {m m' : Member} (h : Clears m m') :
    m'.dispid = m.dispid ∨ m.dispid = some MemberId.none := by
  cases h with
  | same => exact .inl rfl
  | cleared hnone => exact .inr hnone

/-- At a place, the first request stays, unless it was cleared. -/
theorem firstRequest_cleared {requests requests' : List (Option MemberId)}
    (h : List.Forall₂ (fun r r' => r' = r ∨ r = some MemberId.none) requests requests')
    (places : List Nat) (place : Nat) :
    firstRequest requests' places place = firstRequest requests places place ∨
      firstRequest requests places place = some MemberId.none := by
  induction h generalizing places with
  | nil => exact .inl rfl
  | @cons r r' _ _ hhead _ ih =>
    cases places with
    | nil => exact .inl rfl
    | cons p others =>
      rw [firstRequest_cons, firstRequest_cons]
      split
      · rcases hhead with rfl | rfl
        · cases r' with
          | none => exact ih others
          | some id => exact .inl rfl
        · exact .inr rfl
      · exact ih others

theorem count_none_le {requests requests' : List (Option MemberId)}
    (h : List.Forall₂ (fun r r' => r' = r ∨ r = none) requests requests') :
    requests'.count none ≤ requests.count none := by
  induction h with
  | nil => exact Nat.le_refl _
  | @cons r r' _ _ hhead _ ih =>
    rw [List.count_cons, List.count_cons]
    rcases hhead with rfl | rfl
    · exact Nat.add_le_add_right ih _
    · refine Nat.add_le_add ih ?_
      rw [if_pos (beq_self_eq_true _)]
      split <;> omega

/-- If identities only get requests, and as many have none as before, then they get none. -/
theorem eq_of_count_none {requests requests' : List (Option MemberId)}
    (h : List.Forall₂ (fun r r' => r' = r ∨ r = none) requests requests')
    (hcount : requests'.count none = requests.count none) : requests' = requests := by
  induction h with
  | nil => rfl
  | @cons r r' later later' hhead hlater ih =>
    have hle := count_none_le hlater
    rw [List.count_cons, List.count_cons] at hcount
    obtain rfl : r' = r := by
      rcases hhead with hsame | rfl
      · exact hsame
      · cases r' with
        | none => rfl
        | some id => simp at hcount; omega
    rw [ih (Nat.add_right_cancel hcount)]

namespace Cleared

theorem alike (h : Cleared owner owner') : MadeAlike y owner owner' := by
  obtain ⟨members, hmembers, rfl⟩ := h
  refine ⟨rfl, ?_⟩
  have hexportable : List.Forall₂ Clears (owner.members.filter Member.isExportable)
      (members.filter Member.isExportable) :=
    List.rel_filter (fun _ _ hm => by cases hm <;> rfl) hmembers
  refine map_eq_of_forall₂ hexportable fun m m' hm => ?_
  exact Prod.ext hm.synthesize.1 hm.synthesize.2

theorem clears_makers (h : Cleared owner owner') :
    List.Forall₂ Clears (makers y owner) (makers y owner') := by
  obtain ⟨members, hmembers, rfl⟩ := h
  refine List.rel_filter (fun m m' hm => ?_)
    (List.rel_filter (fun _ _ hm => by cases hm <;> rfl) hmembers)
  have hmade : (synthesize y owner m').1.map SynthesizedFunction.unrequested =
      (synthesize y owner m).1.map SynthesizedFunction.unrequested := hm.synthesize.1
  have hsome := congrArg Option.isSome hmade
  rw [Option.isSome_map, Option.isSome_map] at hsome
  exact Bool.eq_iff_iff.mp hsome.symm

/-- The first id that the members of an identity declare stays, unless it was cleared. -/
theorem declaredAt_eq_or (h : Cleared owner owner') (p : Nat) :
    declaredAt y owner' p = declaredAt y owner p ∨
      declaredAt y owner p = some MemberId.none := by
  have hdispids : List.Forall₂ (fun r r' => r' = r ∨ r = some MemberId.none)
      ((makers y owner).map (·.dispid)) ((makers y owner').map (·.dispid)) := by
    rw [List.forall₂_map_left_iff, List.forall₂_map_right_iff]
    exact h.clears_makers.imp fun _ _ hm => hm.dispid
  unfold declaredAt
  rw [h.alike.places]
  exact firstRequest_cleared hdispids _ p

/-- An identity gets another request only if it has none. -/
theorem forall₂_requests (h : Cleared owner owner') : List.Forall₂ (fun r r' => r' = r ∨ r = none)
    (memberRequests y owner) (memberRequests y owner') := by
  rw [memberRequests_eq, memberRequests_eq, h.alike.length_identities, List.forall₂_map_left_iff,
    List.forall₂_map_right_iff, List.forall₂_same]
  rintro p -
  rcases h.declaredAt_eq_or p with hsame | hnone
  · exact .inl (by rw [hsame])
  · exact .inr (by rw [hnone]; rfl)

end Cleared

/-- **The id that stands for none can be left out** where a member declares it, exactly if its
identity is not left with a later member that declares an id. Then the functions are the same up to
their requests, so is what is passed on, and so is what is said. -/
theorem interfaceFunctions_cleared_iff (h : Cleared owner owner') :
    (interfaceFunctions y owner' base).unrequested = (interfaceFunctions y owner base).unrequested ↔
      ∀ p ∈ (memberGrouping y owner).places, declaredAt y owner p = some MemberId.none →
        declared? (declaredAt y owner' p) = none := by
  constructor
  · intro heq p hp hnone
    -- The identities without a request are counted for those who derive from the interface.
    have hautomatic : (interfaceFunctions y owner' base).inherited.automatic =
        (interfaceFunctions y owner base).inherited.automatic :=
      congrArg (·.inherited.automatic) heq
    rw [inherited_mk, inherited_mk] at hautomatic
    have hrequests := eq_of_count_none h.forall₂_requests (Nat.add_left_cancel hautomatic)
    have hlt := (groupIdentities_sound _).lt_of_mem hp
    have hrequest := congrArg (·[p]?) hrequests
    rw [getElem?_memberRequests (h.alike.length_identities ▸ hlt), getElem?_memberRequests hlt,
      hnone] at hrequest
    exact Option.some.inj hrequest
  · intro hnone
    refine h.alike.unrequested_eq ?_
    rw [memberRequests_eq, memberRequests_eq, h.alike.length_identities]
    refine List.map_congr_left fun p hp => ?_
    rcases h.declaredAt_eq_or p with hsame | hfirst
    · rw [hsame]
    · have hcovered := isCovered_groupIdentities _ p (List.mem_range.mp hp)
      rw [hnone p hcovered hfirst, hfirst]
      rfl

/-- Nothing changes for a property whose setter declares nothing. -/
theorem tariff_cleared :
    Cleared (tariff (some MemberId.none) none) (tariff none none) ∧
      (interfaceFunctions .plain (tariff none none) {}).unrequested =
        (interfaceFunctions .plain (tariff (some MemberId.none) none) {}).unrequested := by
  have hcleared : Cleared (tariff (some MemberId.none) none) (tariff none none) :=
    ⟨_, .cons (.cleared rfl) (.cons (.same _) .nil), rfl⟩
  exact ⟨hcleared, (interfaceFunctions_cleared_iff hcleared).mpr (by decide +kernel)⟩

/-- The getter keeps the id that the setter declares from both accessors. -/
theorem tariff_uncovered :
    Cleared (tariff (some MemberId.none) (some 5)) (tariff none (some 5)) ∧
      (interfaceFunctions .plain (tariff (some MemberId.none) (some 5)) {}).inherited.ids =
        [0x60020000, 0x60020000] ∧
      (interfaceFunctions .plain (tariff none (some 5)) {}).inherited.ids = [5, 5] ∧
      (interfaceFunctions .plain (tariff none (some 5)) {}).unrequested ≠
        (interfaceFunctions .plain (tariff (some MemberId.none) (some 5)) {}).unrequested := by
  have hdeclared : (interfaceFunctions .plain (tariff (some MemberId.none) (some 5)) {}).inherited.ids =
      [0x60020000, 0x60020000] := by decide +kernel
  have hcleared : (interfaceFunctions .plain (tariff none (some 5)) {}).inherited.ids = [5, 5] := by
    decide +kernel
  refine ⟨⟨_, .cons (.cleared rfl) (.cons (.same _) .nil), rfl⟩, hdeclared, hcleared, fun heq => ?_⟩
  have hids : ([5, 5] : List MemberId) = [0x60020000, 0x60020000] :=
    hcleared.symm.trans ((congrArg (·.inherited.ids) heq).trans hdeclared)
  exact absurd hids (by decide)

end Automation.Export

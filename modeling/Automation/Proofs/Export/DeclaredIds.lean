import Automation.Proofs.Export.Makers
import Automation.Proofs.Export.Numbering
import Automation.Proofs.Export.Saying
import Automation.Proofs.Library.Likeness

/-!
# Declared dispatch ids

The accessors of a property share an identity, and an identity requests one id: the first that its
members declare (`getElem?_memberRequests`). So a later member of the identity cannot declare another
one. `declared_kept` says what becomes of the id that an identity requests: its functions have it, or a
warning names it.
-/

namespace Automation.Export

open Library Source Diagnostic

/-! ## The first request -/

section FirstRequest

variable {requests : List (Option MemberId)} {places : List Nat} {place j p : Nat} {x : MemberId}

/-- The first id requested at a place. -/
def firstRequest (requests : List (Option MemberId)) (places : List Nat) (place : Nat) :
    Option MemberId :=
  (requests.zip places).findSome? fun (request, p) => if p = place then request else none

theorem firstRequest_cons (request : Option MemberId) :
    firstRequest (request :: requests) (p :: places) place =
      (if p = place then request else none).or (firstRequest requests places place) := by
  unfold firstRequest
  rw [List.zip_cons_cons, List.findSome?_cons]
  dsimp only
  cases if p = place then request else none <;> rfl

theorem firstRequest_concat (hlength : places.length = requests.length)
    (request : Option MemberId) : firstRequest (requests ++ [request]) (places ++ [p]) place =
      (firstRequest requests places place).or (if p = place then request else none) := by
  unfold firstRequest
  rw [List.zip_append hlength.symm, List.findSome?_append]
  cases h : if p = place then request else none <;> simp [h]

theorem firstRequest_of_notMem (h : place ∉ places) : firstRequest requests places place = none := by
  refine List.findSome?_eq_none_iff.mpr fun x hx => if_neg ?_
  rintro rfl
  exact h (List.of_mem_zip hx).2

/-- An identity requests the first id that its functions do. -/
theorem requested_groupIdentities {claimants : List Claimant} {i : Identity}
    (hi : (groupIdentities claimants).identities[p]? = some i) :
    i.requested =
      firstRequest (claimants.map (·.requested)) (groupIdentities claimants).places p := by
  induction claimants using List.reverseRecOn generalizing p i with
  | nil => simp [groupIdentities] at hi
  | append_singleton earlier c ih =>
    have hg := groupIdentities_sound earlier
    rw [groupIdentities_concat] at hi ⊢
    generalize groupIdentities earlier = g at ih hg hi ⊢
    have hlength : g.places.length = (earlier.map (·.requested)).length := by
      rw [hg.length, List.length_map]
    rw [List.map_append, List.map_singleton]
    cases hq : g.identities.findIdx? (·.hasRoom c) with
    | some q =>
      rw [Grouping.add_of_some hq] at hi ⊢
      rw [Grouping.joinAt, firstRequest_concat hlength]
      by_cases hqp : q = p
      · -- The newcomer is heard only if nobody at its place has requested an id.
        subst hqp
        rw [Grouping.joinAt, List.getElem?_modify_eq] at hi
        obtain ⟨i', hi', rfl⟩ := Option.map_eq_some_iff.mp hi
        rw [← ih hi', if_pos rfl]
        cases h : i'.requested <;> simp [Identity.join, h]
      · rw [Grouping.joinAt, List.getElem?_modify_ne _ _ hqp] at hi
        rw [← ih hi, if_neg hqp, Option.or_none]
    | none =>
      rw [Grouping.add_of_none hq] at hi ⊢
      rw [Grouping.openFor, firstRequest_concat hlength]
      rcases getElem?_concat_eq_some hi with hi | ⟨rfl, rfl⟩
      · have hlt := (List.getElem?_eq_some_iff.mp hi).1
        rw [← ih hi, if_neg (Nat.ne_of_gt hlt), Option.or_none]
      · -- Nobody is at the new place so far.
        rw [firstRequest_of_notMem fun h => Nat.lt_irrefl _ (hg.lt_of_mem h), if_pos rfl]
        rfl

end FirstRequest

/-! ## Members -/

variable {y : Synthesis} {owner : TypeDecl} {base : Inherited} {j p : Nat} {x : MemberId}

/-- The first id that the members of an identity declare. -/
def declaredAt (y : Synthesis) (owner : TypeDecl) (place : Nat) : Option MemberId :=
  firstRequest ((makers y owner).map (·.dispid)) (memberGrouping y owner).places place

theorem map_requested_memberFunctions :
    (memberFunctions y owner).map (·.requested) = (makers y owner).map (·.dispid) := by
  refine map_eq_of_forall₂ (forall₂_makers y owner) fun m s hs => ?_
  obtain ⟨invoke, signature, -, -, rfl⟩ := synthesize_eq_some.mp hs
  rfl

/-- An identity requests the first id that its members declare. -/
theorem getElem?_memberRequests (hp : p < (memberGrouping y owner).identities.length) :
    (memberRequests y owner)[p]? = some (declared? (declaredAt y owner p)) := by
  have hi := List.getElem?_eq_getElem hp
  have hrequested := requested_groupIdentities hi
  rw [List.map_map] at hrequested
  unfold memberRequests declaredAt
  rw [List.getElem?_map, hi, ← map_requested_memberFunctions]
  exact congrArg (fun request => some (declared? request)) hrequested

theorem memberRequests_eq : memberRequests y owner =
    (List.range (memberGrouping y owner).identities.length).map fun p =>
      declared? (declaredAt y owner p) := by
  refine List.ext_getElem? fun p => ?_
  rw [List.getElem?_map]
  by_cases hp : p < (memberGrouping y owner).identities.length
  · rw [getElem?_memberRequests hp, List.getElem?_range hp]
    rfl
  · rw [List.getElem?_eq_none (by simpa [memberRequests] using hp),
      List.getElem?_eq_none (by simpa using hp)]
    rfl

/-- An identity that is not given the id it declares is moved. -/
theorem mem_reassigned_of_declared {first y : MemberId} {inherited : List MemberId}
    {requests : List (Option MemberId)} (hrequest : requests[p]? = some (some x))
    (hid : (assignFrom first 0 inherited requests).ids[p]? = some y) (hne : y ≠ x) :
    ⟨p, x, y⟩ ∈ (assignFrom first 0 inherited requests).reassigned := by
  refine mem_reassigned_assignFrom.mpr ⟨p, some x, hrequest, (Nat.zero_add p).symm, ?_, hid⟩
  rw [Nat.zero_add]
  refine (wantedId_eq_false_iff rfl hrequest).mpr (.declared hrequest fun hx => hne ?_)
  exact Option.some.inj (hid.symm.trans hx)

/-- A warning that the identity of a function has not got the id it wanted. -/
structure ReportsMove (y : Synthesis) (owner : TypeDecl) (j : Nat) (wanted assigned : MemberId)
    (d : Diagnostic) : Prop where
  code : d.code = .idReassigned
  /-- It names a function of the identity. -/
  subject : ∃ (i : Nat) (f : SynthesizedFunction), (memberFunctions y owner)[i]? = some f ∧
    (memberGrouping y owner).places[i]? = (memberGrouping y owner).places[j]? ∧
      d.subject = some (owner.qualified ++ "." ++ f.name)
  message : d.message = s!"dispatch id {wanted} is already in use; assigned {assigned}"

/-- An identity goes by the name of one of its functions. -/
theorem exists_identityName (hp : (memberGrouping y owner).places[j]? = some p) :
    ∃ (i : Nat) (f : SynthesizedFunction), (memberFunctions y owner)[i]? = some f ∧
      (memberGrouping y owner).places[i]? = some p ∧ identityName y owner p = f.name := by
  have hmem : p ∈ (memberGrouping y owner).places := List.mem_of_getElem? hp
  obtain ⟨i, hi⟩ := Option.isSome_iff_exists.mp (List.isSome_idxOf?.mpr hmem)
  have hplace : (memberGrouping y owner).places[i]? = some p := by
    obtain ⟨hlt, heq, -⟩ := List.findIdx?_eq_some_iff_getElem.mp hi
    rw [List.getElem?_eq_getElem hlt, beq_iff_eq.mp heq]
  have hlt := (List.getElem?_eq_some_iff.mp hplace).1
  rw [length_places] at hlt
  refine ⟨i, _, List.getElem?_eq_getElem hlt, hplace, ?_⟩
  unfold identityName
  rw [hi, Option.bind_some, List.getElem?_map, List.getElem?_eq_getElem hlt]
  rfl

/-- Whether an id that a member declares is the function's, or else is reported, without a limit on
diagnostics. -/
def KeptOrReported (y : Synthesis) (owner : TypeDecl) (base : Inherited) (j : Nat) (x : MemberId) :
    Prop :=
  ∃ f, (interfaceFunctions y owner base).functions[j]? = some f ∧
    (f.desc.memid = x ∨ ∀ q : Queue, q.policy.warningLimit = 0 →
      ∃ d ∈ (q.addAll (said ((interfaceFunctions y owner base).remarks.map .remark))).diagnostics,
        ReportsMove y owner j x f.desc.memid d)

/-- **The first id that the members of an identity declare is not lost**: its functions have it, or a
warning names it. -/
theorem declared_kept (hp : (memberGrouping y owner).places[j]? = some p)
    (hx : declaredAt y owner p = some x) (hnone : x ≠ MemberId.none) :
    KeptOrReported y owner base j x := by
  have hlt : j < (interfaceFunctions y owner base).functions.length := by
    rw [length_functions, ← length_places]
    exact (List.getElem?_eq_some_iff.mp hp).1
  have hf := List.getElem?_eq_getElem hlt
  generalize (interfaceFunctions y owner base).functions[j] = f at hf
  obtain ⟨s, p', memid, name, -, hp', hid, rfl⟩ := getElem?_functions hf
  obtain rfl : p = p' := Option.some.inj (hp.symm.trans hp')
  refine ⟨_, hf, or_iff_not_imp_left.mpr fun hne q hlimit => ?_⟩
  -- The identity requests the id and is moved away from it.
  have hrequest : (memberRequests y owner)[p]? = some (some x) := by
    rw [getElem?_memberRequests ((groupIdentities_sound _).lt_of_mem (List.mem_of_getElem? hp)),
      hx]
    simp [declared?, hnone]
  rw [memberIds_eq] at hid
  have hmoved := mem_reassigned_of_declared hrequest hid hne
  have hsaid : reassignedId (owner.qualified ++ "." ++ identityName y owner p) ⟨p, x, memid⟩ ∈
      said ((interfaceFunctions y owner base).remarks.map .remark) := by
    rw [mem_said, remarks_eq]
    exact List.mem_map_of_mem (List.mem_append_right _ (List.mem_map_of_mem hmoved))
  obtain ⟨d, hd, hkey⟩ := Queue.exists_mem_addAll hlimit hsaid
  obtain ⟨hcode, hsubject, hmessage⟩ := key_eq_iff.mp hkey
  obtain ⟨i, g, hg, hplace, hname⟩ := exists_identityName hp
  exact ⟨d, hd, hcode, ⟨i, g, hg, hplace.trans hp.symm, by rw [hsubject, ← hname]; rfl⟩, hmessage⟩

/-- An interface with one property, whose accessors declare ids. -/
def tariff (getter setter : Option MemberId) : TypeDecl where
  space := "N"
  name := "ITariff"
  body := .interface none
  members :=
    [{ Member.getter "Rate" (.scalar .i32) with dispid := getter },
      { Member.setter "Rate" (.scalar .i32) with dispid := setter }]

/-- The bases have the id that the setter declares, so a warning names it. -/
theorem tariff_reported : KeptOrReported .plain (tariff none (some 7)) { ids := [7] } 1 7 :=
  declared_kept (p := 0) (by decide +kernel) (by decide +kernel) (by decide)

/-- The setter declares another id than the getter, does not have it, and nothing is said. -/
theorem tariff_overruled : ∃ m, (makers .plain (tariff (some 5) (some 7)))[1]? = some m ∧
    m.dispid = some 7 ∧ (7 : MemberId) ≠ MemberId.none ∧
      ¬ KeptOrReported .plain (tariff (some 5) (some 7)) {} 1 7 := by
  refine ⟨_, rfl, rfl, by decide, ?_⟩
  rintro ⟨f, hf, hmemid | hreport⟩
  · have hfive : (interfaceFunctions .plain (tariff (some 5) (some 7)) {}).functions[1]?.map
        (·.desc.memid) = some 5 := by decide +kernel
    rw [hf, Option.map_some, hmemid] at hfive
    exact absurd hfive (by decide)
  · obtain ⟨d, hd, -⟩ := hreport {} rfl
    have hquiet : said ((interfaceFunctions .plain (tariff (some 5) (some 7)) {}).remarks.map
        .remark) = [] := by decide +kernel
    rw [hquiet] at hd
    exact List.not_mem_nil hd

end Automation.Export

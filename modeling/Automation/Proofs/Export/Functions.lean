import Automation.Export.Function
import Automation.Proofs.Export.DispatchIds
import Mathlib.Data.List.Nodup

/-!
# Functions of an interface and where they come from

`mem_functions` takes a function of an interface apart: it is what one member makes, with a dispatch
id, a slot and a name of its own. From there the ids of the interface are apart from those of its
bases (`memid_fresh`), and only different accessors of one property share one (`memid_shared`).
-/

namespace Automation.Export

open Library Source

/-- What the members of a declaration make, before ids, slots and names are given. -/
def memberFunctions (y : Synthesis) (owner : TypeDecl) : List SynthesizedFunction :=
  (owner.members.filter Member.isExportable).filterMap fun m => (synthesize y owner m).1

/-- The identities of what the members of a declaration make. -/
def memberGrouping (y : Synthesis) (owner : TypeDecl) : Grouping :=
  groupIdentities ((memberFunctions y owner).map (·.claimant))

/-- The ids of these identities, next to those that the bases pass on. -/
def memberIds (y : Synthesis) (owner : TypeDecl) (base : Inherited) : List MemberId :=
  (assignIds (firstAutoId y.settings base) base.ids
    ((memberGrouping y owner).identities.map (·.requested))).ids

/-- The ids that the identities declare. -/
def memberRequests (y : Synthesis) (owner : TypeDecl) : List (Option MemberId) :=
  (memberGrouping y owner).identities.map fun i => declared? i.requested

/-- The numbering of the identities, next to the ids that the bases pass on. -/
def memberAssignment (y : Synthesis) (owner : TypeDecl) (base : Inherited) : Assignment :=
  assignFrom (firstAutoId y.settings base) 0 base.ids (memberRequests y owner)

/-- What an identity is called when something is said about it: its first function. -/
def identityName (y : Synthesis) (owner : TypeDecl) (place : Nat) : String :=
  (((memberGrouping y owner).places.idxOf? place).bind
    fun i => ((memberFunctions y owner).map (·.name))[i]?).getD ""

/-- The slots of the interface. -/
def memberTable (y : Synthesis) (base : Inherited) : VirtualTable :=
  VirtualTable.ofBinding y.binding base.slots y.settings.pointerWidth

/-- What functions are made with by default, where no type is looked up. -/
def Synthesis.plain : Synthesis where
  scope := { type? := fun _ => none, refs := {}, width := .bits64 }
  resolver := .keep
  settings := {}
  binding := .dual

variable {y : Synthesis} {owner : TypeDecl} {base : Inherited}

theorem length_tellApart (owners : List (String × Nat)) (names : List (String × Nat)) :
    (tellApart owners names).length = names.length := by
  induction names generalizing owners with
  | nil => rfl
  | cons name later ih =>
    unfold tellApart
    rw [List.length_cons, ih, List.length_cons]

theorem filterMap_made : ((owner.members.filter Member.isExportable).map
    (synthesize y owner)).filterMap (·.1) = memberFunctions y owner := by
  rw [List.filterMap_map]
  rfl

theorem functions_eq : (interfaceFunctions y owner base).functions =
    (((((memberFunctions y owner).zip (memberGrouping y owner).places).zip
      (tellApart [] (((memberFunctions y owner).map (·.name)).zip
        (memberGrouping y owner).places))).zipIdx).map
      fun (((f, place), name), index) =>
        f.placed ((memberIds y owner base).getD place MemberId.none)
          ((memberTable y base).offset index) name) := by
  unfold interfaceFunctions
  simp only [filterMap_made]
  rfl

theorem memberAssignment_eq : memberAssignment y owner base =
    assignIds (firstAutoId y.settings base) base.ids
      ((memberGrouping y owner).identities.map (·.requested)) := by
  unfold assignIds memberAssignment memberRequests
  rw [List.map_map]
  rfl

theorem memberIds_eq : memberIds y owner base = (memberAssignment y owner base).ids := by
  rw [memberAssignment_eq]
  rfl

variable (y owner base) in
/-- What is said about the functions of an interface: about each member, and about the ids that were
wanted twice. -/
theorem remarks_eq : (interfaceFunctions y owner base).remarks =
    ((owner.members.filter Member.isExportable).map (synthesize y owner)).flatMap (·.2) ++
      (memberAssignment y owner base).reassigned.map fun r => Remark.raised
        (reassignedId (owner.qualified ++ "." ++ identityName y owner r.place) r) := by
  rw [memberAssignment_eq]
  unfold interfaceFunctions
  simp only [filterMap_made]
  refine congrArg _ (List.map_congr_left fun r _ => ?_)
  unfold identityName memberGrouping
  congr 4
  cases (groupIdentities ((memberFunctions y owner).map (·.claimant))).places.idxOf? r.place with
  | none => rfl
  | some i =>
    rw [Option.bind_some, Option.bind_some, List.getElem?_map]
    cases (memberFunctions y owner)[i]? <;> rfl

variable (y owner base) in
/-- What an interface passes on: all that its bases do, and its own. -/
theorem inherited_mk : (interfaceFunctions y owner base).inherited =
    { ids := base.ids ++ (interfaceFunctions y owner base).functions.map (·.desc.memid)
      slots := base.slots + (interfaceFunctions y owner base).functions.length
      automatic := base.automatic + (memberRequests y owner).count none } := by
  unfold interfaceFunctions memberRequests memberGrouping
  simp only [filterMap_made, List.count, List.countP_map]
  congr 3
  funext i
  cases h : declared? i.requested <;> simp [h]

theorem length_places : (memberGrouping y owner).places.length = (memberFunctions y owner).length := by
  have h := (groupIdentities_sound ((memberFunctions y owner).map (·.claimant))).length
  rwa [List.length_map] at h

theorem length_functions :
    (interfaceFunctions y owner base).functions.length = (memberFunctions y owner).length := by
  simp [functions_eq, length_tellApart, length_places]

/-- **A function of an interface is what one member makes**, with an id of its identity, the slot of
its place and a name of its own. -/
theorem getElem?_functions {j : Nat} {f : SynthesizedFunction}
    (h : (interfaceFunctions y owner base).functions[j]? = some f) :
    ∃ s place memid name, (memberFunctions y owner)[j]? = some s ∧
      (memberGrouping y owner).places[j]? = some place ∧
      (memberIds y owner base)[place]? = some memid ∧
      f = s.placed memid ((memberTable y base).offset j) name := by
  rw [functions_eq, List.getElem?_map, Option.map_eq_some_iff] at h
  obtain ⟨⟨⟨⟨s, place⟩, name⟩, index⟩, hzip, rfl⟩ := h
  rw [List.getElem?_zipIdx, Option.map_eq_some_iff] at hzip
  obtain ⟨⟨⟨s', place'⟩, name'⟩, hzip, heq⟩ := hzip
  simp only [Prod.mk.injEq, Nat.zero_add] at heq
  obtain ⟨⟨⟨rfl, rfl⟩, rfl⟩, rfl⟩ := heq
  obtain ⟨hzip, -⟩ := List.getElem?_zip_eq_some.mp hzip
  obtain ⟨hs, hplace⟩ := List.getElem?_zip_eq_some.mp hzip
  have hlt : place' < (memberIds y owner base).length := by
    have hclaimant : ((memberFunctions y owner).map (·.claimant))[j]? = some s'.claimant := by
      rw [List.getElem?_map, hs]
      rfl
    obtain ⟨identity, hidentity, -⟩ := (groupIdentities_sound _).member hclaimant hplace
    have hlength := (assignIds_sound (firstAutoId y.settings base) base.ids
      ((memberGrouping y owner).identities.map (·.requested))).1
    rw [List.length_map] at hlength
    exact hlength ▸ (List.getElem?_eq_some_iff.mp hidentity).1
  refine ⟨s', place', _, name', hs, hplace, List.getElem?_eq_getElem hlt, ?_⟩
  simp [List.getD, hlt]

/-! ## Ids -/

/-- A function has an id, and none that the bases pass on. -/
theorem memid_fresh {f : SynthesizedFunction}
    (h : f ∈ (interfaceFunctions y owner base).functions) :
    f.desc.memid ∉ base.ids ∧ f.desc.memid ≠ MemberId.none := by
  obtain ⟨j, hj⟩ := List.mem_iff_getElem?.mp h
  obtain ⟨s, place, memid, name, -, -, hmemid, rfl⟩ := getElem?_functions hj
  exact (assignIds_sound _ _ _).2.2 memid (List.mem_of_getElem? hmemid)

/-- Functions share an id only as functions of one identity. -/
theorem places_of_memid {i j : Nat} {f g : SynthesizedFunction}
    (hf : (interfaceFunctions y owner base).functions[i]? = some f)
    (hg : (interfaceFunctions y owner base).functions[j]? = some g)
    (hmemid : f.desc.memid = g.desc.memid) :
    (memberGrouping y owner).places[i]? = (memberGrouping y owner).places[j]? := by
  obtain ⟨s, place, memid, name, -, hplace, hid, rfl⟩ := getElem?_functions hf
  obtain ⟨s', place', memid', name', -, hplace', hid', rfl⟩ := getElem?_functions hg
  obtain rfl : memid = memid' := hmemid
  obtain ⟨hlt, hget⟩ := List.getElem?_eq_some_iff.mp hid
  obtain ⟨hlt', hget'⟩ := List.getElem?_eq_some_iff.mp hid'
  obtain rfl : place = place' :=
    (assignIds_sound _ _ _).2.1.getElem_inj_iff.mp (hget.trans hget'.symm)
  exact hplace.trans hplace'.symm

/-- **Functions share an id only as different accessors of one property.** -/
theorem memid_shared {i j : Nat} {f g : SynthesizedFunction} (hij : i < j)
    (hf : (interfaceFunctions y owner base).functions[i]? = some f)
    (hg : (interfaceFunctions y owner base).functions[j]? = some g)
    (hmemid : f.desc.memid = g.desc.memid) :
    f.property.isSome ∧ f.property = g.property ∧ f.desc.invoke ≠ g.desc.invoke := by
  have hsame := places_of_memid hf hg hmemid
  obtain ⟨s, place, -, -, hs, hplace, -, rfl⟩ := getElem?_functions hf
  obtain ⟨s', -, -, -, hs', -, -, rfl⟩ := getElem?_functions hg
  have hclaimants := groupIdentities_sound ((memberFunctions y owner).map (·.claimant))
  refine hclaimants.apart (c := s.claimant) (d := s'.claimant) hij ?_ ?_ hplace
    (hsame.symm.trans hplace)
  · rw [List.getElem?_map, hs]
    rfl
  · rw [List.getElem?_map, hs']
    rfl

/-! ## Slots -/

theorem offset_of_getElem? {j : Nat} {f : SynthesizedFunction}
    (h : (interfaceFunctions y owner base).functions[j]? = some f) :
    f.desc.offset = (memberTable y base).offset j := by
  obtain ⟨s, place, memid, name, -, -, -, rfl⟩ := getElem?_functions h
  rfl

/-- The interface passes on the ids and slots of its bases and its own. -/
theorem inherited_eq :
    (interfaceFunctions y owner base).inherited.ids =
        base.ids ++ (interfaceFunctions y owner base).functions.map (·.desc.memid) ∧
      (interfaceFunctions y owner base).inherited.slots =
        base.slots + (interfaceFunctions y owner base).functions.length :=
  ⟨rfl, rfl⟩

/-! ## Members -/

theorem mem_memberFunctions {s : SynthesizedFunction} :
    s ∈ memberFunctions y owner ↔
      ∃ m ∈ owner.members, m.isExportable = true ∧ (synthesize y owner m).1 = some s := by
  simp [memberFunctions, and_assoc]

/-- The function that a member makes is put together from its descriptors. -/
theorem synthesize_eq_some {m : Member} {s : SynthesizedFunction} :
    (synthesize y owner m).1 = some s ↔
      ∃ invoke signature, invokeKind? y.scope m = some invoke ∧
        describeSignature y.scope m = .ok signature ∧ s = assemble y owner m invoke signature := by
  unfold synthesize
  cases hinvoke : invokeKind? y.scope m with
  | none => simp
  | some invoke =>
    rcases hsignature : describeSignature y.scope m with ⟨part, error⟩ | signature
    · simp
    · simp [eq_comm]

theorem property_of_synthesize {m : Member} {s : SynthesizedFunction}
    (h : (synthesize y owner m).1 = some s) : s.property = m.property?.map Text.nameKey := by
  obtain ⟨invoke, signature, -, -, rfl⟩ := synthesize_eq_some.mp h
  rfl

variable (y owner) in
theorem head?_names_assemble (m : Member) (invoke : InvokeKind) (signature : Signature) :
    (assemble y owner m invoke signature).names.head? = some (y.resolver (memberQuestion owner m)) := by
  unfold assemble
  dsimp only
  split <;> rfl

/-- A function asks for its name by what its member declares. -/
theorem name_of_synthesize {m : Member} {s : SynthesizedFunction}
    (h : (synthesize y owner m).1 = some s) : s.name = y.resolver (memberQuestion owner m) := by
  obtain ⟨invoke, signature, -, -, rfl⟩ := synthesize_eq_some.mp h
  unfold SynthesizedFunction.name
  rw [List.headD_eq_head?_getD, head?_names_assemble]
  rfl

theorem length_describeParameters {scope : Scope} {params : List Parameter}
    {described : List Described} (h : describeParameters scope params = .ok described) :
    described.length = params.length := by
  induction params generalizing described with
  | nil =>
    obtain rfl : [] = described := by simpa [describeParameters] using h
    rfl
  | cons p later ih =>
    unfold describeParameters at h
    split at h
    · simp at h
    · split at h
      · simp at h
      · next rest hrest =>
        obtain rfl : _ :: rest = described := by simpa using h
        rw [List.length_cons, ih hrest, List.length_cons]

theorem length_namedParameters (m : Member) : (namedParameters m).length ≤ m.params.length := by
  unfold namedParameters
  split
  · rw [List.length_dropLast]
    omega
  · exact Nat.le_refl _

/-- A function names no more parameters than it has. -/
theorem length_names_of_synthesize {m : Member} {s : SynthesizedFunction}
    (h : (synthesize y owner m).1 = some s) :
    1 ≤ s.names.length ∧ s.names.length ≤ s.desc.params.length + 1 := by
  obtain ⟨invoke, signature, -, hsignature, rfl⟩ := synthesize_eq_some.mp h
  have hparams : signature.params.length = m.params.length := by
    unfold describeSignature at hsignature
    split at hsignature
    · simp at hsignature
    · next described hdescribed =>
      split at hsignature
      · simp at hsignature
      · obtain rfl := Except.ok.inj hsignature
        exact length_describeParameters hdescribed
  have hnamed := length_namedParameters m
  unfold assemble
  dsimp only
  split <;> simp [hparams] <;> omega

theorem length_names {f : SynthesizedFunction}
    (h : f ∈ (interfaceFunctions y owner base).functions) :
    f.names.length ≤ f.desc.params.length + 1 := by
  obtain ⟨j, hj⟩ := List.mem_iff_getElem?.mp h
  obtain ⟨s, place, memid, name, hs, -, -, rfl⟩ := getElem?_functions hj
  obtain ⟨m, -, -, hm⟩ := mem_memberFunctions.mp (List.mem_of_getElem? hs)
  obtain ⟨hpos, hle⟩ := length_names_of_synthesize hm
  simp only [SynthesizedFunction.placed, List.length_cons, List.length_drop]
  omega

end Automation.Export

import Automation.Proofs.Export.Reasons
import Automation.Proofs.Source.QualifiedNames
import Mathlib.Data.Set.Function

/-!
# Identifiers derived from names

A type that declares no identifier has one derived from its qualified name, and the interface made
from the members of a class has one derived from that name after an underscore. So two types of a
library have one identifier only if these names are equal, unless different names have one identifier:
`derivedGuids_run`. A unit can be loaded although such names are equal, as it tells types apart by
their namespaces and names, which a qualified name joins.
-/

namespace Automation

namespace Export

open Library Source

/-! ## Names that identify -/

/-- The names from which identifiers of a type are derived: that of the interface made from its
members, and its own. -/
def identities (t : TypeDecl) : List String :=
  match target? t with
  | none => []
  | some target => (target.classInterface?.toList.map fun _ => "_" ++ t.qualified) ++ [t.qualified]

theorem mem_identities {t : TypeDecl} {name : String} (h : name ∈ identities t) :
    name = t.qualified ∨ name = "_" ++ t.qualified := by
  unfold identities at h
  split at h
  · exact (List.not_mem_nil h).elim
  · rcases List.mem_append.mp h with h | h
    · obtain ⟨-, -, rfl⟩ := List.mem_map.mp h
      exact .inr rfl
    · exact .inl (List.mem_singleton.mp h)

theorem nodup_identities (t : TypeDecl) : (identities t).Nodup := by
  have hne : "_" ++ t.qualified ≠ t.qualified := fun h => by
    simpa [String.length_append] using congrArg String.length h
  unfold identities
  split
  · exact .nil
  · next target _ => cases target.classInterface? <;> simp [hne]

end Export

namespace Source.SourceUnit

/-- The names from which identifiers of the exported types of the unit are derived. -/
def identities (u : SourceUnit) : List String := u.types.flatMap Export.identities

/-- No type of the unit declares an identifier. -/
def DeclaresNoGuid (u : SourceUnit) : Prop := ∀ t ∈ u.types, t.guid = none

/-- In a unit that is loaded the names differ if those of types have no dots and no qualified name begins
with an underscore. -/
theorem nodup_identities_of_load {identity : UnitIdentity} {types : List TypeDecl} {u : SourceUnit}
    (h : load identity types = .ok u) (hdot : ∀ t ∈ u.types, '.' ∉ t.name.toList)
    (hunderscore : ∀ t ∈ u.types, ∀ name, t.qualified ≠ "_" ++ name) : u.identities.Nodup := by
  refine List.nodup_flatMap.mpr ⟨fun t _ => Export.nodup_identities t, ?_⟩
  refine (pairwise_of_load h).imp_of_mem fun {t t'} ht ht' hne => ?_
  have hqualified : t.qualified ≠ t'.qualified := fun hsame => hne <| by
    obtain ⟨hspace, hname⟩ := qualify_inj (hdot t ht) (hdot t' ht') hsame
    rw [hspace, hname]
  intro name hname hname'
  rcases Export.mem_identities hname with rfl | rfl <;>
    rcases Export.mem_identities hname' with hsame | hsame
  · exact hqualified hsame
  · exact hunderscore t ht _ hsame
  · exact hunderscore t' ht' _ hsame.symm
  · exact hqualified ((String.append_right_inj "_").mp hsame)

end Source.SourceUnit

namespace Export

open Library Source

variable {World Draft Committed : Type}

/-! ## Identifiers of a library -/

/-- A type that declares no identifier takes those that are derived from its names. -/
theorem guids_eq_map_derivedGuid {n : NamedType}
    (hinterface : n.classInterface.isSome = n.type.target.classInterface?.isSome)
    (htarget : target? n.type.decl = some n.type.target) (hnone : n.type.decl.guid = none) :
    n.guids = (identities n.type.decl).map derivedGuid := by
  have hplaces : n.interfacePlaces.map (·.guid) = n.type.target.classInterface?.toList.map fun _ =>
      derivedGuid ("_" ++ n.type.decl.qualified) := by
    unfold NamedType.interfacePlaces
    cases hclass : n.type.target.classInterface? with
    | none => rfl
    | some binding =>
      rw [hclass] at hinterface
      obtain ⟨name, hname⟩ := Option.isSome_iff_exists.mp hinterface
      rw [hname]
      rfl
  unfold NamedType.guids NamedType.places identities
  rw [htarget]
  dsimp only
  rw [List.map_append, hplaces, List.map_append, List.map_map, List.map_singleton,
    List.map_singleton, typePlaceholder, hnone]
  rfl

/-- What is listed of the exported types is what is listed of the types of the unit, if nothing is
listed of the others. -/
theorem flatMap_classified {unit : Reflection} {ids : List TypeId} {classified : List Classified}
    {α : Type} {f : TypeDecl → List α} (hf : ∀ t, target? t = none → f t = [])
    (h : classify unit ids = .ok classified) :
    classified.flatMap (fun c => f c.decl) = ids.flatMap fun id => (unit.type? id).toList.flatMap f := by
  induction ids generalizing classified with
  | nil =>
    obtain rfl := Except.ok.inj h
    rfl
  | cons id later ih =>
    unfold classify at h
    split at h
    · exact Except.noConfusion rfl rfl (heq_of_eq h)
    · next decl hdecl =>
      split at h
      · exact Except.noConfusion rfl rfl (heq_of_eq h)
      · next rest hrest =>
        rw [List.flatMap_cons, hdecl, ← ih hrest]
        split at h
        · obtain rfl := Except.ok.inj h
          simp
        · next hnone =>
          obtain rfl := Except.ok.inj h
          simp [hf decl hnone]

/-- **Identifiers of a unit that declares none are derived from its names.** -/
theorem guids_of_declaresNoGuid {u : SourceUnit} (hnone : u.DeclaresNoGuid) (resolver : Resolver)
    {classified : List Classified}
    (h : classify u.reflection u.reflection.ids = .ok classified) :
    (nameTypes resolver classified).1.flatMap NamedType.guids = u.identities.map derivedGuid := by
  have htypes := classify_type? h
  have hguids : ∀ n ∈ (nameTypes resolver classified).1,
      n.guids = (identities n.type.decl).map derivedGuid := by
    intro n hn
    obtain ⟨hdecl, htarget⟩ := htypes _ (type_mem_nameRegistered hn)
    exact guids_eq_map_derivedGuid (isSome_classInterface hn) htarget
      (hnone _ (List.mem_of_getElem? hdecl))
  calc (nameTypes resolver classified).1.flatMap NamedType.guids
      = (nameTypes resolver classified).1.flatMap
          fun n => (identities n.type.decl).map derivedGuid := List.flatMap_congr hguids
    _ = classified.flatMap fun c => (identities c.decl).map derivedGuid := by
      conv_rhs => rw [← map_type_nameTypes resolver classified, List.flatMap_map]
    _ = (classified.flatMap fun c => identities c.decl).map derivedGuid := List.map_flatMap.symm
    _ = u.identities.map derivedGuid := by
      rw [flatMap_classified (fun t ht => by rw [identities, ht]) h]
      exact congrArg _ (flatMap_getElem? u.types identities)

/-- **Derived identifiers stop no run over units whose names differ**, whatever the builder answers, if
different names of a unit have different identifiers. A unit in which names are equal never has a
library. -/
theorem derivedGuids_run (b : Builder World Draft Committed) (world : World) (draft : Draft)
    (u : SourceUnit) (others : List SourceUnit) (settings : Settings) (resolver : Resolver)
    (hnone : ∀ v ∈ u :: others, v.DeclaresNoGuid)
    (hderive : ∀ v ∈ u :: others, Set.InjOn derivedGuid {name | name ∈ v.identities}) :
    ((∀ v ∈ u :: others, v.identities.Nodup) →
      ∀ f, ((Job.ofUnits u others settings resolver).run b world draft).1 = .error f →
        ∀ guid first second, f.error.root ≠ .duplicateType guid first second) ∧
    (¬u.identities.Nodup →
      ∀ out, ((Job.ofUnits u others settings resolver).run b world draft).1 ≠ .ok out) := by
  obtain ⟨hfails, hsucceeds⟩ := reason_run b (Job.ofUnits u others settings resolver) world draft
  refine ⟨fun hnames f hf guid first second hroot => ?_, fun hnames out hout => hnames ?_⟩
  · have hreason := hfails f hf
    rw [hroot] at hreason
    cases hreason with
    | @duplicateType unit classified hunit hclassify hguids =>
      obtain ⟨v, hv, rfl⟩ := List.mem_map.mp
        (show unit ∈ (u :: others).map SourceUnit.reflection from hunit)
      rw [guids_of_declaresNoGuid (hnone v hv) _ hclassify] at hguids
      exact hguids ((List.nodup_map_iff_inj_on (hnames v hv)).mpr fun _ ha _ hb =>
        hderive v hv ha hb)
    | tooManyFields h =>
      obtain ⟨name, h⟩ := h
      exact ExportError.noConfusion h
  · obtain ⟨classified, hclassify⟩ := exists_classify_reflection u
    have hguids := hsucceeds out hout classified hclassify
    change ((nameTypes resolver classified).1.flatMap NamedType.guids).Nodup at hguids
    rw [guids_of_declaresNoGuid (hnone u List.mem_cons_self) resolver hclassify] at hguids
    exact List.Nodup.of_map derivedGuid hguids

/-- A unit with a class, from whose members an interface is made. -/
def harbor : SourceUnit where
  identity := { name := "Harbor", version := { major := 1 }, guid := some (Guid.ofBytes [9]) }
  types :=
    [{ space := "Sea", name := "Buoy", body := .record [{ name := "mass", type := .scalar .i32 }] },
     { space := "Sea", name := "Pilot", body := .objectClass { classInterface := .autoDual }
       members := [Member.method "Board" (.scalar .i32)] }]

/-- A library with the identifier of the unit. -/
def pirate : ReferencedLibrary where
  unit := "Pirate"
  name := "Pirate"
  guid := Guid.ofBytes [9]
  version := { major := 1 }

/-- Where a run over the unit fails, it is not for an identifier of a type. -/
theorem harbor_derivedGuids : ∃ f,
    (Job.ofUnits harbor [] { references := [pirate] } Resolver.keep).toMemory = .error f ∧
      ∀ guid first second, f.error.root ≠ .duplicateType guid first second := by
  have hnames : harbor.identities = ["Sea.Buoy", "_Sea.Pilot", "Sea.Pilot"] := by decide +kernel
  have hguids : (harbor.identities.map derivedGuid).Nodup := by decide +kernel
  have hnone : ∀ t ∈ harbor.types, t.guid = none := by decide +kernel
  obtain ⟨f, hf, -⟩ : ∃ f,
      (Job.ofUnits harbor [] { references := [pirate] } Resolver.keep).toMemory = .error f ∧
        f.error = .duplicateLibrary (Guid.ofBytes [9]) "Pirate" :=
    Job.exists_failure (by decide +kernel)
  refine ⟨f, hf, (derivedGuids_run Library.Draft.builder () {} harbor [] _ Resolver.keep
    (List.forall_mem_singleton.mpr hnone) (List.forall_mem_singleton.mpr ?_)).1
      (List.forall_mem_singleton.mpr (hguids.of_map derivedGuid)) f hf⟩
  exact fun _ ha _ hb => (List.nodup_map_iff_inj_on (hguids.of_map derivedGuid)).mp hguids _ ha _ hb

/-- A unit whose types have one qualified name, cut into namespace and name at different dots. -/
def cleft : SourceUnit where
  identity := { name := "P", version := { major := 1 }, guid := some (Guid.ofBytes [9]) }
  types :=
    [{ space := "A.B", name := "C", body := .record [] },
     { space := "A", name := "B.C", body := .record [] }]

/-- The unit is accepted and declares no identifiers, and its export fails as two types have one. -/
theorem cleft_duplicate : SourceUnit.load cleft.identity cleft.types = .ok cleft ∧
    cleft.DeclaresNoGuid ∧ Set.InjOn derivedGuid {name | name ∈ cleft.identities} ∧
    ∃ f, (Job.ofUnits cleft [] {} Resolver.keep).toMemory = .error f ∧
      f.error.root = .duplicateType (derivedGuid "A.B.C") "C" "B.C" := by
  have hload : SourceUnit.firstFault? cleft.types.length [] cleft.types = none := by decide +kernel
  have hnone : ∀ t ∈ cleft.types, t.guid = none := by decide +kernel
  have hname : ∀ name ∈ cleft.identities, name = "A.B.C" := by decide +kernel
  obtain ⟨f, hf, herror⟩ : ∃ f, (Job.ofUnits cleft [] {} Resolver.keep).toMemory = .error f ∧
      f.error = .duplicateType (derivedGuid "A.B.C") "C" "B.C" :=
    Job.exists_failure (by decide +kernel)
  refine ⟨?_, hnone, fun a ha b hb _ => (hname a ha).trans (hname b hb).symm, f, hf, ?_⟩
  · unfold SourceUnit.load
    rw [hload]
  · rw [herror]
    rfl

/-- The interface made from a class gets a name of its own, but the identifier of a type that is named
like it. -/
example : (Job.ofUnits
    { identity := { name := "P", version := { major := 1 }, guid := some (Guid.ofBytes [9]) }
      types :=
        [{ space := "", name := "Foo", body := .objectClass {} },
         { space := "", name := "_Foo", body := .record [] }] } [] {} Resolver.keep).error? =
    some (.duplicateType (derivedGuid "_Foo") "_Foo_2" "_Foo") := by decide +kernel

end Export

end Automation

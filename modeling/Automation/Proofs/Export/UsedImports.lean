import Automation.Proofs.Export.Defaults
import Automation.Proofs.Export.SiteReferences

/-!
# Which imports are used

A library imports what the declarations of its types mention. It uses an import if one of its types
refers to a type of it: in what that implements, or in the descriptor of a parameter, a result or a
field. What the library keeps of the declarations is less than they mention
(`ExportedLibrary.keptRefs`): an import is used exactly if a reference to it is kept
(`importsUsed_run`).
-/

namespace Automation.Export

open Library Source

/-! ## What is kept -/

/-- The references to what a class implements, apart from the interface made from its members: if it
has no interface at all, it implements the identity contract. -/
def classRefs (s : Scope) (t : TypeDecl) (hasOwn : Bool) : List TypeRef :=
  let incoming := (t.interfaces ++ t.classInfo.defaultInterface.toList).filterMap fun type =>
    (implemented s type).ref?
  let identity :=
    if incoming.isEmpty && !hasOwn then s.refs.standard? Standard.unknownIndex else none
  identity.toList ++ incoming ++ t.classInfo.sources.filterMap fun type => (implemented s type).ref?

/-- The references to what the types of a declaration derive from or implement, apart from an
interface made from its members. -/
def inheritedRefs (s : Scope) (t : TypeDecl) : List TypeRef :=
  match target? t with
  | some (.interface binding) => (interfaceBase? s.refs t binding).toList.map (·.ref)
  | some (.coClass _ binding) =>
    (binding.bind fun b => s.refs.standard? b.standardBase).toList ++ classRefs s t binding.isSome
  | some .enumeration | some .record | none => []

/-- The references that a library keeps of its declarations: those at its sites, and those to what
its types derive from or implement. -/
def ExportedLibrary.keptRefs (l : ExportedLibrary Library) (unit : Reflection) (settings : Settings)
    (references : List ReferencedLibrary) : List TypeRef :=
  (l.sites unit settings references).filterMap (Site.ref? (l.scope unit references))
    ++ (unit.ids.filterMap unit.type?).flatMap (inheritedRefs (l.scope unit references))

/-! ## What classes implement -/

section Classes

variable {s : Scope} {t : TypeDecl} {made : Option Handle} {c : ClassImplements} {ref : TypeRef}

/-- A class implements the interface made from its members, and what is kept of its declaration. -/
theorem mem_entries_iff (h : (classImplements s t made).1 = some c) :
    (∃ e ∈ c.entries, e.ref = ref) ↔
      ref ∈ made.map TypeRef.own ∨ ref ∈ classRefs s t made.isSome := by
  have hdeclared : (declaredDefault? s t).toList =
      t.classInfo.defaultInterface.toList.filterMap fun type => (implemented s type).ref? := by
    unfold declaredDefault?
    cases t.classInfo.defaultInterface with
    | none => rfl
    | some type => cases hfound : (implemented s type).ref? <;> simp [hfound]
  have hchoices : choices s t made = (made.map TypeRef.own).toList ++
      (t.interfaces ++ t.classInfo.defaultInterface.toList).filterMap
        fun type => (implemented s type).ref? := by
    unfold choices foundRefs
    rw [List.filterMap_append, ← hdeclared, List.append_assoc]
  rw [← List.mem_map, map_ref_entries h, List.mem_append, List.mem_eraseDups,
    mem_choicesOr_iff (classImplements_eq_some h).1, hchoices]
  unfold classRefs foundRefs
  dsimp only
  generalize (t.interfaces ++ t.classInfo.defaultInterface.toList).filterMap
    (fun type => (implemented s type).ref?) = incoming
  cases made with
  | some handle => simp [@eq_comm _ ref, or_assoc]
  | none => cases incoming <;> simp [or_assoc]

end Classes

/-! ## Default interfaces -/

namespace UpToDefaults

variable {s : Scope} {refs : ReferenceTable} (h : UpToDefaults s.refs refs)

include h

/-- What an expression stands for does not depend on default interfaces. -/
theorem implemented (e : TypeExpr) : Export.implemented { s with refs := refs } e =
    Export.implemented s e := by
  cases e with
  | named id =>
    unfold Export.implemented
    dsimp only
    cases href : refs.own? id with
    | none => rw [h.own?_eq_none href]
    | some ref =>
      obtain ⟨ref', href', hhandle, htarget⟩ := h.own?_eq_some href
      rw [href']
      dsimp only
      rw [hhandle, htarget]
  | external type =>
    unfold Export.implemented ReferenceTable.external?
    dsimp only
    rw [h.external]
  | _ => rfl

/-- What is kept does not depend on default interfaces. -/
theorem inheritedRefs (t : TypeDecl) : Export.inheritedRefs { s with refs := refs } t =
    Export.inheritedRefs s t := by
  have hstandard : ∀ index, refs.standard? index = s.refs.standard? index := fun index => by
    unfold ReferenceTable.standard?
    rw [h.standard]
  unfold Export.inheritedRefs classRefs
  simp only [h.implemented, h.interfaceBase?, hstandard]

end UpToDefaults

/-! ## In the scope of the library -/

namespace Alike

variable {types : List ExternalType} {s s' : Scope} (h : Alike types s s')

include h

theorem implemented {e : TypeExpr} (he : ∀ type ∈ e.external?, type ∈ types) :
    Export.implemented s' e = Export.implemented s e := by
  cases e with
  | named id => simp only [Export.implemented, h.type?, h.own?]
  | external type => simp only [Export.implemented, h.external? type (he type rfl)]
  | _ => rfl

theorem standard? (index : Nat) : s'.refs.standard? index = s.refs.standard? index := by
  unfold ReferenceTable.standard?
  rw [h.standard]

theorem interfaceBase? (t : TypeDecl) (binding : Binding) :
    Export.interfaceBase? s'.refs t binding = Export.interfaceBase? s.refs t binding := by
  simp only [Export.interfaceBase?, h.standard?, h.own?]

/-- In scopes that answer alike, the same is kept. -/
theorem inheritedRefs {t : TypeDecl}
    (ht : ∀ e ∈ signatureTypes t, ∀ type ∈ e.external?, type ∈ types) :
    Export.inheritedRefs s' t = Export.inheritedRefs s t := by
  have hsame : ∀ e ∈ t.interfaces ++ t.classInfo.defaultInterface.toList ++ t.classInfo.sources,
      (Export.implemented s' e).ref? = (Export.implemented s e).ref? := fun e he => by
    rw [h.implemented (ht e ?_)]
    exact List.mem_append_left _ (List.mem_append_left _ he)
  obtain ⟨hincoming, houtgoing⟩ := List.forall_mem_append.mp hsame
  unfold Export.inheritedRefs classRefs
  dsimp only
  simp only [h.interfaceBase?, h.standard?, List.filterMap_congr hincoming,
    List.filterMap_congr houtgoing]

end Alike

namespace ExportedFrom

variable {unit : Reflection} {resolver : Resolver} {settings : Settings}
  {references : List ReferencedLibrary} {placed : List Placed} {refs : ReferenceTable} {d : Draft}
  {l : ExportedLibrary Library} {p : Placed}

/-- What is kept of a placed type can be read off the library. -/
theorem inheritedRefs_scope (h : ExportedFrom unit resolver settings references placed refs d l)
    (hp : p ∈ placed) : inheritedRefs (l.scope unit references) p.type.decl =
      inheritedRefs (settingOf unit resolver settings refs).scope p.type.decl := by
  cases hneeds : p.type.target.needsStandard with
  | true =>
    rw [(h.alike_scope ⟨p, hp, hneeds⟩).inheritedRefs fun e he type =>
      h.mem_externalTypes_of_signature hp he]
    exact (upToDefaults_withDefaults _ placed).inheritedRefs p.type.decl
  | false =>
    obtain ⟨classified, d₀, hbuilt⟩ := h.built
    unfold inheritedRefs
    rw [(hbuilt.type?_placed hp).2]
    cases htarget : p.type.target with
    | interface | coClass =>
      rw [htarget] at hneeds
      exact Bool.noConfusion hneeds
    | enumeration | record => rfl

/-- What a placed type and the interface made from it implement in other libraries is kept of the
declaration. -/
theorem mem_inheritedRefs_iff (h : ExportedFrom unit resolver settings references placed refs d l)
    (hp : p ∈ placed) {id : ImportId} {index : Nat} :
    .imported id index ∈ inheritedRefs (settingOf unit resolver settings refs).scope p.type.decl ↔
      (∃ e ∈ p.implemented (settingOf unit resolver settings refs).scope,
        e.ref = .imported id index) ∨
      ∃ c ∈ p.classInterface, ∃ e ∈ c.implemented refs, e.ref = .imported id index := by
  obtain ⟨classified, d₀, hbuilt⟩ := h.built
  have hclassed := hbuilt.prepared.standing.classed p hp
  have hnone : (∀ creatable binding, p.type.target ≠ .coClass creatable (some binding)) →
      ¬∃ c ∈ p.classInterface, ∃ e ∈ c.implemented refs, e.ref = .imported id index := by
    rintro hother ⟨c, hc, -⟩
    obtain ⟨creatable, htarget⟩ := hclassed c hc
    exact hother _ _ htarget
  unfold inheritedRefs Placed.implemented
  rw [(hbuilt.type?_placed hp).2]
  cases htarget : p.type.target with
  | interface binding =>
    rw [or_iff_left (hnone fun _ _ h => Target.noConfusion (htarget.symm.trans h))]
    have hbase : p.base? refs = interfaceBase? refs p.type.decl binding := by
      unfold Placed.base?
      rw [htarget]
      rfl
    simp [hbase, settingOf]
  | coClass creatable binding =>
    obtain ⟨default, hdefault⟩ := h.exists_default hp htarget
    unfold Placed.default? at hdefault
    rw [htarget] at hdefault
    obtain ⟨c, hc, -⟩ := Option.map_eq_some_iff.mp hdefault
    dsimp only
    rw [hc, Option.map_some, Option.getD_some, mem_entries_iff hc, Option.isSome_map]
    cases binding with
    | none =>
      have hmade : p.classInterface = none := by
        refine Option.eq_none_iff_forall_not_mem.mpr fun c hc => ?_
        obtain ⟨creatable', htarget'⟩ := hclassed c hc
        exact Option.some_ne_none _ (Target.coClass.inj (htarget.symm.trans htarget')).2.symm
      simp [hmade]
    | some binding =>
      obtain ⟨c, hc, rfl⟩ := hbuilt.prepared.exists_classInterface hp htarget
      simp [Option.mem_def.mp hc, ClassInterface.implemented, settingOf, or_comm]
  | enumeration | record =>
    rw [or_iff_left (hnone fun _ _ h => Target.noConfusion (htarget.symm.trans h))]
    simp

/-- What a type of the library implements is what a placed type does, or the interface made from
one. -/
theorem exists_implemented (h : ExportedFrom unit resolver settings references placed refs d l)
    {t : TypeInfo} (ht : t ∈ l.library.types) : ∃ p ∈ placed,
      t.implemented = p.implemented (settingOf unit resolver settings refs).scope ∨
        ∃ c ∈ p.classInterface, t.implemented = c.implemented refs := by
  obtain ⟨i, hi⟩ := List.mem_iff_getElem?.mp ht
  have hcontent := h.content hi
  generalize (⟨i⟩ : Handle) = k at hcontent
  cases hcontent with
  | interface hfill => exact ⟨_, (mem_filling hfill).1, .inl rfl⟩
  | classInterface hp hc => exact ⟨_, hp, .inr ⟨_, hc, rfl⟩⟩
  | coClass hp _ => exact ⟨_, hp, .inl rfl⟩
  | record hp _ => exact ⟨_, hp, .inl rfl⟩
  | enumeration hp _ => exact ⟨_, hp, .inl rfl⟩

/-- **What the types of a library implement in other libraries** is kept of its declarations. -/
theorem mem_implemented_iff (h : ExportedFrom unit resolver settings references placed refs d l)
    {id : ImportId} {index : Nat} :
    (∃ t ∈ l.library.types, ∃ e ∈ t.implemented, e.ref = .imported id index) ↔
      .imported id index ∈
        (unit.ids.filterMap unit.type?).flatMap (inheritedRefs (l.scope unit references)) := by
  obtain ⟨classified, d₀, hbuilt⟩ := h.built
  rw [List.mem_flatMap]
  constructor
  · rintro ⟨t, ht, e, he, href⟩
    obtain ⟨p, hp, hsame⟩ := h.exists_implemented ht
    refine ⟨p.type.decl, List.mem_filterMap.mpr ⟨_, h.id_mem hp, (hbuilt.type?_placed hp).1⟩, ?_⟩
    rw [h.inheritedRefs_scope hp, h.mem_inheritedRefs_iff hp]
    rcases hsame with hsame | ⟨c, hc, hsame⟩
    · exact .inl ⟨e, hsame ▸ he, href⟩
    · exact .inr ⟨c, hc, e, hsame ▸ he, href⟩
  · rintro ⟨decl, hdecl, href⟩
    obtain ⟨key, hkey, hdecl⟩ := List.mem_filterMap.mp hdecl
    cases htarget : target? decl with
    | none =>
      unfold inheritedRefs at href
      rw [htarget] at href
      exact (List.not_mem_nil href).elim
    | some target =>
      obtain ⟨p, hp, htype⟩ := h.exists_placed hkey hdecl htarget
      obtain rfl : p.type.decl = decl := by rw [htype]
      rw [h.inheritedRefs_scope hp, h.mem_inheritedRefs_iff hp] at href
      rcases href with ⟨e, he, href⟩ | ⟨c, hc, e, he, href⟩
      · obtain ⟨t, ht, hsame⟩ := h.type?_placed hp
        exact ⟨t, List.mem_of_getElem? ht, e, hsame ▸ he, href⟩
      · have hinfo := hbuilt.info_of_content (.classInterface hp hc)
        rw [← h.types] at hinfo
        exact ⟨_, List.mem_of_getElem? hinfo, e, he, href⟩

/-- **A library refers to other libraries by the references that it keeps.** -/
theorem mem_keptRefs_iff (h : ExportedFrom unit resolver settings references placed refs d l)
    {id : ImportId} {index : Nat} : (∃ t ∈ l.library.types, .imported id index ∈ t.refs) ↔
      .imported id index ∈ l.keptRefs unit settings references := by
  unfold ExportedLibrary.keptRefs
  rw [List.mem_append, List.mem_filterMap, ← h.mem_implemented_iff]
  constructor
  · rintro ⟨t, ht, href⟩
    rw [TypeInfo.refs_eq_append, List.mem_append, List.mem_map] at href
    exact href.elim (fun href => .inr ⟨t, ht, href⟩) fun href =>
      .inl (h.exists_site_of_valueRefs ht href)
  · rintro (⟨site, hsite, href⟩ | ⟨t, ht, e, he, href⟩)
    · obtain ⟨t, ht, hmem⟩ := h.exists_valueRefs_of_site hsite href
      exact ⟨t, ht, TypeInfo.refs_eq_append t ▸ List.mem_append_right _ hmem⟩
    · refine ⟨t, ht, ?_⟩
      rw [TypeInfo.refs_eq_append]
      exact List.mem_append_left _ (List.mem_map.mpr ⟨e, he, href⟩)

end ExportedFrom

/-! ## Runs -/

/-- A type of the library refers to a type of the import. -/
def Uses (l : Library) (id : ImportId) : Prop :=
  ∃ t ∈ l.types, ∃ index, .imported id index ∈ t.refs

/-- The import is mentioned in the declaration of an exported type: a type of another unit that is
found there, or anything for which the standard library is imported. -/
def ExportedLibrary.Mentions (l : ExportedLibrary Library) (unit : Reflection)
    (references : List ReferencedLibrary) (id : ImportId) : Prop :=
  (id = ⟨0⟩ ∧ ∃ key ∈ unit.ids, ∃ decl target, unit.type? key = some decl ∧
    target? decl = some target ∧
      (target.needsStandard = true ∨ ∃ e ∈ signatureTypes decl, usesStandard e = true)) ∨
  ∃ type ∈ l.externalTypes unit, ∃ index,
    (imported? references l.library.imports type).map (·.ref) = some (.imported id index)

/-- Every import is mentioned, and the used ones are those to which a reference is kept. -/
structure ImportsUsed (unit : Reflection) (settings : Settings)
    (references : List ReferencedLibrary) (l : ExportedLibrary Library) : Prop where
  mentioned : ∀ id : ImportId, id.index < l.library.imports.length → l.Mentions unit references id
  used_iff : ∀ id, Uses l.library id ↔
    ∃ index, .imported id index ∈ l.keptRefs unit settings references

namespace ExportedFrom

variable {unit : Reflection} {resolver : Resolver} {settings : Settings}
  {references : List ReferencedLibrary} {placed : List Placed} {refs : ReferenceTable} {d : Draft}
  {l : ExportedLibrary Library}

/-- Every entry of the import table is mentioned. -/
theorem mentions (h : ExportedFrom unit resolver settings references placed refs d l)
    {id : ImportId} (hid : id.index < l.library.imports.length) : l.Mentions unit references id := by
  have himports := h.imports
  obtain ⟨classified, d₀, hbuilt⟩ := h.built
  rw [hbuilt.written.imports] at himports
  have hneeds := hbuilt.prepared.map_type
  rcases hbuilt.prepared.warranted id.index (himports ▸ hid) with ⟨hfirst, hneeded⟩ |
    ⟨type, htype, index, hfound⟩
  · refine .inl ⟨congrArg ImportId.mk hfirst, ?_⟩
    rw [← hneeds] at hneeded
    simp only [Needs.scan, Bool.or_eq_true, List.any_eq_true, List.mem_flatMap] at hneeded
    obtain ⟨c, hc, hneeded⟩ | ⟨e, ⟨c, hc, he⟩, hneeded⟩ := hneeded <;>
      obtain ⟨p, hp, rfl⟩ := List.mem_map.mp hc <;>
      obtain ⟨hdecl, htarget⟩ := hbuilt.type?_placed hp
    · exact ⟨_, h.id_mem hp, _, _, hdecl, htarget, .inl hneeded⟩
    · exact ⟨_, h.id_mem hp, _, _, hdecl, htarget, .inr ⟨e, he, hneeded⟩⟩
  · rw [← hneeds] at htype
    exact .inr ⟨type, h.mem_externalTypes_iff.mpr htype, index, himports ▸ hfound⟩

theorem importsUsed (h : ExportedFrom unit resolver settings references placed refs d l) :
    ImportsUsed unit settings references l where
  mentioned _ hid := h.mentions hid
  used_iff id := by
    unfold Uses
    constructor
    · rintro ⟨t, ht, index, href⟩
      exact ⟨index, h.mem_keptRefs_iff.mp ⟨t, ht, href⟩⟩
    · rintro ⟨index, hkept⟩
      obtain ⟨t, ht, href⟩ := h.mem_keptRefs_iff.mpr hkept
      exact ⟨t, ht, index, href⟩

end ExportedFrom

/-- **Every import is mentioned, and used exactly if a reference to it is kept**, in every library of
a successful run. What is mentioned need not be kept: the members of a class without an interface of
its own are not exported, and members and fields that cannot be described are left out. -/
theorem importsUsed_run {job : Job} {out : Output Library} (h : job.toMemory = .ok out) :
    out.Forall job ImportsUsed :=
  forall_run h fun _ _ hexported => hexported.importsUsed

/-- An interface of another unit. -/
def lighthouse : ExternalType where
  unit := "Island"
  space := "M"
  name := "ILighthouse"
  kind := .interface

/-- A unit with a class that has a method with a parameter of that type, given how the class asks for
an interface of its own. -/
def ferry (mode : ClassInterfaceMode) : Job where
  unit := SourceUnit.reflection
    { identity := { name := "Ferry", version := { major := 1 }, guid := some (Guid.ofBytes [9]) }
      types :=
        [{ space := "N", name := "Boat", guid := some (Guid.ofBytes [1])
           body := .objectClass { classInterface := mode }
           members :=
             [(Member.method "Steer" .void).addParameter
               { name := "towards", type := .external lighthouse }] }] }
  settings :=
    { references :=
        [{ unit := "Island", name := "Lights", guid := Guid.ofBytes [7], version := { major := 1 }
           types :=
             [{ name := "ILighthouse", kind := .interface, source := some "M.ILighthouse" }] }] }

/-- With an interface made from the class, the method is a function that refers to the other
library. -/
theorem ferry_importsUsed : ∃ out, (ferry .autoDual).toMemory = .ok out ∧
    out.main.library.imports.map (·.name) = ["stdole", "Lights"] ∧ Uses out.main.library ⟨0⟩ ∧
    Uses out.main.library ⟨1⟩ ∧ ImportsUsed (ferry .autoDual).unit (ferry .autoDual).settings
      (ferry .autoDual).settings.references out.main := by
  obtain ⟨out, h, hview⟩ : ∃ out, (ferry .autoDual).toMemory = .ok out ∧
      (out.main.library.imports.map (·.name),
        out.main.keptRefs (ferry .autoDual).unit (ferry .autoDual).settings
          (ferry .autoDual).settings.references, out.dependencies.length) =
      (["stdole", "Lights"], [.imported ⟨1⟩ 0, .imported ⟨0⟩ Standard.dispatchIndex], 0) :=
    Job.exists_output (by decide +kernel)
  simp only [Prod.mk.injEq, List.length_eq_zero_iff] at hview
  obtain ⟨himports, hkept, hnone⟩ := hview
  have hused := (importsUsed_run h).1
  rw [hnone, List.map_nil, List.append_nil] at hused
  have huses : ∀ id, (∃ index, .imported id index ∈
      [TypeRef.imported ⟨1⟩ 0, .imported ⟨0⟩ Standard.dispatchIndex]) → Uses out.main.library id :=
    fun id hid => (hused.used_iff id).mpr (hkept ▸ hid)
  exact ⟨out, h, himports, huses ⟨0⟩ ⟨Standard.dispatchIndex, by decide⟩,
    huses ⟨1⟩ ⟨0, by decide⟩, hused⟩

/-- Without one the method is not exported: the other library is imported, and nothing refers to
it. -/
theorem ferry_unused : ∃ out, (ferry .none).toMemory = .ok out ∧
    out.main.library.imports.map (·.name) = ["stdole", "Lights"] ∧ ¬Uses out.main.library ⟨1⟩ := by
  obtain ⟨out, h, hview⟩ : ∃ out, (ferry .none).toMemory = .ok out ∧
      (out.main.library.imports.map (·.name), out.main.library.types.flatMap TypeInfo.refs) =
      (["stdole", "Lights"], [.imported ⟨0⟩ Standard.unknownIndex]) :=
    Job.exists_output (by decide +kernel)
  obtain ⟨himports, hrefs⟩ := Prod.mk.inj hview
  refine ⟨out, h, himports, ?_⟩
  rintro ⟨t, ht, index, href⟩
  have hmem := List.mem_flatMap.mpr ⟨t, ht, href⟩
  rw [hrefs, List.mem_singleton] at hmem
  cases hmem

end Automation.Export

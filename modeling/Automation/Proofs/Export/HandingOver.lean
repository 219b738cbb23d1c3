import Automation.Proofs.Export.Generating
import Automation.Proofs.Export.Imported

/-!
# Classes handed over

A library describes itself to the units that refer to it: `ExportedLibrary.reference`. A class has its
default interface there as the index of a type of the library, if it is one, and references to the class
from elsewhere go by it. The two halves are `ExportedFrom.find?_reference`, what the description says of a
class, and `ExportedFrom.describesClass`, what another library makes of that; `handsOver_run` puts them
together.
-/

namespace Automation.Export

open Library Source Diagnostic

/-! ## What a library says about its types -/

/-- What is found in a library is found in its reference, at the same place. -/
theorem ExportedLibrary.find?_reference {Committed : Type} {l : ExportedLibrary Committed}
    {qualified : String} {t : ExportedType} (hfind : l.find? qualified = some t) :
    ∃ index, l.exported[index]? = some t ∧
      l.reference.find? qualified = some (index, l.referencedType t) := by
  obtain ⟨hsource, index, hlt, hsame, hbefore⟩ := List.find?_eq_some_iff_getElem.mp hfind
  have hentry : l.exported[index]? = some t := by
    rw [List.getElem?_eq_getElem hlt, hsame]
  have hindex : (l.reference.types.findIdx? fun t => t.source == some qualified) = some index := by
    change ((l.exported.map l.referencedType).findIdx? _) = _
    rw [List.findIdx?_map, List.findIdx?_eq_some_iff_getElem]
    refine ⟨hlt, ?_, fun j hj => ?_⟩
    · rw [hsame]
      exact hsource
    · simpa [ExportedLibrary.referencedType] using hbefore j hj
  have hfound : l.reference.types[index]? = some (l.referencedType t) := by
    change (l.exported.map l.referencedType)[index]? = _
    rw [List.getElem?_map, hentry]
    rfl
  refine ⟨index, hentry, ?_⟩
  unfold ReferencedLibrary.find?
  rw [hindex]
  simp [hfound]

namespace ExportedFrom

variable {unit : Reflection} {resolver : Resolver} {settings : Settings}
  {references : List ReferencedLibrary} {placed : List Placed} {refs : ReferenceTable} {d : Draft}
  {l : ExportedLibrary Library} {t : ExportedType}

/-- The exported types are in library order. -/
theorem map_handle (h : ExportedFrom unit resolver settings references placed refs d l) :
    l.exported.map (·.handle) = handlesFrom 0 l.library.types.length := by
  obtain ⟨classified, d₀, hbuilt⟩ := h.built
  rw [h.exported, map_handle_exported, h.types, Draft.length_infos]
  exact hbuilt.handles

theorem handle_eq (h : ExportedFrom unit resolver settings references placed refs d l) {i : Nat}
    (ht : l.exported[i]? = some t) : t.handle = ⟨i⟩ := by
  have hhandle : (handlesFrom 0 l.library.types.length)[i]? = some t.handle := by
    rw [← h.map_handle, List.getElem?_map, ht]
    rfl
  unfold handlesFrom at hhandle
  rw [List.getElem?_map] at hhandle
  obtain ⟨n, hn, hsame⟩ := Option.map_eq_some_iff.mp hhandle
  obtain ⟨hlt, rfl⟩ := List.getElem?_eq_some_iff.mp hn
  rw [← hsame, List.getElem_range'_1, Nat.zero_add]

/-- An exported type is in the library, with its name and its kind. -/
theorem exists_type? (h : ExportedFrom unit resolver settings references placed refs d l)
    (ht : t ∈ l.exported) :
    ∃ info, l.library.type? t.handle = some info ∧ info.name = t.name ∧ info.kind = t.kind := by
  have htypes := h.types
  rw [h.exported] at ht
  obtain ⟨p, hp, ht⟩ := List.mem_flatMap.mp ht
  obtain ⟨classified, d₀, hbuilt⟩ := h.built
  unfold Library.type?
  rw [htypes]
  rcases List.mem_append.mp ht with ht | ht
  · obtain ⟨c, hc, rfl⟩ := List.mem_map.mp ht
    exact ⟨_, hbuilt.info_of_content (.classInterface hp (Option.mem_toList.mp hc)), rfl, rfl⟩
  · obtain rfl := List.mem_singleton.mp ht
    dsimp only
    cases htarget : p.type.target with
    | interface binding =>
      obtain ⟨made, hmade⟩ := exists_mem_filling
        (s := (settingOf unit resolver settings refs).withDefaults placed) hp (by rw [htarget]; rfl)
      exact ⟨_, hbuilt.info_of_content (.interface hmade), rfl, congrArg Target.typeKind htarget⟩
    | coClass creatable binding =>
      exact ⟨_, hbuilt.info_of_content (.coClass hp (by rw [htarget]; rfl)), rfl,
        congrArg Target.typeKind htarget⟩
    | enumeration =>
      exact ⟨_, hbuilt.info_of_content (.enumeration hp htarget), rfl, congrArg Target.typeKind htarget⟩
    | record =>
      exact ⟨_, hbuilt.info_of_content (.record hp htarget), rfl, congrArg Target.typeKind htarget⟩

theorem name_type? (h : ExportedFrom unit resolver settings references placed refs d l)
    (ht : t ∈ l.exported) : (l.library.type? t.handle).map (·.name) = some t.name := by
  obtain ⟨info, hinfo, hname, -⟩ := h.exists_type? ht
  rw [hinfo, Option.map_some, hname]

/-- The entry of a class notes its default interface if that is one of the same library. -/
theorem defaultInterface_of_class
    (h : ExportedFrom unit resolver settings references placed refs d l) (ht : t ∈ l.exported)
    (hkind : t.kind = .coClass) {handle : Handle}
    (hdefault : (l.library.type? t.handle).bind TypeInfo.defaultInterface? = some (.own handle)) :
    t.defaultInterface = some handle := by
  have hmem := ht
  rw [h.exported] at ht
  obtain ⟨p, hp, ht⟩ := List.mem_flatMap.mp ht
  rcases List.mem_append.mp ht with ht | ht
  · obtain ⟨c, -, rfl⟩ := List.mem_map.mp ht
    cases hbinding : c.binding <;> simp [hbinding, Binding.typeKind] at hkind
  · obtain rfl := List.mem_singleton.mp ht
    obtain ⟨creatable, binding, htarget⟩ := Target.eq_coClass hkind
    obtain ⟨info, hinfo, himplemented⟩ := h.type?_placed hp
    replace hinfo : l.library.type? p.handle = some info := hinfo
    dsimp only at hdefault
    rw [hinfo, Option.bind_some] at hdefault
    unfold TypeInfo.defaultInterface? at hdefault
    rw [himplemented, p.find?_isDefault] at hdefault
    exact ((h.isDefault hp htarget hdefault).exported _ hmem rfl handle).mpr rfl

/-- The default interface of a class is a type of the library. -/
theorem exists_default_exported
    (h : ExportedFrom unit resolver settings references placed refs d l) {k handle : Handle}
    (hdefault : (l.library.type? k).bind TypeInfo.defaultInterface? = some (.own handle)) :
    ∃ t, l.exported[handle.index]? = some t ∧ t.handle = handle := by
  obtain ⟨info, hinfo, hmarked⟩ := Option.bind_eq_some_iff.mp hdefault
  obtain ⟨e, he, href⟩ := Option.map_eq_some_iff.mp hmarked
  have hmem : TypeRef.own handle ∈ info.refs := by
    rw [← href]
    exact List.mem_append_left _ (List.mem_append_left _
      (List.mem_map_of_mem (List.mem_of_find?_eq_some he)))
  have hlt : handle.index < l.library.types.length :=
    h.hasTarget info (List.mem_of_getElem? hinfo) _ hmem
  have hlength := congrArg List.length h.map_handle
  rw [List.length_map, handlesFrom, List.length_map, List.length_range'] at hlength
  have ht := List.getElem?_eq_getElem (hlength ▸ hlt)
  exact ⟨_, ht, h.handle_eq ht⟩

/-- A type is found in the list of exported types where its handle says. -/
theorem findIdx?_handle (h : ExportedFrom unit resolver settings references placed refs d l) {i : Nat}
    (ht : l.exported[i]? = some t) : (l.exported.findIdx? fun other => other.handle == t.handle) =
      some i := by
  obtain ⟨hlt, hsame⟩ := List.getElem?_eq_some_iff.mp ht
  rw [List.findIdx?_eq_some_iff_getElem]
  refine ⟨hlt, beq_iff_eq.mpr (congrArg ExportedType.handle hsame), fun j hj => ?_⟩
  have hother := h.handle_eq (List.getElem?_eq_getElem (hj.trans hlt))
  rw [hother, h.handle_eq ht]
  simp [Nat.ne_of_lt hj]

/-- **What a library says of a class**: the class has the index of its default interface, if that is one
of the same library. -/
theorem find?_reference (h : ExportedFrom unit resolver settings references placed refs d l)
    {qualified : String} (hfind : l.find? qualified = some t) (hkind : t.kind = .coClass)
    {handle : Handle}
    (hdefault : (l.library.type? t.handle).bind TypeInfo.defaultInterface? = some (.own handle)) :
    ∃ index found default, l.reference.find? qualified = some (index, found) ∧
      found.kind = .coClass ∧ found.defaultInterface = some handle.index ∧
      l.reference.types[handle.index]? = some default ∧
      l.library.refName? (.own handle) = some default.name := by
  obtain ⟨index, hentry, hfound⟩ := ExportedLibrary.find?_reference hfind
  obtain ⟨other, hother, rfl⟩ := h.exists_default_exported hdefault
  refine ⟨index, l.referencedType t, l.referencedType other, hfound, ?_, ?_, ?_, ?_⟩
  · unfold ExportedLibrary.referencedType
    rw [hkind]
    rfl
  · unfold ExportedLibrary.referencedType
    dsimp only
    rw [h.defaultInterface_of_class (List.mem_of_getElem? hentry) hkind hdefault, Option.bind_some]
    exact h.findIdx?_handle hother
  · change (l.exported.map l.referencedType)[other.handle.index]? = _
    rw [List.getElem?_map, hother]
    rfl
  · exact h.name_type? (List.mem_of_getElem? hother)

end ExportedFrom

/-! ## What another library makes of it -/

namespace ExportedFrom

variable {unit : Reflection} {resolver : Resolver} {settings : Settings}
  {references : List ReferencedLibrary} {placed : List Placed} {refs : ReferenceTable} {d : Draft}
  {l : ExportedLibrary Library} {type : ExternalType} {place index : Nat} {found : ReferencedType}

/-- **References to a class of another library are pointers to its default interface.** -/
theorem describesClass (h : ExportedFrom unit resolver settings references placed refs d l)
    (hlookup : lookup? references type = some (place, index, found)) (hclass : found.kind = .coClass)
    {default : Nat} (hdefault : found.defaultInterface = some default)
    (htype : type.kind = .interface ∨ type.kind = .objectClass) {site : Site}
    (hsite : site ∈ l.sites unit settings references) (hcore : site.core.1 = .external type)
    (hform : KeepsObject site.form) :
    ∃ library id, references[place]? = some library ∧ importPlace? l.library.imports library = some id ∧
      site.coreDescriptor = some (.pointer (.userDefined (.imported ⟨id⟩ default))) := by
  have hmentioned := h.mem_externalTypes hsite hcore
  obtain ⟨library, id, hlibrary, -, hid, href⟩ := h.exists_imported hmentioned hlookup
  obtain ⟨core, hdescribed, hdescriptor⟩ := h.exists_describeExternal hsite hcore
  rw [← h.external?_scope hmentioned] at href
  have hobject : (l.scope unit references).externalObject? type = some (.imported ⟨id⟩ default) := by
    simp [Scope.externalObject?, href, externalRef, hclass, hdefault]
  refine ⟨library, id, hlibrary, hid, ?_⟩
  rw [hdescriptor, (describeExternal_object hdescribed htype hobject hform).1]

end ExportedFrom

/-! ## Runs -/

/-- What a library makes of a class of another one, given the default interface of the class there. -/
structure HandsOver (o : ExportedLibrary Library) (handle : Handle) (unit : Reflection)
    (settings : Settings) (references : List ReferencedLibrary) (l : ExportedLibrary Library)
    (type : ExternalType) : Prop where
  /-- References to the class are pointers to the default interface, by its name. -/
  sites : ∀ site ∈ l.sites unit settings references, site.core.1 = .external type →
    KeepsObject site.form → ∃ id name,
      site.coreDescriptor = some (.pointer (.userDefined (.imported id handle.index))) ∧
      o.library.refName? (.own handle) = some name ∧
      l.library.refName? (.imported id handle.index) =
        some (o.library.attributes.name ++ "." ++ name)
  /-- Where it is said that a reference became the generic object, it is another one. -/
  remarks : ∀ e ∈ l.diagnostics, e.code = .referenceDegraded →
    ∃ site ∈ l.sites unit settings references, ∃ name,
      e = degraded site.subject (.genericObject name) ∧ site.core.1 ≠ .external type ∧
      site.coreDescriptor = some (.base .unknown)

/-- The first library is asked first. -/
theorem lookup?_cons {library : ReferencedLibrary} {later : List ReferencedLibrary}
    {type : ExternalType} {index : Nat} {found : ReferencedType} (hunit : library.unit = type.unit)
    (hfind : library.find? type.qualified = some (index, found)) :
    lookup? (library :: later) type = some (0, index, found) := by
  unfold lookup?
  rw [List.zipIdx_cons, List.findSome?_cons]
  dsimp only
  rw [if_pos hunit, hfind]
  rfl

/-- The class of a library is handed over to a library that refers to it, and to no other one under its
identifier. -/
theorem ExportedFrom.handsOver {unit unit' : Reflection} {resolver resolver' : Resolver}
    {settings settings' : Settings} {references later : List ReferencedLibrary}
    {placed placed' : List Placed} {refs refs' : ReferenceTable} {d d' : Draft}
    {o l : ExportedLibrary Library}
    (ho : ExportedFrom unit resolver settings references placed refs d o)
    (h : ExportedFrom unit' resolver' settings' (o.reference :: later) placed' refs' d' l)
    (hlater : ∀ other ∈ later, other.guid ≠ o.reference.guid) {type : ExternalType}
    (hunit : type.unit = o.unit) (hobject : type.kind = .objectClass) {t : ExportedType}
    (hfind : o.find? type.qualified = some t) (hkind : t.kind = .coClass) {handle : Handle}
    (hdefault : (o.library.type? t.handle).bind TypeInfo.defaultInterface? = some (.own handle)) :
    HandsOver o handle unit' settings' (o.reference :: later) l type := by
  obtain ⟨index, found, default, hfound, hclass, hindex, hentry, hname⟩ :=
    ho.find?_reference hfind hkind hdefault
  have hlookup : lookup? (o.reference :: later) type = some (0, index, found) :=
    lookup?_cons hunit.symm hfound
  have hattributes : o.attributes = o.library.attributes := ho.identity.trans ho.attributes.symm
  have himported : IsImported l.library o.reference := by
    refine h.isImported ?_ (List.forall_mem_cons.mpr ⟨fun _ => rfl, fun other hother hsame => ?_⟩)
    · change o.attributes.guid ≠ Standard.guid
      rw [hattributes]
      exact ho.guid_ne.1
    · exact absurd hsame (hlater other hother)
  have hsites : ∀ site ∈ l.sites unit' settings' (o.reference :: later),
      site.core.1 = .external type → KeepsObject site.form → ∃ id name,
        site.coreDescriptor = some (.pointer (.userDefined (.imported id handle.index))) ∧
        o.library.refName? (.own handle) = some name ∧
        l.library.refName? (.imported id handle.index) =
          some (o.library.attributes.name ++ "." ++ name) := by
    intro site hsite hcore hform
    obtain ⟨library, id, hlibrary, hid, hdescriptor⟩ :=
      h.describesClass hlookup hclass hindex (.inr hobject) hsite hcore hform
    obtain rfl : o.reference = library := Option.some.inj hlibrary
    refine ⟨⟨id⟩, default.name, hdescriptor, hname, ?_⟩
    rw [refName?_of_importPlace? hid himported hentry, ← hattributes]
    rfl
  refine ⟨hsites, fun e he hcode => ?_⟩
  obtain ⟨site, hsite, name, heq, -, hform, hunknown⟩ := h.exists_degraded he hcode
  refine ⟨site, hsite, name, heq, fun hcore => ?_, hunknown⟩
  obtain ⟨id, -, hdescriptor, -, -⟩ := hsites site hsite hcore hform
  exact Descriptor.noConfusion (Option.some.inj (hunknown.symm.trans hdescriptor))

/-- **Classes are handed over with their default interfaces.** Where a class of a library has a type of
the same library as its default interface, a run that is given the reference of that library makes a
pointer to the default interface, by its name, of every reference to the class, and never says that such
a reference became the generic object. -/
theorem handsOver_run {job : Job} {out : Output Library} (h : job.toMemory = .ok out)
    {o : ExportedLibrary Library} (ho : o ∈ out.main :: out.dependencies) {type : ExternalType}
    (hunit : type.unit = o.unit) (hobject : type.kind = .objectClass) {t : ExportedType}
    (hfind : o.find? type.qualified = some t) (hkind : t.kind = .coClass) {handle : Handle}
    (hdefault : (o.library.type? t.handle).bind TypeInfo.defaultInterface? = some (.own handle))
    {job' : Job} {out' : Output Library} (h' : job'.toMemory = .ok out')
    (hreferences : job'.settings.references = [o.reference]) :
    out'.Forall job' fun unit settings references l =>
      HandsOver o handle unit settings references l type := by
  obtain ⟨unit, -, own, references, placed, refs, d, -, hexported⟩ := exists_exportedFrom h o ho
  -- A library that was made on demand can be told apart from the one that the run was given.
  have hguid : ∀ l ∈ out'.dependencies, l.reference.guid ≠ o.reference.guid := by
    intro l hl hsame
    obtain ⟨k, hk⟩ := List.mem_iff_getElem?.mp hl
    have hreference := ((madeInTurn_run h').1 k l hk).guid_reference
    obtain ⟨-, unit, -, placed, refs, d, hmade⟩ := (madeInTurn_run h').1 k l hk
    refine hmade.guid_ne.2 o.reference ?_ (hsame.symm.trans hreference)
    change o.reference ∈ job'.settings.references ++ _
    rw [hreferences]
    exact List.mem_cons_self
  refine forall_run h' fun before hbefore hmade => ?_
  rw [hreferences, List.singleton_append] at hmade ⊢
  refine hexported.handsOver hmade (List.forall_mem_map.mpr fun other hother => ?_) hunit hobject hfind
    hkind hdefault
  exact hguid other (hbefore hother)

/-- A unit with two classes: one implements an interface of the unit, the other implements nothing. -/
def garage : Job where
  unit := SourceUnit.reflection
    { identity := { name := "Garage", version := { major := 1 }, guid := some (Guid.ofBytes [8]) }
      types :=
        [{ space := "N", name := "IVan", guid := some (Guid.ofBytes [1]), body := .interface none
           members := [Member.method "Load" .void] },
         { space := "N", name := "Van", guid := some (Guid.ofBytes [2]), interfaces := [.named 0]
           body := .objectClass { classInterface := .none } },
         { space := "N", name := "Crate", guid := some (Guid.ofBytes [3])
           body := .objectClass { classInterface := .none } }] }

/-- The class that implements an interface, seen from elsewhere. -/
def van : ExternalType where
  unit := "Garage"
  space := "N"
  name := "Van"
  kind := .objectClass

/-- The class that implements nothing, seen from elsewhere. -/
def crate : ExternalType where
  unit := "Garage"
  space := "N"
  name := "Crate"
  kind := .objectClass

/-- A unit with a method that takes the type, given some libraries. -/
def visitor (type : ExternalType) (references : List ReferencedLibrary) : Job where
  unit := SourceUnit.reflection
    { identity := { name := "Visitor", version := { major := 1 }, guid := some (Guid.ofBytes [9]) }
      types :=
        [{ space := "N", name := "IVisitor", guid := some (Guid.ofBytes [4]), body := .interface none
           members :=
             [(Member.method "Enter" .void).addParameter { name := "in", type := .external type }] }] }
  settings := { references := references }

/-- The sites of the library of such a unit. -/
def visits (type : ExternalType) (references : List ReferencedLibrary) (out : Output Library) :
    List Site :=
  out.main.sites (visitor type references).unit (visitor type references).settings references

/-- The method takes a pointer to the interface. -/
theorem van_handsOver : ∃ out out', garage.toMemory = .ok out ∧
    (visitor van [out.main.reference]).toMemory = .ok out' ∧
    (visits van [out.main.reference] out').filterMap (fun site =>
      (site.coreDescriptor.bind Descriptor.ref?).bind out'.main.library.refName?) = ["Garage.IVan"] ∧
    HandsOver out.main ⟨0⟩ (visitor van [out.main.reference]).unit
      (visitor van [out.main.reference]).settings [out.main.reference] out'.main van := by
  have hview : garage.toMemory.toOption.bind (fun out =>
      (visitor van [out.main.reference]).toMemory.toOption.map fun out' =>
        ((out.main.find? van.qualified).map (fun t =>
            (t.kind, (out.main.library.type? t.handle).bind TypeInfo.defaultInterface?)),
          (visits van [out.main.reference] out').filterMap (fun site =>
            (site.coreDescriptor.bind Descriptor.ref?).bind out'.main.library.refName?),
          out.main.unit, out'.dependencies.length)) =
      some (some (.coClass, some (.own ⟨0⟩)), ["Garage.IVan"], "Garage", 0) := by
    decide +kernel
  cases h : garage.toMemory with
  | error e =>
    rw [h] at hview
    exact Option.noConfusion rfl (heq_of_eq hview)
  | ok out =>
    rw [h] at hview
    cases h' : (visitor van [out.main.reference]).toMemory with
    | error e =>
      simp only [Except.toOption, Option.bind_some, h'] at hview
      exact Option.noConfusion rfl (heq_of_eq hview)
    | ok out' =>
      simp only [Except.toOption, Option.bind_some, h', Option.map_some, Option.some.injEq,
        Prod.mk.injEq, List.length_eq_zero_iff] at hview
      obtain ⟨hclass, hsites, hunit, hnone⟩ := hview
      obtain ⟨t, hfind, ht⟩ := Option.map_eq_some_iff.mp hclass
      obtain ⟨hkind, hdefault⟩ := Prod.mk.inj ht
      have hover := (handsOver_run h List.mem_cons_self hunit.symm rfl hfind hkind hdefault h' rfl).1
      rw [hnone] at hover
      exact ⟨out, out', rfl, h', hsites, hover⟩

/-- The default interface of the other class is that of the standard library. It is not handed over: the
method takes the generic object, and it is said so. -/
theorem crate_degraded : ∃ out out', garage.toMemory = .ok out ∧
    (visitor crate [out.main.reference]).toMemory = .ok out' ∧
    (out.main.find? crate.qualified).map (fun t =>
      (t.kind, (out.main.library.type? t.handle).bind TypeInfo.defaultInterface?)) =
        some (.coClass, some (.imported ⟨0⟩ Standard.unknownIndex)) ∧
    ∃ site ∈ visits crate [out.main.reference] out',
      (site.core.1 = .external crate ∧ site.form = none) ∧
      site.coreDescriptor = some (.base .unknown) ∧
      degraded site.subject (.genericObject crate.qualified) ∈ out'.main.diagnostics := by
  have hview : garage.toMemory.toOption.bind (fun out =>
      (visitor crate [out.main.reference]).toMemory.toOption.map fun out' =>
        ((out.main.find? crate.qualified).map (fun t =>
            (t.kind, (out.main.library.type? t.handle).bind TypeInfo.defaultInterface?)),
          (visits crate [out.main.reference] out').any (fun site =>
            (site.core.1 == .external crate && site.form == none) &&
              (site.coreDescriptor == some (.base .unknown) &&
                decide (degraded site.subject (.genericObject crate.qualified) ∈
                  out'.main.diagnostics))))) =
      some (some (.coClass, some (.imported ⟨0⟩ Standard.unknownIndex)), true) := by
    decide +kernel
  cases h : garage.toMemory with
  | error e =>
    rw [h] at hview
    exact Option.noConfusion rfl (heq_of_eq hview)
  | ok out =>
    rw [h] at hview
    cases h' : (visitor crate [out.main.reference]).toMemory with
    | error e =>
      simp only [Except.toOption, Option.bind_some, h'] at hview
      exact Option.noConfusion rfl (heq_of_eq hview)
    | ok out' =>
      simp only [Except.toOption, Option.bind_some, h', Option.map_some, Option.some.injEq,
        Prod.mk.injEq, List.any_eq_true, Bool.and_eq_true, beq_iff_eq, decide_eq_true_eq] at hview
      exact ⟨out, out', rfl, h', hview⟩

end Automation.Export

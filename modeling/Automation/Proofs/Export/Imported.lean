import Automation.Proofs.Export.Defaults

/-!
# References to types of other libraries

A type of another unit is looked up among the referenced libraries, and whatever a library has in its
place refers to one entry of the import table: `ExportedFrom.refersTo`. Entries go by the identifiers of
libraries, so that is the library in which the type was found, and the name there is the name that was
found, as long as no other library was imported under that identifier: `importsNamed_run`.
-/

namespace Automation.Export

open Library Source

/-! ## What a class implements -/

section Classes

variable {s : Scope} {t : TypeDecl} {classInterface : Option Handle} {c : ClassImplements}
  {type : TypeExpr} {ref : TypeRef}

/-- An interface of another unit stands for what was found. -/
theorem implemented_external {type : ExternalType} {ref : ExternalRef}
    (href : s.refs.external? type = some ref) (hkind : ref.kind = .interface) :
    implemented s (.external type) = .found ref.ref := by
  unfold implemented
  dsimp only
  rw [href]
  exact if_pos hkind

theorem mem_foundRefs_of_found {types : List TypeExpr} (htype : type ∈ types)
    (hfound : implemented s type = .found ref) : ref ∈ foundRefs s types :=
  mem_foundRefs.mpr ⟨type, htype, standsFor_iff.mpr (by rw [hfound]; rfl)⟩

/-- An interface that a class declares is among those that it implements. -/
theorem incoming_mem_entries (h : (classImplements s t classInterface).1 = some c)
    (htype : type ∈ t.interfaces) (hfound : implemented s type = .found ref) :
    incoming c.default ref ∈ c.entries := by
  have hmem : ref ∈ choices s t classInterface :=
    List.mem_append_left _ (List.mem_append_right _ (mem_foundRefs_of_found htype hfound))
  rw [(classImplements_eq_some h).2]
  exact List.mem_append_left _ (List.mem_map_of_mem (List.mem_eraseDups.mpr
    ((mem_choicesOr_iff (classImplements_eq_some h).1).mpr (.inl hmem))))

/-- The interface that a class declares as its default is that, if it is found. -/
theorem default_of_declared (h : (classImplements s t classInterface).1 = some c)
    (hdefault : t.classInfo.defaultInterface = some type) (hfound : implemented s type = .found ref) :
    c.default = ref := by
  have hdeclared : declaredDefault? s t = some ref := by
    unfold declaredDefault?
    rw [hdefault, Option.bind_some, hfound]
    rfl
  have hchoice := (classImplements_eq_some h).1
  unfold firstChoice? at hchoice
  rw [hdeclared] at hchoice
  exact (Option.some.inj hchoice).symm

theorem mem_outgoing {refs : List TypeRef} (h : ref ∈ refs) :
    ∃ e ∈ outgoing refs, e.ref = ref ∧ e.flags.has ImplementedFlags.source = true := by
  cases refs with
  | nil => exact (List.not_mem_nil h).elim
  | cons first others =>
    rcases List.mem_cons.mp h with rfl | h
    · exact ⟨_, List.mem_cons_self, rfl, (by decide :
        (ImplementedFlags.source ||| ImplementedFlags.default).has ImplementedFlags.source = true)⟩
    · exact ⟨_, List.mem_cons_of_mem _ (List.mem_map_of_mem h), rfl, (by decide :
        ImplementedFlags.source.has ImplementedFlags.source = true)⟩

/-- An outgoing interface of a class is among what the class implements. -/
theorem exists_source (h : (classImplements s t classInterface).1 = some c)
    (htype : type ∈ t.classInfo.sources) (hfound : implemented s type = .found ref) :
    ∃ e ∈ c.entries, e.ref = ref ∧ e.flags.has ImplementedFlags.source = true := by
  obtain ⟨e, he, hsame, hsource⟩ := mem_outgoing (mem_foundRefs_of_found htype hfound)
  rw [(classImplements_eq_some h).2]
  exact ⟨e, List.mem_append_right _ he, hsame, hsource⟩

theorem has_source_incoming (default ref : TypeRef) :
    (incoming default ref).flags.has ImplementedFlags.source = false := by
  unfold incoming
  dsimp only
  cases ref == default <;> decide

end Classes

/-! ## References to one type -/

/-- A class of a library refers to a type of another unit wherever it declares that. -/
structure ImplementsAs (decl : TypeDecl) (info : TypeInfo) (type : ExternalType) (ref : TypeRef) :
    Prop where
  interfaces : .external type ∈ decl.interfaces → ∃ e ∈ info.implemented,
    e.ref = ref ∧ e.flags.has ImplementedFlags.source = false
  default : decl.classInfo.defaultInterface = some (.external type) →
    info.defaultInterface? = some ref
  sources : .external type ∈ decl.classInfo.sources → ∃ e ∈ info.implemented,
    e.ref = ref ∧ e.flags.has ImplementedFlags.source = true

/-- Wherever a library refers to a type of another unit that was found as a type of the kind, it does so
by the reference. -/
structure RefersTo (unit : Reflection) (settings : Settings) (references : List ReferencedLibrary)
    (l : ExportedLibrary Library) (type : ExternalType) (kind : ReferencedKind) (ref : TypeRef) :
    Prop where
  objects : kind = .interface → type.kind = .interface ∨ type.kind = .objectClass →
    ∀ site ∈ l.sites unit settings references, site.core.1 = .external type → KeepsObject site.form →
      site.coreDescriptor = some (.pointer (.userDefined ref))
  values : (∃ underlying, type.kind = .enumeration underlying) ∨ type.kind = .record →
    ∀ site ∈ l.sites unit settings references, site.core.1 = .external type → site.form = none →
      site.coreDescriptor = some (.userDefined ref)
  classes : kind = .interface → ∀ id ∈ unit.ids, ∀ decl creatable binding,
    unit.type? id = some decl → target? decl = some (.coClass creatable binding) →
      ∃ info, l.info? id = some info ∧ ImplementsAs decl info type ref

/-- Nothing but the library is imported under its identifier. -/
def IsImported (l : Library) (library : ReferencedLibrary) : Prop :=
  ∀ e ∈ l.imports, e.guid = library.guid → e = library.toImport

/-- A reference to a type of an imported library has the name of that type. -/
theorem refName?_of_importPlace? {l : Library} {library : ReferencedLibrary} {place index : Nat}
    {found : ReferencedType} (hplace : importPlace? l.imports library = some place)
    (himported : IsImported l library) (hfound : library.types[index]? = some found) :
    l.refName? (.imported ⟨place⟩ index) = some (library.name ++ "." ++ found.name) := by
  obtain ⟨hlt, hguid, -⟩ := List.findIdx?_eq_some_iff_getElem.mp hplace
  have hentry : l.imports[place]? = some library.toImport := by
    rw [List.getElem?_eq_getElem hlt]
    exact congrArg some (himported _ (List.getElem_mem hlt) (beq_iff_eq.mp hguid))
  simp [Library.refName?, hentry, ReferencedLibrary.toImport, hfound]

namespace ExportedFrom

variable {unit : Reflection} {resolver : Resolver} {settings : Settings}
  {references : List ReferencedLibrary} {placed : List Placed} {refs : ReferenceTable} {d : Draft}
  {l : ExportedLibrary Library} {type : ExternalType} {place index : Nat} {found : ReferencedType}

/-- A mentioned type that a referenced library covers is found in the import table. -/
theorem exists_imported (h : ExportedFrom unit resolver settings references placed refs d l)
    (htype : type ∈ l.externalTypes unit)
    (hlookup : lookup? references type = some (place, index, found)) :
    ∃ library id, references[place]? = some library ∧ library.types[index]? = some found ∧
      importPlace? l.library.imports library = some id ∧
      refs.external? type = some (externalRef ⟨id⟩ index found) := by
  have hneeded := h.mem_externalTypes_iff.mp htype
  obtain ⟨library, hlibrary, hfound⟩ := lookup?_eq_some hlookup
  obtain ⟨ref, href⟩ := Option.isSome_iff_exists.mp
    (h.finds.found type hneeded (by rw [hlookup]; rfl))
  have himported := h.finds.covered type ref href
  unfold imported? at himported
  rw [hlookup, Option.bind_some] at himported
  dsimp only at himported
  rw [hlibrary, Option.bind_some] at himported
  obtain ⟨id, hid, rfl⟩ := Option.map_eq_some_iff.mp himported
  exact ⟨library, id, hlibrary, hfound, hid, href⟩

/-- The scope of the library finds what the reference table has. -/
theorem external?_scope (h : ExportedFrom unit resolver settings references placed refs d l)
    (htype : type ∈ l.externalTypes unit) :
    (l.scope unit references).refs.external? type = refs.external? type :=
  (h.alike_withStandard.external? type htype).trans (external?_withDefaults _ _ type)

/-- What stands at a site for a type of another unit is the descriptor of that type. -/
theorem exists_describeExternal
    (h : ExportedFrom unit resolver settings references placed refs d l) {site : Site}
    (hsite : site ∈ l.sites unit settings references) (hcore : site.core.1 = .external type) :
    ∃ core, (l.scope unit references).describeExternal type site.form = .ok core ∧
      site.coreDescriptor = some core.type := by
  have href : IsReference site.core.1 := by
    rw [hcore]
    trivial
  obtain ⟨core, position, hdescribed, hdescriptor⟩ := (h.isDescribed site hsite).exists_core href
  rw [hcore] at hdescribed
  exact ⟨core, hdescribed, hdescriptor⟩

/-- A class of the library refers to what its declaration mentions. -/
theorem implementsAs (h : ExportedFrom unit resolver settings references placed refs d l) {p : Placed}
    (hp : p ∈ placed) {creatable : Bool} {binding : Option Binding}
    (htarget : p.type.target = .coClass creatable binding) {ref : ExternalRef}
    (href : refs.external? type = some ref) (hkind : ref.kind = .interface) :
    ∃ info, l.info? p.type.id = some info ∧ ImplementsAs p.type.decl info type ref.ref := by
  obtain ⟨info, hinfo, himplemented⟩ := h.type?_placed hp
  have hfound : implemented (settingOf unit resolver settings refs).scope (.external type) =
      .found ref.ref := implemented_external href hkind
  obtain ⟨default, hdefault⟩ := h.exists_default hp htarget
  unfold Placed.default? at hdefault
  rw [htarget] at hdefault
  obtain ⟨c, hc, rfl⟩ := Option.map_eq_some_iff.mp hdefault
  have hentries : info.implemented = c.entries := by
    rw [himplemented]
    unfold Placed.implemented
    rw [htarget]
    dsimp only
    rw [hc]
    rfl
  rw [← h.info?_eq hp] at hinfo
  refine ⟨info, hinfo, fun hmem => ?_, fun hdeclared => ?_, fun hmem => ?_⟩
  · exact ⟨_, hentries ▸ incoming_mem_entries hc hmem hfound, rfl, has_source_incoming _ _⟩
  · unfold TypeInfo.defaultInterface?
    rw [hentries, defaultInterface_entries hc, default_of_declared hc hdeclared hfound]
  · rw [hentries]
    exact exists_source hc hmem hfound

/-- **Wherever a library refers to a type of another unit**, it does so by the reference that the table
has for it. -/
theorem refersTo (h : ExportedFrom unit resolver settings references placed refs d l)
    (htype : type ∈ l.externalTypes unit) {ref : ExternalRef} (href : refs.external? type = some ref) :
    RefersTo unit settings references l type ref.kind ref.ref := by
  rw [← h.external?_scope htype] at href
  refine ⟨fun hkind htypeKind site hsite hcore hform => ?_,
    fun hkind site hsite hcore hform => ?_,
    fun hkind id hid decl creatable binding hdecl htarget => ?_⟩
  · obtain ⟨core, hdescribed, hdescriptor⟩ := h.exists_describeExternal hsite hcore
    have hobject : (l.scope unit references).externalObject? type = some ref.ref := by
      simp [Scope.externalObject?, href, hkind]
    rw [hdescriptor, (describeExternal_object hdescribed htypeKind hobject hform).1]
  · obtain ⟨core, hdescribed, hdescriptor⟩ := h.exists_describeExternal hsite hcore
    rw [hform] at hdescribed
    rw [hdescriptor, (describeExternal_value hdescribed hkind href).1]
  · obtain ⟨p, hp, hplaced⟩ := h.exists_placed hid hdecl htarget
    rw [h.external?_scope htype] at href
    have hinfo := h.implementsAs hp (by rw [hplaced]) href hkind
    rwa [hplaced] at hinfo

/-- A library that has its identifier for itself is imported under it. -/
theorem isImported (h : ExportedFrom unit resolver settings references placed refs d l)
    {library : ReferencedLibrary} (hstandard : library.guid ≠ Standard.guid)
    (hsole : ∀ other ∈ references, other.guid = library.guid → other.toImport = library.toImport) :
    IsImported l.library library := by
  have himports := h.imports
  obtain ⟨classified, d₀, hbuilt⟩ := h.built
  intro e he hguid
  rw [himports, hbuilt.written.imports] at he
  rcases hbuilt.prepared.known e he with rfl | ⟨other, hother, rfl⟩
  · exact absurd hguid.symm hstandard
  · exact hsole other hother hguid

end ExportedFrom

/-! ## Runs -/

/-- References to types of other units have the names of these types, in every library under whose
identifier no other one is imported. -/
structure ImportsNamed (unit : Reflection) (settings : Settings) (references : List ReferencedLibrary)
    (l : ExportedLibrary Library) : Prop where
  /-- All references to a type go by one entry of the import table, which has the identifier of the
  library in which the type is found. -/
  named : ∀ type ∈ l.externalTypes unit, ∀ place index found library,
    lookup? references type = some (place, index, found) → references[place]? = some library →
      ∃ id, l.library.imports[id.index]?.map (·.guid) = some library.guid ∧
        RefersTo unit settings references l type found.kind (.imported id index) ∧
        (IsImported l.library library →
          l.library.refName? (.imported id index) = some (library.name ++ "." ++ found.name))
  /-- That entry is the library itself if it shares its identifier with no other. -/
  imported : ∀ library ∈ references, library.guid ≠ Standard.guid →
    (∀ other ∈ references, other.guid = library.guid → other.toImport = library.toImport) →
      IsImported l.library library

theorem ExportedFrom.importsNamed {unit : Reflection} {resolver : Resolver} {settings : Settings}
    {references : List ReferencedLibrary} {placed : List Placed} {refs : ReferenceTable} {d : Draft}
    {l : ExportedLibrary Library}
    (h : ExportedFrom unit resolver settings references placed refs d l) :
    ImportsNamed unit settings references l := by
  refine ⟨fun type htype place index found library hlookup hlibrary => ?_,
    fun library _ hstandard hsole => h.isImported hstandard hsole⟩
  obtain ⟨library', id, hlibrary', hfound, hid, href⟩ := h.exists_imported htype hlookup
  obtain rfl := Option.some.inj (hlibrary.symm.trans hlibrary')
  obtain ⟨hlt, hguid, -⟩ := List.findIdx?_eq_some_iff_getElem.mp hid
  refine ⟨⟨id⟩, ?_, h.refersTo htype href, fun himported => refName?_of_importPlace? hid himported hfound⟩
  rw [List.getElem?_eq_getElem hlt]
  exact congrArg some (beq_iff_eq.mp hguid)

/-- **References to types of other units name them** in every library of a successful run. -/
theorem importsNamed_run {job : Job} {out : Output Library} (h : job.toMemory = .ok out) :
    out.Forall job ImportsNamed :=
  forall_run h fun _ _ hexported => hexported.importsNamed

/-- An enum of another unit. -/
def tide : ExternalType where
  unit := "Harbour"
  space := "M"
  name := "Tide"
  kind := .enumeration .i32

/-- An interface of the same unit. -/
def mooring : ExternalType where
  unit := "Harbour"
  space := "M"
  name := "IMooring"
  kind := .interface

/-- A unit with a record and a class that refer to types of another unit, which was exported as two
libraries. -/
def pier : Job where
  unit := SourceUnit.reflection
    { identity := { name := "Pier", version := { major := 1 }, guid := some (Guid.ofBytes [9]) }
      types :=
        [{ space := "N", name := "Log", guid := some (Guid.ofBytes [1])
           body := .record [{ name := "tides", type := .array (.external tide) }] },
         { space := "N", name := "Jetty", guid := some (Guid.ofBytes [2])
           interfaces := [.external mooring]
           body := .objectClass { classInterface := .none } }] }
  settings :=
    { references :=
        [{ unit := "Harbour", name := "Times", guid := Guid.ofBytes [7], version := { major := 1 }
           types := [{ name := "Tide", kind := .enumeration, source := some "M.Tide" }] },
         { unit := "Harbour", name := "Places", guid := Guid.ofBytes [8], version := { major := 1 }
           types := [{ name := "IMooring", kind := .interface, source := some "M.IMooring" }] }] }

/-- Both are referred to by their names. -/
theorem pier_importsNamed : ∃ out, pier.toMemory = .ok out ∧
    (out.main.sites pier.unit pier.settings pier.settings.references).map (fun site =>
      (site.subject, (site.coreDescriptor.bind Descriptor.ref?).bind out.main.library.refName?)) =
        [("N.Log.tides", some "Times.Tide")] ∧
    ((out.main.info? 1).bind TypeInfo.defaultInterface?).bind out.main.library.refName? =
      some "Places.IMooring" ∧
    ImportsNamed pier.unit pier.settings pier.settings.references out.main := by
  have hview : pier.toMemory.toOption.map (fun out =>
      ((out.main.sites pier.unit pier.settings pier.settings.references).map (fun site =>
        (site.subject, (site.coreDescriptor.bind Descriptor.ref?).bind out.main.library.refName?)),
        ((out.main.info? 1).bind TypeInfo.defaultInterface?).bind out.main.library.refName?,
        out.dependencies.length)) =
      some ([("N.Log.tides", some "Times.Tide")], some "Places.IMooring", 0) := by
    decide +kernel
  cases h : pier.toMemory with
  | error e =>
    rw [h] at hview
    exact Option.noConfusion rfl (heq_of_eq hview)
  | ok out =>
    rw [h] at hview
    simp only [Except.toOption, Option.map_some, Option.some.injEq, Prod.mk.injEq,
      List.length_eq_zero_iff] at hview
    obtain ⟨hsites, hclass, hnone⟩ := hview
    have hnamed := (importsNamed_run h).1
    rw [hnone, List.map_nil, List.append_nil] at hnamed
    exact ⟨out, rfl, hsites, hclass, hnamed⟩

/-- An enum that the other unit has only in a later edition. -/
def current : ExternalType where
  unit := "Harbour"
  space := "M"
  name := "Current"
  kind := .enumeration .i32

/-- Two editions of one library have one identifier. -/
def almanac : Job where
  unit := SourceUnit.reflection
    { identity := { name := "Almanac", version := { major := 1 }, guid := some (Guid.ofBytes [9]) }
      types :=
        [{ space := "N", name := "Page", guid := some (Guid.ofBytes [1])
           body := .record
             [{ name := "tide", type := .external tide },
              { name := "current", type := .external current }] }] }
  settings :=
    { references :=
        [{ unit := "Harbour", name := "Times", guid := Guid.ofBytes [7], version := { major := 1 }
           types := [{ name := "Tide", kind := .enumeration, source := some "M.Tide" }] },
         { unit := "Harbour", name := "Times", guid := Guid.ofBytes [7], version := { major := 2 }
           types :=
             [{ name := "Current", kind := .enumeration, source := some "M.Current" },
              { name := "Tide", kind := .enumeration, source := some "M.Tide" }] }] }

/-- The type is found in the second edition, and only the first one is imported: the type is referred to
by the name of another one. -/
theorem almanac_misnamed : ∃ out, almanac.toMemory = .ok out ∧
    (lookup? almanac.settings.references current).map (fun (place, index, found) =>
      (place, index, found.name)) = some (1, 0, "Current") ∧
    almanac.settings.references[1]?.map (·.name) = some "Times" ∧
    ∃ site ∈ out.main.sites almanac.unit almanac.settings almanac.settings.references,
      (site.core.1 = .external current ∧ site.form = none) ∧
      (site.coreDescriptor.bind Descriptor.ref?).bind out.main.library.refName? =
        some "Times.Tide" := by
  have hview : almanac.toMemory.toOption.map (fun out =>
      (out.main.sites almanac.unit almanac.settings almanac.settings.references).any (fun site =>
        (site.core.1 == .external current && site.form == none) &&
          (site.coreDescriptor.bind Descriptor.ref?).bind out.main.library.refName? ==
            some "Times.Tide")) = some true := by
    decide +kernel
  cases h : almanac.toMemory with
  | error e =>
    rw [h] at hview
    exact Option.noConfusion rfl (heq_of_eq hview)
  | ok out =>
    rw [h] at hview
    simp only [Except.toOption, Option.map_some, Option.some.injEq, List.any_eq_true,
      Bool.and_eq_true, beq_iff_eq] at hview
    exact ⟨out, rfl, by decide +kernel, by decide +kernel, hview⟩

end Automation.Export

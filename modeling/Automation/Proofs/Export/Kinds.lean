import Automation.Proofs.Export.Faults
import Automation.Proofs.Export.HandingOver

/-!
# Kinds of references

A type of a library is an interface, a class, an enum or a record, and descriptors treat references to
it accordingly: an interface stands beneath a pointer, and a class not at all, since its default interface
is in its place. Whether a type of another unit is a value is taken from the reference, and not from the
library in which it is found (`ExternalsAgree`).
-/

namespace Automation

/-- The reference in a descriptor, unless it stands right beneath a pointer. -/
def Library.Descriptor.bareRef? : Descriptor → Option TypeRef
  | base _ => none
  | userDefined ref => some ref
  | pointer (userDefined _) => none
  | pointer inner | safeArray inner | cArray inner _ => inner.bareRef?

namespace Export

open Library Source

/-- What a reference of a library refers to is of the kind: a type of the library, of one of the
libraries that it refers to, or a contract of the standard library. -/
inductive RefersToKind (references : List ReferencedLibrary) (l : Library) :
    TypeRef → ReferencedKind → Prop where
  | own {handle : Handle} {info : TypeInfo} : l.type? handle = some info →
    RefersToKind references l (.own handle) (.ofTypeKind info.kind)
  | imported {id : ImportId} {index : Nat} {library : ReferencedLibrary} {found : ReferencedType} :
    library ∈ references → l.imports[id.index]? = some library.toImport →
    library.types[index]? = some found → RefersToKind references l (.imported id index) found.kind
  | standard {id : ImportId} {index : Nat} : l.imports[id.index]? = some Standard.library →
    index = Standard.unknownIndex ∨ index = Standard.dispatchIndex →
    RefersToKind references l (.imported id index) .interface

/-- A descriptor refers to interfaces right beneath pointers only, and to no class. -/
structure Respects (kind : TypeRef → ReferencedKind → Prop) (d : Descriptor) : Prop where
  interfaces : ∀ ref ∈ d.bareRef?, ¬kind ref .interface
  classes : ∀ ref ∈ d.ref?, ¬kind ref .coClass

/-- All descriptors of a library respect the kinds of what they refer to. -/
structure KindsRespected (references : List ReferencedLibrary) (l : Library) : Prop where
  functions : ∀ t ∈ l.types, ∀ f ∈ t.functions,
    FunctionDesc.Has (Respects (RefersToKind references l)) f.desc
  fields : ∀ t ∈ l.types, ∀ v ∈ t.vars, ∀ element, v.desc.content = .field element →
    Respects (RefersToKind references l) element.type

/-- Referenced libraries under one identifier have the same types, none has the identifier of the
standard library, and their default interfaces are interfaces. -/
structure WellKinded (references : List ReferencedLibrary) : Prop where
  guids : ∀ l ∈ references, ∀ l' ∈ references, l.guid = l'.guid → l.types = l'.types
  standard : ∀ l ∈ references, l.guid ≠ Standard.guid
  defaults : ∀ l ∈ references, ∀ t ∈ l.types, ∀ i ∈ t.defaultInterface,
    ∃ default, l.types[i]? = some default ∧ default.kind = .interface

/-- What a library refers to as a value of another unit is no interface and no class where it is
found. -/
def ExternalsAgree (unit : Reflection) (references : List ReferencedLibrary)
    (l : ExportedLibrary Library) : Prop :=
  ∀ type ∈ l.externalTypes unit, type.kind ≠ .interface → type.kind ≠ .objectClass →
    ∀ found ∈ lookup? references type, found.2.2.kind ≠ .interface ∧ found.2.2.kind ≠ .coClass

instance (unit : Reflection) (references : List ReferencedLibrary) (l : ExportedLibrary Library) :
    Decidable (ExternalsAgree unit references l) :=
  inferInstanceAs (Decidable (∀ type ∈ l.externalTypes unit, type.kind ≠ .interface →
    type.kind ≠ .objectClass → ∀ found ∈ lookup? references type,
      found.2.2.kind ≠ .interface ∧ found.2.2.kind ≠ .coClass))

/-! ## Descriptors -/

section

variable {kind : TypeRef → ReferencedKind → Prop} {ref : TypeRef}

theorem respects_pointer (h : ∀ k, kind ref k → k = .interface) :
    Respects kind (.pointer (.userDefined ref)) where
  interfaces := nofun
  classes := by
    rintro _ ⟨rfl⟩ hclass
    exact ReferencedKind.noConfusion (h _ hclass)

theorem respects_userDefined (h : ∀ k, kind ref k → k ≠ .interface ∧ k ≠ .coClass) :
    Respects kind (.userDefined ref) where
  interfaces := by
    rintro _ ⟨rfl⟩ hinterface
    exact (h _ hinterface).1 rfl
  classes := by
    rintro _ ⟨rfl⟩ hclass
    exact (h _ hclass).2 rfl

theorem layered_respects (kind : TypeRef → ReferencedKind → Prop) : Layered (Respects kind) where
  base _ := ⟨nofun, nofun⟩
  pointer {inner} h := by
    refine ⟨fun ref href => ?_, h.classes⟩
    cases inner with
    | userDefined other => exact nomatch href
    | _ => exact h.interfaces ref href
  safeArray h := ⟨h.interfaces, h.classes⟩
  cArray _ h := ⟨h.interfaces, h.classes⟩

end

/-! ## The kinds of references -/

theorem ofTypeKind_binding (binding : Binding) :
    ReferencedKind.ofTypeKind binding.typeKind = .interface := by
  cases binding <;> rfl

theorem ofTypeKind_of_isInterface {target : Target} (h : target.isInterface = true) :
    ReferencedKind.ofTypeKind target.typeKind = .interface := by
  cases target with
  | interface binding => exact ofTypeKind_binding binding
  | _ => exact Bool.noConfusion h

namespace ExportedFrom

variable {unit : Reflection} {resolver : Resolver} {settings : Settings}
  {references : List ReferencedLibrary} {placed : List Placed} {refs : ReferenceTable} {d : Draft}
  {l : ExportedLibrary Library} {k : ReferencedKind} {p : Placed}

/-- The type in a place of the library has the kind of what has its place there. -/
theorem kind_of_exported (h : ExportedFrom unit resolver settings references placed refs d l)
    {t : ExportedType} (ht : t ∈ l.exported)
    (hkind : RefersToKind references l.library (.own t.handle) k) : k = .ofTypeKind t.kind := by
  obtain ⟨info, hinfo, -, hsame⟩ := h.exists_type? ht
  cases hkind with
  | own hinfo' =>
    obtain rfl := Option.some.inj (hinfo.symm.trans hinfo')
    rw [hsame]

theorem kind_of_placed (h : ExportedFrom unit resolver settings references placed refs d l)
    (hp : p ∈ placed) (hkind : RefersToKind references l.library (.own p.handle) k) :
    k = .ofTypeKind p.type.target.typeKind := by
  obtain ⟨t, ht, hhandle, hsame⟩ : ∃ t ∈ l.exported, t.handle = p.handle ∧
      t.kind = p.type.target.typeKind := by
    rw [h.exported]
    exact ⟨_, List.mem_flatMap.mpr ⟨p, hp, List.mem_append_right _ List.mem_cons_self⟩, rfl, rfl⟩
  rw [← hhandle] at hkind
  rw [h.kind_of_exported ht hkind, hsame]

theorem kind_of_made (h : ExportedFrom unit resolver settings references placed refs d l)
    (hp : p ∈ placed) {c : ClassInterface} (hc : c ∈ p.classInterface)
    (hkind : RefersToKind references l.library (.own c.handle) k) : k = .interface := by
  have hmem : { name := c.name, kind := c.binding.typeKind, handle := c.handle } ∈ l.exported := by
    rw [h.exported]
    exact List.mem_flatMap.mpr ⟨p, hp, List.mem_append_left _
      (List.mem_map_of_mem (Option.mem_toList.mpr hc))⟩
  rw [h.kind_of_exported hmem hkind]
  exact ofTypeKind_binding c.binding

/-- A type of an imported library has the kind that it has there. -/
theorem kind_of_importPlace (hkinded : WellKinded references) {library : ReferencedLibrary}
    (hlibrary : library ∈ references) {place index : Nat}
    (hplace : importPlace? l.library.imports library = some place) {found : ReferencedType}
    (hfound : library.types[index]? = some found)
    (hkind : RefersToKind references l.library (.imported ⟨place⟩ index) k) : k = found.kind := by
  obtain ⟨hlt, hguid, -⟩ := List.findIdx?_eq_some_iff_getElem.mp hplace
  replace hguid : l.library.imports[place].guid = library.guid := beq_iff_eq.mp hguid
  cases hkind with
  | imported hother himported hother' =>
    obtain ⟨_, hsame⟩ := List.getElem?_eq_some_iff.mp himported
    rw [hsame] at hguid
    rw [hkinded.guids _ hother _ hlibrary hguid] at hother'
    obtain rfl := Option.some.inj (hfound.symm.trans hother')
    rfl
  | standard himported _ =>
    obtain ⟨_, hsame⟩ := List.getElem?_eq_some_iff.mp himported
    rw [hsame] at hguid
    exact absurd hguid.symm (hkinded.standard _ hlibrary)

/-- What the reference table has for a type of another unit has the kind of what was found, and the
default interface of a class is an interface. -/
theorem kind_of_external (h : ExportedFrom unit resolver settings references placed refs d l)
    (hkinded : WellKinded references) {type : ExternalType} {ref : ExternalRef}
    (href : refs.external? type = some ref) : ∃ place index found,
      lookup? references type = some (place, index, found) ∧ ref.kind = found.kind ∧
      (∀ k, RefersToKind references l.library ref.ref k → k = found.kind) ∧
      ∀ default ∈ ref.default, ∀ k, RefersToKind references l.library default k → k = .interface := by
  have himported := h.finds.covered type ref href
  unfold imported? at himported
  obtain ⟨⟨place, index, found⟩, hlookup, himported⟩ := Option.bind_eq_some_iff.mp himported
  obtain ⟨id, hid, rfl⟩ := Option.map_eq_some_iff.mp himported
  obtain ⟨library, hlibrary, hplace⟩ := Option.bind_eq_some_iff.mp hid
  obtain ⟨library', hlibrary', hfound⟩ := lookup?_eq_some hlookup
  obtain rfl := Option.some.inj (hlibrary.symm.trans hlibrary')
  have hmem := List.mem_of_getElem? hlibrary
  refine ⟨place, index, found, hlookup, rfl,
    fun k hkind => kind_of_importPlace hkinded hmem hplace hfound hkind, ?_⟩
  rintro _ hdefault k hkind
  obtain ⟨i, hi, rfl⟩ := Option.map_eq_some_iff.mp hdefault
  obtain ⟨target, htarget, hinterface⟩ :=
    hkinded.defaults library hmem found (List.mem_of_getElem? hfound) i hi
  rw [kind_of_importPlace hkinded hmem hplace htarget hkind, hinterface]

/-- Of the standard library only the contracts are interfaces. -/
theorem kind_of_standard (h : ExportedFrom unit resolver settings references placed refs d l)
    (hkinded : WellKinded references) {index : Nat} {ref : TypeRef}
    (href : refs.standard? index = some ref) (hkind : RefersToKind references l.library ref k) :
    (index = Standard.unknownIndex ∨ index = Standard.dispatchIndex) ∧ k = .interface := by
  have hleading : l.library.imports[0]? = some Standard.library ∧ ref = .imported ⟨0⟩ index := by
    have himports := h.imports
    obtain ⟨classified, d₀, hbuilt⟩ := h.built
    obtain ⟨id, hid, rfl⟩ := Option.map_eq_some_iff.mp href
    rw [himports, hbuilt.written.imports]
    rw [hbuilt.prepared.standard] at hid
    split at hid
    · next hneeded => exact ⟨hbuilt.prepared.leading hneeded, by rw [← Option.some.inj hid]⟩
    · exact Option.noConfusion rfl (heq_of_eq hid)
  obtain ⟨hleading, rfl⟩ := hleading
  cases hkind with
  | imported hlibrary himported _ =>
    have hsame := congrArg ImportedLibrary.guid (Option.some.inj (himported.symm.trans hleading))
    exact absurd hsame (hkinded.standard _ hlibrary)
  | standard _ hindex => exact ⟨hindex, rfl⟩

/-- What an expression in an implements position stands for is an interface. -/
theorem kind_of_implemented (h : ExportedFrom unit resolver settings references placed refs d l)
    (hkinded : WellKinded references) {type : TypeExpr} {ref : TypeRef}
    (href : (implemented (settingOf unit resolver settings refs).scope type).ref? = some ref)
    (hkind : RefersToKind references l.library ref k) : k = .interface := by
  cases standsFor_iff.mpr href with
  | @own id r hown hinterface =>
    replace hown : refs.own? id = some r := hown
    have hplaced : ∃ p ∈ placed, r = { handle := p.handle, target := p.type.target } := by
      obtain ⟨classified, d₀, hbuilt⟩ := h.built
      unfold ReferenceTable.own? at hown
      rw [hbuilt.prepared.own] at hown
      obtain ⟨p, hp, -, hsame⟩ := own?_ownReferences hown
      exact ⟨p, hp, hsame⟩
    obtain ⟨p, hp, rfl⟩ := hplaced
    rw [h.kind_of_placed hp hkind]
    exact ofTypeKind_of_isInterface hinterface
  | external hexternal hinterface =>
    obtain ⟨-, -, found, -, hsame, hfound, -⟩ := h.kind_of_external hkinded hexternal
    rw [hfound k hkind, ← hsame, hinterface]

/-- The default interface of a class is an interface. -/
theorem kind_of_default (h : ExportedFrom unit resolver settings references placed refs d l)
    (hkinded : WellKinded references) (hp : p ∈ placed) {default : TypeRef}
    (hdefault : p.default? (settingOf unit resolver settings refs).scope = some default)
    (hkind : RefersToKind references l.library default k) : k = .interface := by
  unfold Placed.default? at hdefault
  split at hdefault
  · obtain ⟨c, hc, rfl⟩ := Option.map_eq_some_iff.mp hdefault
    rcases (available_entries hc).1 with ⟨handle, hhandle, hsame⟩ | ⟨type, href⟩ | href
    · obtain ⟨made, hmade, rfl⟩ := Option.map_eq_some_iff.mp hhandle
      rw [hsame] at hkind
      exact h.kind_of_made hp hmade hkind
    · exact h.kind_of_implemented hkinded href hkind
    · exact (h.kind_of_standard hkinded href hkind).2
  · exact nomatch hdefault
  · exact nomatch hdefault
  · exact nomatch hdefault

/-- The default interface in the entry of a class is that of the class. -/
theorem exists_default_of_exported
    (h : ExportedFrom unit resolver settings references placed refs d l) {t : ExportedType}
    (ht : t ∈ l.exported) {handle : Handle} (hdefault : t.defaultInterface = some handle) :
    ∃ p ∈ placed,
      p.default? (settingOf unit resolver settings refs).scope = some (.own handle) := by
  rw [h.exported] at ht
  obtain ⟨p, hp, ht⟩ := List.mem_flatMap.mp ht
  rcases List.mem_append.mp ht with ht | ht
  · obtain ⟨c, -, rfl⟩ := List.mem_map.mp ht
    exact nomatch hdefault
  · obtain rfl := List.mem_singleton.mp ht
    have hown := (h.own?_scope p.type.id).symm.trans (h.own?_placed hp)
    replace hown : (withDefaults (settingOf unit resolver settings refs).scope placed).own? p.type.id =
      _ := hown
    dsimp only at hdefault
    rw [hown, Option.bind_some] at hdefault
    refine ⟨p, hp, ?_⟩
    dsimp only at hdefault
    split at hdefault
    · next other hother =>
      obtain rfl := Option.some.inj hdefault
      exact hother
    · exact Option.noConfusion rfl (heq_of_eq hdefault)

/-- What the scope has for a type of the unit is a placed type. -/
theorem exists_of_own? (h : ExportedFrom unit resolver settings references placed refs d l)
    {id : TypeId} {ref : LocalRef}
    (href : ((settingOf unit resolver settings refs).withDefaults placed).scope.refs.own? id =
      some ref) : ∃ p ∈ placed, p.type.id = id ∧
        ref = { handle := p.handle, target := p.type.target
                default := p.default? (settingOf unit resolver settings refs).scope } := by
  rw [← h.own?_scope] at href
  unfold ReferenceTable.own? at href
  rw [h.own_scope] at href
  obtain ⟨p, hp, hentry⟩ := List.mem_map.mp (mem_of_lookup href)
  obtain ⟨hid, hsame⟩ := Prod.mk.inj hentry
  exact ⟨p, hp, hid, hsame.symm⟩

/-- A type of the unit that is a value becomes one. -/
theorem kind_of_value (h : ExportedFrom unit resolver settings references placed refs d l)
    (hp : p ∈ placed) {decl : TypeDecl} (hdecl : unit.type? p.type.id = some decl)
    (hvalue : decl.isObject = false) (hkind : RefersToKind references l.library (.own p.handle) k) :
    k ≠ .interface ∧ k ≠ .coClass := by
  obtain ⟨classified, d₀, hbuilt⟩ := h.built
  obtain ⟨hdecl', htarget⟩ := hbuilt.type?_placed hp
  obtain rfl := Option.some.inj (hdecl.symm.trans hdecl')
  rw [h.kind_of_placed hp hkind]
  unfold target? at htarget
  unfold TypeDecl.isObject at hvalue
  split at htarget
  · exact Option.noConfusion rfl (heq_of_eq htarget)
  · rw [← Option.some.inj htarget]
    split at hvalue
    · exact Bool.noConfusion hvalue
    · exact Bool.noConfusion hvalue
    · next hbody => rw [hbody]; exact ⟨nofun, nofun⟩
    · next hbody => rw [hbody]; exact ⟨nofun, nofun⟩

/-- What the scope has for references respects their kinds. -/
theorem provides_respects (h : ExportedFrom unit resolver settings references placed refs d l)
    (hkinded : WellKinded references) (hagree : ExternalsAgree unit references l) :
    ((settingOf unit resolver settings refs).withDefaults placed).scope.Provides
      (· ∈ l.externalTypes unit) (Respects (RefersToKind references l.library)) where
  ownObject id ref href := by
    obtain ⟨r, hr, htarget⟩ := Option.bind_eq_some_iff.mp href
    obtain ⟨p, hp, -, rfl⟩ := h.exists_of_own? hr
    refine respects_pointer fun k hkind => ?_
    dsimp only at htarget
    cases hsort : p.type.target with
    | interface binding =>
      rw [hsort] at htarget
      obtain rfl := Option.some.inj htarget
      rw [h.kind_of_placed hp hkind, hsort]
      exact ofTypeKind_binding binding
    | coClass creatable binding =>
      rw [hsort] at htarget
      exact h.kind_of_default hkinded hp htarget hkind
    | enumeration =>
      rw [hsort] at htarget
      exact nomatch htarget
    | record =>
      rw [hsort] at htarget
      exact nomatch htarget
  externalObject type htype ref href := by
    obtain ⟨r, hr, hfound⟩ := Option.bind_eq_some_iff.mp href
    obtain ⟨-, -, found, -, hsame, hkind, hdefault⟩ :=
      h.kind_of_external hkinded ((external?_withDefaults _ _ type).symm.trans hr)
    refine respects_pointer fun k hk => ?_
    cases hsort : r.kind with
    | interface =>
      rw [hsort] at hfound
      obtain rfl := Option.some.inj hfound
      rw [hkind k hk, ← hsame, hsort]
    | coClass =>
      rw [hsort] at hfound
      exact hdefault ref hfound k hk
    | enumeration =>
      rw [hsort] at hfound
      exact nomatch hfound
    | record =>
      rw [hsort] at hfound
      exact nomatch hfound
  ownValue id decl hdecl hvalue ref href := by
    obtain ⟨p, hp, rfl, rfl⟩ := h.exists_of_own? href
    exact respects_userDefined fun k hkind => h.kind_of_value hp hdecl hvalue hkind
  externalValue type htype hvalue ref href := by
    obtain ⟨place, index, found, hlookup, -, hkind, -⟩ :=
      h.kind_of_external hkinded ((external?_withDefaults _ _ type).symm.trans href)
    have hobject : type.kind ≠ .interface ∧ type.kind ≠ .objectClass := by
      constructor <;> intro hsort <;> simp [Scope.isObjectRef, hsort] at hvalue
    refine respects_userDefined fun k hk => ?_
    rw [hkind k hk]
    exact hagree type htype hobject.1 hobject.2 (place, index, found) hlookup
  standard index hindex ref href := by
    refine respects_userDefined fun k hk => ?_
    obtain ⟨hcontract, -⟩ :=
      h.kind_of_standard hkinded ((standard?_withDefaults _ _ index).symm.trans href) hk
    rcases hindex with rfl | rfl <;> exact absurd hcontract (by decide)

/-- **The descriptors of a library respect kinds.** -/
theorem kindsRespected (h : ExportedFrom unit resolver settings references placed refs d l)
    (hkinded : WellKinded references) (hagree : ExternalsAgree unit references l) :
    KindsRespected references l.library := by
  have hlayered := layered_respects (RefersToKind references l.library)
  have hprovides := h.provides_respects hkinded hagree
  have hcontent : ∀ t ∈ l.library.types, ∃ k, Content (settings.attributes unit.identity).version
      (settingOf unit resolver settings refs) placed k t := fun t ht => by
    obtain ⟨i, hi⟩ := List.mem_iff_getElem?.mp ht
    exact ⟨_, h.content hi⟩
  refine ⟨fun t ht f hf => ?_, fun t ht v hv element helement => ?_⟩
  · obtain ⟨k, hcontent⟩ := hcontent t ht
    cases hcontent with
    | interface hfill =>
      obtain ⟨hp, binding, base, -, hmade⟩ := mem_filling hfill
      obtain ⟨s, hs, rfl⟩ := List.mem_map.mp hf
      rw [hmade] at hs
      exact has_interfaceFunctions hlayered hprovides (fun m hm => h.lists hp hm) hs
    | classInterface hp hc =>
      obtain ⟨s, hs, rfl⟩ := List.mem_map.mp hf
      exact has_interfaceFunctions hlayered hprovides (fun m hm => h.lists hp hm) hs
    | coClass | record | enumeration => exact nomatch hf
  · obtain ⟨k, hcontent⟩ := hcontent t ht
    cases hcontent with
    | @record p hp htarget =>
      obtain ⟨element', helement', hrespects⟩ := has_fieldVariables hlayered hprovides p.type.decl 0
        (fun f hf e he => h.mem_externalTypes_of_signature hp (List.mem_append_left _
          (List.mem_append_right _ (List.mem_map_of_mem hf))) he) v hv
      obtain rfl := VariableContent.field.inj (helement.symm.trans helement')
      exact hrespects
    | enumeration => exact (constantVariables_ne_field _ v hv element helement).elim
    | interface | classInterface | coClass => exact nomatch hv

end ExportedFrom

/-! ## Runs -/

/-- The kinds in a library are those that other units see, and its default interfaces are interfaces. -/
theorem WellKinded.append {unit : Reflection} {resolver : Resolver} {settings : Settings}
    {references : List ReferencedLibrary} {placed : List Placed} {refs : ReferenceTable} {d : Draft}
    {l : ExportedLibrary Library} (hkinded : WellKinded references)
    (h : ExportedFrom unit resolver settings references placed refs d l) :
    WellKinded (references ++ [l.reference]) := by
  have hguid : l.reference.guid = l.library.attributes.guid := by
    rw [h.attributes, ← h.identity]
    rfl
  obtain ⟨hstandard, hother⟩ := h.guid_ne
  rw [← hguid] at hstandard hother
  refine ⟨fun r hr r' hr' hsame => ?_, List.forall_mem_append.mpr
    ⟨hkinded.standard, List.forall_mem_singleton.mpr hstandard⟩, List.forall_mem_append.mpr
    ⟨hkinded.defaults, List.forall_mem_singleton.mpr fun t hmem i hi => ?_⟩⟩
  · rcases List.mem_append.mp hr with hr | hr <;> rcases List.mem_append.mp hr' with hr' | hr'
    · exact hkinded.guids r hr r' hr' hsame
    · exact absurd (List.mem_singleton.mp hr' ▸ hsame) (hother r hr)
    · exact absurd (List.mem_singleton.mp hr ▸ hsame.symm) (hother r' hr')
    · rw [List.mem_singleton.mp hr, List.mem_singleton.mp hr']
  · obtain ⟨t, ht, rfl⟩ := List.mem_map.mp hmem
    obtain ⟨handle, hdefault, hi⟩ := Option.bind_eq_some_iff.mp hi
    obtain ⟨hlt, hhandle, -⟩ := List.findIdx?_eq_some_iff_getElem.mp hi
    have hentry := List.getElem?_eq_getElem hlt
    refine ⟨l.referencedType l.exported[i], ?_, ?_⟩
    · change (l.exported.map l.referencedType)[i]? = _
      rw [List.getElem?_map, hentry]
      rfl
    · obtain ⟨p, hp, hmarked⟩ := h.exists_default_of_exported ht hdefault
      obtain ⟨info, hinfo, -, hkind⟩ := h.exists_type? (List.mem_of_getElem? hentry)
      have hrefers : RefersToKind references l.library (.own l.exported[i].handle) _ := .own hinfo
      rw [beq_iff_eq.mp hhandle] at hrefers
      have hinterface := h.kind_of_default hkinded hp hmarked hrefers
      rwa [hkind] at hinterface

/-- The libraries that are made on demand keep the kinds apart. -/
theorem wellKinded_generated {job : Job} {out : Output Library} (h : job.toMemory = .ok out)
    (hkinded : WellKinded job.settings.references) (n : Nat) :
    WellKinded (job.settings.references ++ (out.dependencies.take n).map (·.reference)) := by
  induction n with
  | zero => simpa using hkinded
  | succ n ih =>
    cases hl : out.dependencies[n]? with
    | none =>
      have hend := List.getElem?_eq_none_iff.mp hl
      rwa [List.take_of_length_le (Nat.le_succ_of_le hend), ← List.take_of_length_le hend]
    | some l =>
      obtain ⟨-, unit, -, placed, refs, d, hexported⟩ := (madeInTurn_run h).1 n l hl
      have happended := ih.append hexported
      rwa [List.append_assoc, ← List.map_singleton (f := fun l : ExportedLibrary Library => l.reference),
        ← List.map_append, ← Option.toList_some, ← hl, ← List.take_add_one] at happended

/-- **Descriptors respect kinds.** Let the libraries that a run is given be told apart by their
identifiers, also from the standard library, and let their default interfaces be interfaces. Then in
every library that the run writes out, and that refers to no interface or class of another unit as if it
were a value, descriptors refer to interfaces right beneath pointers only, and to no class. -/
theorem kindsRespected_run {job : Job} {out : Output Library} (h : job.toMemory = .ok out)
    (hkinded : WellKinded job.settings.references) :
    out.Forall job fun unit _ references l =>
      ExternalsAgree unit references l → KindsRespected references l.library := by
  have hgenerated := wellKinded_generated h hkinded
  obtain ⟨hdependencies, -, unit, hunit, placed, refs, d, hmain⟩ := madeInTurn_run h
  obtain rfl := List.mem_singleton.mp hunit
  refine ⟨hmain.kindsRespected ?_, fun n l hl => ?_⟩
  · have hall := hgenerated out.dependencies.length
    rwa [List.take_length] at hall
  · obtain ⟨-, unit, hunit, placed, refs, d, hexported⟩ := hdependencies n l hl
    exact ⟨unit, hunit, hexported.unitName, hexported.kindsRespected (hgenerated n)⟩

/-- An enum of another unit. -/
def grade : ExternalType where
  unit := "School"
  space := "M"
  name := "Grade"
  kind := .enumeration .i32

/-- A class of the same unit. -/
def pupil : ExternalType where
  unit := "School"
  space := "M"
  name := "Pupil"
  kind := .objectClass

/-- A library of that unit in which the enum is a type of the kind. -/
def school (kind : ReferencedKind) : ReferencedLibrary where
  unit := "School"
  name := "School"
  guid := Guid.ofBytes [7]
  version := { major := 1 }
  types :=
    [{ name := "IPupil", kind := .interface, source := some "M.IPupil" },
     { name := "Pupil", kind := .coClass, source := some "M.Pupil", defaultInterface := some 0 },
     { name := "Grade", kind := kind, source := some "M.Grade" }]

/-- A unit that refers to both types, given the library. -/
def report (kind : ReferencedKind) : Job where
  unit := SourceUnit.reflection
    { identity := { name := "Report", version := { major := 1 }, guid := some (Guid.ofBytes [9]) }
      types :=
        [{ space := "N", name := "Mark", guid := some (Guid.ofBytes [1])
           body := .record [{ name := "grades", type := .array (.external grade) }] },
         { space := "N", name := "IReport", guid := some (Guid.ofBytes [2]), body := .interface none
           members :=
             [(Member.method "Send" .void).addParameter
               { name := "pupil", type := .external pupil, byRef := true }] }] }
  settings := { references := [school kind] }

theorem report_wellKinded (kind : ReferencedKind) : WellKinded (report kind).settings.references where
  guids := by simp [report]
  standard := List.forall_mem_singleton.mpr (show Guid.ofBytes [7] ≠ Standard.guid by decide)
  defaults := by simp [report, school]

/-- An enum that is one stands as it is, and a class stands beneath a pointer as its default
interface. -/
theorem report_kindsRespected : ∃ out, (report .enumeration).toMemory = .ok out ∧
    (out.main.sites (report .enumeration).unit (report .enumeration).settings
      (report .enumeration).settings.references).filterMap (·.coreDescriptor) =
        [.userDefined (.imported ⟨1⟩ 2), .pointer (.userDefined (.imported ⟨1⟩ 0))] ∧
    KindsRespected (report .enumeration).settings.references out.main.library := by
  obtain ⟨out, h, hview⟩ : ∃ out, (report .enumeration).toMemory = .ok out ∧
      ((out.main.sites (report .enumeration).unit (report .enumeration).settings
          (report .enumeration).settings.references).filterMap (·.coreDescriptor),
        out.dependencies.length, decide (ExternalsAgree (report .enumeration).unit
          (report .enumeration).settings.references out.main)) =
      ([.userDefined (.imported ⟨1⟩ 2), .pointer (.userDefined (.imported ⟨1⟩ 0))], 0, true) :=
    Job.exists_output (by decide +kernel)
  simp only [Prod.mk.injEq, List.length_eq_zero_iff, decide_eq_true_eq] at hview
  obtain ⟨hsites, hnone, hagree⟩ := hview
  have hrespected := (kindsRespected_run h (report_wellKinded .enumeration)).1
  rw [hnone, List.map_nil, List.append_nil] at hrespected
  exact ⟨out, h, hsites, hrespected hagree⟩

/-- An enum that has become a class is referred to as it is: a descriptor refers to a class. -/
theorem report_refersToClass : WellKinded (report .coClass).settings.references ∧
    ∃ out, (report .coClass).toMemory = .ok out ∧ ∃ t ∈ out.main.library.types, ∃ v ∈ t.vars,
      ∃ element ref, v.desc.content = .field element ∧ element.type.ref? = some ref ∧
        RefersToKind (report .coClass).settings.references out.main.library ref .coClass := by
  obtain ⟨out, h, hview⟩ : ∃ out, (report .coClass).toMemory = .ok out ∧
      (out.main.library.types.any (fun t => t.vars.any fun v => v.desc.content ==
          .field { type := .safeArray (.userDefined (.imported ⟨1⟩ 2)) }),
        out.main.library.imports[1]?) = (true, some (school .coClass).toImport) :=
    Job.exists_output (by decide +kernel)
  simp only [Prod.mk.injEq, List.any_eq_true, beq_iff_eq] at hview
  obtain ⟨⟨t, ht, v, hv, hcontent⟩, himported⟩ := hview
  have hfound : (school .coClass).types[2]? =
      some { name := "Grade", kind := .coClass, source := some "M.Grade" } := rfl
  exact ⟨report_wellKinded .coClass, out, h, t, ht, v, hv, _, _, hcontent, rfl,
    RefersToKind.imported (List.mem_singleton_self _) himported hfound⟩

end Export

end Automation

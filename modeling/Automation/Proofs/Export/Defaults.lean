import Automation.Proofs.Export.Sites

/-!
# Default interfaces

The default interface of a class is written three times: it is marked among the interfaces that the
class implements, it is noted in the list of exported types, and references to the class are described
by it. `defaultsAgree_run` says that the three agree in every library of a successful run.
-/

namespace Automation.Export

open Library Source

/-- The interface is the default one of the class wherever the library has it. -/
structure IsDefault (unit : Reflection) (settings : Settings) (references : List ReferencedLibrary)
    (l : ExportedLibrary Library) (id : TypeId) (default : TypeRef) : Prop where
  /-- It is marked in the class. -/
  info : (l.info? id).bind TypeInfo.defaultInterface? = some default
  /-- References to the class are pointers to it. -/
  sites : ∀ site ∈ l.sites unit settings references, site.core.1 = .named id → KeepsObject site.form →
    site.coreDescriptor = some (.pointer (.userDefined default))
  isExported : ∃ t ∈ l.exported, t.id = some id
  /-- It is noted with the class if it is a type of the library. -/
  exported : ∀ t ∈ l.exported, t.id = some id → ∀ handle,
    t.defaultInterface = some handle ↔ default = .own handle

/-- Every exported class has a default interface. -/
def DefaultsAgree (unit : Reflection) (settings : Settings) (references : List ReferencedLibrary)
    (l : ExportedLibrary Library) : Prop :=
  ∀ id ∈ unit.ids, ∀ decl creatable binding, unit.type? id = some decl →
    target? decl = some (.coClass creatable binding) →
      ∃ default, IsDefault unit settings references l id default

theorem isObject_of_target? {decl : TypeDecl} {creatable : Bool} {binding : Option Binding}
    (h : target? decl = some (.coClass creatable binding)) : decl.isObject = true := by
  unfold target? at h
  unfold TypeDecl.isObject
  split at h
  · exact Option.noConfusion rfl (heq_of_eq h)
  · cases hbody : decl.body with
    | interface capability => rfl
    | objectClass info => rfl
    | enumeration underlying constants =>
      rw [hbody] at h
      exact Target.noConfusion (Option.some.inj h)
    | record fields =>
      rw [hbody] at h
      exact Target.noConfusion (Option.some.inj h)

/-- Nothing is wrong with a class: it has one default interface. -/
theorem countP_isDefault_of_layoutFault? {d : Draft} {handle : Handle} {info : TypeInfo}
    (h : d.layoutFault? handle info = none) (hkind : info.kind = .coClass) :
    info.implemented.countP ImplementedType.isDefault = 1 := by
  have hclass : ¬info.kind.isInterface = true := by
    rw [hkind]
    exact Bool.false_ne_true
  unfold Draft.layoutFault? at h
  rw [if_neg hclass, if_pos hkind] at h
  split at h
  · exact Option.noConfusion rfl (heq_of_eq h)
  · unfold Layout.classFault? at h
    dsimp only at h
    split at h
    · next hone => exact hone
    · exact Option.noConfusion rfl (heq_of_eq h)

namespace ExportedFrom

variable {unit : Reflection} {resolver : Resolver} {settings : Settings}
  {references : List ReferencedLibrary} {placed : List Placed} {refs : ReferenceTable} {d : Draft}
  {l : ExportedLibrary Library} {p : Placed} {creatable : Bool} {binding : Option Binding}
  {default : TypeRef}

/-- A class that was laid out has a default interface. -/
theorem exists_default (h : ExportedFrom unit resolver settings references placed refs d l)
    (hp : p ∈ placed) (htarget : p.type.target = .coClass creatable binding) :
    ∃ default, p.default? (settingOf unit resolver settings refs).scope = some default := by
  obtain ⟨classified, d₀, hbuilt⟩ := h.built
  have hopen := hbuilt.written.types (.coClass hp (by rw [htarget]; rfl))
  have hnone := h.faultless p.handle (List.mem_flatMap.mpr ⟨p, hp, p.handle_mem⟩) _ hopen
  have hkind : p.type.target.typeKind = .coClass := by
    rw [htarget]
    rfl
  have hcount : (p.implemented (settingOf unit resolver settings refs).scope).countP
      ImplementedType.isDefault = 1 := countP_isDefault_of_layoutFault? hnone hkind
  obtain ⟨e, he, hdefault⟩ := List.countP_pos_iff.mp (hcount ▸ Nat.one_pos)
  have hsome := List.find?_isSome.mpr ⟨e, he, hdefault⟩
  rw [← p.find?_isDefault]
  exact Option.isSome_iff_exists.mp (Option.isSome_map.trans hsome)

/-- The default interface that a class was given is its default wherever the library has it. -/
theorem isDefault (h : ExportedFrom unit resolver settings references placed refs d l)
    (hp : p ∈ placed) (htarget : p.type.target = .coClass creatable binding)
    (hdefault : p.default? (settingOf unit resolver settings refs).scope = some default) :
    IsDefault unit settings references l p.type.id default := by
  have hown := h.own?_placed hp
  rw [hdefault] at hown
  refine ⟨?_, fun site hsite hcore hform => ?_, ?_, fun t ht hid handle => ?_⟩
  · obtain ⟨info, hinfo, himplemented⟩ := h.type?_placed hp
    rw [h.info?_eq hp, hinfo, Option.bind_some]
    unfold TypeInfo.defaultInterface?
    rw [himplemented, p.find?_isDefault]
    exact hdefault
  · have href : IsReference site.core.1 := by
      rw [hcore]
      trivial
    obtain ⟨core, position, hdescribed, hdescriptor⟩ := (h.isDescribed site hsite).exists_core href
    rw [hcore] at hdescribed
    obtain ⟨classified, d₀, hbuilt⟩ := h.built
    obtain ⟨hdecl, hexported⟩ := hbuilt.type?_placed hp
    rw [htarget] at hexported
    rw [hdescriptor, (describeNamed_class hdescribed hdecl (isObject_of_target? hexported) hown htarget
      rfl hform).1]
  · rw [h.exported]
    exact ⟨_, List.mem_flatMap.mpr ⟨p, hp, List.mem_append_right _ List.mem_cons_self⟩, rfl⟩
  · obtain ⟨classified, d₀, hbuilt⟩ := h.built
    rw [h.exported] at ht
    obtain ⟨q, hq, ht⟩ := List.mem_flatMap.mp ht
    obtain ⟨hsame, -⟩ := id_of_mem_exported ht hid
    obtain rfl := hbuilt.id_inj hq hp hsame
    rw [h.own?_scope] at hown
    replace hown : (withDefaults (settingOf unit resolver settings refs).scope placed).own? q.type.id =
      _ := hown
    unfold Placed.exported at ht
    rcases List.mem_append.mp ht with ht | ht
    · obtain ⟨c, -, rfl⟩ := List.mem_map.mp ht
      exact Option.noConfusion rfl (heq_of_eq hid)
    · obtain rfl := List.mem_singleton.mp ht
      dsimp only
      rw [hown]
      cases default with
      | own other => simp
      | imported library index => simp

/-- **Every exported class has a default interface**, one and the same wherever it is written. -/
theorem defaultsAgree (h : ExportedFrom unit resolver settings references placed refs d l) :
    DefaultsAgree unit settings references l := by
  intro id hid decl creatable binding hdecl htarget
  obtain ⟨p, hp, htype⟩ := h.exists_placed hid hdecl htarget
  have hclass : p.type.target = .coClass creatable binding := by rw [htype]
  obtain ⟨default, hdefault⟩ := h.exists_default hp hclass
  have hisDefault := h.isDefault hp hclass hdefault
  rw [htype] at hisDefault
  exact ⟨default, hisDefault⟩

end ExportedFrom

/-- **The default interfaces agree in every library of a successful run**: a class is described by the
interface that it marks as its default, and its entry among the exported types notes that interface if
it is one of the same library. -/
theorem defaultsAgree_run {job : Job} {out : Output Library} (h : job.toMemory = .ok out) :
    out.Forall job DefaultsAgree :=
  forall_run h fun _ _ hexported => hexported.defaultsAgree

/-- A unit with two classes: one implements an interface of the unit, the other implements nothing. A
method refers to the first and a field to the second. -/
def depot : Job where
  unit := SourceUnit.reflection
    { identity := { name := "Depot", version := { major := 1 }, guid := some (Guid.ofBytes [9]) }
      types :=
        [{ space := "N", name := "IVan", guid := some (Guid.ofBytes [1]), body := .interface none
           members := [Member.method "Load" .void] },
         { space := "N", name := "Van", guid := some (Guid.ofBytes [2]), interfaces := [.named 0]
           body := .objectClass { classInterface := .none } },
         { space := "N", name := "Crate", guid := some (Guid.ofBytes [3])
           body := .objectClass { classInterface := .none } },
         { space := "N", name := "Bay", guid := some (Guid.ofBytes [4])
           body := .record [{ name := "crates", type := .array (.named 2) }] },
         { space := "N", name := "IDepot", guid := some (Guid.ofBytes [5]), body := .interface none
           members :=
             [(Member.method "Park" .void).addParameter
               { name := "van", type := .named 1, byRef := true }] }] }

/-- The class that implements nothing has the identity contract as its default. -/
theorem depot_defaultsAgree : ∃ out, depot.toMemory = .ok out ∧
    (out.main.info? 1).bind TypeInfo.defaultInterface? = some (.own ⟨0⟩) ∧
    (out.main.info? 2).bind TypeInfo.defaultInterface? =
      some (.imported ⟨0⟩ Standard.unknownIndex) ∧
    (out.main.sites depot.unit depot.settings []).filterMap (fun site =>
      site.coreDescriptor.map fun core => (site.subject, core)) =
        [("N.Bay.crates", .pointer (.userDefined (.imported ⟨0⟩ Standard.unknownIndex))),
          ("N.IDepot.Park", .pointer (.userDefined (.own ⟨0⟩)))] ∧
    DefaultsAgree depot.unit depot.settings [] out.main := by
  have hview : depot.toMemory.toOption.map (fun out =>
      ((out.main.info? 1).bind TypeInfo.defaultInterface?,
        (out.main.info? 2).bind TypeInfo.defaultInterface?,
        (out.main.sites depot.unit depot.settings []).filterMap (fun site =>
          site.coreDescriptor.map fun core => (site.subject, core)), out.dependencies.length)) =
      some (some (.own ⟨0⟩), some (.imported ⟨0⟩ Standard.unknownIndex),
        [("N.Bay.crates", .pointer (.userDefined (.imported ⟨0⟩ Standard.unknownIndex))),
          ("N.IDepot.Park", .pointer (.userDefined (.own ⟨0⟩)))], 0) := by
    decide +kernel
  cases h : depot.toMemory with
  | error e =>
    rw [h] at hview
    exact Option.noConfusion rfl (heq_of_eq hview)
  | ok out =>
    rw [h] at hview
    simp only [Except.toOption, Option.map_some, Option.some.injEq, Prod.mk.injEq,
      List.length_eq_zero_iff] at hview
    obtain ⟨hvan, hcrate, hsites, hnone⟩ := hview
    have hagree := (defaultsAgree_run h).1
    rw [hnone] at hagree
    exact ⟨out, rfl, hvan, hcrate, hsites, hagree⟩

end Automation.Export

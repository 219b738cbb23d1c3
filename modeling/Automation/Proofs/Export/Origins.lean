import Automation.Proofs.Export.Faults
import Automation.Proofs.Export.Sites

/-!
# What the types of a library are made from

A library lists its types with the source types that they come from. From this list alone it can be
told what the contents of a type are made from (`ExportedLibrary.origin`): the members of an interface or
class, the fields of a record, or neither. `ExportedFrom.hasOrigin` says that the contents are made from
these.
-/

namespace Automation.Export

open Library Source

/-- What the contents of a type of a library are made from. -/
inductive Origin where
  /-- The functions are made from the members of a declaration. -/
  | members (owner : TypeDecl) (binding : Binding)
  /-- The variables are made from the fields of a declaration. -/
  | fields (owner : TypeDecl)
  /-- The type is an enum or a class. -/
  | other

/-- What the contents of a declaration's own type are made from. -/
def Origin.ofTarget (owner : TypeDecl) : Target → Origin
  | .interface binding => .members owner binding
  | .record => .fields owner
  | .coClass _ _ | .enumeration => .other

/-- The declaration of the type at an index, and what it becomes. An interface that is made from a class
has no declaration of its own. -/
def ExportedLibrary.declared? (l : ExportedLibrary Library) (unit : Reflection) (index : Nat) :
    Option (TypeDecl × Target) :=
  (l.exported[index]?.bind (·.id)).bind fun id =>
    (unit.type? id).bind fun decl => (target? decl).map (decl, ·)

/-- What the contents of the type at an index are made from. An interface that is made from a class comes
right before it. -/
def ExportedLibrary.origin (l : ExportedLibrary Library) (unit : Reflection) (index : Nat) : Origin :=
  match l.declared? unit index with
  | some (decl, target) => .ofTarget decl target
  | none =>
    match l.declared? unit (index + 1) with
    | some (decl, .coClass _ (some binding)) => .members decl binding
    | _ => .other

/-- The contents of a type are made from an origin, in the scope of the library. -/
def HasOrigin (l : ExportedLibrary Library) (unit : Reflection) (resolver : Resolver)
    (settings : Settings) (references : List ReferencedLibrary) (t : TypeInfo) : Origin → Prop
  | .members owner binding =>
    MadeFrom (l.synthesis unit resolver settings references binding) owner
      (owner.members.filter fun m => m.isExportable && (l.scope unit references).describes m)
      t.functions ∧ t.vars = []
  | .fields owner => FieldsFrom (l.scope unit references) owner t.vars ∧ t.functions = []
  | .other => t.functions = [] ∧ ∀ v ∈ t.vars, ∀ element, v.desc.content ≠ .field element

namespace ExportedFrom

variable {unit : Reflection} {resolver : Resolver} {settings : Settings}
  {references : List ReferencedLibrary} {placed : List Placed} {refs : ReferenceTable} {d : Draft}
  {l : ExportedLibrary Library}

/-- The types are listed in the order of the library. -/
theorem handle_exported (h : ExportedFrom unit resolver settings references placed refs d l) {i : Nat}
    {e : ExportedType} (he : l.exported[i]? = some e) : e.handle = ⟨i⟩ := by
  obtain ⟨classified, d₀, hbuilt⟩ := h.built
  have hhandles : l.exported.map (·.handle) = handlesFrom 0 d.types.length := by
    rw [h.exported, map_handle_exported]
    exact hbuilt.handles
  have hhandle : (handlesFrom 0 d.types.length)[i]? = some e.handle := by
    rw [← hhandles, List.getElem?_map, he]
    rfl
  obtain ⟨hlt, hget⟩ := List.getElem?_eq_some_iff.mp hhandle
  simpa [handlesFrom] using hget.symm

/-- The entries of a placed type stand side by side. -/
theorem exists_entries (h : ExportedFrom unit resolver settings references placed refs d l) {p : Placed}
    (hp : p ∈ placed) : ∃ first last table, l.exported = first ++ (p.exported table ++ last) := by
  have hexported := h.exported
  obtain ⟨before, after, rfl⟩ := List.append_of_mem hp
  rw [List.flatMap_append, List.flatMap_cons] at hexported
  exact ⟨_, _, _, hexported⟩

theorem declared?_eq (h : ExportedFrom unit resolver settings references placed refs d l) {p : Placed}
    (hp : p ∈ placed) {i : Nat} {e : ExportedType} (he : l.exported[i]? = some e)
    (hid : e.id = some p.type.id) : l.declared? unit i = some (p.type.decl, p.type.target) := by
  obtain ⟨classified, d₀, hbuilt⟩ := h.built
  obtain ⟨hdecl, htarget⟩ := hbuilt.type?_placed hp
  unfold ExportedLibrary.declared?
  rw [he, Option.bind_some, hid, Option.bind_some, hdecl, Option.bind_some, htarget]
  rfl

/-- A placed type has its own declaration. -/
theorem origin_own (h : ExportedFrom unit resolver settings references placed refs d l) {p : Placed}
    (hp : p ∈ placed) {i : Nat} (hhandle : p.handle = ⟨i⟩) :
    l.origin unit i = .ofTarget p.type.decl p.type.target := by
  obtain ⟨first, last, table, hexported⟩ := h.exists_entries hp
  obtain ⟨e, he, hid, hsame⟩ : ∃ e ∈ p.exported table, e.id = some p.type.id ∧
      e.handle = p.handle := by simp [Placed.exported]
  have hmem : e ∈ l.exported := by
    rw [hexported]
    exact List.mem_append_right _ (List.mem_append_left _ he)
  obtain ⟨j, hj⟩ := List.mem_iff_getElem?.mp hmem
  obtain rfl : j = i := Handle.mk.inj ((h.handle_exported hj).symm.trans (hsame.trans hhandle))
  unfold ExportedLibrary.origin
  rw [h.declared?_eq hp hj hid]

/-- The interface that is made from a class has the members of the class. -/
theorem origin_classInterface (h : ExportedFrom unit resolver settings references placed refs d l)
    {p : Placed} (hp : p ∈ placed) {c : ClassInterface} (hc : c ∈ p.classInterface) {i : Nat}
    (hhandle : c.handle = ⟨i⟩) : l.origin unit i = .members p.type.decl c.binding := by
  obtain ⟨first, last, table, hexported⟩ := h.exists_entries hp
  have hsome : p.classInterface = some c := hc
  have hentry : l.exported[first.length]? =
      some { name := c.name, kind := c.binding.typeKind, handle := c.handle } := by
    rw [hexported]
    simp [Placed.exported, hsome]
  have hnext : ∃ e, l.exported[first.length + 1]? = some e ∧ e.id = some p.type.id := by
    rw [hexported]
    simp [Placed.exported, hsome]
  obtain rfl : first.length = i :=
    Handle.mk.inj ((h.handle_exported hentry).symm.trans hhandle)
  obtain ⟨e, he, hid⟩ := hnext
  have hnone : l.declared? unit first.length = none := by
    unfold ExportedLibrary.declared?
    rw [hentry]
    rfl
  obtain ⟨classified, d₀, hbuilt⟩ := h.built
  obtain ⟨creatable, htarget⟩ := hbuilt.prepared.standing.classed p hp c hc
  unfold ExportedLibrary.origin
  rw [hnone, h.declared?_eq hp he hid, htarget]

/-- An interface that is filled has the members that it is filled from. -/
theorem origin_of_isFilled (h : ExportedFrom unit resolver settings references placed refs d l)
    {p : Placed} {i : Nat} {binding : Binding} {base : Inherited}
    (hfilled : IsFilled ((settingOf unit resolver settings refs).withDefaults placed) placed p ⟨i⟩
      binding base) : l.origin unit i = .members p.type.decl binding := by
  generalize hk : (⟨i⟩ : Handle) = k at hfilled
  cases hfilled with
  | interface hfill htarget =>
    rw [h.origin_own (mem_filling hfill).1 hk.symm, htarget]
    rfl
  | classInterface hp hc => exact h.origin_classInterface hp hc hk.symm

/-- An interface that is filled has the functions of its origin. -/
theorem hasOrigin_of_isFilled (h : ExportedFrom unit resolver settings references placed refs d l)
    {p : Placed} {i : Nat} {binding : Binding} {base : Inherited}
    (hfilled : IsFilled ((settingOf unit resolver settings refs).withDefaults placed) placed p ⟨i⟩
      binding base) {t : TypeInfo} (ht : l.library.types[i]? = some t) (hvars : t.vars = []) :
    HasOrigin l unit resolver settings references t (l.origin unit i) := by
  obtain ⟨info, hinfo, hmade⟩ := h.madeFrom hfilled
  obtain rfl : info = t := Option.some.inj (hinfo.symm.trans ht)
  rw [h.origin_of_isFilled hfilled]
  exact ⟨hmade, hvars⟩

/-- **The contents of every type of a library are made from its origin.** -/
theorem hasOrigin (h : ExportedFrom unit resolver settings references placed refs d l) {i : Nat}
    {t : TypeInfo} (ht : l.library.types[i]? = some t) :
    HasOrigin l unit resolver settings references t (l.origin unit i) := by
  have htype : l.library.type? ⟨i⟩ = some t := ht
  have hcontent := h.content ht
  generalize hk : (⟨i⟩ : Handle) = k at htype hcontent
  cases hcontent with
  | interface hfill =>
    obtain ⟨binding, base, hfilled, -⟩ := isFilled_of_mem_filling hfill
    exact h.hasOrigin_of_isFilled (hk ▸ hfilled) ht rfl
  | classInterface hp hc =>
    have hfilled := IsFilled.classInterface
      (s := (settingOf unit resolver settings refs).withDefaults placed) hp hc
    exact h.hasOrigin_of_isFilled (hk ▸ hfilled) ht rfl
  | @coClass p hp hkind =>
    obtain ⟨creatable, binding, htarget⟩ := Target.eq_coClass hkind
    rw [h.origin_own hp hk.symm, htarget]
    exact ⟨rfl, fun _ hv => (nomatch hv)⟩
  | record hp htarget =>
    obtain ⟨info, hinfo, hfields⟩ := h.fieldsFrom hp htarget
    obtain rfl := Option.some.inj (hinfo.symm.trans htype)
    rw [h.origin_own hp hk.symm, htarget]
    exact ⟨hfields, rfl⟩
  | enumeration hp htarget =>
    rw [h.origin_own hp hk.symm, htarget]
    exact ⟨rfl, constantVariables_ne_field _⟩

end ExportedFrom

end Automation.Export

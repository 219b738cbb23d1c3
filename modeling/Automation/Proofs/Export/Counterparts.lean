import Automation.Proofs.Export.Origins
import Automation.Proofs.Export.Twins

/-!
# Counterparts in the libraries of two targets

The libraries that two runs of a job export from a unit for two targets have the same types, up to
functions and fields. These correspond one by one, in the order of the members and fields that they are
made from (`Counterparts`), and both functions of a member are known in full: `Twins.counterparts`.
-/

namespace Automation.Export

open Library Source

/-- Two types with contents of one origin. Their functions correspond by `F`, given how the interface is
bound and the member that both are made from, and their fields by `V`. They are the same otherwise. -/
def Counterparts (s : Scope) (F : Binding → Member → FunctionInfo → FunctionInfo → Prop)
    (V : Field → VariableInfo → VariableInfo → Prop) (t t' : TypeInfo) : Origin → Prop
  | .members owner binding =>
    ∃ functions, t' = { t with functions := functions } ∧ functions.length = t.functions.length ∧
      List.Forall₂ (fun m f => F binding m f.1 f.2)
        (owner.members.filter fun m => m.isExportable && s.describes m) (t.functions.zip functions)
  | .fields owner =>
    ∃ vars, t' = { t with vars := vars } ∧ vars.length = t.vars.length ∧
      List.Forall₂ (fun field v => V field v.1 v.2)
        (owner.fields.filter fun f => f.isPublic && s.describesField f) (t.vars.zip vars)
  | .other => t' = t

/-- The types of two libraries of a unit correspond one by one. -/
def ExportedLibrary.Corresponds (unit : Reflection) (references : List ReferencedLibrary)
    (F : Binding → Member → FunctionInfo → FunctionInfo → Prop)
    (V : Field → VariableInfo → VariableInfo → Prop) (l l' : ExportedLibrary Library) : Prop :=
  l'.library.types.length = l.library.types.length ∧
    ∀ (i : Nat) (t t' : TypeInfo), l.library.types[i]? = some t → l'.library.types[i]? = some t' →
      Counterparts (l.scope unit references) F V t t' (l.origin unit i)

section Weakening

variable {s : Scope} {F F' : Binding → Member → FunctionInfo → FunctionInfo → Prop}
  {V V' : Field → VariableInfo → VariableInfo → Prop}

theorem Counterparts.imp (hF : ∀ binding m f f', F binding m f f' → F' binding m f f')
    (hV : ∀ field v v', V field v v' → V' field v v') {t t' : TypeInfo} {origin : Origin}
    (h : Counterparts s F V t t' origin) : Counterparts s F' V' t t' origin := by
  cases origin with
  | members owner binding =>
    obtain ⟨functions, htype, hlength, hfunctions⟩ := h
    exact ⟨functions, htype, hlength, hfunctions.imp fun _ _ => hF _ _ _ _⟩
  | fields owner =>
    obtain ⟨vars, htype, hlength, hvars⟩ := h
    exact ⟨vars, htype, hlength, hvars.imp fun _ _ => hV _ _ _⟩
  | other => exact h

theorem ExportedLibrary.Corresponds.imp {unit : Reflection} {references : List ReferencedLibrary}
    (hF : ∀ binding m f f', F binding m f f' → F' binding m f f')
    (hV : ∀ field v v', V field v v' → V' field v v') {l l' : ExportedLibrary Library}
    (h : l.Corresponds unit references F V l') : l.Corresponds unit references F' V' l' :=
  ⟨h.1, fun i t t' ht ht' => (h.2 i t t' ht ht').imp hF hV⟩

end Weakening

/-! ## The functions of a member -/

/-- Two functions of a member, made for two targets. They have their ids and names in common, and their
offsets count the same slots. -/
def MadeTwice (y : Synthesis) (width : PointerWidth) (dual : Bool) (owner : TypeDecl) (m : Member)
    (f f' : FunctionInfo) : Prop :=
  ∃ invoke g memid offset offset' name, describeSignature y.scope m = .ok g ∧
    f = ((assemble y owner m invoke g).placed memid offset name).written ∧
    f' = ((assemble (y.retarget width dual) owner m invoke (g.sized y.scope width m)).placed memid
      offset' name).written ∧
    offset * width.bytes = offset' * y.scope.width.bytes

/-- Two variables for a field, made for two targets. They differ in their descriptors. -/
def DescribedTwice (s : Scope) (width : PointerWidth) (field : Field) (v v' : VariableInfo) : Prop :=
  ∃ described, s.describe field.type field.marshal fieldPosition = .ok described ∧
    v.desc.content = .field { type := described.type } ∧
    ∃ type, type = described.type.sized width (s.word? field.type field.marshal) ∧
      v' = { v with desc := { v.desc with content := .field { type := type } } }

theorem forall₂_zip_both {α β γ : Type} {A : α → β → Prop} {B : α → γ → Prop} {C : β → γ → Prop}
    {as : List α} {bs : List β} {cs : List γ} (hA : List.Forall₂ A as bs) (hB : List.Forall₂ B as cs)
    (hC : List.Forall₂ C bs cs) :
    List.Forall₂ (fun a x => A a x.1 ∧ B a x.2 ∧ C x.1 x.2) as (bs.zip cs) := by
  induction hA generalizing cs with
  | nil => exact .nil
  | cons ha _ ih =>
    cases hB with
    | cons hb hB =>
      cases hC with
      | cons hc hC => exact .cons ⟨ha, hb, hc⟩ (ih hB hC)

theorem describesField_sized (s : Scope) (width : PointerWidth) (f : Field) :
    (s.sized width).describesField f = s.describesField f := by
  unfold Scope.describesField
  rw [describe_sized, toBool_map]

/-- Two functions that look alike, and are made from one member. -/
theorem madeTwice_of_like {y : Synthesis} {width : PointerWidth} {dual : Bool} {owner : TypeDecl}
    {m : Member} {f f' : FunctionInfo}
    (hf : ∃ s memid offset name, (synthesize y owner m).1 = some s ∧
      f = (s.placed memid offset name).written)
    (hf' : ∃ s memid offset name, (synthesize (y.retarget width dual) owner m).1 = some s ∧
      f' = (s.placed memid offset name).written)
    (hlike : f.Like y.scope.width width f') : MadeTwice y width dual owner m f f' := by
  obtain ⟨s, memid, offset, name, hs, rfl⟩ := hf
  obtain ⟨s', memid', offset', name', hs', rfl⟩ := hf'
  obtain ⟨invoke, g, hinvoke, hg, rfl⟩ := synthesize_eq_some.mp hs
  rw [fst_synthesize_retarget, hinvoke, hg] at hs'
  obtain rfl := Option.some.inj hs'
  obtain rfl : memid' = memid := hlike.desc.memid
  obtain rfl : name' = name := Option.some.inj hlike.name
  exact ⟨invoke, g, memid', offset, offset', name', hg, rfl, rfl, hlike.desc.offset⟩

/-- Two variables that look alike, and are made for one field. -/
theorem describedTwice_of_like {s : Scope} {width : PointerWidth} {field : Field}
    {v v' : VariableInfo}
    (hv : ∃ described, s.describe field.type field.marshal fieldPosition = .ok described ∧
      v.desc.content = .field { type := described.type })
    (hv' : ∃ described, (s.sized width).describe field.type field.marshal fieldPosition =
      .ok described ∧ v'.desc.content = .field { type := described.type })
    (hlike : v.Like s.width width v') : DescribedTwice s width field v v' := by
  obtain ⟨described, hdescribed, hcontent⟩ := hv
  obtain ⟨described', hdescribed', hcontent'⟩ := hv'
  rw [describe_sized, hdescribed] at hdescribed'
  obtain rfl := Except.ok.inj hdescribed'
  refine ⟨described, hdescribed, hcontent, _, rfl, ?_⟩
  obtain ⟨⟨memid, content, flags⟩, name, doc⟩ := v
  obtain ⟨⟨memid', content', flags'⟩, name', doc'⟩ := v'
  obtain rfl : memid' = memid := hlike.desc.memid
  obtain rfl : flags' = flags := hlike.desc.flags
  obtain rfl : name' = name := hlike.name
  obtain rfl : doc' = doc := hlike.doc
  obtain rfl : content' = _ := hcontent'
  rfl

/-- Variables that look alike are the same if none of them is a field. -/
theorem eq_of_constants {w w' : PointerWidth} {vars vars' : List VariableInfo}
    (hlike : List.Forall₂ (VariableInfo.Like w w') vars vars')
    (hconstants : ∀ v ∈ vars, ∀ element, v.desc.content ≠ .field element) : vars' = vars := by
  induction hlike with
  | nil => rfl
  | @cons v v' later later' hv _ ih =>
    obtain ⟨hfirst, hlater⟩ := List.forall_mem_cons.mp hconstants
    have hdesc : v'.desc = v.desc := by
      cases hcontent : v.desc.content with
      | field element => exact (hfirst element hcontent).elim
      | constant value => exact hv.desc.constant value hcontent
    have hsame : v' = v := by
      obtain ⟨desc, name, doc⟩ := v
      obtain ⟨desc', name', doc'⟩ := v'
      rw [show desc' = desc from hdesc, show name' = name from hv.name, show doc' = doc from hv.doc]
    rw [hsame, ih hlater]

/-! ## Libraries -/

namespace Twins

variable {unit : Reflection} {resolver : Resolver} {settings : Settings} {width : PointerWidth}
  {dual : Bool} {references : List ReferencedLibrary} {l l' : ExportedLibrary Library}
  (h : Twins unit resolver settings (settings.retarget width dual) references l l')

include h

theorem libraryAttributes : l.library.attributes = settings.attributes unit.identity ∧
    l'.library.attributes = { l.library.attributes with pointerWidth := width } := by
  obtain ⟨_, _, _, hown⟩ := h.own
  obtain ⟨_, _, _, hown'⟩ := h.own'
  rw [hown.attributes, hown'.attributes]
  exact ⟨rfl, rfl⟩

/-- Apart from the types, only the width of pointers differs. -/
theorem frame : l' = { l with
    attributes := { l.attributes with pointerWidth := width }
    library :=
      { l.library with
        attributes := { l.library.attributes with pointerWidth := width }
        types := l'.library.types } } := by
  obtain ⟨⟨attributes, types, imports⟩, name, own, exported, diagnostics⟩ := l'
  obtain rfl : name = l.unit := h.unitName.2.trans h.unitName.1.symm
  obtain rfl : exported = l.exported := h.exported
  obtain rfl : diagnostics = l.diagnostics := h.diagnostics
  obtain rfl : imports = l.library.imports := h.library.imports
  obtain rfl : own = _ := h.attributes.2
  obtain rfl : attributes = _ := h.libraryAttributes.2
  rfl

theorem types : List.Forall₂ (TypeInfo.Like (l.scope unit references).width width) l.library.types
    l'.library.types := by
  have htypes := h.library.types
  rw [h.libraryAttributes.2] at htypes
  exact htypes

theorem declared?_eq : l'.declared? unit = l.declared? unit := by
  unfold ExportedLibrary.declared?
  rw [h.exported]

/-- The types have the same origins. -/
theorem origin_eq (index : Nat) : l'.origin unit index = l.origin unit index := by
  unfold ExportedLibrary.origin
  rw [h.declared?_eq]

/-- **The scopes differ in the width of pointers** only. -/
theorem scope_eq : l'.scope unit references = (l.scope unit references).sized width := by
  have hdefault : ∀ k : Handle, (l'.library.type? k).bind TypeInfo.defaultInterface? =
      (l.library.type? k).bind TypeInfo.defaultInterface? := by
    intro k
    have htype : Option.Rel _ (l.library.type? k) (l'.library.type? k) := rel_getElem? h.types k.index
    generalize l.library.type? k = t at htype ⊢
    generalize l'.library.type? k = t' at htype ⊢
    cases htype with
    | none => rfl
    | some hlike =>
      rw [Option.bind_some, Option.bind_some]
      unfold TypeInfo.defaultInterface?
      rw [hlike.implemented]
  have hlocal : l'.localRef? unit = l.localRef? unit := by
    funext t
    unfold ExportedLibrary.localRef?
    rw [hdefault]
  have hexternal : l'.externalTypes unit = l.externalTypes unit := by
    unfold ExportedLibrary.externalTypes
    rw [h.exported]
  unfold ExportedLibrary.scope
  rw [hlocal, hexternal, h.exported, h.library.imports, h.libraryAttributes.2]
  rfl

theorem synthesis_eq (binding : Binding) :
    l'.synthesis unit resolver (settings.retarget width dual) references binding =
      (l.synthesis unit resolver settings references binding).retarget width dual := by
  unfold ExportedLibrary.synthesis Synthesis.retarget
  rw [h.scope_eq]

/-- The functions of the second library are made with the scope of the first one, at the other width. -/
theorem madeFrom_retarget {binding : Binding} {owner : TypeDecl} {functions : List FunctionInfo}
    (hmade : MadeFrom (l'.synthesis unit resolver (settings.retarget width dual) references binding)
      owner
      (owner.members.filter fun m => m.isExportable && (l'.scope unit references).describes m)
      functions) :
    MadeFrom ((l.synthesis unit resolver settings references binding).retarget width dual) owner
      (owner.members.filter fun m => m.isExportable && (l.scope unit references).describes m)
      functions := by
  have hsame : (fun m : Member => m.isExportable && (l'.scope unit references).describes m) =
      fun m => m.isExportable && (l.scope unit references).describes m := by
    funext m
    rw [h.scope_eq, describes_sized]
  rwa [h.synthesis_eq, hsame] at hmade

/-- The variables of the second library are described in the scope of the first one, at the other
width. -/
theorem fieldsFrom_retarget {owner : TypeDecl} {vars : List VariableInfo}
    (hfields : FieldsFrom (l'.scope unit references) owner vars) :
    List.Forall₂ (fun f v => ∃ described,
        ((l.scope unit references).sized width).describe f.type f.marshal fieldPosition =
          .ok described ∧ v.desc.content = .field { type := described.type })
      (owner.fields.filter fun f => f.isPublic && (l.scope unit references).describesField f) vars := by
  have hsame : (fun f : Field => f.isPublic && (l'.scope unit references).describesField f) =
      fun f => f.isPublic && (l.scope unit references).describesField f := by
    funext f
    rw [h.scope_eq, describesField_sized]
  unfold FieldsFrom at hfields
  rwa [hsame, h.scope_eq] at hfields

/-- Two types that look alike, and have contents of one origin. -/
theorem counterparts {t t' : TypeInfo} (hlike : t.Like (l.scope unit references).width width t')
    {origin : Origin} (horigin : HasOrigin l unit resolver settings references t origin)
    (horigin' : HasOrigin l' unit resolver (settings.retarget width dual) references t' origin) :
    Counterparts (l.scope unit references)
      (fun binding m f f' => ∃ owner,
        MadeTwice (l.synthesis unit resolver settings references binding) width dual owner m f f')
      (DescribedTwice (l.scope unit references) width) t t' origin := by
  obtain ⟨functions, vars, rfl, hfunctions, hvars⟩ := hlike.exists_eq
  cases origin with
  | members owner binding =>
    obtain ⟨hmade, hnone⟩ := horigin
    obtain ⟨hmade', hnone'⟩ := horigin'
    refine ⟨functions, by rw [show vars = t.vars from hnone'.trans hnone.symm],
      hfunctions.length_eq.symm,
      (forall₂_zip_both hmade (h.madeFrom_retarget hmade') hfunctions).imp ?_⟩
    rintro m ⟨f, f'⟩ ⟨hf, hf', hlike⟩
    exact ⟨owner, madeTwice_of_like hf hf' hlike⟩
  | fields owner =>
    obtain ⟨hfields, hnone⟩ := horigin
    obtain ⟨hfields', hnone'⟩ := horigin'
    refine ⟨vars, by rw [show functions = t.functions from hnone'.trans hnone.symm],
      hvars.length_eq.symm,
      (forall₂_zip_both hfields (h.fieldsFrom_retarget hfields') hvars).imp ?_⟩
    rintro f ⟨v, v'⟩ ⟨hv, hv', hlike⟩
    exact describedTwice_of_like hv hv' hlike
  | other =>
    obtain ⟨hnone, hconstants⟩ := horigin
    obtain ⟨hnone', -⟩ := horigin'
    change { t with functions := functions, vars := vars } = t
    rw [show functions = t.functions from hnone'.trans hnone.symm, eq_of_constants hvars hconstants]

/-- **The types of the libraries correspond**: both functions of a member are made from it, and both
variables of a field. -/
theorem corresponds : l.Corresponds unit references
    (fun binding m f f' => ∃ owner, MadeTwice (l.synthesis unit resolver settings references binding)
      width dual owner m f f')
    (DescribedTwice (l.scope unit references) width) l' := by
  refine ⟨h.types.length_eq.symm, fun i t t' ht ht' => ?_⟩
  have hlike : t.Like (l.scope unit references).width width t' := by
    have hrel := rel_getElem? h.types i
    rw [ht, ht'] at hrel
    cases hrel with
    | some hlike => exact hlike
  obtain ⟨_, _, _, hown⟩ := h.own
  obtain ⟨_, _, _, hown'⟩ := h.own'
  have horigin' := hown'.hasOrigin ht'
  rw [h.origin_eq] at horigin'
  exact h.counterparts hlike (hown.hasOrigin ht) horigin'

end Twins

end Automation.Export

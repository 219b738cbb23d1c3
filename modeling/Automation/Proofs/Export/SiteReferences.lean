import Automation.Proofs.Export.Faults
import Automation.Proofs.Export.Sites

/-!
# References at sites

A descriptor has at most one reference, and that is the one at the core of its expression
(`ref?_describeValue`). So the references in the functions and variables of a library are those at
its sites, one for one: `refs_interfaceSites` and `refs_recordSites`.
-/

namespace Automation

namespace Library

/-- The references in the descriptors of functions and variables. -/
def TypeInfo.valueRefs (t : TypeInfo) : List TypeRef :=
  t.functions.flatMap (·.desc.refs) ++ t.vars.filterMap (·.desc.content.ref?)

/-- A type refers to what it implements, and to what its functions and variables do. -/
theorem TypeInfo.refs_eq_append (t : TypeInfo) :
    t.refs = t.implemented.map (·.ref) ++ t.valueRefs := by
  rw [t.refs_eq, List.append_assoc]
  rfl

end Library

namespace Export

open Library Source

/-! ## References in descriptors -/

instance (form : Option NativeForm) : Decidable (KeepsObject form) :=
  inferInstanceAs (Decidable (_ ∧ _))

/-- The reference by which a core is described in the form that is asked for: of interfaces and
classes `object` unless a standard contract is asked for, and of values `value` unless anything is. -/
def keptRef? (isObject : Bool) (form : Option NativeForm) (object value : Option TypeRef) :
    Option TypeRef :=
  if isObject then if KeepsObject form then object else none
  else if form = none then value else none

/-- The reference by which a core is described in the form that is asked for. -/
def Scope.coreRef? (s : Scope) (core : TypeExpr) (form : Option NativeForm) : Option TypeRef :=
  match core with
  | .builtin .guid => keptRef? false form none (s.refs.standard? Standard.guidIndex)
  | .builtin .color => keptRef? false form none (s.refs.standard? Standard.colorIndex)
  | .named id => keptRef? (s.isObjectRef core) form (s.ownObject? id)
      ((s.refs.own? id).map fun r => .own r.handle)
  | .external type => keptRef? (s.isObjectRef core) form (s.externalObject? type)
      ((s.refs.external? type).map (·.ref))
  | _ => none

/-- The reference by which an expression is described. -/
def Scope.typeRef? (s : Scope) (type : TypeExpr) (marshal : Option MarshalOverride) :
    Option TypeRef :=
  s.coreRef? (type.core marshal).1 ((type.core marshal).2.map (·.form))

/-- The reference by which the expression of a site is described. -/
def Site.ref? (s : Scope) (site : Site) : Option TypeRef := s.typeRef? site.type site.marshal

section Descriptors

variable {s : Scope} {described : Described} {qualified : String} {form : Option NativeForm}
  {target : Option TypeRef}

theorem ref?_of_inner? {d inner : Descriptor} (h : d.inner? = some inner) :
    d.ref? = inner.ref? := by
  cases d with
  | pointer | safeArray | cArray =>
    obtain rfl := Option.some.inj h
    rfl
  | _ => exact Option.noConfusion rfl (heq_of_eq h)

theorem ref?_elemental {spelling : String} {type : Option ElementType}
    (h : elemental spelling form type = .ok described) : described.type.ref? = none := by
  unfold elemental at h
  split at h
  · obtain rfl := Except.ok.inj h
    rfl
  · split at h <;> exact Except.noConfusion rfl rfl (heq_of_eq h)

theorem ref?_describeObject (value : Option TypeRef)
    (h : describeObject qualified form target = .ok described) :
    described.type.ref? = keptRef? true form target value := by
  unfold describeObject at h
  split at h
  · obtain rfl := Except.ok.inj h
    rfl
  · obtain rfl := Except.ok.inj h
    rfl
  · split at h <;> (obtain rfl := Except.ok.inj h; rfl)
  · split at h <;> (obtain rfl := Except.ok.inj h; rfl)
  · exact Except.noConfusion rfl rfl (heq_of_eq h)

theorem ref?_describeEnum {width : PointerWidth} {underlying : Scalar} (object : Option TypeRef)
    (h : describeEnum width qualified underlying form target = .ok described) :
    described.type.ref? = keptRef? false form object target := by
  unfold describeEnum at h
  split at h
  · split at h
    · split at h
      · obtain rfl := Except.ok.inj h
        rfl
      · exact Except.noConfusion rfl rfl (heq_of_eq h)
    · exact Except.noConfusion rfl rfl (heq_of_eq h)
  · obtain rfl := Except.ok.inj h
    rfl
  · split at h
    · obtain rfl := Except.ok.inj h
      rfl
    · exact Except.noConfusion rfl rfl (heq_of_eq h)

theorem ref?_describeRecord (object : Option TypeRef)
    (h : describeRecord qualified form target = .ok described) :
    described.type.ref? = keptRef? false form object target := by
  unfold describeRecord at h
  split at h
  · exact Except.noConfusion rfl rfl (heq_of_eq h)
  · obtain rfl := Except.ok.inj h
    rfl
  · exact Except.noConfusion rfl rfl (heq_of_eq h)

theorem ref?_describeBuiltin {builtin : Builtin}
    (h : s.describeBuiltin builtin form = .ok described) :
    described.type.ref? = s.coreRef? (.builtin builtin) form := by
  unfold Scope.describeBuiltin at h
  dsimp only at h
  split at h
  · obtain rfl := Except.ok.inj h
    rfl
  · obtain rfl := Except.ok.inj h
    rfl
  · obtain rfl := Except.ok.inj h
    rfl
  · split at h
    · next ref href =>
      obtain rfl := Except.ok.inj h
      exact href.symm
    · exact Except.noConfusion rfl rfl (heq_of_eq h)
  · split at h
    · next ref href =>
      obtain rfl := Except.ok.inj h
      exact href.symm
    · exact Except.noConfusion rfl rfl (heq_of_eq h)
  · exact Except.noConfusion rfl rfl (heq_of_eq h)

theorem ref?_describeNamed {id : TypeId} (h : s.describeNamed id form = .ok described) :
    described.type.ref? = s.coreRef? (.named id) form := by
  unfold Scope.describeNamed at h
  split at h
  · exact Except.noConfusion rfl rfl (heq_of_eq h)
  · next decl hdecl =>
    have hobject : s.isObjectRef (.named id) = decl.isObject := by simp [Scope.isObjectRef, hdecl]
    unfold TypeDecl.isObject at hobject
    unfold Scope.coreRef?
    dsimp only at h ⊢
    rw [hobject]
    cases hbody : decl.body with
    | interface | objectClass =>
      rw [hbody] at h
      exact ref?_describeObject _ h
    | enumeration underlying constants =>
      rw [hbody] at h
      exact ref?_describeEnum _ h
    | record =>
      rw [hbody] at h
      exact ref?_describeRecord _ h

theorem ref?_describeExternal {type : ExternalType}
    (h : s.describeExternal type form = .ok described) :
    described.type.ref? = s.coreRef? (.external type) form := by
  unfold Scope.describeExternal at h
  unfold Scope.coreRef? Scope.isObjectRef
  dsimp only at h ⊢
  cases hkind : type.kind with
  | interface | objectClass =>
    rw [hkind] at h
    exact ref?_describeObject _ h
  | enumeration underlying =>
    rw [hkind] at h
    exact ref?_describeEnum _ h
  | record =>
    rw [hkind] at h
    exact ref?_describeRecord _ h

/-- **The reference in a descriptor** is the one at the core of its expression. -/
theorem ref?_describeValue {type : TypeExpr} {marshal : Option MarshalOverride}
    {position : Position} (h : s.describeValue type marshal position = .ok described) :
    described.type.ref? = s.typeRef? type marshal := by
  induction type generalizing marshal position described with
  | array element ih =>
    unfold Scope.describeValue at h
    split at h
    · exact Except.noConfusion rfl rfl (heq_of_eq h)
    · obtain ⟨inner, hinner, h⟩ := exists_of_bind h
      exact (ref?_of_inner? (inner?_describeArray h).1).trans (ih hinner)
  | pointer target ih =>
    unfold Scope.describeValue at h
    split at h
    · exact Except.noConfusion rfl rfl (heq_of_eq h)
    · split at h
      · next hvoid =>
        obtain rfl := Except.ok.inj h
        cases target <;> first | rfl | exact Bool.noConfusion hvoid
      · obtain ⟨inner, hinner, h⟩ := exists_of_bind h
        obtain rfl := Except.ok.inj h
        have htarget := ih hinner
        exact htarget
  | void =>
    unfold Scope.describeValue at h
    split at h
    · obtain rfl := Except.ok.inj h
      rfl
    · exact Except.noConfusion rfl rfl (heq_of_eq h)
  | builtin builtin => exact ref?_describeBuiltin h
  | named id => exact ref?_describeNamed h
  | external type => exact ref?_describeExternal h
  | generic name => exact Except.noConfusion rfl rfl (heq_of_eq h)
  | scalar | text | textBuffer | object => exact ref?_elemental h

theorem ref?_describe {type : TypeExpr} {marshal : Option MarshalOverride} {position : Position}
    (h : s.describe type marshal position = .ok described) :
    described.type.ref? = s.typeRef? type marshal := by
  obtain ⟨value, hvalue, htype, -⟩ := exists_of_describe h
  rw [← ref?_describeValue hvalue, htype]
  split <;> rfl

end Descriptors

/-! ## References of functions -/

section Functions

variable {y : Synthesis} {owner : TypeDecl} {m : Member}

theorem ref?_parameterElements {params : List Parameter} {described : List Described}
    (hlength : described.length = params.length) :
    (List.zipWith parameterElement params described).map (·.type.ref?) =
      described.map (·.type.ref?) := by
  induction params generalizing described with
  | nil =>
    obtain rfl := List.length_eq_zero_iff.mp hlength
    rfl
  | cons p later ih =>
    cases described with
    | nil => rfl
    | cons x rest =>
      rw [List.zipWith_cons_cons, List.map_cons, List.map_cons, type_parameterElement,
        ih (Nat.succ.inj hlength)]

theorem ref?_describeParameters {s : Scope} {params : List Parameter} {described : List Described}
    (h : describeParameters s params = .ok described) :
    described.map (·.type.ref?) = params.map fun p => s.typeRef? p.type p.marshal := by
  induction params generalizing described with
  | nil =>
    obtain rfl := Except.ok.inj h
    rfl
  | cons p later ih =>
    unfold describeParameters at h
    split at h
    · exact Except.noConfusion rfl rfl (heq_of_eq h)
    · next x hx =>
      split at h
      · exact Except.noConfusion rfl rfl (heq_of_eq h)
      · next rest hrest =>
        obtain rfl := Except.ok.inj h
        rw [List.map_cons, List.map_cons, ih hrest, ref?_describe hx]

variable (owner m) in
/-- The references at the sites of a member. -/
theorem ref?_memberSites (s : Scope) (status : Bool) (f : FunctionDesc) :
    (memberSites owner status m f).map (Site.ref? s) =
      m.params.map (fun p => s.typeRef? p.type p.marshal) ++ [s.typeRef? m.ret m.retMarshal] := by
  have hparams : m.params.zipIdx.map (fun x => (parameterSite owner m f x.1 x.2).ref? s) =
      (m.params.zipIdx.map Prod.fst).map fun p => s.typeRef? p.type p.marshal := by
    rw [List.map_map]
    rfl
  rw [List.zipIdx_map_fst] at hparams
  unfold memberSites
  rw [List.map_append, List.map_map, ← hparams]
  rfl

/-- **A function refers to what its sites do.** -/
theorem refs_memberSites {f : SynthesizedFunction} (h : (synthesize y owner m).1 = some f)
    (status : Bool) (desc : FunctionDesc) :
    f.desc.refs = (memberSites owner status m desc).filterMap (Site.ref? y.scope) := by
  obtain ⟨invoke, signature, -, hsignature, rfl⟩ := synthesize_eq_some.mp h
  obtain ⟨hparams, hret⟩ := describeSignature_eq_ok hsignature
  have hsites := congrArg (List.filterMap id) (ref?_memberSites owner m y.scope status desc)
  rw [List.filterMap_map, List.filterMap_append] at hsites
  rw [refs_assemble, ref?_parameterElements (length_describeParameters hparams),
    ref?_describeParameters hparams, ref?_describe hret]
  refine Eq.trans (congrArg _ ?_) hsites.symm
  cases y.scope.typeRef? m.ret m.retMarshal <;> rfl

/-- **An interface refers to what its sites do.** -/
theorem refs_interfaceSites {info : TypeInfo}
    (h : MadeFrom y owner (owner.members.filter fun m => m.isExportable && y.scope.describes m)
      info.functions) :
    info.functions.flatMap (·.desc.refs) =
      (interfaceSites y.scope y.settings owner y.binding info).filterMap (Site.ref? y.scope) := by
  unfold interfaceSites
  dsimp only
  generalize owner.members.filter _ = members at h
  generalize info.functions = functions at h
  induction h with
  | nil => rfl
  | cons hmade _ ih =>
    obtain ⟨made, memid, offset, name, hmade, rfl⟩ := hmade
    rw [List.flatMap_cons, List.zip_cons_cons, List.flatMap_cons, List.filterMap_append, ih]
    exact congrArg (· ++ _) (refs_memberSites hmade _ _)

end Functions

/-! ## References of fields -/

/-- **A record refers to what its sites do.** -/
theorem refs_recordSites {s : Scope} {owner : TypeDecl} {info : TypeInfo}
    (h : FieldsFrom s owner info.vars) :
    info.vars.filterMap (·.desc.content.ref?) = (recordSites s owner info).filterMap (Site.ref? s) := by
  unfold recordSites
  unfold FieldsFrom at h
  dsimp only
  generalize owner.fields.filter _ = fields at h
  generalize info.vars = vars at h
  induction h with
  | nil => rfl
  | @cons f v _ _ hdescribed _ ih =>
    obtain ⟨described, hdescribed, hcontent⟩ := hdescribed
    have hsame : v.desc.content.ref? = (fieldSite owner f v).ref? s := by
      rw [hcontent]
      exact ref?_describe hdescribed
    rw [List.zip_cons_cons, List.map_cons, List.filterMap_cons, List.filterMap_cons, ih, hsame]

/-! ## References of a library -/

namespace ExportedFrom

variable {unit : Reflection} {resolver : Resolver} {settings : Settings}
  {references : List ReferencedLibrary} {placed : List Placed} {refs : ReferenceTable} {d : Draft}
  {l : ExportedLibrary Library} {p : Placed}

/-- The functions of an interface that is filled refer to what its sites do. -/
theorem refs_functions (h : ExportedFrom unit resolver settings references placed refs d l)
    {k : Handle} {binding : Binding} {base : Inherited}
    (hfilled : IsFilled ((settingOf unit resolver settings refs).withDefaults placed) placed p k
      binding base) {t : TypeInfo} (ht : l.library.type? k = some t) :
    t.functions.flatMap (·.desc.refs) =
      (interfaceSites (l.scope unit references) settings p.type.decl binding t).filterMap
        (Site.ref? (l.scope unit references)) := by
  obtain ⟨info, hinfo, hmade⟩ := h.madeFrom hfilled
  obtain rfl : info = t := Option.some.inj (hinfo.symm.trans ht)
  exact refs_interfaceSites (y := l.synthesis unit resolver settings references binding) hmade

/-- The fields of a record refer to what its sites do. -/
theorem refs_fields (h : ExportedFrom unit resolver settings references placed refs d l)
    (hp : p ∈ placed) (htarget : p.type.target = .record) {t : TypeInfo}
    (ht : l.library.type? p.handle = some t) :
    t.vars.filterMap (·.desc.content.ref?) =
      (recordSites (l.scope unit references) p.type.decl t).filterMap
        (Site.ref? (l.scope unit references)) := by
  obtain ⟨info, hinfo, hfields⟩ := h.fieldsFrom hp htarget
  obtain rfl : info = t := Option.some.inj (hinfo.symm.trans ht)
  exact refs_recordSites hfields

/-- What a type refers to in its functions and variables is referred to at a site. -/
theorem exists_site_of_valueRefs
    (h : ExportedFrom unit resolver settings references placed refs d l) {t : TypeInfo}
    (ht : t ∈ l.library.types) {ref : TypeRef} (href : ref ∈ t.valueRefs) :
    ∃ site ∈ l.sites unit settings references, site.ref? (l.scope unit references) = some ref := by
  obtain ⟨i, hi⟩ := List.mem_iff_getElem?.mp ht
  have htype : l.library.type? ⟨i⟩ = some t := hi
  have hcontent := h.content hi
  generalize (⟨i⟩ : Handle) = k at htype hcontent
  have hmembers : ∀ {p : Placed} {binding base},
      IsFilled ((settingOf unit resolver settings refs).withDefaults placed) placed p k binding
        base →
      t.vars = [] → ∃ site ∈ l.sites unit settings references,
        site.ref? (l.scope unit references) = some ref := fun hfilled hvars => by
    unfold TypeInfo.valueRefs at href
    rw [hvars, List.filterMap_nil, List.append_nil, h.refs_functions hfilled htype] at href
    obtain ⟨site, hsite, hfound⟩ := List.mem_filterMap.mp href
    exact ⟨site, h.interfaceSites_subset hfilled htype hsite, hfound⟩
  cases hcontent with
  | interface hfill =>
    obtain ⟨binding, base, hfilled, -⟩ := isFilled_of_mem_filling hfill
    exact hmembers hfilled rfl
  | classInterface hp hc => exact hmembers (.classInterface hp hc) rfl
  | coClass => exact (List.not_mem_nil href).elim
  | record hp htarget =>
    replace href := (List.mem_append.mp href).resolve_left List.not_mem_nil
    rw [h.refs_fields hp htarget htype] at href
    obtain ⟨site, hsite, hfound⟩ := List.mem_filterMap.mp href
    exact ⟨site, h.recordSites_subset hp htarget htype hsite, hfound⟩
  | enumeration =>
    obtain ⟨v, hv, hfound⟩ := List.mem_filterMap.mp href
    cases hcontent : v.desc.content with
    | field element => exact (constantVariables_ne_field _ v hv element hcontent).elim
    | constant value =>
      rw [hcontent] at hfound
      exact nomatch hfound

/-- **What is referred to at a site** is referred to in a function or variable of the library. -/
theorem exists_valueRefs_of_site
    (h : ExportedFrom unit resolver settings references placed refs d l) {site : Site}
    (hsite : site ∈ l.sites unit settings references) {ref : TypeRef}
    (href : site.ref? (l.scope unit references) = some ref) :
    ∃ t ∈ l.library.types, ref ∈ t.valueRefs := by
  rcases h.sites_cases hsite with ⟨p, k, binding, base, t, hfilled, ht, -, hsite⟩ |
    ⟨p, hp, htarget, t, ht, -, hsite⟩
  · refine ⟨t, List.mem_of_getElem? ht, List.mem_append_left _ ?_⟩
    rw [h.refs_functions hfilled ht]
    exact List.mem_filterMap.mpr ⟨site, hsite, href⟩
  · refine ⟨t, List.mem_of_getElem? ht, List.mem_append_right _ ?_⟩
    rw [h.refs_fields hp htarget ht]
    exact List.mem_filterMap.mpr ⟨site, hsite, href⟩

end ExportedFrom

end Export

end Automation

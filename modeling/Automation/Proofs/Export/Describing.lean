import Automation.Proofs.Export.Filling
import Automation.Proofs.Export.Importing

/-!
# References in descriptors

A descriptor refers to nothing but what the reference table holds. So a property that arrays and pointers
keep (`Layered`) holds of all descriptors if it does of what the scope has for references
(`Scope.Provides`): `has_describe`. That those references have targets (`ReferenceTable.Resolves`) is such
a property.
-/

namespace Automation.Export

open Library Source

variable {d : Draft} {s : Scope}

/-! ## Looking references up -/

namespace ReferenceTable.Resolves

variable {t : ReferenceTable}

theorem own? (h : t.Resolves d) {id : TypeId} {ref : LocalRef} (href : t.own? id = some ref) :
    d.resolves (.own ref.handle) = true ∧ ∀ r ∈ ref.default, d.resolves r = true :=
  h.own _ (mem_of_lookup href)

theorem external? (h : t.Resolves d) {type : ExternalType} {ref : ExternalRef}
    (href : t.external? type = some ref) :
    d.resolves ref.ref = true ∧ ∀ r ∈ ref.default, d.resolves r = true :=
  h.external _ (mem_of_lookup href)

theorem standard? (h : t.Resolves d) {index : Nat} {ref : TypeRef}
    (hindex : index < Standard.library.typeNames.length) (href : t.standard? index = some ref) :
    d.resolves ref = true := by
  obtain ⟨id, hid, rfl⟩ := Option.map_eq_some_iff.mp href
  exact h.standard id hid index hindex

end ReferenceTable.Resolves

theorem ownObject?_resolves (h : s.refs.Resolves d) {id : TypeId} :
    ∀ ref ∈ s.ownObject? id, d.resolves ref = true := by
  intro ref href
  obtain ⟨local', hlocal, htarget⟩ := Option.bind_eq_some_iff.mp href
  obtain ⟨hhandle, hdefault⟩ := h.own? hlocal
  cases ht : local'.target with
  | interface binding =>
    rw [ht] at htarget
    exact Option.some.inj htarget ▸ hhandle
  | coClass creatable binding =>
    rw [ht] at htarget
    exact hdefault ref htarget
  | enumeration => rw [ht] at htarget; exact nomatch htarget
  | record => rw [ht] at htarget; exact nomatch htarget

theorem externalObject?_resolves (h : s.refs.Resolves d) {type : ExternalType} :
    ∀ ref ∈ s.externalObject? type, d.resolves ref = true := by
  intro ref href
  obtain ⟨external, hexternal, hkind⟩ := Option.bind_eq_some_iff.mp href
  obtain ⟨href, hdefault⟩ := h.external? hexternal
  cases hk : external.kind with
  | interface =>
    rw [hk] at hkind
    exact Option.some.inj hkind ▸ href
  | coClass =>
    rw [hk] at hkind
    exact hdefault ref hkind
  | enumeration => rw [hk] at hkind; exact nomatch hkind
  | record => rw [hk] at hkind; exact nomatch hkind

/-! ## Descriptors -/

/-- The property holds of descriptors without references, and arrays and pointers keep it. -/
structure Layered (P : Descriptor → Prop) : Prop where
  base : ∀ type, P (.base type)
  pointer : ∀ {inner}, P inner → P (.pointer inner)
  safeArray : ∀ {inner}, P inner → P (.safeArray inner)
  cArray : ∀ {inner} bounds, P inner → P (.cArray inner bounds)

/-- The property holds of what the scope has for references: of interfaces and classes beneath a pointer,
and of the other types as they are. Of the types of other units only the known ones count. -/
structure Scope.Provides (s : Scope) (known : ExternalType → Prop) (P : Descriptor → Prop) : Prop where
  ownObject : ∀ id, ∀ ref ∈ s.ownObject? id, P (.pointer (.userDefined ref))
  externalObject : ∀ type, known type → ∀ ref ∈ s.externalObject? type, P (.pointer (.userDefined ref))
  ownValue : ∀ id decl, s.type? id = some decl → decl.isObject = false →
    ∀ ref ∈ s.refs.own? id, P (.userDefined (.own ref.handle))
  externalValue : ∀ type, known type → s.isObjectRef (.external type) = false →
    ∀ ref ∈ s.refs.external? type, P (.userDefined ref.ref)
  standard : ∀ index, index = Standard.guidIndex ∨ index = Standard.colorIndex →
    ∀ ref ∈ s.refs.standard? index, P (.userDefined ref)

/-- The descriptor, if there is one, has the property. -/
def Has (P : Descriptor → Prop) : Except DescribeError Described → Prop
  | .ok described => P described.type
  | .error _ => True

variable {P : Descriptor → Prop} {known : ExternalType → Prop}

theorem Has.bind {Q : Descriptor → Prop} {outcome : Except DescribeError Described}
    {f : Described → Except DescribeError Described} (h : Has P outcome)
    (hf : ∀ described, P described.type → Has Q (f described)) : Has Q (outcome >>= f) := by
  cases outcome with
  | error e => trivial
  | ok described => exact hf described h

theorem Has.imp {P Q : Descriptor → Prop} {outcome : Except DescribeError Described}
    (h : Has P outcome) (hPQ : ∀ d, P d → Q d) : Has Q outcome := by
  cases outcome with
  | error e => trivial
  | ok described => exact hPQ _ h

/-! What is not made of other expressions is described by values and references, whatever may hold of
arrays, of pointers, or where there is no value. -/

/-- An elemental type that stands for a value of its own. -/
def IsValueType (type : ElementType) : Prop := type ≠ .void ∧ type.isComposite = false

theorem isValueType_scalarType? (width : PointerWidth) (scalar : Scalar) (form : Option NativeForm) :
    ∀ type ∈ scalarType? width scalar form, IsValueType type := by
  cases width <;> unfold scalarType? <;> split <;> rintro _ ⟨rfl⟩ <;> exact ⟨by decide, rfl⟩

theorem isValueType_textType? (form : Option NativeForm) :
    ∀ type ∈ textType? form, IsValueType type := by
  unfold textType?
  split <;> rintro _ ⟨rfl⟩ <;> exact ⟨by decide, rfl⟩

theorem isValueType_textBufferType? (form : Option NativeForm) :
    ∀ type ∈ textBufferType? form, IsValueType type := by
  unfold textBufferType?
  split <;> rintro _ ⟨rfl⟩ <;> exact ⟨by decide, rfl⟩

theorem isValueType_objectType? (form : Option NativeForm) :
    ∀ type ∈ objectType? form, IsValueType type := by
  unfold objectType?
  split <;> rintro _ ⟨rfl⟩ <;> exact ⟨by decide, rfl⟩

theorem has_describeRecord {qualified : String} {form : Option NativeForm} {target : Option TypeRef}
    (h : ∀ ref ∈ target, P (.userDefined ref)) : Has P (describeRecord qualified form target) := by
  unfold describeRecord
  split
  · trivial
  · next ref => exact h ref rfl
  · trivial

theorem has_standard (hs : s.Provides known P) {index : Nat}
    (hindex : index = Standard.guidIndex ∨ index = Standard.colorIndex) (error : DescribeError) :
    Has P (match s.refs.standard? index with
      | some ref => .ok { type := .userDefined ref }
      | none => .error error) := by
  split
  · next ref href => exact hs.standard index hindex ref href
  · trivial

section

variable (hbase : ∀ {type : ElementType}, IsValueType type → P (.base type))

include hbase

theorem has_elemental (spelling : String) (form : Option NativeForm) {type : Option ElementType}
    (h : ∀ t ∈ type, IsValueType t) : Has P (elemental spelling form type) := by
  unfold elemental
  split
  · exact hbase (h _ rfl)
  · split <;> trivial

theorem has_describeObject {qualified : String} {form : Option NativeForm}
    {target : Option TypeRef} (h : ∀ ref ∈ target, P (.pointer (.userDefined ref))) :
    Has P (describeObject qualified form target) := by
  unfold describeObject
  split
  · exact hbase ⟨by decide, rfl⟩
  · exact hbase ⟨by decide, rfl⟩
  · split
    · next ref => exact h ref rfl
    · exact hbase ⟨by decide, rfl⟩
  · split
    · next ref => exact h ref rfl
    · exact hbase ⟨by decide, rfl⟩
  · trivial

theorem has_describeEnum {width : PointerWidth} {qualified : String} {underlying : Scalar}
    {form : Option NativeForm} {target : Option TypeRef} (h : ∀ ref ∈ target, P (.userDefined ref)) :
    Has P (describeEnum width qualified underlying form target) := by
  unfold describeEnum
  split
  · split
    · next integer hinteger =>
      split
      · exact hbase (isValueType_scalarType? _ _ _ _ hinteger)
      · trivial
    · trivial
  · next ref => exact h ref rfl
  · split
    · next integer hinteger => exact hbase (isValueType_scalarType? _ _ _ _ hinteger)
    · trivial

theorem has_describeBuiltin (hs : s.Provides known P) (builtin : Builtin) (form : Option NativeForm) :
    Has P (s.describeBuiltin builtin form) := by
  unfold Scope.describeBuiltin
  dsimp only
  split
  · exact hbase ⟨by decide, rfl⟩
  · exact hbase ⟨by decide, rfl⟩
  · exact hbase ⟨by decide, rfl⟩
  · exact has_standard hs (.inl rfl) _
  · exact has_standard hs (.inr rfl) _
  · trivial

theorem has_describeNamed (hs : s.Provides known P) (id : TypeId) (form : Option NativeForm) :
    Has P (s.describeNamed id form) := by
  unfold Scope.describeNamed
  split
  · trivial
  · next decl hdecl =>
    have hvalue : decl.isObject = false → ∀ ref ∈ (s.refs.own? id).map fun r => TypeRef.own r.handle,
        P (.userDefined ref) := by
      intro hvalue ref href
      obtain ⟨r, hr, rfl⟩ := Option.map_eq_some_iff.mp href
      exact hs.ownValue id decl hdecl hvalue r hr
    unfold TypeDecl.isObject at hvalue
    dsimp only
    split
    · exact has_describeObject hbase (hs.ownObject id)
    · exact has_describeObject hbase (hs.ownObject id)
    · next hbody => exact has_describeEnum hbase (hvalue (by rw [hbody]))
    · next hbody => exact has_describeRecord (hvalue (by rw [hbody]))

theorem has_describeExternal (hs : s.Provides known P) {type : ExternalType} (hknown : known type)
    (form : Option NativeForm) : Has P (s.describeExternal type form) := by
  have hvalue : s.isObjectRef (.external type) = false →
      ∀ ref ∈ (s.refs.external? type).map (·.ref), P (.userDefined ref) := by
    intro hvalue ref href
    obtain ⟨r, hr, rfl⟩ := Option.map_eq_some_iff.mp href
    exact hs.externalValue type hknown hvalue r hr
  unfold Scope.isObjectRef at hvalue
  unfold Scope.describeExternal
  dsimp only at hvalue ⊢
  split
  · exact has_describeObject hbase (hs.externalObject type hknown)
  · exact has_describeObject hbase (hs.externalObject type hknown)
  · next hkind => exact has_describeEnum hbase (hvalue (by rw [hkind]))
  · next hkind => exact has_describeRecord (hvalue (by rw [hkind]))

end

theorem has_describeArray (hP : Layered P) (element : TypeExpr) (marshal : Option MarshalOverride)
    (position : Position) {described : Described} (h : P described.type) :
    Has P (describeArray element marshal position described) := by
  have hsafe : Has P (if isSafeArrayElement described.type then
      .ok { described with type := .safeArray described.type }
    else .error (.elementUnsupported element.spelling)) := by
    split
    · exact hP.safeArray h
    · trivial
  unfold describeArray
  dsimp only
  split
  · exact hsafe
  · split
    · exact hsafe
    · exact hP.pointer h
    · split
      · trivial
      · split
        · exact hP.cArray _ h
        · trivial
    · trivial

theorem has_describeValue (hP : Layered P) (hs : s.Provides known P) {type : TypeExpr}
    (hknown : ∀ e ∈ type.external?, known e) (marshal : Option MarshalOverride) (position : Position) :
    Has P (s.describeValue type marshal position) := by
  have hbase {type : ElementType} (_ : IsValueType type) : P (.base type) := hP.base type
  induction type generalizing marshal position with
  | generic name => trivial
  | void =>
    unfold Scope.describeValue
    split
    · exact hP.base _
    · trivial
  | scalar scalar => exact has_elemental hbase _ _ (isValueType_scalarType? _ _ _)
  | text => exact has_elemental hbase _ _ (isValueType_textType? _)
  | textBuffer => exact has_elemental hbase _ _ (isValueType_textBufferType? _)
  | object => exact has_elemental hbase _ _ (isValueType_objectType? _)
  | builtin builtin => exact has_describeBuiltin hbase hs builtin _
  | array element ih =>
    unfold Scope.describeValue
    split
    · trivial
    · exact (ih hknown _ _).bind fun described hd => has_describeArray hP element marshal position hd
  | pointer target ih =>
    unfold Scope.describeValue
    split
    · trivial
    · split
      · exact hP.pointer (hP.base _)
      · exact (ih hknown _ _).bind fun described hd => hP.pointer hd
  | named id => exact has_describeNamed hbase hs id _
  | external type => exact has_describeExternal hbase hs (hknown type rfl) _

/-- **What holds of the references in a scope holds of descriptors.** -/
theorem has_describe (hP : Layered P) (hs : s.Provides known P) {type : TypeExpr}
    (hknown : ∀ e ∈ type.external?, known e) (marshal : Option MarshalOverride) (position : Position) :
    Has P (s.describe type marshal position) := by
  refine (has_describeValue hP hs hknown marshal position).bind fun described hd => ?_
  split
  · exact hP.pointer hd
  · exact hd

/-! ## Signatures -/

theorem has_describeParameters (hP : Layered P) (hs : s.Provides known P) {params : List Parameter}
    (hknown : ∀ p ∈ params, ∀ e ∈ p.type.external?, known e) {described : List Described}
    (hparams : describeParameters s params = .ok described) : ∀ a ∈ described, P a.type := by
  induction params generalizing described with
  | nil =>
    obtain rfl := Except.ok.inj hparams
    exact fun _ ha => (nomatch ha)
  | cons p later ih =>
    obtain ⟨hp, hlater⟩ := List.forall_mem_cons.mp hknown
    unfold describeParameters at hparams
    have hfirst := has_describe hP hs hp p.marshal (parameterPosition p)
    split at hparams
    · exact Except.noConfusion rfl rfl (heq_of_eq hparams)
    · next first hdescribed =>
      split at hparams
      · exact Except.noConfusion rfl rfl (heq_of_eq hparams)
      · next rest hrest =>
        obtain rfl := Except.ok.inj hparams
        refine List.forall_mem_cons.mpr ⟨?_, ih hlater hrest⟩
        rw [describeParameter] at hdescribed
        rwa [hdescribed] at hfirst

/-- The types of other units in the signature of a member are known. -/
def Knows (known : ExternalType → Prop) (m : Member) : Prop :=
  ∀ e ∈ m.ret :: m.params.map (·.type), ∀ type ∈ e.external?, known type

theorem has_describeSignature (hP : Layered P) (hs : s.Provides known P) {m : Member}
    (hknown : Knows known m) {signature : Signature}
    (hsignature : describeSignature s m = .ok signature) :
    (∀ a ∈ signature.params, P a.type) ∧ P signature.ret.type := by
  obtain ⟨hret, hparams⟩ := List.forall_mem_cons.mp hknown
  rw [List.forall_mem_map] at hparams
  unfold describeSignature at hsignature
  have hresult := has_describe hP hs hret m.retMarshal returnPosition
  split at hsignature
  · exact Except.noConfusion rfl rfl (heq_of_eq hsignature)
  · next params hdescribed =>
    split at hsignature
    · exact Except.noConfusion rfl rfl (heq_of_eq hsignature)
    · next ret hdescribedRet =>
      obtain rfl := Except.ok.inj hsignature
      rw [hdescribedRet] at hresult
      exact ⟨has_describeParameters hP hs hparams hdescribed, hresult⟩

theorem type_parameterElement (p : Parameter) (described : Described) :
    (parameterElement p described).type = described.type := by
  unfold parameterElement
  dsimp only
  split <;> rfl

variable {y : Synthesis} {owner : TypeDecl}

/-- The property holds of all descriptors of the function. -/
def FunctionDesc.Has (P : Descriptor → Prop) (f : FunctionDesc) : Prop :=
  (∀ e ∈ f.params, P e.type) ∧ P f.ret.type

variable (y owner) in
theorem has_assemble (hP : Layered P) (m : Member) (invoke : InvokeKind) {signature : Signature}
    (hparams : ∀ a ∈ signature.params, P a.type) (hret : P signature.ret.type) :
    FunctionDesc.Has P (assemble y owner m invoke signature).desc := by
  have hzip : ∀ e ∈ List.zipWith parameterElement m.params signature.params, P e.type := by
    intro e he
    obtain ⟨i, hi⟩ := List.mem_iff_getElem?.mp he
    obtain ⟨p, a, -, ha, rfl⟩ := List.getElem?_zipWith_eq_some.mp hi
    rw [type_parameterElement]
    exact hparams a (List.mem_of_getElem? ha)
  unfold assemble
  refine ⟨fun e he => ?_, ?_⟩
  · dsimp only at he
    split at he
    · rcases List.mem_append.mp he with he | he
      · exact hzip e he
      · obtain rfl := List.mem_singleton.mp he
        exact hP.pointer hret
    · exact hzip e he
  · dsimp only
    split
    · exact hP.base _
    · exact hret

/-- The references of a function are those of its signature, whether it returns a status code or
not. -/
theorem refs_assemble (m : Member) (invoke : InvokeKind) (g : Signature) :
    (assemble y owner m invoke g).desc.refs =
      ((List.zipWith parameterElement m.params g.params).map (·.type.ref?)).filterMap id
        ++ g.ret.type.ref?.toList := by
  have hpointer : (resultElement g.ret).type.ref? = g.ret.type.ref? := rfl
  unfold assemble FunctionDesc.refs
  dsimp only
  rw [List.filterMap_map]
  cases returnsStatus y.binding m y.settings with
  | false =>
    cases h : g.ret.type.ref? <;> simp [h, List.filterMap_append]
  | true =>
    by_cases hvoid : g.ret.type.elementType = .void
    · have hnone : g.ret.type.ref? = none := by
        cases htype : g.ret.type <;> rw [htype] at hvoid <;>
          first | rfl | exact ElementType.noConfusion hvoid
      simp [hvoid, hnone, Descriptor.ref?]
    · cases h : g.ret.type.ref? <;> simp [hvoid, hpointer, h, List.filterMap_append, Descriptor.ref?]

/-- **What holds of the references in a scope holds of the functions of an interface.** -/
theorem has_interfaceFunctions (hP : Layered P) (hs : y.scope.Provides known P)
    (hknown : ∀ m ∈ owner.members, m.isExportable = true → Knows known m) {base : Inherited}
    {f : SynthesizedFunction} (hf : f ∈ (interfaceFunctions y owner base).functions) :
    FunctionDesc.Has P f.desc := by
  obtain ⟨j, hj⟩ := List.mem_iff_getElem?.mp hf
  obtain ⟨s, place, memid, name, hs', -, -, rfl⟩ := getElem?_functions hj
  obtain ⟨m, hm, hexportable, hmade⟩ := mem_memberFunctions.mp (List.mem_of_getElem? hs')
  obtain ⟨invoke, signature, -, hsignature, rfl⟩ := synthesize_eq_some.mp hmade
  obtain ⟨hparams, hret⟩ := has_describeSignature hP hs (hknown m hm hexportable) hsignature
  exact has_assemble y owner hP m invoke hparams hret

/-- What holds of the references in a scope holds of the fields of a record. -/
theorem has_fieldVariables {s : Setting} (hP : Layered P) (hs : s.scope.Provides known P)
    (owner : TypeDecl) (index : Nat) {fields : List Field}
    (hknown : ∀ f ∈ fields, ∀ e ∈ f.type.external?, known e) :
    ∀ v ∈ fieldVariables s owner index fields,
      ∃ element, v.desc.content = .field element ∧ P element.type := by
  induction fields generalizing index with
  | nil => exact fun _ hv => (nomatch hv)
  | cons f later ih =>
    obtain ⟨hf, hlater⟩ := List.forall_mem_cons.mp hknown
    unfold fieldVariables
    have hfirst := has_describe hP hs hf f.marshal fieldPosition
    split
    · next described hdescribed =>
      rw [hdescribed] at hfirst
      exact List.forall_mem_cons.mpr ⟨⟨_, rfl, hfirst⟩, ih (index + 1) hlater⟩
    · exact ih index hlater

/-! ## Targets -/

/-- The reference in the descriptor, if there is one, has a target. -/
def Closed (d : Draft) (descriptor : Descriptor) : Prop :=
  ∀ ref ∈ descriptor.ref?, d.resolves ref = true

theorem layered_closed (d : Draft) : Layered (Closed d) where
  base _ _ href := nomatch href
  pointer h := h
  safeArray h := h
  cArray _ h := h

theorem closed_userDefined {ref : TypeRef} (href : d.resolves ref = true) :
    Closed d (.userDefined ref) := by
  rintro _ ⟨rfl⟩
  exact href

/-- A table with targets for its references provides descriptors that have theirs. -/
theorem ReferenceTable.Resolves.provides (h : s.refs.Resolves d) :
    s.Provides (fun _ => True) (Closed d) where
  ownObject _ ref href := closed_userDefined (ownObject?_resolves h ref href)
  externalObject _ _ ref href := closed_userDefined (externalObject?_resolves h ref href)
  ownValue _ _ _ _ _ href := closed_userDefined (h.own? href).1
  externalValue _ _ _ _ href := closed_userDefined (h.external? href).1
  standard index hindex ref href := by
    refine closed_userDefined (h.standard? ?_ href)
    rcases hindex with rfl | rfl <;> decide

/-- The references of the functions of an interface have targets. -/
theorem functionRefs_resolve (h : y.scope.refs.Resolves d) {base : Inherited}
    {f : SynthesizedFunction} (hf : f ∈ (interfaceFunctions y owner base).functions) :
    ∀ ref ∈ f.desc.refs, d.resolves ref = true := by
  obtain ⟨hparams, hret⟩ := has_interfaceFunctions (layered_closed d) h.provides
    (fun _ _ _ _ _ _ _ => trivial) hf
  intro ref href
  obtain ⟨e, he, href⟩ := List.mem_filterMap.mp href
  rcases List.mem_append.mp he with he | he
  · exact hparams e he ref href
  · obtain rfl := List.mem_singleton.mp he
    exact hret ref href

/-- The references of the fields of a record have targets. -/
theorem fieldRefs_resolve {s : Setting} (h : s.scope.refs.Resolves d) (owner : TypeDecl)
    (index : Nat) (fields : List Field) : ∀ v ∈ fieldVariables s owner index fields,
      ∃ element, v.desc.content = .field element ∧
        ∀ ref ∈ element.type.ref?, d.resolves ref = true :=
  has_fieldVariables (layered_closed d) h.provides owner index fun _ _ _ _ => trivial

end Automation.Export

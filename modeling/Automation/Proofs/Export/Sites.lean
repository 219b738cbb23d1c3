import Automation.Proofs.Export.Accounting
import Automation.Proofs.Export.Cores

/-!
# Sites

A site is a place where a declaration writes a type expression and a library has a descriptor: a
parameter or the result of a function, or a field. `ExportedLibrary.sites` lists those of a library,
read off the library and the declarations of its unit. What stands there is the descriptor of the
expression (`ExportedFrom.isDescribed`). What was lost at a site is said of it
(`ExportedFrom.said_of_loses`), and every remark that something was lost is about one of them
(`ExportedFrom.exists_loses`).
-/

namespace Automation.Export

open Library Source Diagnostic

/-- A type expression of a declaration, with what a library has in its place. -/
structure Site where
  /-- The qualified name of the member or field. -/
  subject : String
  type : TypeExpr
  marshal : Option MarshalOverride
  /-- The descriptor, without the pointer that passes a parameter by reference or takes a result. -/
  descriptor : Option Descriptor

namespace Site

/-- What the expression comes down to, with the override that applies there. -/
def core (site : Site) : TypeExpr × Option MarshalOverride := site.type.core site.marshal

/-- The form that is asked for there. -/
def form (site : Site) : Option NativeForm := site.core.2.map (·.form)

/-- What the library has in the place of the core. -/
def coreDescriptor (site : Site) : Option Descriptor :=
  site.descriptor.bind (Descriptor.coreOf? site.type)

end Site

/-- The site of the parameter at an index. -/
def parameterSite (owner : TypeDecl) (m : Member) (f : FunctionDesc) (p : Parameter) (index : Nat) :
    Site :=
  let passed := f.params[index]?.map (·.type)
  { subject := memberSubject owner m, type := p.type, marshal := p.marshal
    descriptor := if p.byRef then passed.bind Descriptor.inner? else passed }

/-- The site of the result, which is received by a parameter where a status code is returned. -/
def resultSite (owner : TypeDecl) (status : Bool) (m : Member) (f : FunctionDesc) : Site where
  subject := memberSubject owner m
  type := m.ret
  marshal := m.retMarshal
  descriptor :=
    if status then (f.params[m.params.length]?.map (·.type)).bind Descriptor.inner?
    else some f.ret.type

/-- The sites of a member with its function, which returns a status code or the result itself. -/
def memberSites (owner : TypeDecl) (status : Bool) (m : Member) (f : FunctionDesc) : List Site :=
  m.params.zipIdx.map (fun (p, index) => parameterSite owner m f p index)
    ++ [resultSite owner status m f]

/-- The sites of an interface: those of the members that have functions. -/
def interfaceSites (s : Scope) (settings : Settings) (owner : TypeDecl) (binding : Binding)
    (info : TypeInfo) : List Site :=
  let members := owner.members.filter fun m => m.isExportable && s.describes m
  (members.zip info.functions).flatMap fun (m, f) =>
    memberSites owner (returnsStatus binding m settings) m f.desc

/-- Whether the type of a field can be described. -/
def Scope.describesField (s : Scope) (f : Field) : Bool :=
  (s.describe f.type f.marshal fieldPosition).toBool

/-- The site of a field. -/
def fieldSite (owner : TypeDecl) (f : Field) (v : VariableInfo) : Site where
  subject := owner.qualified ++ "." ++ f.name
  type := f.type
  marshal := f.marshal
  descriptor := match v.desc.content with
    | .field element => some element.type
    | .constant _ => none

/-- The sites of a record: those of the fields that are variables. -/
def recordSites (s : Scope) (owner : TypeDecl) (info : TypeInfo) : List Site :=
  let fields := owner.fields.filter fun f => f.isPublic && s.describesField f
  (fields.zip info.vars).map fun (f, v) => fieldSite owner f v

/-- The sites of a type of the unit. -/
def ExportedLibrary.typeSites (l : ExportedLibrary Library) (unit : Reflection) (settings : Settings)
    (references : List ReferencedLibrary) (id : TypeId) : List Site :=
  let s := l.scope unit references
  match unit.type? id with
  | some decl =>
    match target? decl with
    | some (.interface binding) =>
      (l.info? id).toList.flatMap (interfaceSites s settings decl binding)
    | some (.coClass _ (some binding)) =>
      (l.classInterfaceInfo? id).toList.flatMap (interfaceSites s settings decl binding)
    | some .record => (l.info? id).toList.flatMap (recordSites s decl)
    | some (.coClass _ none) | some .enumeration | none => []
  | none => []

/-- The sites of a library. -/
def ExportedLibrary.sites (l : ExportedLibrary Library) (unit : Reflection) (settings : Settings)
    (references : List ReferencedLibrary) : List Site :=
  unit.ids.flatMap (l.typeSites unit settings references)

/-! ## What stands at a site -/

/-- The descriptor of the expression stands at the site, if there is a reference at its core. -/
def IsDescribed (s : Scope) (site : Site) : Prop :=
  IsReference site.core.1 → ∃ described position,
    s.describeValue site.type site.marshal position = .ok described ∧
      site.descriptor = some described.type

theorem getElem?_describeParameters {s : Scope} {params : List Parameter}
    {described : List Described} (h : describeParameters s params = .ok described) {i : Nat}
    {p : Parameter} (hp : params[i]? = some p) :
    ∃ x, described[i]? = some x ∧ describeParameter s p = .ok x := by
  induction params generalizing described i with
  | nil => simp at hp
  | cons first later ih =>
    unfold describeParameters at h
    split at h
    · exact Except.noConfusion rfl rfl (heq_of_eq h)
    · next x hx =>
      split at h
      · exact Except.noConfusion rfl rfl (heq_of_eq h)
      · next rest hrest =>
        obtain rfl := Except.ok.inj h
        cases i with
        | zero =>
          obtain rfl := Option.some.inj hp
          exact ⟨x, rfl, hx⟩
        | succ i => exact ih hrest hp

theorem describeSignature_eq_ok {s : Scope} {m : Member} {signature : Signature}
    (h : describeSignature s m = .ok signature) :
    describeParameters s m.params = .ok signature.params ∧
      s.describe m.ret m.retMarshal returnPosition = .ok signature.ret := by
  unfold describeSignature at h
  split at h
  · exact Except.noConfusion rfl rfl (heq_of_eq h)
  · next params hparams =>
    split at h
    · exact Except.noConfusion rfl rfl (heq_of_eq h)
    · next ret hret =>
      obtain rfl := Except.ok.inj h
      exact ⟨hparams, hret⟩

variable {y : Synthesis} {owner : TypeDecl} {m : Member} {f : SynthesizedFunction}

theorem getElem?_params_assemble {invoke : InvokeKind} {signature : Signature} {i : Nat}
    {p : Parameter} {x : Described} (hp : m.params[i]? = some p)
    (hx : signature.params[i]? = some x) :
    (assemble y owner m invoke signature).desc.params[i]? = some (parameterElement p x) := by
  have hzip : (List.zipWith parameterElement m.params signature.params)[i]? =
      some (parameterElement p x) := by
    rw [List.getElem?_zipWith, hp, hx]
  unfold assemble
  dsimp only
  split
  · rwa [List.getElem?_append_left (List.getElem?_eq_some_iff.mp hzip).1]
  · exact hzip

/-- A result that is a value is received by a parameter where status codes are returned. -/
theorem getElem?_result_assemble {invoke : InvokeKind} {signature : Signature}
    (hlength : signature.params.length = m.params.length)
    (hstatus : returnsStatus y.binding m y.settings = true)
    (hvoid : signature.ret.type.elementType ≠ .void) :
    (assemble y owner m invoke signature).desc.params[m.params.length]? =
      some (resultElement signature.ret) := by
  simp [assemble, hstatus, hvoid, hlength]

/-- **The sites of a member are described** by its function. -/
theorem isDescribed_memberSites (h : (synthesize y owner m).1 = some f) :
    ∀ site ∈ memberSites owner (returnsStatus y.binding m y.settings) m f.desc,
      IsDescribed y.scope site := by
  obtain ⟨invoke, signature, -, hsignature, rfl⟩ := synthesize_eq_some.mp h
  obtain ⟨hparams, hret⟩ := describeSignature_eq_ok hsignature
  have hlength := length_describeParameters hparams
  intro site hsite hcore
  rcases List.mem_append.mp hsite with hsite | hsite
  · obtain ⟨⟨p, i⟩, hp, rfl⟩ := List.mem_map.mp hsite
    have hp : m.params[i]? = some p := List.mem_zipIdx_iff_getElem?.mp hp
    obtain ⟨x, hx, hdescribed⟩ := getElem?_describeParameters hparams hp
    obtain ⟨value, hvalue, htype, -⟩ := exists_of_describe hdescribed
    refine ⟨value, _, hvalue, ?_⟩
    unfold parameterSite
    dsimp only
    rw [getElem?_params_assemble hp hx, Option.map_some, type_parameterElement, htype]
    cases hbyRef : p.byRef <;> simp [parameterPosition, hbyRef, Descriptor.inner?]
  · obtain rfl := List.mem_singleton.mp hsite
    obtain ⟨value, hvalue, htype, -⟩ := exists_of_describe hret
    refine ⟨value, _, hvalue, ?_⟩
    replace htype : signature.ret.type = value.type := htype.trans (if_neg Bool.false_ne_true)
    have hvoid : signature.ret.type.elementType ≠ .void := htype ▸ elementType_ne_void hvalue hcore
    unfold resultSite
    dsimp only
    cases hstatus : returnsStatus y.binding m y.settings with
    | true =>
      rw [if_pos rfl, getElem?_result_assemble hlength hstatus hvoid]
      exact congrArg some htype
    | false =>
      rw [if_neg Bool.false_ne_true]
      simp [assemble, hstatus, htype]

/-! ## Fields -/

/-- The variables of a record, in the order of the fields that can be described. -/
theorem forall₂_fieldVariables (s : Setting) (owner : TypeDecl) (index : Nat) (fields : List Field) :
    List.Forall₂ (fun f v => ∃ described,
        s.scope.describe f.type f.marshal fieldPosition = .ok described ∧
          v.desc.content = .field { type := described.type })
      (fields.filter s.scope.describesField) (fieldVariables s owner index fields) := by
  induction fields generalizing index with
  | nil => exact .nil
  | cons f later ih =>
    unfold fieldVariables
    cases hf : s.scope.describe f.type f.marshal fieldPosition with
    | error error =>
      rw [List.filter_cons_of_neg (by simp [Scope.describesField, hf, Except.toBool])]
      exact ih index
    | ok described =>
      rw [List.filter_cons_of_pos (by simp [Scope.describesField, hf, Except.toBool])]
      exact .cons ⟨described, hf, rfl⟩ (ih (index + 1))

/-- The variables of a record are those of the public fields that can be described, in order. -/
def FieldsFrom (s : Scope) (owner : TypeDecl) (vars : List VariableInfo) : Prop :=
  List.Forall₂ (fun f v => ∃ described,
      s.describe f.type f.marshal fieldPosition = .ok described ∧
        v.desc.content = .field { type := described.type })
    (owner.fields.filter fun f => f.isPublic && s.describesField f) vars

/-- **The sites of a record are described** by its variables. -/
theorem isDescribed_recordSites {s : Scope} {info : TypeInfo} (h : FieldsFrom s owner info.vars) :
    ∀ site ∈ recordSites s owner info, IsDescribed s site := by
  intro site hsite _
  obtain ⟨⟨f, v⟩, hmem, rfl⟩ := List.mem_map.mp hsite
  obtain ⟨described, hdescribed, hv⟩ := (List.forall₂_iff_zip.mp h).2 hmem
  obtain ⟨value, hvalue, htype, -⟩ := exists_of_describe hdescribed
  refine ⟨value, _, hvalue, ?_⟩
  have hsame : described.type = value.type := htype.trans (if_neg Bool.false_ne_true)
  dsimp only [fieldSite]
  rw [hv, ← hsame]

/-! ## What is lost at a site -/

/-- A reference is described alike everywhere. -/
theorem describeValue_reference {s : Scope} {type : TypeExpr} (h : IsReference type)
    (marshal : Option MarshalOverride) (position position' : Position) :
    s.describeValue type marshal position = s.describeValue type marshal position' := by
  cases type with
  | named id => rfl
  | external type => rfl
  | _ => exact h.elim

/-- What stands in the place of the core is the descriptor of what the core refers to. -/
theorem IsDescribed.exists_core {s : Scope} {site : Site} (h : IsDescribed s site)
    (hcore : IsReference site.core.1) : ∃ core position,
      s.describeValue site.core.1 site.core.2 position = .ok core ∧
        site.coreDescriptor = some core.type := by
  obtain ⟨described, position, hdescribed, hsite⟩ := h hcore
  obtain ⟨core, position', hfound, htype, -⟩ := Export.exists_core hdescribed hcore
  refine ⟨core, position', hfound, ?_⟩
  unfold Site.coreDescriptor
  rw [hsite]
  exact htype

/-- The loss is in the descriptor of the expression. -/
def Loses (s : Scope) (site : Site) (loss : Degradation) : Prop :=
  ∃ described position, s.describeValue site.type site.marshal position = .ok described ∧
    loss ∈ described.degradations

/-- What is lost is lost in the descriptor of the core. -/
theorem Loses.exists_core {s : Scope} {site : Site} {loss : Degradation} (h : Loses s site loss) :
    IsReference site.core.1 ∧ ∃ core position,
      s.describeValue site.core.1 site.core.2 position = .ok core ∧ loss ∈ core.degradations := by
  obtain ⟨described, position, hdescribed, hloss⟩ := h
  have hcore := isReference_of_loss hdescribed hloss
  obtain ⟨core, position', hfound, -, hsame⟩ := Export.exists_core hdescribed hcore
  exact ⟨hcore, core, position', hfound, hsame ▸ hloss⟩

/-- What is lost in a position is lost in every other. -/
theorem Loses.mem {s : Scope} {site : Site} {loss : Degradation} (h : Loses s site loss)
    {described : Described} {position : Position}
    (hdescribed : s.describeValue site.type site.marshal position = .ok described) :
    loss ∈ described.degradations := by
  obtain ⟨hcore, core, position', hfound, hloss⟩ := h.exists_core
  obtain ⟨core', position'', hfound', -, hsame⟩ := Export.exists_core hdescribed hcore
  obtain rfl : core = core' := Except.ok.inj (hfound.symm.trans
    ((describeValue_reference hcore site.core.2 position' position'').trans hfound'))
  exact hsame ▸ hloss

/-- The loss is what became of the type that the core of the site refers to. -/
def Site.Lost (s : Scope) (site : Site) (loss : Degradation) : Prop :=
  ∃ core, site.coreDescriptor = some core ∧ loss.IsOf s site.core.1 site.form core

/-- What is lost at a site is what its core refers to, and the site has what stands in for that. -/
theorem IsDescribed.of_loses {s : Scope} {site : Site} (h : IsDescribed s site) {loss : Degradation}
    (hlost : Loses s site loss) : site.Lost s loss := by
  obtain ⟨hcore, core, position, hfound, hloss⟩ := hlost.exists_core
  obtain ⟨core', position', hfound', hsite⟩ := h.exists_core hcore
  obtain rfl : core = core' := Except.ok.inj (hfound.symm.trans
    ((describeValue_reference hcore site.core.2 position position').trans hfound'))
  exact ⟨core.type, hsite, (isReferred_describeValue hcore hfound).losses loss hloss⟩

theorem exists_of_mem_describeParameters {s : Scope} {params : List Parameter}
    {described : List Described} (h : describeParameters s params = .ok described) {x : Described}
    (hx : x ∈ described) : ∃ (i : Nat) (p : Parameter), params[i]? = some p ∧
      describeParameter s p = .ok x := by
  obtain ⟨i, hi⟩ := List.mem_iff_getElem?.mp hx
  have hlt : i < params.length :=
    length_describeParameters h ▸ (List.getElem?_eq_some_iff.mp hi).1
  obtain ⟨x', hx', hdescribed⟩ := getElem?_describeParameters h (List.getElem?_eq_getElem hlt)
  obtain rfl := Option.some.inj (hi.symm.trans hx')
  exact ⟨i, _, List.getElem?_eq_getElem hlt, hdescribed⟩

/-- What is lost in a signature is lost at a site of the member. -/
theorem exists_loses_memberSites {s : Scope} {signature : Signature}
    (h : describeSignature s m = .ok signature) {loss : Degradation}
    (hlost : loss ∈ signature.degradations) (status : Bool) (f : FunctionDesc) :
    ∃ site ∈ memberSites owner status m f, site.subject = memberSubject owner m ∧
      Loses s site loss := by
  obtain ⟨hparams, hret⟩ := describeSignature_eq_ok h
  rcases List.mem_append.mp hlost with hlost | hlost
  · obtain ⟨x, hx, hlost⟩ := List.mem_flatMap.mp hlost
    obtain ⟨i, p, hp, hdescribed⟩ := exists_of_mem_describeParameters hparams hx
    obtain ⟨value, hvalue, -, hdegradations⟩ := exists_of_describe hdescribed
    rw [hdegradations] at hlost
    refine ⟨parameterSite owner m f p i, List.mem_append_left _ ?_, rfl, value, _, hvalue, hlost⟩
    exact List.mem_map.mpr ⟨(p, i), List.mem_zipIdx_iff_getElem?.mpr hp, rfl⟩
  · obtain ⟨value, hvalue, -, hdegradations⟩ := exists_of_describe hret
    rw [hdegradations] at hlost
    exact ⟨_, List.mem_append_right _ List.mem_cons_self, rfl, value, _, hvalue, hlost⟩

/-- What is lost at a site of a member is lost in its signature. -/
theorem mem_degradations_of_loses {s : Scope} {signature : Signature}
    (h : describeSignature s m = .ok signature) {status : Bool} {f : FunctionDesc} {site : Site}
    (hsite : site ∈ memberSites owner status m f) {loss : Degradation} (hlost : Loses s site loss) :
    site.subject = memberSubject owner m ∧ loss ∈ signature.degradations := by
  obtain ⟨hparams, hret⟩ := describeSignature_eq_ok h
  rcases List.mem_append.mp hsite with hsite | hsite
  · obtain ⟨⟨p, i⟩, hp, rfl⟩ := List.mem_map.mp hsite
    obtain ⟨x, hx, hdescribed⟩ :=
      getElem?_describeParameters hparams (List.mem_zipIdx_iff_getElem?.mp hp)
    obtain ⟨value, hvalue, -, hdegradations⟩ := exists_of_describe hdescribed
    refine ⟨rfl, List.mem_append_left _ (List.mem_flatMap.mpr ⟨x, List.mem_of_getElem? hx, ?_⟩)⟩
    exact hdegradations ▸ hlost.mem hvalue
  · obtain rfl := List.mem_singleton.mp hsite
    obtain ⟨value, hvalue, -, hdegradations⟩ := exists_of_describe hret
    exact ⟨rfl, List.mem_append_right _ (hdegradations ▸ hlost.mem hvalue)⟩

/-- What is said about a described field is what was lost in it. -/
theorem raised_fieldSteps {s : Setting} {p : Placed} {index : Nat} {field : Field}
    {described : Described} {e : Diagnostic}
    (h : Step.remark (.raised e) ∈ fieldSteps s p index field described) :
    ∃ loss ∈ described.degradations,
      e = degraded (p.type.decl.qualified ++ "." ++ field.name) loss := by
  unfold fieldSteps variableSteps at h
  rcases List.mem_append.mp h with h | h
  · obtain ⟨loss, hloss, hraised⟩ := List.mem_map.mp h
    exact ⟨loss, hloss, (Remark.raised.inj (Step.remark.inj hraised)).symm⟩
  · split at h
    · exact Step.noConfusion (List.mem_singleton.mp h)
    · simp [Step.ask] at h

/-- What is lost in a public field of a record is said about it. -/
theorem raised_recordSteps {s : Setting} {p : Placed} (htarget : p.type.target = .record) {f : Field}
    (hf : f ∈ p.type.decl.fields) (hpublic : f.isPublic = true) {described : Described}
    (hdescribed : s.scope.describe f.type f.marshal fieldPosition = .ok described)
    {loss : Degradation} (hloss : loss ∈ described.degradations) :
    Step.remark (.raised (degraded (p.type.decl.qualified ++ "." ++ f.name) loss)) ∈
      recordSteps s p := by
  unfold recordSteps
  rw [htarget]
  dsimp only
  have hmem := List.mem_filter.mpr ⟨hf, hpublic⟩
  generalize p.type.decl.fields.filter (·.isPublic) = fields at hmem
  generalize 0 = index
  induction fields generalizing index with
  | nil => exact (List.not_mem_nil hmem).elim
  | cons first later ih =>
    unfold fieldsSteps
    rcases List.mem_cons.mp hmem with rfl | hmem
    · rw [hdescribed]
      exact List.mem_append_left _ (List.mem_append_left _ (List.mem_map.mpr ⟨loss, hloss, rfl⟩))
    · split
      · exact List.mem_append_right _ (ih hmem _)
      · exact List.mem_cons_of_mem _ (ih hmem _)

/-- A degradation is said about a field in which something was lost. -/
theorem exists_field_of_degraded {s : Setting} {p : Placed} {e : Diagnostic}
    (h : Step.remark (.raised e) ∈ recordSteps s p) (hcode : e.code ∈ degradedCodes) :
    ∃ f ∈ p.type.decl.fields.filter (·.isPublic), ∃ described, p.type.target = .record ∧
      s.scope.describe f.type f.marshal fieldPosition = .ok described ∧
        ∃ loss ∈ described.degradations,
          e = degraded (p.type.decl.qualified ++ "." ++ f.name) loss := by
  unfold recordSteps at h
  split at h
  · next htarget =>
    generalize p.type.decl.fields.filter (·.isPublic) = fields at h
    generalize hindex : 0 = index at h
    clear hindex
    induction fields generalizing index with
    | nil => exact (List.not_mem_nil h).elim
    | cons f later ih =>
      unfold fieldsSteps at h
      split at h
      · next described hdescribed =>
        rcases List.mem_append.mp h with h | h
        · obtain ⟨loss, hloss, rfl⟩ := raised_fieldSteps h
          exact ⟨f, List.mem_cons_self, described, htarget, hdescribed, loss, hloss, rfl⟩
        · obtain ⟨f', hf', hfound⟩ := ih _ h
          exact ⟨f', List.mem_cons_of_mem _ hf', hfound⟩
      · rcases List.mem_cons.mp h with h | h
        · rw [Remark.raised.inj (Step.remark.inj h)] at hcode
          exact absurd hcode (show Code.fieldExcluded ∉ degradedCodes by decide)
        · obtain ⟨f', hf', hfound⟩ := ih _ h
          exact ⟨f', List.mem_cons_of_mem _ hf', hfound⟩
  · exact (List.not_mem_nil h).elim

/-! ## The sites of a library -/

theorem exists_mem_zip {α β : Type} {R : α → β → Prop} {as : List α} {bs : List β}
    (h : List.Forall₂ R as bs) {a : α} (ha : a ∈ as) : ∃ b, (a, b) ∈ as.zip bs := by
  induction h with
  | nil => exact (List.not_mem_nil ha).elim
  | @cons first value _ _ _ _ ih =>
    rcases List.mem_cons.mp ha with rfl | ha
    · exact ⟨value, List.mem_cons_self⟩
    · obtain ⟨b, hb⟩ := ih ha
      exact ⟨b, List.mem_cons_of_mem _ hb⟩

/-- The sites of an interface are described if its functions are made from its members. -/
theorem isDescribed_interfaceSites {info : TypeInfo}
    (h : MadeFrom y owner (owner.members.filter fun m => m.isExportable && y.scope.describes m)
      info.functions) :
    ∀ site ∈ interfaceSites y.scope y.settings owner y.binding info, IsDescribed y.scope site := by
  intro site hsite
  obtain ⟨⟨m, f⟩, hmem, hsite⟩ := List.mem_flatMap.mp hsite
  obtain ⟨made, memid, offset, name, hmade, rfl⟩ := (List.forall₂_iff_zip.mp h).2 hmem
  exact isDescribed_memberSites hmade site hsite

/-- The types at the sites of an interface are in the signatures of its members. -/
theorem type_mem_of_interfaceSites {s : Scope} {settings : Settings} {binding : Binding}
    {info : TypeInfo} {site : Site} (h : site ∈ interfaceSites s settings owner binding info) :
    site.type ∈ signatureTypes owner := by
  obtain ⟨⟨m, f⟩, hmem, hsite⟩ := List.mem_flatMap.mp h
  obtain ⟨hm, hdescribed⟩ := List.mem_filter.mp (List.of_mem_zip hmem).1
  refine List.mem_append_right _ (List.mem_flatMap.mpr ⟨m, List.mem_filter.mpr
    ⟨hm, (Bool.and_eq_true_iff.mp hdescribed).1⟩, ?_⟩)
  rcases List.mem_append.mp hsite with hsite | hsite
  · obtain ⟨⟨p, i⟩, hp, rfl⟩ := List.mem_map.mp hsite
    exact List.mem_cons_of_mem _ (List.mem_map_of_mem
      (List.mem_of_getElem? (List.mem_zipIdx_iff_getElem?.mp hp)))
  · obtain rfl := List.mem_singleton.mp hsite
    exact List.mem_cons_self

/-- The types at the sites of a record are those of its public fields. -/
theorem type_mem_of_recordSites {s : Scope} {info : TypeInfo} {site : Site}
    (h : site ∈ recordSites s owner info) : site.type ∈ signatureTypes owner := by
  obtain ⟨⟨f, v⟩, hmem, rfl⟩ := List.mem_map.mp h
  obtain ⟨hf, hdescribed⟩ := List.mem_filter.mp (List.of_mem_zip hmem).1
  refine List.mem_append_left _ (List.mem_append_right _ (List.mem_map_of_mem ?_))
  exact List.mem_filter.mpr ⟨hf, (Bool.and_eq_true_iff.mp hdescribed).1⟩

namespace ExportedFrom

variable {unit : Reflection} {resolver : Resolver} {settings : Settings}
  {references : List ReferencedLibrary} {placed : List Placed} {refs : ReferenceTable} {d : Draft}
  {l : ExportedLibrary Library}

/-- The types of the public fields of a placed type are among those that it needs. -/
theorem describe_field (h : ExportedFrom unit resolver settings references placed refs d l)
    {p : Placed} (hp : p ∈ placed) {f : Field} (hf : f ∈ p.type.decl.fields)
    (hpublic : f.isPublic = true) : (l.scope unit references).describe f.type f.marshal fieldPosition =
      ((settingOf unit resolver settings refs).withDefaults placed).scope.describe f.type f.marshal
        fieldPosition := by
  refine h.describe_scope hp (List.mem_append_left _ (List.mem_append_right _ ?_)) _ _
  exact List.mem_map_of_mem (List.mem_filter.mpr ⟨hf, hpublic⟩)

/-- The public fields of a placed type that can be described. -/
theorem filter_describesField (h : ExportedFrom unit resolver settings references placed refs d l)
    {p : Placed} (hp : p ∈ placed) : (p.type.decl.fields.filter (·.isPublic)).filter
      ((settingOf unit resolver settings refs).withDefaults placed).scope.describesField =
        p.type.decl.fields.filter
          fun f => f.isPublic && (l.scope unit references).describesField f := by
  rw [List.filter_filter]
  refine List.filter_congr fun f hf => ?_
  cases hpublic : f.isPublic with
  | false => exact Bool.and_false _
  | true =>
    unfold Scope.describesField
    rw [Bool.and_true, Bool.true_and, h.describe_field hp hf hpublic]

/-- A record of a library has its fields. -/
theorem fieldsFrom (h : ExportedFrom unit resolver settings references placed refs d l)
    {p : Placed} (hp : p ∈ placed) (htarget : p.type.target = .record) :
    ∃ info, l.library.type? p.handle = some info ∧
      FieldsFrom (l.scope unit references) p.type.decl info.vars := by
  have htypes := h.types
  obtain ⟨classified, d₀, hbuilt⟩ := h.built
  unfold Library.type?
  rw [htypes]
  refine ⟨_, hbuilt.info_of_content (.record hp htarget), ?_⟩
  have hfields := forall₂_fieldVariables ((settingOf unit resolver settings refs).withDefaults placed)
    p.type.decl 0 (p.type.decl.fields.filter (·.isPublic))
  rw [h.filter_describesField hp] at hfields
  refine List.forall₂_iff_zip.mpr ⟨hfields.length_eq, fun {f v} hmem => ?_⟩
  obtain ⟨described, hdescribed, hv⟩ := (List.forall₂_iff_zip.mp hfields).2 hmem
  obtain ⟨hf, hpublic⟩ := List.mem_filter.mp (List.of_mem_zip hmem).1
  refine ⟨described, ?_, hv⟩
  rw [h.describe_field hp hf (Bool.and_eq_true_iff.mp hpublic).1]
  exact hdescribed

/-- A site of the library is one of an interface that is filled, or one of a record. -/
theorem sites_cases (h : ExportedFrom unit resolver settings references placed refs d l) {site : Site}
    (hsite : site ∈ l.sites unit settings references) :
    (∃ p k binding base info,
      IsFilled ((settingOf unit resolver settings refs).withDefaults placed) placed p k binding base ∧
      l.library.type? k = some info ∧
      MadeFrom (l.synthesis unit resolver settings references binding) p.type.decl
        (p.type.decl.members.filter fun m => m.isExportable && (l.scope unit references).describes m)
        info.functions ∧
      site ∈ interfaceSites (l.scope unit references) settings p.type.decl binding info) ∨
    (∃ p ∈ placed, p.type.target = .record ∧ ∃ info, l.library.type? p.handle = some info ∧
      FieldsFrom (l.scope unit references) p.type.decl info.vars ∧
      site ∈ recordSites (l.scope unit references) p.type.decl info) := by
  obtain ⟨id, hid, hsite⟩ := List.mem_flatMap.mp hsite
  unfold ExportedLibrary.typeSites at hsite
  split at hsite
  · next decl hdecl =>
    split at hsite
    · next binding htarget =>
      obtain ⟨p, hp, htype⟩ := h.exists_placed hid hdecl htarget
      obtain ⟨base, hfilled⟩ := isFilled_of_interface
        (s := (settingOf unit resolver settings refs).withDefaults placed) hp (by rw [htype])
      obtain ⟨info, hinfo, hmade⟩ := h.madeFrom hfilled
      have hfound := h.info?_eq hp
      rw [hinfo, htype] at hfound
      rw [hfound, Option.toList_some, List.flatMap_singleton] at hsite
      refine .inl ⟨p, _, binding, base, info, hfilled, hinfo, hmade, ?_⟩
      rwa [htype]
    · next creatable binding htarget =>
      obtain ⟨p, hp, htype⟩ := h.exists_placed hid hdecl htarget
      obtain ⟨classified, d₀, hbuilt⟩ := h.built
      obtain ⟨c, hc, rfl⟩ := hbuilt.prepared.exists_classInterface hp (by rw [htype])
      obtain ⟨info, hinfo, hmade⟩ := h.madeFrom (.classInterface hp hc)
      have hfound := h.classInterfaceInfo?_eq hp hc
      rw [hinfo, htype] at hfound
      rw [hfound, Option.toList_some, List.flatMap_singleton] at hsite
      refine .inl ⟨p, _, c.binding, {}, info, .classInterface hp hc, hinfo, hmade, ?_⟩
      rwa [htype]
    · next htarget =>
      obtain ⟨p, hp, htype⟩ := h.exists_placed hid hdecl htarget
      obtain ⟨info, hinfo, hfields⟩ := h.fieldsFrom hp (by rw [htype])
      have hfound := h.info?_eq hp
      rw [hinfo, htype] at hfound
      rw [hfound, Option.toList_some, List.flatMap_singleton] at hsite
      refine .inr ⟨p, hp, by rw [htype], info, hinfo, hfields, ?_⟩
      rwa [htype]
    · exact (List.not_mem_nil hsite).elim
    · exact (List.not_mem_nil hsite).elim
    · exact (List.not_mem_nil hsite).elim
  · exact (List.not_mem_nil hsite).elim

/-- **What stands at a site is the descriptor of its expression**, in the scope of the library. -/
theorem isDescribed (h : ExportedFrom unit resolver settings references placed refs d l) :
    ∀ site ∈ l.sites unit settings references, IsDescribed (l.scope unit references) site := by
  intro site hsite
  rcases h.sites_cases hsite with ⟨p, -, binding, -, info, -, -, hmade, hsite⟩ |
    ⟨p, -, -, info, -, hfields, hsite⟩
  · exact isDescribed_interfaceSites
      (y := l.synthesis unit resolver settings references binding) hmade site hsite
  · exact isDescribed_recordSites hfields site hsite

/-- A type of another unit that is referred to at a site is mentioned in an exported declaration. -/
theorem mem_externalTypes (h : ExportedFrom unit resolver settings references placed refs d l)
    {site : Site} (hsite : site ∈ l.sites unit settings references) {type : ExternalType}
    (hcore : site.core.1 = .external type) : type ∈ l.externalTypes unit := by
  obtain ⟨p, hp, hmem⟩ : ∃ p ∈ placed, site.type ∈ signatureTypes p.type.decl := by
    rcases h.sites_cases hsite with ⟨p, k, binding, base, info, hfilled, -, -, hsite⟩ |
      ⟨p, hp, -, info, -, -, hsite⟩
    · exact ⟨p, hfilled.mem, type_mem_of_interfaceSites hsite⟩
    · exact ⟨p, hp, type_mem_of_recordSites hsite⟩
  exact h.mem_externalTypes_of_signature hp hmem (external?_of_core hcore)

/-- The sites of an interface that is filled are sites of the library. -/
theorem interfaceSites_subset (h : ExportedFrom unit resolver settings references placed refs d l)
    {p : Placed} {k : Handle} {binding : Binding} {base : Inherited}
    (hfilled : IsFilled ((settingOf unit resolver settings refs).withDefaults placed) placed p k
      binding base) {info : TypeInfo} (hinfo : l.library.type? k = some info) :
    interfaceSites (l.scope unit references) settings p.type.decl binding info ⊆
      l.sites unit settings references := by
  refine fun site hsite => List.mem_flatMap.mpr ⟨_, h.id_mem hfilled.mem, ?_⟩
  obtain ⟨classified, d₀, hbuilt⟩ := h.built
  obtain ⟨hdecl, htarget⟩ := hbuilt.type?_placed hfilled.mem
  unfold ExportedLibrary.typeSites
  rw [hdecl]
  dsimp only
  rw [htarget]
  cases hfilled with
  | interface hfill hinterface =>
    rw [hinterface]
    dsimp only
    rw [h.info?_eq (mem_filling hfill).1, hinfo]
    exact List.mem_flatMap.mpr ⟨info, List.mem_cons_self, hsite⟩
  | classInterface hp hc =>
    obtain ⟨creatable, hclass⟩ := hbuilt.prepared.standing.classed p hp _ hc
    rw [hclass]
    dsimp only
    rw [h.classInterfaceInfo?_eq hp hc, hinfo]
    exact List.mem_flatMap.mpr ⟨info, List.mem_cons_self, hsite⟩

/-- The sites of a record are sites of the library. -/
theorem recordSites_subset (h : ExportedFrom unit resolver settings references placed refs d l)
    {p : Placed} (hp : p ∈ placed) (htarget : p.type.target = .record) {info : TypeInfo}
    (hinfo : l.library.type? p.handle = some info) :
    recordSites (l.scope unit references) p.type.decl info ⊆ l.sites unit settings references := by
  refine fun site hsite => List.mem_flatMap.mpr ⟨_, h.id_mem hp, ?_⟩
  obtain ⟨classified, d₀, hbuilt⟩ := h.built
  obtain ⟨hdecl, hrecord⟩ := hbuilt.type?_placed hp
  unfold ExportedLibrary.typeSites
  rw [hdecl]
  dsimp only
  rw [hrecord, htarget]
  dsimp only
  rw [h.info?_eq hp, hinfo]
  exact List.mem_flatMap.mpr ⟨info, List.mem_cons_self, hsite⟩

/-- Where something was lost in the signature of a member, it was lost at a site. -/
theorem exists_loses_of_degrades
    (h : ExportedFrom unit resolver settings references placed refs d l) {p : Placed} {k : Handle}
    {binding : Binding} {base : Inherited}
    (hfilled : IsFilled ((settingOf unit resolver settings refs).withDefaults placed) placed p k
      binding base) {m : Member} (hm : m ∈ p.type.decl.members) {signature : Signature}
    (hexportable : m.isExportable = true)
    (hsignature : describeSignature ((settingOf unit resolver settings refs).withDefaults placed).scope
      m = .ok signature) {loss : Degradation} (hlost : loss ∈ signature.degradations) :
    ∃ site ∈ l.sites unit settings references, site.subject = memberSubject p.type.decl m ∧
      Loses (l.scope unit references) site loss := by
  rw [← (h.alike_of_isFilled hfilled).describeSignature (h.lists hfilled.mem hm hexportable)]
    at hsignature
  obtain ⟨info, hinfo, hmade⟩ := h.madeFrom hfilled
  have hdescribes : (l.scope unit references).describes m = true := by
    rw [← toBool_describeSignature, hsignature]
    rfl
  obtain ⟨f, hmem⟩ := exists_mem_zip hmade (List.mem_filter.mpr
    ⟨hm, Bool.and_eq_true_iff.mpr ⟨hexportable, hdescribes⟩⟩)
  obtain ⟨site, hsite, hsubject, hloses⟩ : ∃ site ∈ memberSites p.type.decl
      (returnsStatus binding m settings) m f.desc, site.subject = memberSubject p.type.decl m ∧
        Loses (l.scope unit references) site loss :=
    exists_loses_memberSites hsignature hlost _ _
  exact ⟨site, h.interfaceSites_subset hfilled hinfo (List.mem_flatMap.mpr ⟨_, hmem, hsite⟩), hsubject,
    hloses⟩

/-- Where something was lost in a field, it was lost at its site. -/
theorem exists_loses_of_field
    (h : ExportedFrom unit resolver settings references placed refs d l) {p : Placed} (hp : p ∈ placed)
    (htarget : p.type.target = .record) {f : Field} (hf : f ∈ p.type.decl.fields)
    (hpublic : f.isPublic = true) {described : Described}
    (hdescribed : ((settingOf unit resolver settings refs).withDefaults placed).scope.describe f.type
      f.marshal fieldPosition = .ok described) {loss : Degradation}
    (hlost : loss ∈ described.degradations) :
    ∃ site ∈ l.sites unit settings references,
      site.subject = p.type.decl.qualified ++ "." ++ f.name ∧
        Loses (l.scope unit references) site loss := by
  rw [← h.describe_field hp hf hpublic] at hdescribed
  obtain ⟨info, hinfo, hfields⟩ := h.fieldsFrom hp htarget
  have hdescribes : (l.scope unit references).describesField f = true := by
    unfold Scope.describesField
    rw [hdescribed]
    rfl
  obtain ⟨v, hmem⟩ := exists_mem_zip hfields (List.mem_filter.mpr
    ⟨hf, Bool.and_eq_true_iff.mpr ⟨hpublic, hdescribes⟩⟩)
  obtain ⟨value, hvalue, -, hdegradations⟩ := exists_of_describe hdescribed
  exact ⟨fieldSite p.type.decl f v, h.recordSites_subset hp htarget hinfo
    (List.mem_map.mpr ⟨(f, v), hmem, rfl⟩), rfl, value, _, hvalue, hdegradations ▸ hlost⟩

/-- **Every remark that something was lost** is about a site where it was. -/
theorem exists_loses (h : ExportedFrom unit resolver settings references placed refs d l)
    {e : Diagnostic} (he : e ∈ l.diagnostics) (hcode : e.code ∈ degradedCodes) :
    ∃ site ∈ l.sites unit settings references, ∃ loss, e = degraded site.subject loss ∧
      Loses (l.scope unit references) site loss := by
  have hother : ∀ {codes : List Code}, (∀ code ∈ degradedCodes, code ∉ codes) → e.code ∉ codes :=
    fun h => h _ hcode
  rcases said_cases (h.said_contents he (by rintro h; rw [h] at hcode; exact absurd hcode (by decide))
    (hother (by decide))) with hcodes | ⟨p, k, binding, base, hfilled, hraised⟩ | ⟨p, hp, hraised⟩ |
      hcodes
  · exact absurd hcodes (hother (by decide))
  · rcases raised_cases hraised with hleftOut | hdegrades | hmoved
    · obtain ⟨m, -, -, part, error, -, rfl⟩ := hleftOut
      exact absurd hcode (show Code.memberExcluded ∉ degradedCodes by decide)
    · obtain ⟨m, hm, hexportable, signature, hsignature, loss, hloss, rfl⟩ := hdegrades
      obtain ⟨site, hsite, hsubject, hloses⟩ :=
        h.exists_loses_of_degrades hfilled hm hexportable hsignature hloss
      exact ⟨site, hsite, loss, by rw [hsubject], hloses⟩
    · rw [hmoved] at hcode
      exact absurd hcode (by decide)
  · obtain ⟨f, hf, described, htarget, hdescribed, loss, hloss, rfl⟩ :=
      exists_field_of_degraded hraised hcode
    obtain ⟨hf, hpublic⟩ := List.mem_filter.mp hf
    obtain ⟨site, hsite, hsubject, hloses⟩ :=
      h.exists_loses_of_field hp htarget hf hpublic hdescribed hloss
    exact ⟨site, hsite, loss, by rw [hsubject], hloses⟩
  · exact absurd hcodes (hother (by decide))

/-- **Every remark that a reference became the generic object** is about a site where the named type is
referred to, and which has the generic object. -/
theorem exists_degraded (h : ExportedFrom unit resolver settings references placed refs d l)
    {e : Diagnostic} (he : e ∈ l.diagnostics) (hcode : e.code = .referenceDegraded) :
    ∃ site ∈ l.sites unit settings references, ∃ name,
      e = degraded site.subject (.genericObject name) ∧
      (l.scope unit references).referredName? site.core.1 = some name ∧ KeepsObject site.form ∧
      site.coreDescriptor = some (.base .unknown) := by
  obtain ⟨site, hsite, loss, rfl, hloses⟩ := h.exists_loses he (hcode ▸ List.mem_cons_self)
  obtain ⟨core, hcore, hlost⟩ := (h.isDescribed site hsite).of_loses hloses
  cases loss with
  | genericObject name =>
    obtain ⟨hname, -, hform, rfl⟩ := hlost
    exact ⟨site, hsite, name, rfl, hname, hform, hcore⟩
  | enumAsInteger name => exact Diagnostic.Code.noConfusion hcode

/-- **What is lost at a site is said of it**, if no limit refuses it. -/
theorem said_of_loses (h : ExportedFrom unit resolver settings references placed refs d l)
    {site : Site} (hsite : site ∈ l.sites unit settings references) {loss : Degradation}
    (hlost : Loses (l.scope unit references) site loss) :
    degraded site.subject loss ∈
      Export.said (contents (settingOf unit resolver settings refs) placed).2 := by
  rcases h.sites_cases hsite with ⟨p, k, binding, base, info, hfilled, -, hmade, hsite⟩ |
    ⟨p, hp, htarget, info, -, hfields, hsite⟩
  · obtain ⟨⟨m, f⟩, hmem, hsite⟩ := List.mem_flatMap.mp hsite
    obtain ⟨hm, hdescribes⟩ := List.mem_filter.mp (List.of_mem_zip hmem).1
    obtain ⟨hexportable, hdescribes⟩ := Bool.and_eq_true_iff.mp hdescribes
    cases hsignature : describeSignature (l.scope unit references) m with
    | error e =>
      rw [← toBool_describeSignature, hsignature] at hdescribes
      exact Bool.noConfusion hdescribes
    | ok signature =>
      obtain ⟨hsubject, hloss⟩ := mem_degradations_of_loses hsignature hsite hlost
      rw [hsubject]
      rw [(h.alike_of_isFilled hfilled).describeSignature (h.lists hfilled.mem hm hexportable)]
        at hsignature
      exact hfilled.said (raised_of_degrades hm ⟨hexportable, signature, hsignature, loss, hloss, rfl⟩)
  · obtain ⟨⟨f, v⟩, hmem, rfl⟩ := List.mem_map.mp hsite
    obtain ⟨hf, hpublic⟩ := List.mem_filter.mp (List.of_mem_zip hmem).1
    obtain ⟨hpublic, hdescribes⟩ := Bool.and_eq_true_iff.mp hpublic
    obtain ⟨described, hdescribed, -⟩ := (List.forall₂_iff_zip.mp hfields).2 hmem
    obtain ⟨value, hvalue, -, hdegradations⟩ := exists_of_describe hdescribed
    rw [h.describe_field hp hf hpublic] at hdescribed
    rw [mem_said]
    exact record_mem_contents hp
      (raised_recordSteps htarget hf hpublic hdescribed (hdegradations ▸ hlost.mem hvalue))

end ExportedFrom

end Automation.Export

import Automation.Export.Describe
import Automation.Proofs.Library.Draft

/-!
# Cores of type expressions

Arrays and pointers stand around a core, which alone is looked up. A descriptor has one layer for each
of them, around the descriptor of the core: `exists_core`. What the core then is follows from what it
refers to (`describeNamed_class`, `describeExternal_object`, `describeExternal_value`).
-/

namespace Automation

/-- The core of an expression, under its arrays and pointers, with the override that applies to it
there. -/
def Source.TypeExpr.core : TypeExpr → Option MarshalOverride → TypeExpr × Option MarshalOverride
  | .array element, marshal => element.core (marshal.bind MarshalOverride.element)
  | .pointer target, _ => target.core none
  | type, marshal => (type, marshal)

/-- The part of a descriptor that stands for the core of an expression. -/
def Library.Descriptor.coreOf? : Source.TypeExpr → Descriptor → Option Descriptor
  | .array element, d => d.inner?.bind (coreOf? element)
  | .pointer target, d => d.inner?.bind (coreOf? target)
  | _, d => some d

namespace Export

open Library Source

variable {s : Scope} {described : Described}

/-! ## Layers -/

/-- The descriptor of an array is one layer around that of its elements. -/
theorem inner?_describeArray {element : TypeExpr} {marshal : Option MarshalOverride}
    {position : Position} {inner : Described}
    (h : describeArray element marshal position inner = .ok described) :
    described.type.inner? = some inner.type ∧ described.degradations = inner.degradations := by
  have hsafe : (if isSafeArrayElement inner.type then
      .ok { inner with type := .safeArray inner.type }
    else .error (DescribeError.elementUnsupported element.spelling)) = Except.ok described →
      described.type.inner? = some inner.type ∧ described.degradations = inner.degradations := by
    intro h
    split at h
    · obtain rfl := Except.ok.inj h
      exact ⟨rfl, rfl⟩
    · exact Except.noConfusion rfl rfl (heq_of_eq h)
  unfold describeArray at h
  dsimp only at h
  split at h
  · exact hsafe h
  · split at h
    · exact hsafe h
    · obtain rfl := Except.ok.inj h
      exact ⟨rfl, rfl⟩
    · split at h
      · exact Except.noConfusion rfl rfl (heq_of_eq h)
      · split at h
        · obtain rfl := Except.ok.inj h
          exact ⟨rfl, rfl⟩
        · exact Except.noConfusion rfl rfl (heq_of_eq h)
    · exact Except.noConfusion rfl rfl (heq_of_eq h)

/-- Whether the expression is a reference to a type, of the unit or of another one. -/
def IsReference : TypeExpr → Prop
  | .named _ | .external _ => True
  | _ => False

/-- **What a type expression comes down to**: the descriptor of the type that it refers to at its core,
with one layer around it for each array and pointer. What is lost is lost there. -/
theorem exists_core {type : TypeExpr} {marshal : Option MarshalOverride} {position : Position}
    (h : s.describeValue type marshal position = .ok described)
    (hcore : IsReference (type.core marshal).1) : ∃ core position',
      s.describeValue (type.core marshal).1 (type.core marshal).2 position' = .ok core ∧
        Descriptor.coreOf? type described.type = some core.type ∧
          described.degradations = core.degradations := by
  induction type generalizing marshal position described with
  | array element ih =>
    unfold Scope.describeValue at h
    split at h
    · exact Except.noConfusion rfl rfl (heq_of_eq h)
    · obtain ⟨inner, hinner, h⟩ := exists_of_bind h
      obtain ⟨hlayer, hdegradations⟩ := inner?_describeArray h
      obtain ⟨core, position', hfound, htype, hsame⟩ := ih hinner hcore
      refine ⟨core, position', hfound, ?_, hdegradations.trans hsame⟩
      rw [Descriptor.coreOf?, hlayer]
      exact htype
  | pointer target ih =>
    unfold Scope.describeValue at h
    split at h
    · exact Except.noConfusion rfl rfl (heq_of_eq h)
    · split at h
      · next hvoid => cases target <;> first | exact hcore.elim | exact Bool.noConfusion hvoid
      · obtain ⟨inner, hinner, h⟩ := exists_of_bind h
        obtain rfl := Except.ok.inj h
        obtain ⟨core, position', hfound, htype, hsame⟩ := ih hinner hcore
        exact ⟨core, position', hfound, htype, hsame⟩
  | named | external => exact ⟨described, position, h, rfl, rfl⟩
  | _ => exact hcore.elim

/-- Passing by reference is one more layer. -/
theorem exists_of_describe {type : TypeExpr} {marshal : Option MarshalOverride} {position : Position}
    (h : s.describe type marshal position = .ok described) :
    ∃ value, s.describeValue type marshal position = .ok value ∧
      described.type = (if position.byRef then .pointer value.type else value.type) ∧
      described.degradations = value.degradations := by
  unfold Scope.describe at h
  obtain ⟨value, hvalue, h⟩ := exists_of_bind h
  refine ⟨value, hvalue, ?_⟩
  split at h
  · next hbyRef =>
    obtain rfl := Except.ok.inj h
    exact ⟨(if_pos hbyRef).symm, rfl⟩
  · next hbyRef =>
    obtain rfl := Except.ok.inj h
    exact ⟨(if_neg hbyRef).symm, rfl⟩

/-- The type of another unit at the core of an expression. -/
theorem external?_of_core {type : TypeExpr} {marshal : Option MarshalOverride} {found : ExternalType}
    (h : (type.core marshal).1 = .external found) : type.external? = some found := by
  induction type generalizing marshal with
  | array element ih => exact ih h
  | pointer target ih => exact ih h
  | external other => exact congrArg some (TypeExpr.external.inj h)
  | _ => exact TypeExpr.noConfusion h

/-! ## What is looked up -/

/-- The qualified name of the type that a reference names. -/
def Scope.referredName? (s : Scope) : TypeExpr → Option String
  | .named id => (s.type? id).map TypeDecl.qualified
  | .external type => some type.qualified
  | _ => none

/-- The scalar under the enum that a reference names. -/
def Scope.underlying? (s : Scope) : TypeExpr → Option Scalar
  | .named id => (s.type? id).bind fun decl =>
    match decl.body with
    | .enumeration underlying _ => some underlying
    | .interface _ | .objectClass _ | .record _ => none
  | .external type =>
    match type.kind with
    | .enumeration underlying => some underlying
    | .interface | .objectClass | .record => none
  | _ => none

theorem scalarType?_ne_void (width : PointerWidth) (scalar : Scalar) (form : Option NativeForm) :
    scalarType? width scalar form ≠ some .void := by
  cases width <;> unfold scalarType? <;> split <;> exact nofun

/-- No override asks for one of the standard contracts in place of an interface or class. -/
def KeepsObject (form : Option NativeForm) : Prop :=
  form ≠ some .unknown ∧ form ≠ some .dispatch

/-- What a loss says of a reference and its descriptor: the type that it names is the one referred to,
no override asks for anything else, and the generic object or the underlying integer stands in for that
type. -/
def Degradation.IsOf (s : Scope) (type : TypeExpr) (form : Option NativeForm) (core : Descriptor) :
    Degradation → Prop
  | .genericObject name =>
    s.referredName? type = some name ∧ s.isObjectRef type = true ∧ KeepsObject form ∧
      core = .base .unknown
  | .enumAsInteger name =>
    s.referredName? type = some name ∧ form = none ∧ ∃ underlying integer,
      s.underlying? type = some underlying ∧ scalarType? s.width underlying none = some integer ∧
        core = .base integer

/-- What the descriptor of a reference can be: never that of no value, and where no override asks for
anything else, a type of a library or what stands in for it with the loss. -/
structure IsReferred (s : Scope) (type : TypeExpr) (form : Option NativeForm) (described : Described) :
    Prop where
  value : described.type.elementType ≠ .void
  losses : ∀ loss ∈ described.degradations, loss.IsOf s type form described.type
  object : s.isObjectRef type = true → KeepsObject form →
    (∃ ref, described.type = .pointer (.userDefined ref)) ∨
      ∃ name, .genericObject name ∈ described.degradations
  enumeration : ∀ underlying, s.underlying? type = some underlying → form = none →
    (∃ ref, described.type = .userDefined ref) ∨
      ∃ name, .enumAsInteger name ∈ described.degradations

section

variable {type : TypeExpr} {qualified : String} {form : Option NativeForm} {target : Option TypeRef}

theorem isReferred_describeObject (hname : s.referredName? type = some qualified)
    (hobject : s.isObjectRef type = true) (hunderlying : s.underlying? type = none)
    (h : describeObject qualified form target = .ok described) :
    IsReferred s type form described := by
  have henum : ∀ {P : Prop} (underlying : Scalar), s.underlying? type = some underlying → P :=
    fun _ h => (Option.some_ne_none _ (h.symm.trans hunderlying)).elim
  have hlost : KeepsObject form →
      IsReferred s type form { type := .base .unknown, degradations := [.genericObject qualified] } :=
    fun hform => ⟨nofun, List.forall_mem_singleton.mpr ⟨hname, hobject, hform, rfl⟩,
      fun _ _ => .inr ⟨qualified, List.mem_singleton_self _⟩, fun u hu _ => henum u hu⟩
  have hfound : ∀ ref, IsReferred s type form { type := .pointer (.userDefined ref) } :=
    fun ref => ⟨nofun, nofun, fun _ _ => .inl ⟨ref, rfl⟩, fun u hu _ => henum u hu⟩
  unfold describeObject at h
  split at h
  · obtain rfl := Except.ok.inj h
    exact ⟨nofun, nofun, fun _ hform => absurd rfl hform.1, fun u hu _ => henum u hu⟩
  · obtain rfl := Except.ok.inj h
    exact ⟨nofun, nofun, fun _ hform => absurd rfl hform.2, fun u hu _ => henum u hu⟩
  · split at h
    · obtain rfl := Except.ok.inj h
      exact hfound _
    · obtain rfl := Except.ok.inj h
      exact hlost ⟨nofun, nofun⟩
  · split at h
    · obtain rfl := Except.ok.inj h
      exact hfound _
    · obtain rfl := Except.ok.inj h
      exact hlost ⟨nofun, nofun⟩
  · exact Except.noConfusion rfl rfl (heq_of_eq h)

theorem isReferred_describeEnum {underlying : Scalar} (hname : s.referredName? type = some qualified)
    (hobject : s.isObjectRef type = false) (hunderlying : s.underlying? type = some underlying)
    (h : describeEnum s.width qualified underlying form target = .ok described) :
    IsReferred s type form described := by
  have hvalue : ∀ {form integer}, scalarType? s.width underlying form = some integer →
      integer ≠ .void := fun htype hvoid =>
    scalarType?_ne_void s.width underlying _ (htype.trans (congrArg some hvoid))
  have hother : ∀ {P : Prop}, s.isObjectRef type = true → P := fun h =>
    Bool.noConfusion (h.symm.trans hobject)
  unfold describeEnum at h
  split at h
  · split at h
    · next integer hinteger =>
      split at h
      · obtain rfl := Except.ok.inj h
        exact ⟨hvalue hinteger, nofun, fun h _ => hother h, fun _ _ => nofun⟩
      · exact Except.noConfusion rfl rfl (heq_of_eq h)
    · exact Except.noConfusion rfl rfl (heq_of_eq h)
  · next ref =>
    obtain rfl := Except.ok.inj h
    exact ⟨nofun, nofun, fun h _ => hother h, fun _ _ _ => .inl ⟨ref, rfl⟩⟩
  · split at h
    · next integer hinteger =>
      obtain rfl := Except.ok.inj h
      refine ⟨hvalue hinteger, List.forall_mem_singleton.mpr ?_, fun h _ => hother h,
        fun _ _ _ => .inr ⟨qualified, List.mem_singleton_self _⟩⟩
      exact ⟨hname, rfl, underlying, integer, hunderlying, hinteger, rfl⟩
    · exact Except.noConfusion rfl rfl (heq_of_eq h)

theorem isReferred_describeRecord (hobject : s.isObjectRef type = false)
    (hunderlying : s.underlying? type = none)
    (h : describeRecord qualified form target = .ok described) :
    IsReferred s type form described := by
  unfold describeRecord at h
  split at h
  · exact Except.noConfusion rfl rfl (heq_of_eq h)
  · obtain rfl := Except.ok.inj h
    exact ⟨nofun, nofun, fun h => Bool.noConfusion (h.symm.trans hobject),
      fun _ h => (Option.some_ne_none _ (h.symm.trans hunderlying)).elim⟩
  · exact Except.noConfusion rfl rfl (heq_of_eq h)

end

theorem isReferred_describeNamed {id : TypeId} {form : Option NativeForm}
    (h : s.describeNamed id form = .ok described) : IsReferred s (.named id) form described := by
  unfold Scope.describeNamed at h
  split at h
  · exact Except.noConfusion rfl rfl (heq_of_eq h)
  · next decl hdecl =>
    have hname : s.referredName? (.named id) = some decl.qualified := by
      simp [Scope.referredName?, hdecl]
    have hobject : s.isObjectRef (.named id) = decl.isObject := by simp [Scope.isObjectRef, hdecl]
    unfold TypeDecl.isObject at hobject
    dsimp only at h
    split at h
    · next hbody =>
      exact isReferred_describeObject hname (by simp [hobject, hbody])
        (by simp [Scope.underlying?, hdecl, hbody]) h
    · next hbody =>
      exact isReferred_describeObject hname (by simp [hobject, hbody])
        (by simp [Scope.underlying?, hdecl, hbody]) h
    · next hbody =>
      exact isReferred_describeEnum hname (by simp [hobject, hbody])
        (by simp [Scope.underlying?, hdecl, hbody]) h
    · next hbody =>
      exact isReferred_describeRecord (by simp [hobject, hbody])
        (by simp [Scope.underlying?, hdecl, hbody]) h

theorem isReferred_describeExternal {type : ExternalType} {form : Option NativeForm}
    (h : s.describeExternal type form = .ok described) :
    IsReferred s (.external type) form described := by
  have hname : s.referredName? (.external type) = some type.qualified := rfl
  unfold Scope.describeExternal at h
  dsimp only at h
  split at h
  · next hkind =>
    exact isReferred_describeObject hname (by simp [Scope.isObjectRef, hkind])
      (by simp [Scope.underlying?, hkind]) h
  · next hkind =>
    exact isReferred_describeObject hname (by simp [Scope.isObjectRef, hkind])
      (by simp [Scope.underlying?, hkind]) h
  · next hkind =>
    exact isReferred_describeEnum hname (by simp [Scope.isObjectRef, hkind])
      (by simp [Scope.underlying?, hkind]) h
  · next hkind =>
    exact isReferred_describeRecord (by simp [Scope.isObjectRef, hkind])
      (by simp [Scope.underlying?, hkind]) h

theorem isReferred_describeValue {type : TypeExpr} {marshal : Option MarshalOverride}
    {position : Position} (htype : IsReference type)
    (h : s.describeValue type marshal position = .ok described) :
    IsReferred s type (marshal.map (·.form)) described := by
  cases type with
  | named id => exact isReferred_describeNamed h
  | external type => exact isReferred_describeExternal h
  | _ => exact htype.elim

theorem degradations_elemental {spelling : String} {form : Option NativeForm}
    {type : Option ElementType} (h : elemental spelling form type = .ok described) :
    described.degradations = [] := by
  unfold elemental at h
  split at h
  · obtain rfl := Except.ok.inj h
    rfl
  · split at h <;> exact Except.noConfusion rfl rfl (heq_of_eq h)

theorem degradations_describeBuiltin {builtin : Builtin} {form : Option NativeForm}
    (h : s.describeBuiltin builtin form = .ok described) : described.degradations = [] := by
  unfold Scope.describeBuiltin at h
  dsimp only at h
  split at h
  · obtain rfl := Except.ok.inj h
    rfl
  · obtain rfl := Except.ok.inj h
    rfl
  · obtain rfl := Except.ok.inj h
    rfl
  · split at h
    · obtain rfl := Except.ok.inj h
      rfl
    · exact Except.noConfusion rfl rfl (heq_of_eq h)
  · split at h
    · obtain rfl := Except.ok.inj h
      rfl
    · exact Except.noConfusion rfl rfl (heq_of_eq h)
  · exact Except.noConfusion rfl rfl (heq_of_eq h)

/-- **What is lost in a descriptor is lost at its core**, which refers to a type. -/
theorem isReference_of_loss {type : TypeExpr} {marshal : Option MarshalOverride} {position : Position}
    (h : s.describeValue type marshal position = .ok described) {loss : Degradation}
    (hloss : loss ∈ described.degradations) : IsReference (type.core marshal).1 := by
  induction type generalizing marshal position described with
  | array element ih =>
    unfold Scope.describeValue at h
    split at h
    · exact Except.noConfusion rfl rfl (heq_of_eq h)
    · obtain ⟨inner, hinner, h⟩ := exists_of_bind h
      exact ih hinner ((inner?_describeArray h).2 ▸ hloss)
  | pointer target ih =>
    unfold Scope.describeValue at h
    split at h
    · exact Except.noConfusion rfl rfl (heq_of_eq h)
    · split at h
      · obtain rfl := Except.ok.inj h
        exact (List.not_mem_nil hloss).elim
      · obtain ⟨inner, hinner, h⟩ := exists_of_bind h
        obtain rfl := Except.ok.inj h
        exact ih hinner hloss
  | named | external => trivial
  | void =>
    unfold Scope.describeValue at h
    split at h
    · obtain rfl := Except.ok.inj h
      exact (List.not_mem_nil hloss).elim
    · exact Except.noConfusion rfl rfl (heq_of_eq h)
  | builtin builtin => exact absurd (degradations_describeBuiltin h) (List.ne_nil_of_mem hloss)
  | generic name => exact Except.noConfusion rfl rfl (heq_of_eq h)
  | scalar | text | textBuffer | object =>
    exact absurd (degradations_elemental h) (List.ne_nil_of_mem hloss)

/-- The result of a reference is a value. -/
theorem elementType_ne_void {type : TypeExpr} {marshal : Option MarshalOverride}
    {position : Position} (h : s.describeValue type marshal position = .ok described)
    (hcore : IsReference (type.core marshal).1) : described.type.elementType ≠ .void := by
  have hlayer : ∀ inner, described.type.inner? = some inner →
      described.type.elementType ≠ .void := fun inner hinner => by
    cases htype : described.type with
    | base type =>
      rw [htype] at hinner
      exact Option.noConfusion rfl (heq_of_eq hinner)
    | _ => exact nofun
  cases type with
  | array element =>
    unfold Scope.describeValue at h
    split at h
    · exact Except.noConfusion rfl rfl (heq_of_eq h)
    · obtain ⟨inner, -, h⟩ := exists_of_bind h
      exact hlayer _ (inner?_describeArray h).1
  | pointer target =>
    unfold Scope.describeValue at h
    split at h
    · exact Except.noConfusion rfl rfl (heq_of_eq h)
    · split at h
      · obtain rfl := Except.ok.inj h
        exact nofun
      · obtain ⟨inner, -, h⟩ := exists_of_bind h
        obtain rfl := Except.ok.inj h
        exact nofun
  | named | external => exact (isReferred_describeValue hcore h).value
  | _ => exact hcore.elim

/-! ## Objects -/

/-- A reference with a target becomes a pointer to it, and nothing is lost. -/
theorem describeObject_some {qualified : String} {form : Option NativeForm} {ref : TypeRef}
    (h : describeObject qualified form (some ref) = .ok described) (hform : KeepsObject form) :
    described.type = .pointer (.userDefined ref) ∧ described.degradations = [] := by
  unfold describeObject at h
  split at h
  · exact absurd rfl hform.1
  · exact absurd rfl hform.2
  · obtain rfl := Except.ok.inj h
    exact ⟨rfl, rfl⟩
  · obtain rfl := Except.ok.inj h
    exact ⟨rfl, rfl⟩
  · exact Except.noConfusion rfl rfl (heq_of_eq h)

/-- **A class of the unit is described by its default interface.** -/
theorem describeNamed_class {id : TypeId} {form : Option NativeForm} {decl : TypeDecl}
    {ref : LocalRef} {creatable : Bool} {binding : Option Binding} {default : TypeRef}
    (h : s.describeNamed id form = .ok described) (hdecl : s.type? id = some decl)
    (hobject : decl.isObject) (href : s.refs.own? id = some ref)
    (htarget : ref.target = .coClass creatable binding) (hdefault : ref.default = some default)
    (hform : KeepsObject form) :
    described.type = .pointer (.userDefined default) ∧ described.degradations = [] := by
  have htarget : s.ownObject? id = some default := by
    simp [Scope.ownObject?, href, htarget, hdefault]
  unfold Scope.describeNamed at h
  rw [hdecl] at h
  dsimp only at h
  rw [htarget] at h
  unfold TypeDecl.isObject at hobject
  split at h
  · exact describeObject_some h hform
  · exact describeObject_some h hform
  · next hbody => simp [hbody] at hobject
  · next hbody => simp [hbody] at hobject

/-- A reference to an interface or class of another unit becomes a pointer to what it stands for. -/
theorem describeExternal_object {type : ExternalType} {form : Option NativeForm} {ref : TypeRef}
    (h : s.describeExternal type form = .ok described)
    (hkind : type.kind = .interface ∨ type.kind = .objectClass)
    (href : s.externalObject? type = some ref) (hform : KeepsObject form) :
    described.type = .pointer (.userDefined ref) ∧ described.degradations = [] := by
  unfold Scope.describeExternal at h
  dsimp only at h
  rw [href] at h
  rcases hkind with hkind | hkind <;> rw [hkind] at h <;> exact describeObject_some h hform

/-- A reference to an enum or record of another unit becomes that type. -/
theorem describeExternal_value {type : ExternalType} {ref : ExternalRef}
    (h : s.describeExternal type none = .ok described)
    (hkind : (∃ underlying, type.kind = .enumeration underlying) ∨ type.kind = .record)
    (href : s.refs.external? type = some ref) :
    described.type = .userDefined ref.ref ∧ described.degradations = [] := by
  unfold Scope.describeExternal at h
  dsimp only at h
  rw [href] at h
  rcases hkind with ⟨underlying, hkind⟩ | hkind
  · rw [hkind] at h
    obtain rfl := Except.ok.inj h
    exact ⟨rfl, rfl⟩
  · rw [hkind] at h
    obtain rfl := Except.ok.inj h
    exact ⟨rfl, rfl⟩

end Export

end Automation

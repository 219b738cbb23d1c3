import Automation.Proofs.Export.Cores
import Automation.Proofs.Export.Describing

/-!
# Shapes of descriptors

Where in a descriptor a part can stand depends on the layers around it (`Fits`). Descriptors follow a
grammar: what stands beneath a layer is `Nested`, and only the outermost descriptor can be more, for a
return value or a field (`Shaped`). The grammar is kept along a type expression, whose parts are
described in positions of their own (`shaped_describeValue`). `describe_wellShaped` reads off what can
stand where.
-/

namespace Automation

/-- What stands around a part of a descriptor. -/
inductive Library.Layer where
  | pointer
  | safeArray
  | cArray
  deriving DecidableEq, Repr

/-- A part of a descriptor, with the layers around it from the outermost inwards. -/
inductive Library.Descriptor.HasPart : Descriptor → List Layer → Descriptor → Prop
  | self (d : Descriptor) : HasPart d [] d
  | pointer {inner part : Descriptor} {around : List Layer} :
    HasPart inner around part → HasPart (.pointer inner) (.pointer :: around) part
  | safeArray {inner part : Descriptor} {around : List Layer} :
    HasPart inner around part → HasPart (.safeArray inner) (.safeArray :: around) part
  | cArray {inner part : Descriptor} {bounds : List Nat} {around : List Layer} :
    HasPart inner around part → HasPart (.cArray inner bounds) (.cArray :: around) part

namespace Export

open Library Source

/-! ## What can stand where -/

/-- The descriptor is no array. -/
def IsFlat (d : Descriptor) : Prop := d.elementType ∉ [.safeArray, .cArray]

/-- What a safe array can hold. -/
def IsHeld (d : Descriptor) : Prop := d.elementType ∉ [.empty, .void, .hresult, .lpstr, .lpwstr]

/-- Whether a part can stand beneath the layers around it, in a position. -/
def Fits (position : Position) (around : List Layer) : Descriptor → Prop
  -- The codes of composite descriptors are no elemental types. No value is all that a function
  -- returns, or what a pointer points at.
  | .base type =>
    type ∉ [.ptr, .safeArray, .cArray, .userDefined] ∧
      (type = .void →
        (around = [] ∧ position.isReturn = true) ∨ around.getLast? = some .pointer)
  | .pointer _ | .userDefined _ => True
  | .safeArray element => IsFlat element ∧ IsHeld element
  -- An inline array is a field as a whole, up to passing by reference.
  | .cArray element _ =>
    IsFlat element ∧ position.isField = true ∧
      around = if position.byRef then [.pointer] else []

/-- All parts of a descriptor fit where they stand. -/
def WellShaped (position : Position) (d : Descriptor) : Prop :=
  ∀ around part, d.HasPart around part → Fits position around part

/-! ## The grammar -/

/-- What can stand beneath a layer. -/
inductive Nested : Descriptor → Prop
  | base {type : ElementType} : IsValueType type → Nested (.base type)
  | userDefined (ref : TypeRef) : Nested (.userDefined ref)
  | voidPointer : Nested (.pointer (.base .void))
  | pointer {inner : Descriptor} : Nested inner → Nested (.pointer inner)
  | safeArray {element : Descriptor} : Nested element → IsFlat element → IsHeld element →
    Nested (.safeArray element)

/-- What can describe an expression, before it is passed by reference: beside what can stand beneath a
layer, that is no value where something is returned, and an inline array in a field. -/
inductive Shaped (type : TypeExpr) (position : Position) : Descriptor → Prop
  | void : type = .void → position.isReturn = true → Shaped type position (.base .void)
  | nested {d : Descriptor} : Nested d → (isArray type = false → IsFlat d) → Shaped type position d
  | inline {element : Descriptor} {bounds : List Nat} : isArray type = true →
    position.isField = true → Nested element → IsFlat element →
      Shaped type position (.cArray element bounds)

variable {s : Scope} {type : TypeExpr} {position : Position} {d part : Descriptor}
  {around : List Layer}

/-- What can stand beneath a layer fits anywhere, and so do its parts. -/
theorem Nested.fits (h : Nested d) (hpart : d.HasPart around part) (before : List Layer) :
    Fits position (before ++ around) part := by
  induction h generalizing before around with
  | base htype =>
    cases hpart
    refine ⟨fun hmem => ?_, fun hvoid => absurd hvoid htype.1⟩
    obtain ⟨-, hbase⟩ := htype
    cases ‹ElementType› <;> first | exact Bool.noConfusion hbase | exact absurd hmem (by decide)
  | userDefined ref =>
    cases hpart
    trivial
  | voidPointer =>
    cases hpart with
    | self => trivial
    | pointer hpart =>
      cases hpart
      exact ⟨by decide, fun _ => .inr (List.getLast?_concat ..)⟩
  | pointer _ ih =>
    cases hpart with
    | self => trivial
    | pointer hpart =>
      rw [List.append_cons]
      exact ih hpart _
  | safeArray _ hflat hheld ih =>
    cases hpart with
    | self => exact ⟨hflat, hheld⟩
    | safeArray hpart =>
      rw [List.append_cons]
      exact ih hpart _

theorem Nested.wellShaped (h : Nested d) : WellShaped position d :=
  fun _ _ hpart => h.fits hpart []

/-- The parts of an inline array fit, if the array does. -/
theorem fits_inline {element : Descriptor} {bounds : List Nat} (hfield : position.isField = true)
    (h : Nested element) (hflat : IsFlat element) {before : List Layer}
    (hbefore : before = if position.byRef then [.pointer] else [])
    (hpart : (Descriptor.cArray element bounds).HasPart around part) :
    Fits position (before ++ around) part := by
  cases hpart with
  | self => exact ⟨hflat, hfield, by rw [List.append_nil, hbefore]⟩
  | cArray hpart =>
    rw [List.append_cons]
    exact h.fits hpart _

/-- What describes an expression is well shaped as it is. -/
theorem Shaped.wellShaped (h : Shaped type position d) (hbyRef : position.byRef = false) :
    WellShaped position d := by
  cases h with
  | void _ hreturn =>
    intro around part hpart
    cases hpart
    exact ⟨by decide, fun _ => .inl ⟨rfl, hreturn⟩⟩
  | nested hnested _ => exact hnested.wellShaped
  | inline _ hfield hnested hflat =>
    intro around part hpart
    have hbefore : [] = if position.byRef then [Layer.pointer] else [] := by rw [hbyRef]; rfl
    exact fits_inline hfield hnested hflat hbefore hpart

/-- What describes an expression is well shaped when it is passed by reference. -/
theorem Shaped.wellShaped_pointer (h : Shaped type position d) (hbyRef : position.byRef = true) :
    WellShaped position (.pointer d) := by
  cases h with
  | void => exact Nested.voidPointer.wellShaped
  | nested hnested _ => exact hnested.pointer.wellShaped
  | inline _ hfield hnested hflat =>
    intro around part hpart
    cases hpart with
    | self => trivial
    | pointer hpart =>
      have hbefore : [Layer.pointer] = if position.byRef then [Layer.pointer] else [] := by
        rw [hbyRef]
        rfl
      exact fits_inline hfield hnested hflat hbefore hpart

/-! ## Descriptors of expressions -/

/-- What an expression that is not made of others is described by. -/
def Leaf (d : Descriptor) : Prop := Nested d ∧ IsFlat d

theorem leaf_base {type : ElementType} (h : IsValueType type) : Leaf (.base type) := by
  refine ⟨.base h, fun hmem => ?_⟩
  obtain ⟨-, hbase⟩ := h
  cases type <;> first | exact Bool.noConfusion hbase | exact absurd hmem (by decide)

theorem isFlat_pointer (d : Descriptor) : IsFlat (.pointer d) := by
  simp [IsFlat, Descriptor.elementType]

theorem leaf_userDefined (ref : TypeRef) : Leaf (.userDefined ref) :=
  ⟨.userDefined ref, by simp [IsFlat, Descriptor.elementType]⟩

theorem leaf_object (ref : TypeRef) : Leaf (.pointer (.userDefined ref)) :=
  ⟨.pointer (.userDefined ref), isFlat_pointer _⟩

theorem provides_leaf (s : Scope) : s.Provides (fun _ => True) Leaf where
  ownObject _ _ _ := leaf_object _
  externalObject _ _ _ _ := leaf_object _
  ownValue _ _ _ _ _ _ := leaf_userDefined _
  externalValue _ _ _ _ _ := leaf_userDefined _
  standard _ _ _ _ := leaf_userDefined _

/-- The elements of a safe array are pointers to interfaces or have a code that it can hold. -/
theorem isHeld_of_isSafeArrayElement (h : isSafeArrayElement d = true) : IsHeld d := by
  cases d with
  | base type =>
    intro hmem
    cases type <;> first | exact Bool.noConfusion h | exact absurd hmem (by decide)
  | _ => simp [IsHeld, Descriptor.elementType]

theorem shaped_describeArray {element : TypeExpr} (marshal : Option MarshalOverride)
    {described : Described} (hnested : Nested described.type) (hflat : IsFlat described.type) :
    Has (Shaped (.array element) position) (describeArray element marshal position described) := by
  have hsafe : Has (Shaped (.array element) position) (if isSafeArrayElement described.type then
      .ok { described with type := .safeArray described.type }
    else .error (.elementUnsupported element.spelling)) := by
    split
    · next hheld =>
      exact .nested (.safeArray hnested hflat (isHeld_of_isSafeArrayElement hheld)) nofun
    · trivial
  unfold describeArray
  dsimp only
  split
  · exact hsafe
  · split
    · exact hsafe
    · exact .nested (.pointer hnested) nofun
    · split
      · trivial
      · next hfield =>
        split
        · exact .inline rfl (by simpa using hfield) hnested hflat
        · trivial
    · trivial

/-- What an expression is described by where nothing is returned, and outside of fields. -/
theorem Shaped.nested_of_plain (h : Shaped type position d) (hreturn : position.isReturn = false)
    (hfield : position.isField = false) : Nested d ∧ (isArray type = false → IsFlat d) := by
  cases h with
  | void _ h => exact Bool.noConfusion (h.symm.trans hreturn)
  | nested hnested hflat => exact ⟨hnested, hflat⟩
  | inline _ h => exact Bool.noConfusion (h.symm.trans hfield)

/-- **The grammar is kept along type expressions.** -/
theorem shaped_describeValue (s : Scope) (type : TypeExpr) (marshal : Option MarshalOverride)
    (position : Position) : Has (Shaped type position) (s.describeValue type marshal position) := by
  have hleaf : ∀ {type : TypeExpr} {position : Position}, ∀ d, Leaf d → Shaped type position d :=
    fun _ h => .nested h.1 fun _ => h.2
  induction type generalizing marshal position with
  | generic name => trivial
  | void =>
    unfold Scope.describeValue
    split
    · next hreturn => exact .void rfl (by simpa using (Bool.and_eq_true_iff.mp hreturn).1)
    · trivial
  | scalar scalar =>
    exact (has_elemental @leaf_base _ _ (isValueType_scalarType? _ _ _)).imp hleaf
  | text => exact (has_elemental @leaf_base _ _ (isValueType_textType? _)).imp hleaf
  | textBuffer => exact (has_elemental @leaf_base _ _ (isValueType_textBufferType? _)).imp hleaf
  | object => exact (has_elemental @leaf_base _ _ (isValueType_objectType? _)).imp hleaf
  | builtin builtin => exact (has_describeBuiltin @leaf_base (provides_leaf s) _ _).imp hleaf
  | array element ih =>
    unfold Scope.describeValue
    split
    · trivial
    · next hguard =>
      -- The elements are no arrays, so their descriptors are none.
      have helement : isArray element = false := by
        rw [Bool.or_eq_true, not_or, Bool.not_eq_true, Bool.not_eq_true] at hguard
        exact hguard.2
      refine (ih _ _).bind fun described hdescribed => ?_
      obtain ⟨hnested, hflat⟩ := hdescribed.nested_of_plain rfl rfl
      exact shaped_describeArray marshal hnested (hflat helement)
  | pointer target ih =>
    unfold Scope.describeValue
    split
    · trivial
    · split
      · exact .nested .voidPointer fun _ => isFlat_pointer _
      · refine (ih _ _).bind fun described hdescribed => ?_
        exact .nested (.pointer (hdescribed.nested_of_plain rfl rfl).1) fun _ => isFlat_pointer _
  | named id => exact (has_describeNamed @leaf_base (provides_leaf s) _ _).imp hleaf
  | external type => exact (has_describeExternal @leaf_base (provides_leaf s) trivial _).imp hleaf

/-- What has a descriptor has no generic type in it. -/
theorem isGeneric_eq_false {marshal : Option MarshalOverride} {described : Described}
    (h : s.describeValue type marshal position = .ok described) : type.isGeneric = false := by
  induction type generalizing marshal position described with
  | generic name => exact Except.noConfusion rfl rfl (heq_of_eq h)
  | array element ih =>
    unfold Scope.describeValue at h
    split at h
    · exact Except.noConfusion rfl rfl (heq_of_eq h)
    · obtain ⟨inner, hinner, -⟩ := exists_of_bind h
      exact ih hinner
  | pointer target ih =>
    unfold Scope.describeValue at h
    split at h
    · exact Except.noConfusion rfl rfl (heq_of_eq h)
    · split at h
      · next hvoid => cases target <;> first | rfl | exact Bool.noConfusion hvoid
      · obtain ⟨inner, hinner, -⟩ := exists_of_bind h
        exact ih hinner
  | _ => rfl

/-- No value is returned by what declares to return none, and by nothing else. -/
theorem elementType_eq_void_iff {marshal : Option MarshalOverride} {described : Described}
    (h : s.describe type marshal position = .ok described) (hbyRef : position.byRef = false) :
    described.type.elementType = .void ↔ type = .void := by
  obtain ⟨value, hvalue, htype, -⟩ := exists_of_describe h
  rw [htype, hbyRef, if_neg Bool.false_ne_true]
  constructor
  · intro hvoid
    have hshaped := shaped_describeValue s type marshal position
    rw [hvalue] at hshaped
    change Shaped type position value.type at hshaped
    generalize value.type = d at hshaped hvoid
    cases hshaped with
    | void hexpression => exact hexpression
    | nested hnested =>
      cases hnested with
      | base hvalueType => exact absurd hvoid hvalueType.1
      | _ => exact ElementType.noConfusion hvoid
    | inline => exact ElementType.noConfusion hvoid
  · rintro rfl
    unfold Scope.describeValue at hvalue
    split at hvalue
    · exact Except.ok.inj hvalue ▸ rfl
    · exact Except.noConfusion rfl rfl (heq_of_eq hvalue)

/-- **Descriptors are well shaped**, and there is none for an expression with a generic type anywhere
in it. -/
theorem describe_wellShaped (s : Scope) (type : TypeExpr) (marshal : Option MarshalOverride)
    (position : Position) :
    (∀ described, s.describe type marshal position = .ok described →
      WellShaped position described.type) ∧
    (type.isGeneric = true → ∃ error, s.describe type marshal position = .error error) := by
  constructor
  · intro described h
    obtain ⟨value, hvalue, htype, -⟩ := exists_of_describe h
    have hshaped := shaped_describeValue s type marshal position
    rw [hvalue] at hshaped
    rw [htype]
    split
    · next hbyRef => exact hshaped.wellShaped_pointer hbyRef
    · next hbyRef => exact hshaped.wellShaped (Bool.not_eq_true _ ▸ hbyRef)
  · intro hgeneric
    cases h : s.describe type marshal position with
    | error error => exact ⟨error, rfl⟩
    | ok described =>
      obtain ⟨value, hvalue, -⟩ := exists_of_describe h
      exact Bool.noConfusion (hgeneric.symm.trans (isGeneric_eq_false hvalue))

/-- An inline array of pointers to safe arrays is well shaped in a field, and there is none of generic
types. -/
theorem shelf_wellShaped :
    (∃ described, Synthesis.plain.scope.describe (.array (.pointer (.array .text)))
        (some { form := .byValArray, count := some 4 }) { isField := true } = .ok described ∧
      described.type = .cArray (.pointer (.safeArray (.base .bstr))) [4] ∧
      WellShaped { isField := true } described.type) ∧
    ∃ error, Synthesis.plain.scope.describe (.array (.pointer (.generic "T")))
      (some { form := .byValArray, count := some 4 }) { isField := true } = .error error := by
  have hdescribed : Synthesis.plain.scope.describe (.array (.pointer (.array .text)))
      (some { form := .byValArray, count := some 4 }) { isField := true } =
        .ok { type := .cArray (.pointer (.safeArray (.base .bstr))) [4] } := rfl
  exact ⟨⟨_, hdescribed, rfl, (describe_wellShaped _ _ _ _).1 _ hdescribed⟩,
    (describe_wellShaped _ _ _ _).2 rfl⟩

end Export

end Automation

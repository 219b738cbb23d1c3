import Automation.Proofs.Export.Shapes

/-!
# Elements of safe arrays

A safe array can hold pointers only if they point at a type of a library, which is how references to
interfaces and classes are described. An unmanaged pointer to a record, an enum, a GUID or a color is
described in the same way, so it is taken for one of these. `holdsObjects_iff` says that nothing else is:
the pointers in a safe array are references to interfaces and classes unless the elements are unmanaged
pointers to such a value type.
-/

namespace Automation

/-- The elements of the array that is described beneath the layers: an array has one layer whatever it
becomes, and an unmanaged pointer is one. -/
def Source.TypeExpr.elementBeneath? : TypeExpr → List Library.Layer → Option TypeExpr
  | .array element, [] => some element
  | .array element, _ :: around => element.elementBeneath? around
  | .pointer target, .pointer :: around => target.elementBeneath? around
  | _, _ => none

namespace Export

open Library Source

/-- The elements of the array at a place of the descriptor of an expression. Passing by reference is one
more layer. -/
def elementAt? (position : Position) (type : TypeExpr) (around : List Layer) : Option TypeExpr :=
  if position.byRef then
    match around with
    | .pointer :: around => type.elementBeneath? around
    | _ => none
  else type.elementBeneath? around

/-- The expression is a reference to an interface or class. -/
def IsObject (s : Scope) (type : TypeExpr) : Prop := IsReference type ∧ s.isObjectRef type = true

/-- The expression is a reference to a value type that a library can have. -/
def IsValueReference (s : Scope) (type : TypeExpr) : Prop :=
  (IsReference type ∧ s.isObjectRef type = false) ∨ type = .builtin .guid ∨ type = .builtin .color

/-- The pointers that safe arrays hold are references to interfaces and classes. -/
def HoldsObjects (s : Scope) (position : Position) (type : TypeExpr) (d : Descriptor) : Prop :=
  ∀ around inner, d.HasPart around (.safeArray (.pointer inner)) →
    ∃ element, elementAt? position type around = some element ∧ IsObject s element

variable {s : Scope} {type : TypeExpr} {marshal : Option MarshalOverride} {position : Position}
  {described : Described} {around : List Layer} {d : Descriptor}

/-! ## What descriptors are made of -/

/-- What the descriptor of an expression is made of: references become references, and every array and
every unmanaged pointer becomes one layer. -/
inductive IsMadeOf (s : Scope) : TypeExpr → Descriptor → Prop
  | base {type : TypeExpr} (elemental : ElementType) : IsMadeOf s type (.base elemental)
  | value {type : TypeExpr} (ref : TypeRef) : IsValueReference s type →
    IsMadeOf s type (.userDefined ref)
  | object {type : TypeExpr} (ref : TypeRef) : IsObject s type →
    IsMadeOf s type (.pointer (.userDefined ref))
  | pointer {target : TypeExpr} {inner : Descriptor} : IsMadeOf s target inner →
    IsMadeOf s (.pointer target) (.pointer inner)
  | safeArray {element : TypeExpr} {inner : Descriptor} : isArray element = false →
    isSafeArrayElement inner = true → IsMadeOf s element inner →
      IsMadeOf s (.array element) (.safeArray inner)
  | arrayPointer {element : TypeExpr} {inner : Descriptor} : IsMadeOf s element inner →
    IsMadeOf s (.array element) (.pointer inner)
  | inline {element : TypeExpr} {inner : Descriptor} (bounds : List Nat) : IsMadeOf s element inner →
    IsMadeOf s (.array element) (.cArray inner bounds)

theorem isMadeOf_base {elemental : ElementType} (_ : IsValueType elemental) :
    IsMadeOf s type (.base elemental) := .base elemental

theorem isMadeOf_describeBuiltin (s : Scope) (builtin : Builtin) (form : Option NativeForm) :
    Has (IsMadeOf s (.builtin builtin)) (s.describeBuiltin builtin form) := by
  unfold Scope.describeBuiltin
  dsimp only
  split
  · exact .base _
  · exact .base _
  · exact .base _
  · split
    · exact .value _ (.inr (.inl rfl))
    · trivial
  · split
    · exact .value _ (.inr (.inr rfl))
    · trivial
  · trivial

theorem isMadeOf_describeNamed (s : Scope) (id : TypeId) (form : Option NativeForm) :
    Has (IsMadeOf s (.named id)) (s.describeNamed id form) := by
  unfold Scope.describeNamed
  split
  · trivial
  · next t ht =>
    have href : s.isObjectRef (.named id) = t.isObject := by simp [Scope.isObjectRef, ht]
    unfold TypeDecl.isObject at href
    dsimp only
    split
    · next hbody =>
      exact has_describeObject isMadeOf_base fun ref _ => .object ref ⟨trivial, by simp [href, hbody]⟩
    · next hbody =>
      exact has_describeObject isMadeOf_base fun ref _ => .object ref ⟨trivial, by simp [href, hbody]⟩
    · next hbody =>
      exact has_describeEnum isMadeOf_base fun ref _ =>
        .value ref (.inl ⟨trivial, by simp [href, hbody]⟩)
    · next hbody =>
      exact has_describeRecord fun ref _ => .value ref (.inl ⟨trivial, by simp [href, hbody]⟩)

theorem isMadeOf_describeExternal (s : Scope) (type : ExternalType) (form : Option NativeForm) :
    Has (IsMadeOf s (.external type)) (s.describeExternal type form) := by
  unfold Scope.describeExternal
  dsimp only
  split
  · next hkind =>
    exact has_describeObject isMadeOf_base fun ref _ =>
      .object ref ⟨trivial, by simp [Scope.isObjectRef, hkind]⟩
  · next hkind =>
    exact has_describeObject isMadeOf_base fun ref _ =>
      .object ref ⟨trivial, by simp [Scope.isObjectRef, hkind]⟩
  · next hkind =>
    exact has_describeEnum isMadeOf_base fun ref _ =>
      .value ref (.inl ⟨trivial, by simp [Scope.isObjectRef, hkind]⟩)
  · next hkind =>
    exact has_describeRecord fun ref _ =>
      .value ref (.inl ⟨trivial, by simp [Scope.isObjectRef, hkind]⟩)

theorem isMadeOf_describeArray {element : TypeExpr} (marshal : Option MarshalOverride)
    (position : Position) {described : Described} (hflat : isArray element = false)
    (h : IsMadeOf s element described.type) :
    Has (IsMadeOf s (.array element)) (describeArray element marshal position described) := by
  have hsafe : Has (IsMadeOf s (.array element)) (if isSafeArrayElement described.type then
      .ok { described with type := .safeArray described.type }
    else .error (.elementUnsupported element.spelling)) := by
    split
    · next hheld => exact .safeArray hflat hheld h
    · trivial
  unfold describeArray
  dsimp only
  split
  · exact hsafe
  · split
    · exact hsafe
    · exact .arrayPointer h
    · split
      · trivial
      · split
        · exact .inline _ h
        · trivial
    · trivial

theorem isMadeOf_describeValue (s : Scope) (type : TypeExpr) (marshal : Option MarshalOverride)
    (position : Position) : Has (IsMadeOf s type) (s.describeValue type marshal position) := by
  induction type generalizing marshal position with
  | generic name => trivial
  | void =>
    unfold Scope.describeValue
    split
    · exact .base _
    · trivial
  | scalar scalar => exact has_elemental isMadeOf_base _ _ (isValueType_scalarType? _ _ _)
  | text => exact has_elemental isMadeOf_base _ _ (isValueType_textType? _)
  | textBuffer => exact has_elemental isMadeOf_base _ _ (isValueType_textBufferType? _)
  | object => exact has_elemental isMadeOf_base _ _ (isValueType_objectType? _)
  | builtin builtin => exact isMadeOf_describeBuiltin s builtin _
  | array element ih =>
    unfold Scope.describeValue
    split
    · trivial
    · next hguard =>
      rw [Bool.or_eq_true, not_or, Bool.not_eq_true, Bool.not_eq_true] at hguard
      exact (ih _ _).bind fun _ h => isMadeOf_describeArray marshal position hguard.2 h
  | pointer target ih =>
    unfold Scope.describeValue
    split
    · trivial
    · split
      · exact .pointer (.base .void)
      · exact (ih _ _).bind fun _ h => .pointer h
  | named id => exact isMadeOf_describeNamed s id _
  | external type => exact isMadeOf_describeExternal s type _

/-! ## Elements -/

/-- The descriptor is made of the expression as of the elements of a safe array. -/
structure HoldsElements (s : Scope) (element : TypeExpr) (d : Descriptor) : Prop where
  flat : isArray element = false
  held : isSafeArrayElement d = true
  made : IsMadeOf s element d

/-- **Every safe array is made of an array** that stands at its place. -/
theorem IsMadeOf.exists_element (h : IsMadeOf s type d) {element : Descriptor}
    (hpart : d.HasPart around (.safeArray element)) :
    ∃ e, type.elementBeneath? around = some e ∧ HoldsElements s e element := by
  induction h generalizing around with
  | base | value => cases hpart
  | object =>
    cases hpart with
    | pointer hpart => cases hpart
  | pointer _ ih =>
    cases hpart with
    | pointer hpart => exact ih hpart
  | @safeArray e _ hflat hheld hmade ih =>
    cases hpart with
    | self => exact ⟨e, rfl, hflat, hheld, hmade⟩
    | safeArray hpart => exact ih hpart
  | arrayPointer _ ih =>
    cases hpart with
    | pointer hpart => exact ih hpart
  | inline _ _ ih =>
    cases hpart with
    | cArray hpart => exact ih hpart

/-- What stands at the place of a safe array, passed by reference or not. -/
theorem exists_elementAt (h : s.describe type marshal position = .ok described)
    (hpart : described.type.HasPart around (.safeArray d)) :
    ∃ element, elementAt? position type around = some element ∧ HoldsElements s element d := by
  obtain ⟨value, hvalue, htype, -⟩ := exists_of_describe h
  have hmade := isMadeOf_describeValue s type marshal position
  rw [hvalue] at hmade
  rw [htype] at hpart
  unfold elementAt?
  cases hbyRef : position.byRef with
  | false =>
    rw [hbyRef, if_neg Bool.false_ne_true] at hpart
    exact IsMadeOf.exists_element hmade hpart
  | true =>
    rw [hbyRef, if_pos rfl] at hpart
    cases hpart with
    | pointer hpart => exact IsMadeOf.exists_element hmade hpart

/-- A pointer that a safe array holds is a reference to an interface or class, or an unmanaged pointer to
a value type. Either way it points at a type of a library. -/
theorem HoldsElements.pointer_cases {element : TypeExpr} {inner : Descriptor}
    (h : HoldsElements s element (.pointer inner)) : ∃ ref, inner = .userDefined ref ∧
      (IsObject s element ∨ ∃ target, element = .pointer target ∧ IsValueReference s target) := by
  obtain ⟨hflat, hheld, hmade⟩ := h
  cases hmade with
  | object ref hobject => exact ⟨ref, rfl, .inl hobject⟩
  | arrayPointer => exact Bool.noConfusion hflat
  | @pointer target _ hmade =>
    -- Of what a pointer can point at, only a type of a library is held.
    cases hmade with
    | value ref hvalue => exact ⟨ref, rfl, .inr ⟨target, rfl, hvalue⟩⟩
    | _ => exact Bool.noConfusion hheld

/-- **The pointers in safe arrays are references to interfaces and classes**, unless the elements are
unmanaged pointers to value types that are types of a library. -/
theorem holdsObjects_iff (h : s.describe type marshal position = .ok described) :
    HoldsObjects s position type described.type ↔
      ¬∃ around target ref,
        described.type.HasPart around (.safeArray (.pointer (.userDefined ref))) ∧
          elementAt? position type around = some (.pointer target) ∧ IsValueReference s target := by
  constructor
  · rintro hobjects ⟨around, target, ref, hpart, helement, -⟩
    obtain ⟨element, helement', hreference, -⟩ := hobjects around _ hpart
    obtain rfl := Option.some.inj (helement.symm.trans helement')
    exact hreference
  · intro hno around inner hpart
    obtain ⟨element, helement, hholds⟩ := exists_elementAt h hpart
    obtain ⟨ref, rfl, hobject | ⟨target, rfl, hvalue⟩⟩ := hholds.pointer_cases
    · exact ⟨element, helement, hobject⟩
    · exact absurd ⟨around, target, ref, hpart, helement, hvalue⟩ hno

/-- A scope with a record and an interface, both of which have their places. -/
def warehouse : Scope where
  type? id :=
    [({ space := "N", name := "Crate", body := .record [] } : TypeDecl),
     { space := "N", name := "ICrane", body := .interface none }][id]?
  refs :=
    { own :=
        [(0, { handle := ⟨0⟩, target := .record }),
         (1, { handle := ⟨1⟩, target := .interface .dual })] }
  width := .bits32

/-- A safe array of interfaces holds pointers to the interface. -/
theorem crane_holdsObjects : ∃ described,
    warehouse.describe (.array (.named 1)) none { byRef := true } = .ok described ∧
      described.type = .pointer (.safeArray (.pointer (.userDefined (.own ⟨1⟩)))) ∧
      HoldsObjects warehouse { byRef := true } (.array (.named 1)) described.type := by
  have hdescribed : warehouse.describe (.array (.named 1)) none { byRef := true } =
      .ok { type := .pointer (.safeArray (.pointer (.userDefined (.own ⟨1⟩)))) } := rfl
  refine ⟨_, hdescribed, rfl, (holdsObjects_iff hdescribed).mpr ?_⟩
  rintro ⟨around, target, ref, hpart, helement, -⟩
  cases hpart with
  | pointer hpart =>
    cases hpart with
    | self => exact TypeExpr.noConfusion (Option.some.inj helement)
    | safeArray hpart =>
      cases hpart with
      | pointer hpart => cases hpart

/-- A safe array of unmanaged pointers to a record is described as one of interfaces is. -/
theorem crate_not_holdsObjects : ∃ described,
    warehouse.describe (.array (.pointer (.named 0))) none {} = .ok described ∧
      described.type = .safeArray (.pointer (.userDefined (.own ⟨0⟩))) ∧
      ¬HoldsObjects warehouse {} (.array (.pointer (.named 0))) described.type := by
  refine ⟨_, rfl, rfl, fun hobjects => ?_⟩
  obtain ⟨element, helement, hreference, -⟩ := hobjects [] _ (.self _)
  obtain rfl : TypeExpr.pointer (.named 0) = element := Option.some.inj helement
  exact hreference

end Export

end Automation

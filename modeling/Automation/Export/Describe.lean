import Automation.Export.ReferenceTable

/-!
# Descriptors of type expressions

`Scope.describe` turns a type expression, with its marshaling override and its position, into a
descriptor. An interface or class that has none becomes the generic object and an enum becomes its
underlying integer; both are reported as degradations. What has no descriptor at all is an error.
-/

namespace Automation.Export

open Library Source

/-- Where a type expression stands. -/
structure Position where
  arrayElement : Bool := false
  isReturn : Bool := false
  isField : Bool := false
  /-- Passed by reference: the descriptor is wrapped in a pointer. -/
  byRef : Bool := false
  deriving DecidableEq, Repr

/-- Why a type expression has no descriptor. -/
inductive DescribeError where
  | generic
  | void
  | nestedArray
  | invalidOverride (type : String) (form : NativeForm)
  | recordAbsent (name : String)
  | inlineOutsideField
  | countMissing
  | elementUnsupported (type : String)
  | unresolved (name : String)
  deriving DecidableEq, Repr

/-- The wording of the reason. -/
def DescribeError.message : DescribeError → String
  | generic => "generic types cannot be exported"
  | void => "`void` is only valid as a return type"
  | nestedArray => "arrays of arrays cannot be exported"
  | invalidOverride type form =>
    s!"marshaling override {form.text} does not apply to `{type}`"
  | recordAbsent name => s!"record `{name}` has no descriptor"
  | inlineOutsideField => "inline arrays are only valid in record fields"
  | countMissing => "inline array has no element count"
  | elementUnsupported type => s!"`{type}` cannot be a safe-array element"
  | unresolved name => s!"`{name}` cannot be resolved"

/-- What was lost in a descriptor. -/
inductive Degradation where
  /-- A reference to the named interface or class became the generic object. -/
  | genericObject (name : String)
  /-- A reference to the named enum became its underlying integer. -/
  | enumAsInteger (name : String)
  deriving DecidableEq, Repr

/-- A descriptor, and what was lost in it. -/
structure Described where
  type : Descriptor
  degradations : List Degradation := []
  deriving DecidableEq, Repr

/-- What type expressions are described with. -/
structure Scope where
  /-- The types of the unit. -/
  type? : TypeId → Option TypeDecl
  refs : ReferenceTable
  width : PointerWidth

/-- The elemental type of a scalar under an override, if the override applies to it. -/
def scalarType? (width : PointerWidth) : Scalar → Option NativeForm → Option ElementType
  | .bool, none | .bool, some .variantBool => some .bool
  | .bool, some .bool => some .i4
  | .char, none => some .ui2
  | .bool, some .i1 | .char, some .i1 => some .i1
  | .bool, some .u1 | .char, some .u1 => some .ui1
  | .bool, some .i2 | .char, some .i2 => some .i2
  | .bool, some .u2 | .char, some .u2 => some .ui2
  | .i8, none | .i8, some .i1 | .u8, some .i1 => some .i1
  | .u8, none | .i8, some .u1 | .u8, some .u1 => some .ui1
  | .i16, none | .i16, some .i2 | .u16, some .i2 => some .i2
  | .u16, none | .i16, some .u2 | .u16, some .u2 => some .ui2
  | .i32, none | .i32, some .i4 | .u32, some .i4 => some .i4
  | .u32, none | .i32, some .u4 | .u32, some .u4 => some .ui4
  | .i32, some .error | .u32, some .error => some .hresult
  | .i64, none | .i64, some .i8 | .u64, some .i8 => some .i8
  | .u64, none | .i64, some .u8 | .u64, some .u8 => some .ui8
  | .i64, some .currency | .u64, some .currency => some .cy
  | .f32, none | .f32, some .r4 => some .r4
  | .f64, none | .f64, some .r8 => some .r8
  | .isize, none => some (match width with | .bits32 => .i4 | .bits64 => .i8)
  | .usize, none => some (match width with | .bits32 => .ui4 | .bits64 => .ui8)
  | .isize, some .sysInt | .usize, some .sysInt => some .int
  | .isize, some .sysUInt | .usize, some .sysUInt => some .uint
  | _, _ => none

/-- The elemental type of immutable text under an override. -/
def textType? : Option NativeForm → Option ElementType
  | none | some .bStr => some .bstr
  | some .lpStr => some .lpstr
  | some .lpwStr | some .lptStr => some .lpwstr
  | _ => none

/-- The elemental type of a text buffer under an override. -/
def textBufferType? : Option NativeForm → Option ElementType
  | none | some .lpwStr | some .lptStr => some .lpwstr
  | some .lpStr => some .lpstr
  | _ => none

/-- The elemental type of the root object under an override. -/
def objectType? : Option NativeForm → Option ElementType
  | none | some .struct => some .variant
  | some .unknown | some .interface => some .unknown
  | some .dispatch => some .dispatch
  | _ => none

/-- Whether a descriptor can be that of the elements of a safe array: a pointer only if it points
at an interface. -/
def isSafeArrayElement : Descriptor → Bool
  | .pointer (.userDefined _) => true
  | .pointer _ => false
  | other => other.elementType.isSafeArrayElement

/-- Whether an expression is an array. -/
def isArray : TypeExpr → Bool
  | .array _ => true
  | _ => false

/-- The elemental type, or the error that the override does not apply. An expression without a
type and without an override is unresolved. -/
def elemental (spelling : String) (form : Option NativeForm) :
    Option ElementType → Except DescribeError Described
  | some type => .ok { type := .base type }
  | none =>
    match form with
    | some form => .error (.invalidOverride spelling form)
    | none => .error (.unresolved spelling)

/-- The descriptor of an interface or class, given what its reference points at. -/
def describeObject (qualified : String) (form : Option NativeForm)
    (target : Option TypeRef) : Except DescribeError Described :=
  match form with
  | some .unknown => .ok { type := .base .unknown }
  | some .dispatch => .ok { type := .base .dispatch }
  | none | some .interface =>
    match target with
    | some ref => .ok { type := .pointer (.userDefined ref) }
    | none => .ok { type := .base .unknown, degradations := [.genericObject qualified] }
  | some other => .error (.invalidOverride qualified other)

/-- The descriptor of an enum: the enum itself without an override, and else an integer. -/
def describeEnum (width : PointerWidth) (qualified : String) (underlying : Scalar)
    (form : Option NativeForm) (target : Option TypeRef) : Except DescribeError Described :=
  match form, target with
  | some form, _ =>
    match scalarType? width underlying (some form) with
    | some type =>
      if type.isInteger then .ok { type := .base type }
      else .error (.invalidOverride qualified form)
    | none => .error (.invalidOverride qualified form)
  | none, some ref => .ok { type := .userDefined ref }
  | none, none =>
    match scalarType? width underlying none with
    | some type => .ok { type := .base type, degradations := [.enumAsInteger qualified] }
    | none => .error (.unresolved qualified)

/-- The descriptor of a record, which takes no override and has no substitute. -/
def describeRecord (qualified : String) (form : Option NativeForm) (target : Option TypeRef) :
    Except DescribeError Described :=
  match form, target with
  | some form, _ => .error (.invalidOverride qualified form)
  | none, some ref => .ok { type := .userDefined ref }
  | none, none => .error (.recordAbsent qualified)

/-- The descriptor of an array with described elements. -/
def describeArray (element : TypeExpr) (marshal : Option MarshalOverride) (position : Position)
    (described : Described) : Except DescribeError Described :=
  let safeArray :=
    if isSafeArrayElement described.type then
      .ok { described with type := .safeArray described.type }
    else .error (.elementUnsupported element.spelling)
  match marshal with
  | none => safeArray
  | some m =>
    match m.form with
    | .safeArray => safeArray
    | .lpArray => .ok { described with type := .pointer described.type }
    | .byValArray =>
      if !position.isField then .error .inlineOutsideField
      else match m.count with
        | some count => .ok { described with type := .cArray described.type [count] }
        | none => .error .countMissing
    | form => .error (.invalidOverride (TypeExpr.array element).spelling form)

namespace Scope

/-- What a reference to an exported interface or class points at: the interface, or the default
interface of the class. -/
def ownObject? (s : Scope) (id : TypeId) : Option TypeRef := do
  let ref ← s.refs.own? id
  match ref.target with
  | .interface _ => some (.own ref.handle)
  | .coClass _ _ => ref.default
  | .enumeration | .record => none

/-- What a reference to an interface or class of another unit points at. -/
def externalObject? (s : Scope) (type : ExternalType) : Option TypeRef := do
  let ref ← s.refs.external? type
  match ref.kind with
  | .interface => some ref.ref
  | .coClass => ref.default
  | .enumeration | .record => none

/-- The descriptor of a built-in value type. -/
def describeBuiltin (s : Scope) (builtin : Builtin) (form : Option NativeForm) :
    Except DescribeError Described :=
  let standard (index : Nat) : Except DescribeError Described :=
    match s.refs.standard? index with
    | some ref => .ok { type := .userDefined ref }
    | none => .error (.unresolved builtin.text)
  match builtin, form with
  | .dateTime, none => .ok { type := .base .date }
  | .decimal, none => .ok { type := .base .decimal }
  | .decimal, some .currency => .ok { type := .base .cy }
  | .guid, none => standard Standard.guidIndex
  | .color, none => standard Standard.colorIndex
  | _, some form => .error (.invalidOverride builtin.text form)

/-- The descriptor of a type of the unit. -/
def describeNamed (s : Scope) (id : TypeId) (form : Option NativeForm) :
    Except DescribeError Described :=
  match s.type? id with
  | none => .error (.unresolved (TypeExpr.named id).spelling)
  | some t =>
    let ref := (s.refs.own? id).map fun r => TypeRef.own r.handle
    match t.body with
    | .interface _ | .objectClass _ => describeObject t.qualified form (s.ownObject? id)
    | .enumeration underlying _ => describeEnum s.width t.qualified underlying form ref
    | .record _ => describeRecord t.qualified form ref

/-- The descriptor of a type of another unit. -/
def describeExternal (s : Scope) (type : ExternalType) (form : Option NativeForm) :
    Except DescribeError Described :=
  let ref := (s.refs.external? type).map (·.ref)
  match type.kind with
  | .interface | .objectClass => describeObject type.qualified form (s.externalObject? type)
  | .enumeration underlying => describeEnum s.width type.qualified underlying form ref
  | .record => describeRecord type.qualified form ref

/-- The descriptor of an expression, before it is wrapped for passing by reference. -/
def describeValue (s : Scope) :
    TypeExpr → Option MarshalOverride → Position → Except DescribeError Described
  | .generic _, _, _ => .error .generic
  | .void, _, position =>
    if position.isReturn && !position.arrayElement then .ok { type := .base .void }
    else .error .void
  | .scalar scalar, marshal, _ =>
    let form := marshal.map (·.form)
    elemental scalar.text form (scalarType? s.width scalar form)
  | .text, marshal, _ =>
    let form := marshal.map (·.form)
    elemental TypeExpr.text.spelling form (textType? form)
  | .textBuffer, marshal, _ =>
    let form := marshal.map (·.form)
    elemental TypeExpr.textBuffer.spelling form (textBufferType? form)
  | .object, marshal, _ =>
    let form := marshal.map (·.form)
    elemental TypeExpr.object.spelling form (objectType? form)
  | .builtin builtin, marshal, _ => s.describeBuiltin builtin (marshal.map (·.form))
  | .array element, marshal, position =>
    if position.arrayElement || isArray element then .error .nestedArray
    else do
      let described ←
        s.describeValue element (marshal.bind MarshalOverride.element) { arrayElement := true }
      describeArray element marshal position described
  | .pointer target, marshal, _ =>
    match marshal with
    | some m => .error (.invalidOverride (TypeExpr.pointer target).spelling m.form)
    | none =>
      if target.isVoid then .ok { type := .pointer (.base .void) }
      else do
        let described ← s.describeValue target none {}
        return { described with type := .pointer described.type }
  | .named id, marshal, _ => s.describeNamed id (marshal.map (·.form))
  | .external type, marshal, _ => s.describeExternal type (marshal.map (·.form))

/-- The descriptor of an expression in its position. -/
def describe (s : Scope) (type : TypeExpr) (marshal : Option MarshalOverride)
    (position : Position) : Except DescribeError Described := do
  let described ← s.describeValue type marshal position
  if position.byRef then return { described with type := .pointer described.type }
  else return described

/-- Whether values of a type are object references. -/
def isObjectRef (s : Scope) : TypeExpr → Bool
  | .object => true
  | .named id => (s.type? id).any TypeDecl.isObject
  | .external type =>
    match type.kind with
    | .interface | .objectClass => true
    | .enumeration _ | .record => false
  | _ => false

end Scope

end Automation.Export

import Automation.Library.Flags
import Automation.Library.Variant

/-!
# Descriptors

What a library records about types, parameters, functions and variables.
-/

namespace Automation.Library

/-- A member id: the dispatch id of a function, or the id of a variable. -/
abbrev MemberId := Int

/-- The id that stands for none. -/
def MemberId.none : MemberId := -1

/-- The largest member id. -/
def MemberId.max : MemberId := 0x7FFFFFFF

/-- The place of a type in its library. -/
structure Handle where
  index : Nat
  deriving DecidableEq, Repr

/-- The place of a library in the import table. -/
structure ImportId where
  index : Nat
  deriving DecidableEq, Repr

/-- A reference to a type of the library or of an imported one. -/
inductive TypeRef where
  | own (handle : Handle)
  | imported (library : ImportId) (index : Nat)
  deriving DecidableEq, Repr

/-- The kind of a type in a library. -/
inductive TypeKind where
  | enumeration
  | record
  /-- An interface that can be bound directly. -/
  | interface
  /-- An interface that can only be bound dynamically. -/
  | dispatch
  | coClass
  deriving DecidableEq, Repr

/-- Whether a type of the kind has functions. -/
def TypeKind.isInterface : TypeKind → Bool
  | interface | dispatch => true
  | _ => false

/-- Whether a type of the kind has variables. -/
def TypeKind.hasVariables : TypeKind → Bool
  | enumeration | record => true
  | _ => false

/-- The width of a pointer on the target. -/
inductive PointerWidth where
  | bits32
  | bits64
  deriving DecidableEq, Repr

/-- The size of a pointer, and of a slot of a virtual table, in bytes. -/
def PointerWidth.bytes : PointerWidth → Nat
  | bits32 => 4
  | bits64 => 8

/-- A type descriptor. -/
inductive Descriptor where
  | base (type : ElementType)
  | pointer (target : Descriptor)
  | safeArray (element : Descriptor)
  /-- An inline array, with its extent in each dimension. -/
  | cArray (element : Descriptor) (bounds : List Nat)
  | userDefined (ref : TypeRef)
  deriving DecidableEq, Repr

namespace Descriptor

/-- The outermost elemental type. -/
def elementType : Descriptor → ElementType
  | base type => type
  | pointer _ => .ptr
  | safeArray _ => .safeArray
  | cArray _ _ => .cArray
  | userDefined _ => .userDefined

/-- The descriptor that a pointer or array wraps. -/
def inner? : Descriptor → Option Descriptor
  | pointer inner | safeArray inner | cArray inner _ => some inner
  | base _ | userDefined _ => none

/-- The reference at the core of the descriptor. -/
def ref? : Descriptor → Option TypeRef
  | userDefined ref => some ref
  | pointer inner | safeArray inner | cArray inner _ => inner.ref?
  | base _ => none

/-- The spelling of a descriptor. -/
def text : Descriptor → String
  | base type => type.text
  | pointer inner => inner.text ++ "*"
  | safeArray inner => "SAFEARRAY(" ++ inner.text ++ ")"
  | cArray inner bounds =>
    inner.text ++ "".intercalate (bounds.map fun bound => "[" ++ toString bound ++ "]")
  | userDefined (.own handle) => "type#" ++ toString handle.index
  | userDefined (.imported library index) =>
    "import#" ++ toString library.index ++ ":" ++ toString index

end Descriptor

/-- A parameter, return value or field. -/
structure Element where
  type : Descriptor
  flags : ParameterFlags := .none
  /-- The encoded default value. -/
  defaultBlob : Option Blob := none
  deriving DecidableEq, Repr

/-- The element with an encoded default value. -/
def Element.withDefault (e : Element) (blob : Blob) : Element :=
  { e with flags := e.flags ||| ParameterFlags.hasDefault, defaultBlob := some blob }

/-- How a function is invoked. -/
inductive InvokeKind where
  | function
  | propertyGet
  | propertyPut
  | propertyPutRef
  deriving DecidableEq, Repr

/-- Whether two functions invoked in these ways may have one dispatch id: different accessors of
one property may. -/
def InvokeKind.mayShareId (a b : InvokeKind) : Bool :=
  a != .function && b != .function && a != b

/-- How a function is bound. -/
inductive FunctionKind where
  /-- A slot of a virtual table. -/
  | pureVirtual
  /-- Late binding only. -/
  | dispatch
  deriving DecidableEq, Repr

/-- A function of an interface. -/
structure FunctionDesc where
  memid : MemberId
  invoke : InvokeKind
  kind : FunctionKind
  params : List Element
  ret : Element
  /-- The offset of the slot in the virtual table, in bytes. -/
  offset : Nat
  flags : FunctionFlags := .none
  deriving DecidableEq, Repr

/-- How many parameters may be left out. -/
def FunctionDesc.optionalCount (f : FunctionDesc) : Nat :=
  f.params.countP fun p => p.flags.has ParameterFlags.optional

/-- What a variable holds. -/
inductive VariableContent where
  /-- A field of a record. -/
  | field (element : Element)
  /-- A constant of an enum. -/
  | constant (value : Variant)
  deriving DecidableEq

/-- A field of a record, or a constant of an enum. -/
structure VariableDesc where
  memid : MemberId
  content : VariableContent
  flags : VariableFlags := .none
  deriving DecidableEq

end Automation.Library

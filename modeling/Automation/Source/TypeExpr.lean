/-!
# Type expressions of a source unit

What stands in a parameter, return, field or implements position. A type of the same unit is
referred to by its place in the unit; a type of another unit by enough to look it up in a library.
-/

namespace Automation.Source

/-- A name within a namespace, which is left out when it is empty. -/
def qualify (space name : String) : String :=
  if space.isEmpty then name else space ++ "." ++ name

/-- Scalar value types. -/
inductive Scalar where
  | bool
  | char
  | i8
  | u8
  | i16
  | u16
  | i32
  | u32
  | i64
  | u64
  | f32
  | f64
  /-- The signed integer as wide as a pointer. -/
  | isize
  /-- The unsigned integer as wide as a pointer. -/
  | usize
  deriving DecidableEq, Repr

namespace Scalar

/-- The width in bits, unless it is that of a pointer. -/
def bits? : Scalar → Option Nat
  | bool | i8 | u8 => some 8
  | char | i16 | u16 => some 16
  | i32 | u32 | f32 => some 32
  | i64 | u64 | f64 => some 64
  | isize | usize => none

/-- Whether an enum may sit on the scalar: the integers of fixed width. -/
def isInteger : Scalar → Bool
  | i8 | u8 | i16 | u16 | i32 | u32 | i64 | u64 => true
  | _ => false

/-- The spelling in messages. -/
def text : Scalar → String
  | bool => "bool"
  | char => "char"
  | i8 => "i8"
  | u8 => "u8"
  | i16 => "i16"
  | u16 => "u16"
  | i32 => "i32"
  | u32 => "u32"
  | i64 => "i64"
  | u64 => "u64"
  | f32 => "f32"
  | f64 => "f64"
  | isize => "isize"
  | usize => "usize"

end Scalar

/-- Value types that automation represents in a fixed way, whatever their layout. -/
inductive Builtin where
  | dateTime
  | decimal
  | guid
  /-- A platform colour. -/
  | color
  deriving DecidableEq, Repr

/-- The spelling in messages. -/
def Builtin.text : Builtin → String
  | dateTime => "DateTime"
  | decimal => "Decimal"
  | guid => "Guid"
  | color => "Color"

/-- What kind of type a reference to another unit points at. -/
inductive ExternalKind where
  | interface
  | objectClass
  | enumeration (underlying : Scalar)
  | record
  deriving DecidableEq, Repr

/-- A type of another unit. -/
structure ExternalType where
  /-- The unit that defines the type. -/
  unit : String
  space : String
  name : String
  kind : ExternalKind
  deriving DecidableEq, Repr

/-- The qualified name of a type of another unit. -/
def ExternalType.qualified (t : ExternalType) : String := qualify t.space t.name

/-- A place in a unit's list of types. -/
abbrev TypeId := Nat

/-- A type expression. -/
inductive TypeExpr where
  /-- No value: only as a return type. -/
  | void
  | scalar (scalar : Scalar)
  /-- Immutable text. -/
  | text
  /-- A mutable text buffer. -/
  | textBuffer
  /-- The root object type. -/
  | object
  | builtin (builtin : Builtin)
  | array (element : TypeExpr)
  /-- An unmanaged pointer. -/
  | pointer (target : TypeExpr)
  /-- A type of the same unit. -/
  | named (id : TypeId)
  /-- A type of another unit. -/
  | external (type : ExternalType)
  /-- An open or constructed generic type, by the name it is shown with. -/
  | generic (name : String)
  deriving DecidableEq, Repr

namespace TypeExpr

/-- Whether the expression says that there is no value. -/
def isVoid : TypeExpr → Bool
  | void => true
  | _ => false

/-- Whether values are text. -/
def isText : TypeExpr → Bool
  | text | textBuffer => true
  | _ => false

/-- Whether a generic type stands anywhere in the expression. -/
def isGeneric : TypeExpr → Bool
  | generic _ => true
  | array element => element.isGeneric
  | pointer target => target.isGeneric
  | _ => false

/-- The types of the same unit that the expression refers to. -/
def localRefs : TypeExpr → List TypeId
  | named id => [id]
  | array element => element.localRefs
  | pointer target => target.localRefs
  | _ => []

/-- The type of another unit at the core of the expression. -/
def external? : TypeExpr → Option ExternalType
  | external type => some type
  | array element => element.external?
  | pointer target => target.external?
  | _ => none

/-- The spelling in messages. -/
def spelling : TypeExpr → String
  | void => "void"
  | scalar s => s.text
  | text => "string"
  | textBuffer => "string-builder"
  | object => "object"
  | builtin b => b.text
  | array element => element.spelling ++ "[]"
  | pointer target => target.spelling ++ "*"
  | named id => "type#" ++ toString id
  | external type => type.qualified
  | generic name => name

end TypeExpr

end Automation.Source

import Automation.Guid.Basic
import Automation.Source.Marshal
import Automation.Source.TypeExpr

/-!
# Declarations of a source unit

Types, their members, parameters, fields and constants, with the markers that an export honours.
-/

namespace Automation.Source

/-- Declared markers. -/
structure Markers where
  /-- In the library, but not shown by browsers. -/
  hidden : Bool := false
  /-- Not callable from macro languages. -/
  restricted : Bool := false
  /-- Excluded from export although public. -/
  notVisible : Bool := false
  deriving DecidableEq, Repr

/-- How an interface says it can be bound. -/
inductive Capability where
  | dual
  | dispatchOnly
  | unknownOnly
  deriving DecidableEq, Repr

/-- Whether and how an interface is made from the members of a class. -/
inductive ClassInterfaceMode where
  | none
  | autoDispatch
  | autoDual
  deriving DecidableEq, Repr

/-- A compile-time constant: the default of a parameter. Floats are kept as bit patterns. -/
inductive DefaultConstant where
  | null
  | bool (value : Bool)
  | char (value : Char)
  | i64 (value : Int64)
  | u64 (value : UInt64)
  | f64 (bits : UInt64)
  | str (value : String)
  deriving DecidableEq

/-- Whether a constant is a float that is no number. -/
def DefaultConstant.isNaN : DefaultConstant → Bool
  | f64 bits => (bits &&& 0x7FFFFFFFFFFFFFFF) > 0x7FF0000000000000
  | _ => false

/-- A constant of an enum. -/
structure EnumConstant where
  name : String
  value : Int
  exportName : Option String := none
  doc : Option String := none
  deriving DecidableEq, Repr

/-- An instance field of a record. -/
structure Field where
  name : String
  type : TypeExpr
  marshal : Option MarshalOverride := none
  isPublic : Bool := true
  exportName : Option String := none
  doc : Option String := none
  deriving DecidableEq, Repr

/-- Which way a parameter passes values. -/
inductive Direction where
  | input
  | output
  | both
  deriving DecidableEq, Repr

/-- A parameter of a method or accessor. -/
structure Parameter where
  name : String
  type : TypeExpr
  byRef : Bool := false
  direction : Direction := .input
  isOptional : Bool := false
  defaultValue : Option DefaultConstant := none
  marshal : Option MarshalOverride := none
  exportName : Option String := none
  deriving DecidableEq

/-- What a member is to its type. -/
inductive Role where
  | method
  | getter (property : String)
  | setter (property : String)
  | creator
  deriving DecidableEq, Repr

/-- A method, property accessor or constructor. -/
structure Member where
  name : String
  role : Role
  /-- The parameters; the last one of a setter is the value. -/
  params : List Parameter := []
  ret : TypeExpr
  retMarshal : Option MarshalOverride := none
  isPublic : Bool := true
  isStatic : Bool := false
  isGeneric : Bool := false
  /-- Whether the return type stays as declared where status codes are returned. -/
  preserveSig : Bool := false
  dispid : Option Int := none
  doc : Option String := none
  description : Option String := none
  exportName : Option String := none
  markers : Markers := {}
  deriving DecidableEq

namespace Member

/-- A method without parameters. -/
def method (name : String) (ret : TypeExpr) : Member where
  name := name
  role := .method
  ret := ret

/-- The getter of a property. -/
def getter (property : String) (type : TypeExpr) : Member where
  name := "get_" ++ property
  role := .getter property
  ret := type

/-- The setter of a property, with the value as its parameter. -/
def setter (property : String) (type : TypeExpr) : Member where
  name := "set_" ++ property
  role := .setter property
  params := [{ name := "value", type := type }]
  ret := .void

/-- A constructor without parameters. -/
def creator : Member where
  name := ".ctor"
  role := .creator
  ret := .void

/-- The member with one more parameter, which stands before the value of a setter. -/
def addParameter (m : Member) (p : Parameter) : Member :=
  match m.role, m.params.getLast? with
  | .setter _, some value => { m with params := m.params.dropLast ++ [p, value] }
  | _, _ => { m with params := m.params ++ [p] }

/-- The property that an accessor belongs to. -/
def property? (m : Member) : Option String :=
  match m.role with
  | .getter property | .setter property => some property
  | .method | .creator => none

/-- Whether the member is public and not excluded. -/
def isVisible (m : Member) : Bool := m.isPublic && !m.markers.notVisible

/-- The help text: the description, or else the doc comment. -/
def help (m : Member) : Option String := m.description <|> m.doc

/-- Whether the member can appear in a library at all. -/
def isExportable (m : Member) : Bool :=
  m.isVisible && !m.isStatic && !m.isGeneric && m.role != .creator

end Member

/-- What a class declares beside its members. -/
structure ClassInfo where
  defaultInterface : Option TypeExpr := none
  /-- Outgoing interfaces, in declaration order. -/
  sources : List TypeExpr := []
  classInterface : ClassInterfaceMode := .autoDispatch
  deriving DecidableEq, Repr

/-- The kind of a type, with what only that kind declares. -/
inductive TypeBody where
  | interface (capability : Option Capability)
  | objectClass (info : ClassInfo)
  | enumeration (underlying : Scalar) (constants : List EnumConstant)
  | record (fields : List Field)
  deriving DecidableEq, Repr

/-- A type of a source unit. -/
structure TypeDecl where
  space : String
  name : String
  body : TypeBody
  isPublic : Bool := true
  guid : Option Guid := none
  doc : Option String := none
  description : Option String := none
  exportName : Option String := none
  markers : Markers := {}
  isGeneric : Bool := false
  members : List Member := []
  /-- The interfaces that a class implements, or the bases of an interface. -/
  interfaces : List TypeExpr := []
  /-- The base of a class. -/
  base : Option TypeExpr := none
  deriving DecidableEq

namespace TypeDecl

/-- The qualified name. -/
def qualified (t : TypeDecl) : String := qualify t.space t.name

/-- Whether the type is public and not excluded. -/
def isVisible (t : TypeDecl) : Bool := t.isPublic && !t.markers.notVisible

/-- The help text: the description, or else the doc comment. -/
def help (t : TypeDecl) : Option String := t.description <|> t.doc

/-- Whether instances can be made without arguments. -/
def hasDefaultCreator (t : TypeDecl) : Bool :=
  t.members.any fun m => m.role == .creator && m.params.isEmpty && m.isVisible

/-- What a class declares: nothing for other types. -/
def classInfo (t : TypeDecl) : ClassInfo :=
  match t.body with
  | .objectClass info => info
  | _ => {}

/-- The fields of a record: none for other types. -/
def fields (t : TypeDecl) : List Field :=
  match t.body with
  | .record fields => fields
  | _ => []

/-- The constants of an enum: none for other types. -/
def constants (t : TypeDecl) : List EnumConstant :=
  match t.body with
  | .enumeration _ constants => constants
  | _ => []

/-- Whether values of the type are object references: interfaces and classes. -/
def isObject (t : TypeDecl) : Bool :=
  match t.body with
  | .interface _ | .objectClass _ => true
  | .enumeration _ _ | .record _ => false

/-- Every type expression of the declaration, in the order in which references are checked. -/
def expressions (t : TypeDecl) : List TypeExpr :=
  t.interfaces ++ t.base.toList ++ t.classInfo.defaultInterface.toList ++ t.classInfo.sources
    ++ t.fields.map (·.type)
    ++ t.members.flatMap fun m => m.ret :: m.params.map (·.type)

/-- Every type of the same unit that the declaration refers to. -/
def localRefs (t : TypeDecl) : List TypeId := t.expressions.flatMap TypeExpr.localRefs

end TypeDecl

end Automation.Source

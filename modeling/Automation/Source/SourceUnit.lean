import Automation.Source.Declaration

/-!
# Source units

A unit is a list of types under one identity. `Reflection` is what an export sees of a unit: the
identity, the ids of its types, and the type behind an id. `SourceUnit.load` accepts a list of
types when it is closed: qualified names differ, enums sit on integers and every reference to the
same unit has a target.
-/

namespace Automation

/-- A version number of two parts. -/
structure Version where
  major : UInt16 := 0
  minor : UInt16 := 0
  deriving DecidableEq, Repr

/-- The written form. -/
def Version.text (v : Version) : String := toString v.major.toNat ++ "." ++ toString v.minor.toNat

namespace Source

/-- The identity of a unit, and of its library unless settings say otherwise. -/
structure UnitIdentity where
  name : String
  version : Version
  guid : Option Guid := none
  /-- The locale. -/
  locale : UInt32 := 0
  doc : Option String := none
  deriving DecidableEq, Repr

/-- The declared identifier, or the one derived from the unit's name. -/
def UnitIdentity.guidOrDerived (u : UnitIdentity) : Guid :=
  u.guid.getD (Guid.derive Guid.exportNamespace u.name)

/-- What an export sees of a unit. -/
structure Reflection where
  identity : UnitIdentity
  /-- The ids of the types, in declaration order. -/
  ids : List TypeId
  /-- The type behind an id. -/
  type? : TypeId → Option TypeDecl

/-- The view of a list of types that shows the given ids. -/
def Reflection.ofTypes (identity : UnitIdentity) (types : List TypeDecl) (ids : List TypeId) :
    Reflection where
  identity := identity
  ids := ids
  type? id := types[id]?

/-- Why a unit cannot be loaded. -/
inductive LoadError where
  /-- A type refers to a place that the unit does not have. -/
  | missingType (name : String) (missing : Nat)
  /-- Two types have one name in one namespace. -/
  | duplicateType (name : String)
  /-- An enum sits on a scalar that is no integer. -/
  | invalidEnum (name : String)
  deriving DecidableEq, Repr

/-- The wording of a load error. -/
def LoadError.message : LoadError → String
  | missingType name missing =>
    s!"type `{name}` refers to type #{missing}, which is not in the unit"
  | duplicateType name => s!"type `{name}` is declared more than once"
  | invalidEnum name => s!"enum `{name}` has a non-integer underlying type"

/-- Whether an enum sits on a scalar that is no integer. -/
def TypeDecl.isInvalidEnum (t : TypeDecl) : Bool :=
  match t.body with
  | .enumeration underlying _ => !underlying.isInteger
  | _ => false

/-- A unit in memory. -/
structure SourceUnit where
  identity : UnitIdentity
  types : List TypeDecl

namespace SourceUnit

/-- What is wrong with a type that follows the types `earlier` in a unit of `count` types. -/
def fault? (count : Nat) (earlier : List TypeDecl) (t : TypeDecl) : Option LoadError :=
  if earlier.any fun e => e.space == t.space && e.name == t.name then
    some (.duplicateType t.qualified)
  else if t.isInvalidEnum then some (.invalidEnum t.qualified)
  else (t.localRefs.find? fun id => decide (count ≤ id)).map (.missingType t.qualified)

/-- The first fault of the types that follow `earlier` in a unit of `count` types. -/
def firstFault? (count : Nat) (earlier : List TypeDecl) : List TypeDecl → Option LoadError
  | [] => none
  | t :: later => fault? count earlier t <|> firstFault? count (earlier ++ [t]) later

/-- The unit with the given identity and types, if they are closed. -/
def load (identity : UnitIdentity) (types : List TypeDecl) : Except LoadError SourceUnit :=
  match firstFault? types.length [] types with
  | some error => .error error
  | none => .ok ⟨identity, types⟩

/-- The default values of parameters in the unit. -/
def defaults (u : SourceUnit) : List DefaultConstant :=
  u.types.flatMap fun t => t.members.flatMap fun m => m.params.filterMap (·.defaultValue)

/-- Whether two units have equal types. A default that is no number equals none, itself included. -/
def hasTypesOf (u v : SourceUnit) : Bool :=
  u.types == v.types && !u.defaults.any DefaultConstant.isNaN

/-- What an export sees of the unit. -/
def reflection (u : SourceUnit) : Reflection :=
  Reflection.ofTypes u.identity u.types (List.range u.types.length)

/-- The place of the type with a name in a namespace. -/
def find? (u : SourceUnit) (space name : String) : Option TypeId :=
  u.types.findIdx? fun t => t.space == space && t.name == name

end SourceUnit

end Source

end Automation

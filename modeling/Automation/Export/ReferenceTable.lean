import Automation.Export.Target

/-!
# What references can point at

`Needs.scan` finds what a unit needs imported: whether the standard library, and which types of
other units. The reference table says where each of those types, and each exported type of the
unit, is to be found.
-/

namespace Automation.Export

open Library Source

/-- A type of a unit that is exported, with what it becomes. -/
structure Classified where
  id : TypeId
  decl : TypeDecl
  target : Target

/-- An exported type of the unit. -/
structure LocalRef where
  handle : Handle
  target : Target
  /-- The default interface of a class, once it is chosen. -/
  default : Option TypeRef := none
  deriving DecidableEq, Repr

/-- A type of another unit that a referenced library covers. -/
structure ExternalRef where
  ref : TypeRef
  kind : ReferencedKind
  /-- The default interface of a class. -/
  default : Option TypeRef
  deriving DecidableEq, Repr

/-- Where references find their targets. The first entry for a type counts. -/
structure ReferenceTable where
  own : List (TypeId × LocalRef) := []
  /-- By unit and qualified name. -/
  external : List ((String × String) × ExternalRef) := []
  /-- The place of the standard library in the import table. -/
  standard : Option ImportId := none
  deriving DecidableEq, Repr

namespace ReferenceTable

/-- The table with an exported type of the unit. -/
def insertOwn (t : ReferenceTable) (id : TypeId) (ref : LocalRef) : ReferenceTable :=
  { t with own := (id, ref) :: t.own }

/-- The table with the default interface of a class. -/
def setDefault (t : ReferenceTable) (id : TypeId) (default : TypeRef) : ReferenceTable :=
  { t with own := t.own.map fun (key, ref) =>
      if key = id then (key, { ref with default := some default }) else (key, ref) }

/-- Where a type of the unit is. -/
def own? (t : ReferenceTable) (id : TypeId) : Option LocalRef := t.own.lookup id

/-- The table with a type of another unit. -/
def insertExternal (t : ReferenceTable) (type : ExternalType) (ref : ExternalRef) :
    ReferenceTable :=
  { t with external := ((type.unit, type.qualified), ref) :: t.external }

/-- Where a type of another unit is. -/
def external? (t : ReferenceTable) (type : ExternalType) : Option ExternalRef :=
  t.external.lookup (type.unit, type.qualified)

/-- The reference to a type of the standard library, if that is imported. -/
def standard? (t : ReferenceTable) (index : Nat) : Option TypeRef :=
  t.standard.map fun id => .imported id index

end ReferenceTable

/-- What a unit needs imported. -/
structure Needs where
  standard : Bool
  /-- The types of other units, in the order of their first use. -/
  external : List ExternalType
  deriving DecidableEq, Repr

/-- Whether the values of an expression are described by a type of the standard library. -/
def usesStandard : TypeExpr → Bool
  | .builtin .guid | .builtin .color => true
  | .array element => usesStandard element
  | .pointer target => usesStandard target
  | _ => false

/-- Every type expression that can end up in the descriptors of a declaration. -/
def signatureTypes (t : TypeDecl) : List TypeExpr :=
  t.interfaces ++ t.classInfo.defaultInterface.toList ++ t.classInfo.sources
    ++ (t.fields.filter (·.isPublic)).map (·.type)
    ++ (t.members.filter Member.isExportable).flatMap fun m => m.ret :: m.params.map (·.type)

/-- What the exported types need imported. -/
def Needs.scan (classified : List Classified) : Needs :=
  let expressions := classified.flatMap fun c => signatureTypes c.decl
  { standard := classified.any (·.target.needsStandard) || expressions.any usesStandard
    external := (expressions.filterMap TypeExpr.external?).eraseDups }

end Automation.Export

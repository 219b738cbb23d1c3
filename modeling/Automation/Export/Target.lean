import Automation.Export.Settings
import Automation.Library.Standard

/-!
# What a type becomes

The target of a source type is decided once, from its declaration alone. Generic types and types
that are not visible have none.
-/

namespace Automation.Export

open Library Source

/-- How an interface is bound. -/
inductive Binding where
  /-- Dynamically and directly. -/
  | dual
  /-- Dynamically. -/
  | dispatchOnly
  /-- Directly, on the identity contract. -/
  | unknownOnly
  deriving DecidableEq, Repr

namespace Binding

/-- The binding of an interface with a declared capability: dual if it declares none. -/
def ofCapability : Option Capability → Binding
  | none | some .dual => dual
  | some .dispatchOnly => dispatchOnly
  | some .unknownOnly => unknownOnly

/-- The kind of the type. -/
def typeKind : Binding → TypeKind
  | dual | unknownOnly => .interface
  | dispatchOnly => .dispatch

/-- The kind of the functions. -/
def functionKind : Binding → FunctionKind
  | dual | unknownOnly => .pureVirtual
  | dispatchOnly => .dispatch

/-- The flags of the type. -/
def flags : Binding → TypeFlags
  | dual => TypeFlags.dual ||| TypeFlags.oleAutomation ||| TypeFlags.dispatchable
  | dispatchOnly => TypeFlags.dispatchable
  | unknownOnly => Flags.none

/-- Whether the interface can be bound dynamically. -/
def isDispatch (b : Binding) : Bool := b != unknownOnly

/-- Whether functions return status codes. -/
def rawStatus (s : Settings) : Binding → Bool
  | unknownOnly => true
  | dual => s.dualStatusCodes
  | dispatchOnly => false

/-- The index of the base in the standard library. -/
def standardBase (b : Binding) : Nat :=
  if b.isDispatch then Standard.dispatchIndex else Standard.unknownIndex

end Binding

/-- What a type becomes in a library. -/
inductive Target where
  | enumeration
  | record
  | interface (binding : Binding)
  /-- A class, with the binding of the interface made from its members, if one is made. -/
  | coClass (creatable : Bool) (classInterface : Option Binding)
  deriving DecidableEq, Repr

namespace Target

/-- The kind of the type. -/
def typeKind : Target → TypeKind
  | enumeration => .enumeration
  | record => .record
  | interface binding => binding.typeKind
  | coClass _ _ => .coClass

/-- The binding of an interface. -/
def binding? : Target → Option Binding
  | interface binding => some binding
  | _ => none

/-- The binding of the interface made from the members of a class. -/
def classInterface? : Target → Option Binding
  | coClass _ classInterface => classInterface
  | _ => none

/-- Whether the target is an interface. -/
def isInterface (t : Target) : Bool := t.binding?.isSome

/-- Whether the target derives from a standard contract, or has a default that does. -/
def needsStandard : Target → Bool
  | interface _ | coClass _ _ => true
  | enumeration | record => false

end Target

/-- The binding of the interface that a class asks for. -/
def classBinding? : ClassInterfaceMode → Option Binding
  | .none => none
  | .autoDispatch => some .dispatchOnly
  | .autoDual => some .dual

/-- What a type becomes, if it is exported at all. -/
def target? (t : TypeDecl) : Option Target :=
  if t.isGeneric || !t.isVisible then none
  else some <|
    match t.body with
    | .enumeration _ _ => .enumeration
    | .record _ => .record
    | .interface capability => .interface (Binding.ofCapability capability)
    | .objectClass info => .coClass t.hasDefaultCreator (classBinding? info.classInterface)

/-- The type flags that markers ask for. -/
def markerFlags (m : Markers) : TypeFlags :=
  TypeFlags.hidden.onlyIf m.hidden ||| TypeFlags.restricted.onlyIf m.restricted

/-- The flags of the type that a declaration becomes. -/
def typeFlags (t : TypeDecl) : Target → TypeFlags
  | .interface binding => markerFlags t.markers ||| binding.flags
  | .coClass creatable _ => markerFlags t.markers ||| TypeFlags.canCreate.onlyIf creatable
  | .enumeration | .record => markerFlags t.markers

/-- The flags of the interface made from the members of a class. -/
def classInterfaceFlags (t : TypeDecl) (binding : Binding) : TypeFlags :=
  markerFlags t.markers ||| binding.flags

end Automation.Export

import Automation.Library.Descriptor
import Automation.Source.SourceUnit
import Automation.Text.Lowercase
import Automation.Walk

/-!
# Libraries

A committed library: its attributes, its types in order, and its import table. Types are found by
name, whatever the case, and references are shown by name.
-/

namespace Automation

namespace Library

/-- The attributes of a library. -/
structure Attributes where
  name : String
  guid : Guid
  version : Version
  locale : UInt32
  doc : Option String
  pointerWidth : PointerWidth
  deriving DecidableEq, Repr

/-- An entry of the import table: a library with the names of its types, by index. -/
structure ImportedLibrary where
  name : String
  guid : Guid
  version : Version
  locale : UInt32
  typeNames : List String
  deriving DecidableEq, Repr

/-- The index of the type with a name. -/
def ImportedLibrary.indexOf? (l : ImportedLibrary) (name : String) : Option Nat :=
  l.typeNames.idxOf? name

/-- A type that a class implements, or the base of an interface. -/
structure ImplementedType where
  ref : TypeRef
  flags : ImplementedFlags
  deriving DecidableEq, Repr

/-- Whether the implemented type is marked as the default interface. -/
def ImplementedType.isDefault (t : ImplementedType) : Bool :=
  t.flags.has ImplementedFlags.default && !t.flags.has ImplementedFlags.source

/-- Whether the implemented type is marked as the default event source. -/
def ImplementedType.isDefaultSource (t : ImplementedType) : Bool :=
  t.flags.has (ImplementedFlags.default ||| ImplementedFlags.source)

/-- A function with its names and documentation. -/
structure FunctionInfo where
  desc : FunctionDesc
  /-- The name of the function, and those of its parameters. -/
  names : List String := []
  doc : Option String := none
  deriving DecidableEq, Repr

/-- The name of the function. -/
def FunctionInfo.name (f : FunctionInfo) : String := f.names.headD ""

/-- The names of the parameters. -/
def FunctionInfo.paramNames (f : FunctionInfo) : List String := f.names.drop 1

/-- A variable with its name and documentation. -/
structure VariableInfo where
  desc : VariableDesc
  name : String := ""
  doc : Option String := none
  deriving DecidableEq

/-- A type of a library. -/
structure TypeInfo where
  name : String
  kind : TypeKind
  guid : Guid := .nil
  version : Version := {}
  flags : TypeFlags := .none
  doc : Option String := none
  implemented : List ImplementedType := []
  functions : List FunctionInfo := []
  vars : List VariableInfo := []
  deriving DecidableEq

namespace TypeInfo

/-- The first function with a name. -/
def functionNamed? (t : TypeInfo) (name : String) : Option FunctionInfo :=
  t.functions.find? fun f => f.name == name

/-- The first variable with a name. -/
def variableNamed? (t : TypeInfo) (name : String) : Option VariableInfo :=
  t.vars.find? fun v => v.name == name

/-- The base of an interface. -/
def base? (t : TypeInfo) : Option TypeRef :=
  if t.kind.isInterface then t.implemented.head?.map (·.ref) else none

/-- The default interface of a class. -/
def defaultInterface? (t : TypeInfo) : Option TypeRef :=
  (t.implemented.find? ImplementedType.isDefault).map (·.ref)

/-- The default event source of a class. -/
def defaultSource? (t : TypeInfo) : Option TypeRef :=
  (t.implemented.find? ImplementedType.isDefaultSource).map (·.ref)

/-- The references in the descriptors of a type, in the order in which a builder checks them. -/
def refs (t : TypeInfo) : List TypeRef :=
  t.implemented.map (·.ref)
    ++ t.functions.flatMap (fun f => (f.desc.params ++ [f.desc.ret]).filterMap (·.type.ref?))
    ++ t.vars.filterMap fun v =>
      match v.desc.content with
      | .field element => element.type.ref?
      | .constant _ => none

end TypeInfo

/-- The base within the same library of the type at a place. -/
def ownBase? (types : List TypeInfo) (place : Nat) : Option Nat :=
  match types[place]?.bind TypeInfo.base? with
  | some (.own base) => some base.index
  | _ => none

/-- The bases of the type at a place, nearest first, as far as they lie in the same library and do
not repeat. -/
def baseChain (types : List TypeInfo) (place : Nat) : List Nat :=
  match ownBase? types place with
  | none => []
  | some base => (walk (ownBase? types) ((List.range types.length).erase place) base).1

/-- The slots of the identity contract. -/
def unknownSlots : Nat := 3

/-- The slots of the identity and dynamic-invocation contracts. -/
def dispatchSlots : Nat := 7

/-- The slots that the standard contracts of an interface take. -/
def reservedSlots (kind : TypeKind) (flags : TypeFlags) : Nat :=
  if kind = .dispatch ∨ flags.meets (TypeFlags.dual ||| TypeFlags.dispatchable) then dispatchSlots
  else unknownSlots

end Library

/-- A committed library. -/
structure Library where
  attributes : Library.Attributes
  types : List Library.TypeInfo
  imports : List Library.ImportedLibrary
  deriving DecidableEq

namespace Library

/-- The place of the type with a name, whatever the case. -/
def find? (l : Library) (name : String) : Option Handle :=
  (l.types.findIdx? fun t => Text.nameKey t.name == Text.nameKey name).map Handle.mk

/-- The type at a place. -/
def type? (l : Library) (handle : Handle) : Option TypeInfo := l.types[handle.index]?

/-- The type with a name, whatever the case. -/
def typeNamed? (l : Library) (name : String) : Option TypeInfo := (l.find? name).bind l.type?

/-- The name of the type that a reference points at, after the name of its library if that is an
imported one. -/
def refName? (l : Library) : TypeRef → Option String
  | .own handle => (l.type? handle).map (·.name)
  | .imported library index => do
    let imported ← l.imports[library.index]?
    let name ← imported.typeNames[index]?
    return imported.name ++ "." ++ name

end Library

end Automation

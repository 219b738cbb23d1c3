import Automation.Library.Basic

/-!
# Referenced libraries

A description of a library that was exported from another unit. The types of that unit resolve
against it and become imported references.
-/

namespace Automation.Export

open Library Source

/-- The kind of a referenced type, as far as references go. -/
inductive ReferencedKind where
  | interface
  | coClass
  | enumeration
  | record
  deriving DecidableEq, Repr

/-- The kind of reference that a type of a library takes. -/
def ReferencedKind.ofTypeKind : TypeKind → ReferencedKind
  | .interface | .dispatch => interface
  | .coClass => coClass
  | .enumeration => enumeration
  | .record => record

/-- A type of a referenced library. -/
structure ReferencedType where
  /-- The name in the library. -/
  name : String
  kind : ReferencedKind
  /-- The qualified name in the unit: none for an interface made from a class. -/
  source : Option String := none
  /-- The index of the default interface of a class. -/
  defaultInterface : Option Nat := none
  deriving DecidableEq, Repr

/-- A library that was exported before. -/
structure ReferencedLibrary where
  /-- The unit that the library was exported from. -/
  unit : String
  name : String
  guid : Guid
  version : Version
  locale : UInt32 := 0
  /-- The types, in library order. -/
  types : List ReferencedType := []
  deriving DecidableEq, Repr

/-- The type exported from a qualified name, with its index. -/
def ReferencedLibrary.find? (l : ReferencedLibrary) (qualified : String) :
    Option (Nat × ReferencedType) := do
  let index ← l.types.findIdx? fun t => t.source == some qualified
  let type ← l.types[index]?
  return (index, type)

/-- The entry of the library in an import table. -/
def ReferencedLibrary.toImport (l : ReferencedLibrary) : ImportedLibrary where
  name := l.name
  guid := l.guid
  version := l.version
  locale := l.locale
  typeNames := l.types.map (·.name)

/-- The place of the first library that covers a type of another unit, with the type in it. -/
def lookup? (libraries : List ReferencedLibrary) (type : ExternalType) :
    Option (Nat × Nat × ReferencedType) :=
  libraries.zipIdx.findSome? fun (library, place) =>
    if library.unit = type.unit then
      (library.find? type.qualified).map fun (index, found) => (place, index, found)
    else none

end Automation.Export

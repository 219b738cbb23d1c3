import Automation.Diagnostic.Queue
import Automation.Export.ReferencedLibrary

/-!
# Settings of an export

What a caller can choose about a run. What is left open is taken from the unit.
-/

namespace Automation.Export

open Library Source

/-- The first dispatch id that members without a declared one get by default. -/
def defaultFirstAuto : MemberId := 0x60020000

/-- What a caller can choose about a run. -/
structure Settings where
  name : Option String := none
  guid : Option Guid := none
  version : Option Version := none
  locale : Option UInt32 := none
  doc : Option String := none
  pointerWidth : PointerWidth := .bits64
  /-- The dispatch id of the first member of an interface that declares none. -/
  firstAuto : MemberId := defaultFirstAuto
  /-- Whether the members of dual interfaces return status codes. -/
  dualStatusCodes : Bool := true
  /-- The libraries that types of other units resolve against. -/
  references : List ReferencedLibrary := []
  /-- Whether units that no reference covers are exported on demand. -/
  generateReferences : Bool := false
  diagnostics : Diagnostic.Policy := {}

namespace Settings

/-- The settings for a unit that is exported on demand: the same target and numbering, and the
identity of that unit. -/
def forDependency (s : Settings) : Settings :=
  { s with name := none, guid := none, version := none, locale := none, doc := none }

/-- The attributes of the library of a unit. -/
def attributes (s : Settings) (unit : UnitIdentity) : Attributes where
  name := s.name.getD unit.name
  guid := s.guid.getD unit.guidOrDerived
  version := s.version.getD unit.version
  locale := s.locale.getD unit.locale
  doc := s.doc <|> unit.doc
  pointerWidth := s.pointerWidth

end Settings

end Automation.Export

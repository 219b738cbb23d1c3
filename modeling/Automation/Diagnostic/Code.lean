/-!
# Diagnostic codes

Every condition that an export reports has a stable code: a letter, `E` for what ends the export
and `W` for what it survives, and a number of four digits. The number alone identifies the code.
-/

namespace Automation.Diagnostic

/-- What a diagnostic is about. -/
inductive Code where
  /-- The source unit cannot be loaded. -/
  | unitUnloadable
  /-- A type that the unit lists is absent from it. -/
  | typeAbsent
  /-- Two libraries share an identifier. -/
  | libraryRepeated
  /-- Two types share an identifier. -/
  | typeRepeated
  /-- The builder rejected a request. -/
  | requestRejected
  /-- A member is left out: a type in its signature has no descriptor. -/
  | memberExcluded
  /-- A record field is left out: its type has no descriptor. -/
  | fieldExcluded
  /-- An enum constant is left out: its value is too wide. -/
  | constantExcluded
  /-- A reference was replaced by the generic object. -/
  | referenceDegraded
  /-- An implemented interface was skipped. -/
  | interfaceSkipped
  /-- A declared default interface cannot be resolved. -/
  | defaultUnresolved
  /-- A reference to an enum was replaced by its underlying integer. -/
  | enumDegraded
  /-- The library of another unit was made on demand. -/
  | dependencyExported
  /-- A dispatch id was in use and another was given. -/
  | idReassigned
  /-- A type was renamed. -/
  | typeRenamed
  /-- An enum constant was renamed. -/
  | constantRenamed
  /-- The exporter broke a rule of its own. -/
  | internal
  deriving DecidableEq, Repr

namespace Code

/-- Every code, in the order of the listing. -/
def all : List Code :=
  [unitUnloadable, typeAbsent, libraryRepeated, typeRepeated, requestRejected, memberExcluded,
   fieldExcluded, constantExcluded, referenceDegraded, interfaceSkipped, defaultUnresolved,
   enumDegraded, dependencyExported, idReassigned, typeRenamed, constantRenamed, internal]

/-- The stable number. -/
def number : Code → Nat
  | unitUnloadable => 1
  | typeAbsent => 2
  | libraryRepeated => 1001
  | typeRepeated => 1002
  | requestRejected => 1003
  | memberExcluded => 2001
  | fieldExcluded => 2002
  | constantExcluded => 2003
  | referenceDegraded => 3001
  | interfaceSkipped => 3002
  | defaultUnresolved => 3003
  | enumDegraded => 3004
  | dependencyExported => 3005
  | idReassigned => 4001
  | typeRenamed => 5001
  | constantRenamed => 5002
  | internal => 9001

/-- The code with a number. -/
def ofNumber? (number : Nat) : Option Code := all.find? fun code => code.number == number

/-- Whether the condition ends the export. -/
def isFatal : Code → Bool
  | unitUnloadable | typeAbsent | libraryRepeated | typeRepeated | requestRejected | internal =>
    true
  | _ => false

/-- Whether the export survives the condition. -/
def isWarning (code : Code) : Bool := !code.isFatal

/-- Whether something was left out because it could not be described. -/
def isMapping : Code → Bool
  | memberExcluded | fieldExcluded | constantExcluded => true
  | _ => false

/-- Whether the condition is about a reference to another type. -/
def isReference : Code → Bool
  | referenceDegraded | interfaceSkipped | defaultUnresolved | enumDegraded
  | dependencyExported => true
  | _ => false

/-- Whether something was renamed. -/
def isNaming : Code → Bool
  | typeRenamed | constantRenamed => true
  | _ => false

/-- The written form: the letter and the number with four digits. -/
def text (code : Code) : String :=
  let digits := toString code.number
  (if code.isFatal then "E" else "W") ++ "".pushn '0' (4 - digits.length) ++ digits

/-- The code with a written form. -/
def ofText? (text : String) : Option Code := all.find? fun code => code.text == text

/-- What the code means, in a few words. -/
def summary : Code → String
  | unitUnloadable => "source unit cannot be loaded"
  | typeAbsent => "required type is absent"
  | libraryRepeated => "duplicate library identity"
  | typeRepeated => "duplicate type identity"
  | requestRejected => "type-library builder rejected a call"
  | memberExcluded => "member excluded: unmappable type"
  | fieldExcluded => "record field excluded: unmappable type"
  | constantExcluded => "enum constant excluded: value out of range"
  | referenceDegraded => "unresolvable reference replaced by generic object"
  | interfaceSkipped => "implemented interface skipped"
  | defaultUnresolved => "explicit default interface cannot be resolved"
  | enumDegraded => "enum reference degraded to underlying integer"
  | dependencyExported => "dependent library generated"
  | idReassigned => "dispatch id reassigned"
  | typeRenamed => "type name disambiguated"
  | constantRenamed => "enum constant name disambiguated"
  | internal => "internal exporter error"

end Code

end Automation.Diagnostic

import Automation.Diagnostic.Basic
import Automation.Guid.Text
import Automation.Library.Builder
import Automation.Source.SourceUnit

/-!
# Failures of an export

A failure ends the run before anything is written out. What an export survives is a diagnostic.
-/

namespace Automation.Export

open Library Source

/-- Why an export fails. -/
inductive ExportError where
  | load (cause : LoadError)
  /-- The unit lists a type that it does not have. -/
  | missingType (id : TypeId)
  /-- The library has the identifier of a referenced one. -/
  | duplicateLibrary (guid : Guid) (other : String)
  /-- Two types of the library have one identifier. -/
  | duplicateType (guid : Guid) (first second : String)
  /-- The builder rejected a request. -/
  | build (context : String) (cause : BuildError)
  /-- A unit that is needed cannot be exported, with what was said before that. -/
  | dependency (unit : String) (cause : ExportError) (diagnostics : List Diagnostic)
  /-- The exporter broke a rule of its own. -/
  | internal (text : String)
  deriving DecidableEq, Repr

namespace ExportError

/-- The wording of the error. -/
def message : ExportError → String
  | load cause => s!"source unit cannot be loaded: {cause.message}"
  | missingType id => s!"type #{id} is listed by the unit but cannot be read"
  | duplicateLibrary guid other =>
    s!"library guid {guid.text} is also the guid of referenced library `{other}`"
  | duplicateType guid first second =>
    s!"types `{first}` and `{second}` share guid {guid.text}"
  | build context cause => s!"type-library builder rejected {context}: {cause.message}"
  | dependency unit cause _ => s!"dependency `{unit}` cannot be exported: {cause.message}"
  | internal text => s!"internal exporter error: {text}"

/-- The code of the error: that of the innermost one for a unit that is needed. -/
def code : ExportError → Diagnostic.Code
  | load _ => .unitUnloadable
  | missingType _ => .typeAbsent
  | duplicateLibrary _ _ => .libraryRepeated
  | duplicateType _ _ _ => .typeRepeated
  | build _ _ => .requestRejected
  | dependency _ cause _ => cause.code
  | internal _ => .internal

/-- The entity that the error concerns. -/
def subject? : ExportError → Option String
  | build context _ => some context
  | duplicateType _ _ second => some second
  | dependency unit _ _ => some unit
  | load _ | missingType _ | duplicateLibrary _ _ | internal _ => none

/-- The error as a diagnostic. -/
def diagnostic (e : ExportError) : Diagnostic where
  code := e.code
  severity := .error
  message := e.message
  subject := e.subject?

end ExportError

/-- A failed run: the error, and every diagnostic up to it. -/
structure Failure where
  error : ExportError
  diagnostics : List Diagnostic
  deriving DecidableEq, Repr

end Automation.Export

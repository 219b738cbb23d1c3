import Automation.Diagnostic.Code

/-!
# Diagnostics

A diagnostic says what the export did with one entity, and why.
-/

namespace Automation

/-- How much a diagnostic weighs. -/
inductive Diagnostic.Severity where
  | error
  | warning
  | note
  deriving DecidableEq, Repr

/-- The word for a severity. -/
def Diagnostic.Severity.text : Diagnostic.Severity → String
  | error => "error"
  | warning => "warning"
  | note => "note"

/-- A report on one entity. -/
structure Diagnostic where
  code : Diagnostic.Code
  severity : Diagnostic.Severity
  message : String := ""
  /-- The qualified name of the entity. -/
  subject : Option String := none
  /-- Further remarks. -/
  notes : List String := []
  deriving DecidableEq, Repr

namespace Diagnostic

/-- Whether the diagnostic is an error. -/
def isError (d : Diagnostic) : Bool := d.severity == .error

/-- Whether the diagnostic is a warning. -/
def isWarning (d : Diagnostic) : Bool := d.severity == .warning

/-- The diagnostic on one line. -/
def line (d : Diagnostic) : String :=
  let header := s!"{d.severity.text}[{d.code.text}]: {d.message}"
  match d.subject with
  | none => header
  | some subject => s!"{header} ({subject})"

/-- What a diagnostic says of an entity, apart from its weight and its notes. -/
abbrev Key := Code × Option String × String

/-- The key of a diagnostic. Another one with the same key repeats it. -/
def key (d : Diagnostic) : Key := (d.code, d.subject, d.message)

theorem key_eq_iff {d e : Diagnostic} :
    d.key = e.key ↔ d.code = e.code ∧ d.subject = e.subject ∧ d.message = e.message := by
  simp only [key, Prod.mk.injEq]

end Diagnostic

end Automation

import Automation.Diagnostic.Basic

/-!
# Diagnostics on a terminal

The text that shows diagnostics to a person, with or without colours.
-/

namespace Automation.Diagnostic

/-- When a terminal text has colours. -/
inductive ColorMode where
  /-- If the output is a terminal. -/
  | auto
  | always
  | never
  deriving DecidableEq, Repr

/-- Whether a mode gives colours. -/
def ColorMode.enabled (mode : ColorMode) (isTerminal : Bool) : Bool :=
  match mode with
  | auto => isTerminal
  | always => true
  | never => false

/-- The escape sequence for a style, given by its parameters. -/
def style (parameters : String) : String := "\x1b[" ++ parameters ++ "m"

/-- The style of a severity: bold red, yellow or cyan. -/
def Severity.style : Severity → String
  | error => Diagnostic.style "1;31"
  | warning => Diagnostic.style "1;33"
  | note => Diagnostic.style "1;36"

/-- Bold type. -/
def bold : String := style "1"

/-- The style of a subject: bold blue. -/
def subjectStyle : String := style "1;34"

/-- A text in a style. -/
def styled (colors : Bool) (start text : String) : String :=
  if colors then start ++ text ++ style "0" else text

/-- A diagnostic as lines: the header, the subject, and the notes. -/
def render (colors : Bool) (d : Diagnostic) : String :=
  let header := styled colors d.severity.style d.severity.text
    ++ styled colors bold ("[" ++ d.code.text ++ "]") ++ ": " ++ d.message ++ "\n"
  let subject := match d.subject with
    | none => ""
    | some subject => "  --> " ++ styled colors subjectStyle subject ++ "\n"
  let notes := d.notes.map fun note => "   = " ++ styled colors bold "note" ++ ": " ++ note ++ "\n"
  header ++ subject ++ "".intercalate notes

/-- Several diagnostics, one after the other. -/
def renderAll (colors : Bool) (ds : List Diagnostic) : String :=
  "".intercalate (ds.map (render colors))

/-- The plural ending for a count. -/
def plural (count : Nat) : String := if count = 1 then "" else "s"

/-- The closing lines, which count the errors and the warnings. -/
def renderSummary (colors : Bool) (errors warnings : Nat) : String :=
  let failed :=
    if errors = 0 then ""
    else styled colors Severity.error.style "error"
      ++ s!": export failed with {errors} error{plural errors}\n"
  let warned :=
    if warnings = 0 then ""
    else styled colors Severity.warning.style "warning"
      ++ s!": {warnings} warning{plural warnings} emitted\n"
  failed ++ warned

end Automation.Diagnostic

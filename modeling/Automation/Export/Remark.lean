import Automation.Diagnostic.Basic
import Automation.Export.Naming

/-!
# Remarks

What an export says while it decides: the questions for names and the diagnostics, in order.
-/

namespace Automation.Export

/-- A question for a name, or a diagnostic. -/
inductive Remark where
  | asked (question : NameQuestion)
  | raised (diagnostic : Diagnostic)
  deriving DecidableEq, Repr

end Automation.Export

import Automation.Export.Error
import Automation.Export.Remark

/-!
# Scripts

Once every type has its place, what remains of an export is a script: remarks, and requests to the
builder, in order. A script may also end the export.
-/

namespace Automation.Export

open Library

/-- A step of an export. -/
inductive Step where
  | remark (remark : Remark)
  /-- A request to the builder, with what it is about. -/
  | request (context : String) (request : Request .done)
  /-- The end of the export. -/
  | abort (error : ExportError)

namespace Step

/-- The step that raises a diagnostic. -/
def raise (d : Diagnostic) : Step := remark (.raised d)

/-- The step that asks for a name. -/
def ask (q : NameQuestion) : Step := remark (.asked q)

end Step

/-- What a request for an implemented type is about. -/
def implementedContext (type : String) : String := s!"implemented type of `{type}`"

/-- What a request for a function is about. -/
def functionContext (type function : String) : String := s!"function `{type}.{function}`"

/-- What a request for a variable is about. -/
def variableContext (type name : String) : String := s!"variable `{type}.{name}`"

/-- What a request for an import is about. -/
def importContext (library : String) : String := s!"import of `{library}`"

/-- What a request for a layout is about. -/
def layoutContext (type : String) : String := s!"layout of `{type}`"

/-- What a request for a type is about. -/
def typeContext (type : String) : String := s!"type `{type}`"

/-- What a request for attributes is about. -/
def libraryContext (library : String) : String := s!"library `{library}`"

/-- What a commit is about. -/
def commitContext (library : String) : String := s!"commit of `{library}`"

end Automation.Export

import Automation.Library.Basic

/-!
# The standard automation library

The library that others import for the identity and dynamic-invocation contracts, identifiers and
colours. Only the types that an export refers to are listed.
-/

namespace Automation.Library.Standard

/-- The name of the standard library. -/
def name : String := "stdole"

/-- The identifier of the standard library. -/
def guid : Guid :=
  ⟨#v[0x00, 0x02, 0x04, 0x30, 0x00, 0x00, 0x00, 0x00,
      0xC0, 0x00, 0x00, 0x00, 0x00, 0x00, 0x00, 0x46]⟩

/-- The index of the identity contract. -/
def unknownIndex : Nat := 0

/-- The index of the dynamic-invocation contract. -/
def dispatchIndex : Nat := 1

/-- The index of the type of identifiers. -/
def guidIndex : Nat := 2

/-- The index of the type of colours. -/
def colorIndex : Nat := 3

/-- The entry of the standard library in an import table. -/
def library : ImportedLibrary where
  name := name
  guid := guid
  version := { major := 2, minor := 0 }
  locale := 0
  typeNames := ["IUnknown", "IDispatch", "GUID", "OLE_COLOR"]

end Automation.Library.Standard

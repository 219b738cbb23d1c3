/-!
# Marshaling overrides

A declaration may ask for a native form other than the one its type has by default.
-/

namespace Automation.Source

/-- The native form that an override asks for. -/
inductive NativeForm where
  /-- The four-byte platform boolean. -/
  | bool
  /-- The two-byte automation boolean. -/
  | variantBool
  | i1
  | u1
  | i2
  | u2
  | i4
  | u4
  | i8
  | u8
  | r4
  | r8
  /-- The signed integer of the platform's width. -/
  | sysInt
  /-- The unsigned integer of the platform's width. -/
  | sysUInt
  /-- A status code. -/
  | error
  /-- A fixed-point amount of money. -/
  | currency
  /-- An automation string. -/
  | bStr
  /-- A narrow C string. -/
  | lpStr
  /-- A wide C string. -/
  | lpwStr
  /-- A C string of the platform's default width. -/
  | lptStr
  | unknown
  | dispatch
  | interface
  /-- A structure by value. -/
  | struct
  | safeArray
  /-- A flat pointer to the first element. -/
  | lpArray
  /-- An inline array of fixed size: in fields only. -/
  | byValArray
  deriving DecidableEq, Repr

namespace NativeForm

/-- Every form. -/
def all : List NativeForm :=
  [bool, variantBool, i1, u1, i2, u2, i4, u4, i8, u8, r4, r8, sysInt, sysUInt, error, currency,
   bStr, lpStr, lpwStr, lptStr, unknown, dispatch, interface, struct, safeArray, lpArray,
   byValArray]

/-- The spelling in messages. -/
def text : NativeForm → String
  | bool => "Bool"
  | variantBool => "VariantBool"
  | i1 => "I1"
  | u1 => "U1"
  | i2 => "I2"
  | u2 => "U2"
  | i4 => "I4"
  | u4 => "U4"
  | i8 => "I8"
  | u8 => "U8"
  | r4 => "R4"
  | r8 => "R8"
  | sysInt => "SysInt"
  | sysUInt => "SysUInt"
  | error => "Error"
  | currency => "Currency"
  | bStr => "BStr"
  | lpStr => "LPStr"
  | lpwStr => "LPWStr"
  | lptStr => "LPTStr"
  | unknown => "IUnknown"
  | dispatch => "IDispatch"
  | interface => "Interface"
  | struct => "Struct"
  | safeArray => "SafeArray"
  | lpArray => "LPArray"
  | byValArray => "ByValArray"

/-- The form with a spelling. -/
def ofText? (text : String) : Option NativeForm := all.find? fun form => form.text == text

end NativeForm

/-- An explicit marshaling override. -/
structure MarshalOverride where
  form : NativeForm
  /-- The form of the elements of an array. -/
  elementForm : Option NativeForm := none
  /-- The number of elements of an inline array. -/
  count : Option Nat := none
  deriving DecidableEq, Repr

/-- The override for the elements of an array. -/
def MarshalOverride.element (m : MarshalOverride) : Option MarshalOverride :=
  m.elementForm.map fun form => { form := form }

end Automation.Source

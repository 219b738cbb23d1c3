/-!
# Elemental type codes

The codes that type descriptors are built from. Their numbers are those of the automation runtime
and part of the committed format.
-/

namespace Automation.Library

/-- An elemental type. -/
inductive ElementType where
  | empty
  | i2
  | i4
  | r4
  | r8
  | cy
  | date
  | bstr
  | dispatch
  | error
  | bool
  | variant
  | unknown
  | decimal
  | i1
  | ui1
  | ui2
  | ui4
  | i8
  | ui8
  | int
  | uint
  | void
  | hresult
  | ptr
  | safeArray
  | cArray
  | userDefined
  | lpstr
  | lpwstr
  deriving DecidableEq, Repr

namespace ElementType

/-- Every elemental type, by ascending code. -/
def all : List ElementType :=
  [empty, i2, i4, r4, r8, cy, date, bstr, dispatch, error, bool, variant, unknown, decimal, i1,
   ui1, ui2, ui4, i8, ui8, int, uint, void, hresult, ptr, safeArray, cArray, userDefined, lpstr,
   lpwstr]

/-- The number of the code. -/
def code : ElementType → Nat
  | empty => 0
  | i2 => 2
  | i4 => 3
  | r4 => 4
  | r8 => 5
  | cy => 6
  | date => 7
  | bstr => 8
  | dispatch => 9
  | error => 10
  | bool => 11
  | variant => 12
  | unknown => 13
  | decimal => 14
  | i1 => 16
  | ui1 => 17
  | ui2 => 18
  | ui4 => 19
  | i8 => 20
  | ui8 => 21
  | int => 22
  | uint => 23
  | void => 24
  | hresult => 25
  | ptr => 26
  | safeArray => 27
  | cArray => 28
  | userDefined => 29
  | lpstr => 30
  | lpwstr => 31

/-- The elemental type with a code. -/
def ofCode? (code : Nat) : Option ElementType := all.find? fun t => t.code == code

theorem ofCode?_code (t : ElementType) : ofCode? t.code = some t := by
  cases t <;> rfl

/-- The constant that names the code. -/
def symbol : ElementType → String
  | empty => "VT_EMPTY"
  | i2 => "VT_I2"
  | i4 => "VT_I4"
  | r4 => "VT_R4"
  | r8 => "VT_R8"
  | cy => "VT_CY"
  | date => "VT_DATE"
  | bstr => "VT_BSTR"
  | dispatch => "VT_DISPATCH"
  | error => "VT_ERROR"
  | bool => "VT_BOOL"
  | variant => "VT_VARIANT"
  | unknown => "VT_UNKNOWN"
  | decimal => "VT_DECIMAL"
  | i1 => "VT_I1"
  | ui1 => "VT_UI1"
  | ui2 => "VT_UI2"
  | ui4 => "VT_UI4"
  | i8 => "VT_I8"
  | ui8 => "VT_UI8"
  | int => "VT_INT"
  | uint => "VT_UINT"
  | void => "VT_VOID"
  | hresult => "VT_HRESULT"
  | ptr => "VT_PTR"
  | safeArray => "VT_SAFEARRAY"
  | cArray => "VT_CARRAY"
  | userDefined => "VT_USERDEFINED"
  | lpstr => "VT_LPSTR"
  | lpwstr => "VT_LPWSTR"

/-- The spelling in an interface definition. -/
def text : ElementType → String
  | empty => "empty"
  | i2 => "short"
  | i4 => "long"
  | r4 => "single"
  | r8 => "double"
  | cy => "CURRENCY"
  | date => "DATE"
  | bstr => "BSTR"
  | dispatch => "IDispatch*"
  | error => "SCODE"
  | bool => "VARIANT_BOOL"
  | variant => "VARIANT"
  | unknown => "IUnknown*"
  | decimal => "DECIMAL"
  | i1 => "char"
  | ui1 => "unsigned char"
  | ui2 => "unsigned short"
  | ui4 => "unsigned long"
  | i8 => "int64"
  | ui8 => "uint64"
  | int => "int"
  | uint => "unsigned int"
  | void => "void"
  | hresult => "HRESULT"
  | ptr => "*"
  | safeArray => "SAFEARRAY"
  | cArray => "[]"
  | userDefined => "user-defined"
  | lpstr => "LPSTR"
  | lpwstr => "LPWSTR"

/-- Whether a descriptor with the code wraps another or refers to a type. -/
def isComposite : ElementType → Bool
  | ptr | safeArray | cArray | userDefined => true
  | _ => false

/-- Whether values are integers. -/
def isInteger : ElementType → Bool
  | i1 | ui1 | i2 | ui2 | i4 | ui4 | i8 | ui8 | int | uint => true
  | _ => false

/-- Whether values are interface pointers. -/
def isObject : ElementType → Bool
  | unknown | dispatch => true
  | _ => false

/-- Whether the code can be that of the elements of a safe array. -/
def isSafeArrayElement : ElementType → Bool
  | empty | void | hresult | ptr | safeArray | cArray | lpstr | lpwstr => false
  | _ => true

end ElementType

end Automation.Library

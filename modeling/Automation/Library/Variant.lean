import Automation.Bytes
import Automation.Library.ElementType
import Automation.Text.Utf16

/-!
# Variant values and their blobs

An enum constant or a parameter default is a variant. Its blob is a little-endian code of two
bytes and the payload: text is a unit count of four bytes and its UTF-16 units.
-/

namespace Automation.Library

/-- A constant value. Floats are kept as bit patterns. -/
inductive Variant where
  /-- The explicit null. -/
  | empty
  | bool (value : Bool)
  | i1 (value : Int8)
  | ui1 (value : UInt8)
  | i2 (value : Int16)
  | ui2 (value : UInt16)
  | i4 (value : Int32)
  | ui4 (value : UInt32)
  | i8 (value : Int64)
  | ui8 (value : UInt64)
  | r4 (bits : UInt32)
  | r8 (bits : UInt64)
  | bstr (value : String)
  deriving DecidableEq

/-- An encoded value. -/
abbrev Blob := List UInt8

namespace Variant

/-- The elemental type of a value. -/
def elementType : Variant → ElementType
  | empty => .empty
  | bool _ => .bool
  | i1 _ => .i1
  | ui1 _ => .ui1
  | i2 _ => .i2
  | ui2 _ => .ui2
  | i4 _ => .i4
  | ui4 _ => .ui4
  | i8 _ => .i8
  | ui8 _ => .ui8
  | r4 _ => .r4
  | r8 _ => .r8
  | bstr _ => .bstr

/-- The bytes that follow the code. -/
def payload : Variant → Blob
  | empty => []
  | bool value => Bytes.little 2 (if value then 0xFFFF else 0)
  | i1 value => Bytes.little 1 value.toUInt8.toNat
  | ui1 value => Bytes.little 1 value.toNat
  | i2 value => Bytes.little 2 value.toUInt16.toNat
  | ui2 value => Bytes.little 2 value.toNat
  | i4 value => Bytes.little 4 value.toUInt32.toNat
  | ui4 value => Bytes.little 4 value.toNat
  | i8 value => Bytes.little 8 value.toUInt64.toNat
  | ui8 value => Bytes.little 8 value.toNat
  | r4 bits => Bytes.little 4 bits.toNat
  | r8 bits => Bytes.little 8 bits.toNat
  | bstr value =>
    let units := Text.units value
    Bytes.little 4 units.length ++ units.flatMap (Bytes.little 2)

/-- The blob of a value. -/
def encode (value : Variant) : Blob := Bytes.little 2 value.elementType.code ++ value.payload

/-- The number in the first bytes of a blob, and the bytes after them. -/
def takeNumber? (width : Nat) (blob : Blob) : Option (Nat × Blob) :=
  if blob.length < width then none
  else some (Bytes.ofLittle (blob.take width), blob.drop width)

/-- The first two-byte units of a blob, and the bytes after them. -/
def takeUnits? : (count : Nat) → Blob → Option (List Nat × Blob)
  | 0, blob => some ([], blob)
  | count + 1, blob => do
    let (unit, blob) ← takeNumber? 2 blob
    let (units, blob) ← takeUnits? count blob
    return (unit :: units, blob)

/-- The value of the given elemental type at the start of a payload, and the bytes after it. -/
def takePayload? (type : ElementType) (blob : Blob) : Option (Variant × Blob) :=
  match type with
  | .empty => some (empty, blob)
  | .bool => (takeNumber? 2 blob).map fun (n, rest) => (bool (n != 0), rest)
  | .i1 => (takeNumber? 1 blob).map fun (n, rest) => (i1 (UInt8.ofNat n).toInt8, rest)
  | .ui1 => (takeNumber? 1 blob).map fun (n, rest) => (ui1 (UInt8.ofNat n), rest)
  | .i2 => (takeNumber? 2 blob).map fun (n, rest) => (i2 (UInt16.ofNat n).toInt16, rest)
  | .ui2 => (takeNumber? 2 blob).map fun (n, rest) => (ui2 (UInt16.ofNat n), rest)
  | .i4 => (takeNumber? 4 blob).map fun (n, rest) => (i4 (UInt32.ofNat n).toInt32, rest)
  | .ui4 => (takeNumber? 4 blob).map fun (n, rest) => (ui4 (UInt32.ofNat n), rest)
  | .i8 => (takeNumber? 8 blob).map fun (n, rest) => (i8 (UInt64.ofNat n).toInt64, rest)
  | .ui8 => (takeNumber? 8 blob).map fun (n, rest) => (ui8 (UInt64.ofNat n), rest)
  | .r4 => (takeNumber? 4 blob).map fun (n, rest) => (r4 (UInt32.ofNat n), rest)
  | .r8 => (takeNumber? 8 blob).map fun (n, rest) => (r8 (UInt64.ofNat n), rest)
  | .bstr => do
    let (count, blob) ← takeNumber? 4 blob
    let (units, blob) ← takeUnits? count blob
    let value ← Text.ofUnits? units
    return (bstr value, blob)
  | _ => none

/-- The value of a blob: none if a byte is missing or left over. -/
def decode? (blob : Blob) : Option Variant := do
  let (code, rest) ← takeNumber? 2 blob
  let type ← ElementType.ofCode? code
  let (value, rest) ← takePayload? type rest
  if rest.isEmpty then return value else none

end Variant

end Automation.Library

/-!
# Hexadecimal digits

Digits and their values, one byte as two digits, and a byte read from two characters.
-/

namespace Automation.Text

/-- The upper-case digit of a value below sixteen. -/
def hexDigit (value : Nat) : Char :=
  if value < 10 then Char.ofNat ('0'.toNat + value) else Char.ofNat ('A'.toNat + (value - 10))

/-- The value of a hexadecimal digit in either case. -/
def hexValue? (c : Char) : Option Nat :=
  if '0' ≤ c ∧ c ≤ '9' then some (c.toNat - '0'.toNat)
  else if 'A' ≤ c ∧ c ≤ 'F' then some (c.toNat - 'A'.toNat + 10)
  else if 'a' ≤ c ∧ c ≤ 'f' then some (c.toNat - 'a'.toNat + 10)
  else none

/-- A byte as two upper-case digits. -/
def hexByte (byte : UInt8) : List Char :=
  [hexDigit (byte.toNat / 16), hexDigit (byte.toNat % 16)]

/-- The byte that two characters stand for: two digits, or a plus sign and one digit. -/
def byteOfHex? (high low : Char) : Option UInt8 := do
  let units ← hexValue? low
  if high = '+' then return UInt8.ofNat units
  let sixteens ← hexValue? high
  return UInt8.ofNat (16 * sixteens + units)

/-- The bytes that a sequence of character pairs stands for. -/
def bytesOfHex? : List Char → Option (List UInt8)
  | [] => some []
  | high :: low :: rest => do
    let byte ← byteOfHex? high low
    let bytes ← bytesOfHex? rest
    return byte :: bytes
  | [_] => none

end Automation.Text

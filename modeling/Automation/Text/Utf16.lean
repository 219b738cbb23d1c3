/-!
# UTF-16

A text as 16-bit units, and back. A character beyond the basic plane is two units, a high and a
low surrogate.
-/

namespace Automation.Text

/-- The units of a character. -/
def charUnits (c : Char) : List Nat :=
  if c.toNat < 0x10000 then [c.toNat]
  else [0xD800 + (c.toNat - 0x10000) / 0x400, 0xDC00 + (c.toNat - 0x10000) % 0x400]

/-- The units of a text. -/
def units (s : String) : List Nat := s.toList.flatMap charUnits

/-- Whether a unit is the first half of a pair. -/
def isHighSurrogate (unit : Nat) : Bool := decide (0xD800 ≤ unit) && decide (unit < 0xDC00)

/-- Whether a unit is the second half of a pair. -/
def isLowSurrogate (unit : Nat) : Bool := decide (0xDC00 ≤ unit) && decide (unit < 0xE000)

/-- The characters that a sequence of units stands for: none if a surrogate stands alone. -/
def charsOfUnits? : List Nat → Option (List Char)
  | [] => some []
  | [unit] => if isHighSurrogate unit || isLowSurrogate unit then none else some [Char.ofNat unit]
  | unit :: next :: rest =>
    if isHighSurrogate unit then
      if isLowSurrogate next then
        (charsOfUnits? rest).map
          (Char.ofNat (0x10000 + (unit - 0xD800) * 0x400 + (next - 0xDC00)) :: ·)
      else none
    else if isLowSurrogate unit then none
    else (charsOfUnits? (next :: rest)).map (Char.ofNat unit :: ·)

/-- The text that a sequence of units stands for. -/
def ofUnits? (units : List Nat) : Option String := (charsOfUnits? units).map String.ofList

end Automation.Text

import Automation.Guid.Basic
import Automation.Text.Hex

/-!
# Identifiers as text

The written form has five groups of upper-case digits, of 8, 4, 4, 4 and 12, joined by hyphens.
Reading also takes lower-case digits and one pair of braces around the whole.
-/

namespace Automation.Guid

/-- How many digits each group has. -/
def groupLengths : List Nat := [8, 4, 4, 4, 12]

/-- The groups of a digit sequence, for the given lengths. -/
def cut : (lengths : List Nat) → List Char → List (List Char)
  | [], _ => []
  | n :: lengths, digits => digits.take n :: cut lengths (digits.drop n)

/-- The pieces of a text between hyphens. -/
def pieces : List Char → List (List Char)
  | [] => [[]]
  | c :: rest =>
    match pieces rest with
    | [] => [[c]]
    | piece :: later => if c = '-' then [] :: piece :: later else (c :: piece) :: later

/-- The digits of the identifier, without hyphens. -/
def digits (g : Guid) : List Char := g.bytes.toList.flatMap Text.hexByte

/-- The written form. -/
def text (g : Guid) : String :=
  String.ofList (['-'].intercalate (cut groupLengths g.digits))

/-- The written form in braces. -/
def bracedText (g : Guid) : String := "\x7b" ++ g.text ++ "\x7d"

/-- A text without its braces, if it has both. -/
def unbraced (s : List Char) : List Char :=
  match s with
  | '{' :: rest => if rest.getLast? = some '}' then rest.dropLast else s
  | _ => s

/-- The identifier that a text stands for. -/
def parse? (s : String) : Option Guid :=
  let groups := pieces (unbraced s.toList)
  if groups.map List.length = groupLengths then
    (Text.bytesOfHex? groups.flatten).map ofBytes
  else none

/-- What is said of a text that is no identifier. -/
def malformedMessage (s : String) : String := s!"malformed guid `{s}`"

end Automation.Guid

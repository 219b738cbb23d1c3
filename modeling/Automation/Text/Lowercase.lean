import Automation.Text.Lowercase.Table
import Automation.Text.Lowercase.Context

/-!
# Lower case

`lowercase` maps a text to lower case by the full, locale-free rules: one character at a time, with
two exceptions. `U+0130` becomes an `i` and a combining dot, and a capital sigma becomes the final
form at the end of a word. `nameKey` is the form under which a library compares names.
-/

namespace Automation.Text

/-- The lower-case form of a character on its own, when that is a single character. -/
def lowercaseChar (c : Char) : Char :=
  let offset := lowercaseOffset c.toNat
  if offset = 0 then c else Char.ofNat (c.toNat + offset).toNat

/-- Whether the first character that casing does not look through has a case. -/
def meetsCased (text : List Char) : Bool :=
  match text.dropWhile isCaseIgnorable with
  | [] => false
  | c :: _ => isCased c

/-- Lower case of `rest`, where `before` is the text already passed, last character first. -/
def lowercaseAfter (before : List Char) : List Char → List Char
  | [] => []
  | c :: rest =>
    let lower :=
      if c = 'Σ' then [if meetsCased before && !meetsCased rest then 'ς' else 'σ']
      else if c = 'İ' then ['i', '\u0307']
      else [lowercaseChar c]
    lower ++ lowercaseAfter (c :: before) rest

/-- The lower-case form of a text. -/
def lowercase (text : String) : String :=
  String.ofList (lowercaseAfter [] text.toList)

/-- The form under which names are compared: library names are blind to case. -/
def nameKey (name : String) : String := lowercase name

end Automation.Text

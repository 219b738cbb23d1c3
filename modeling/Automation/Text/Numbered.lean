/-!
# Numbered names

A name and the forms that set it apart from others: the name itself, then with `_2`, `_3` and so on.
-/

namespace Automation.Text

/-- The `n`-th form of a name, from one on. -/
def numbered (name : String) (n : Nat) : String :=
  if n ≤ 1 then name else name ++ "_" ++ toString n

end Automation.Text

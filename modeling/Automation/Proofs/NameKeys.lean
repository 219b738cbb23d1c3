import Automation.Text.Lowercase
import Automation.Text.Numbered
import Mathlib

/-!
# Numbered names are different names

Names are compared in lower case, which depends on what stands around a letter. A number keeps its
form and starts with what ends a word, so the numbered forms of a name have the key of the name and
then the number: `toList_nameKey_numbered`. They are told apart by their keys
(`nameKey_numbered_inj`), and names with one key have the same numbered forms.
-/

namespace Automation.Text

/-- The characters keep their form in lower case. -/
def IsLower (text : List Char) : Prop :=
  ∀ c ∈ text, c ≠ 'Σ' ∧ c ≠ 'İ' ∧ lowercaseChar c = c

/-- A word before the text ends there: its first character has no case, and casing does not look
through it. -/
def EndsWord (text : List Char) : Prop :=
  ∀ c ∈ text.head?, isCaseIgnorable c = false ∧ isCased c = false

theorem lowercaseAfter_of_isLower (before : List Char) {text : List Char} (h : IsLower text) :
    lowercaseAfter before text = text := by
  induction text generalizing before with
  | nil => rfl
  | cons c rest ih =>
    obtain ⟨⟨hsigma, hdotted, hlower⟩, hrest⟩ := List.forall_mem_cons.mp h
    unfold lowercaseAfter
    rw [if_neg hsigma, if_neg hdotted, ih _ hrest, hlower]
    rfl

theorem meetsCased_cons (c : Char) (rest : List Char) :
    meetsCased (c :: rest) = if isCaseIgnorable c then meetsCased rest else isCased c := by
  unfold meetsCased
  rw [List.dropWhile_cons]
  cases isCaseIgnorable c <;> rfl

theorem meetsCased_append (text : List Char) {rest : List Char} (h : EndsWord rest) :
    meetsCased (text ++ rest) = meetsCased text := by
  induction text with
  | nil =>
    cases rest with
    | nil => rfl
    | cons c later =>
      obtain ⟨hignorable, hcased⟩ := h c rfl
      rw [List.nil_append, meetsCased_cons, hignorable, hcased]
      rfl
  | cons c text ih => rw [List.cons_append, meetsCased_cons, meetsCased_cons, ih]

/-- What ends a word and is in lower case adds itself to the lower-case form. -/
theorem lowercaseAfter_append (before text : List Char) {rest : List Char} (h : IsLower rest)
    (hend : EndsWord rest) :
    lowercaseAfter before (text ++ rest) = lowercaseAfter before text ++ rest := by
  induction text generalizing before with
  | nil => exact lowercaseAfter_of_isLower before h
  | cons c text ih =>
    rw [List.cons_append, lowercaseAfter, lowercaseAfter, ih, meetsCased_append text hend,
      List.append_assoc]

/-! ## Numbers -/

/-- What sets the numbered forms of a name apart. -/
def suffix (n : Nat) : List Char := if n ≤ 1 then [] else '_' :: Nat.toDigits 10 n

theorem toList_numbered (name : String) (n : Nat) :
    (numbered name n).toList = name.toList ++ suffix n := by
  unfold numbered suffix
  split
  · rw [List.append_nil]
  · simp

theorem isLower_of_isDigit {c : Char} (h : c.isDigit = true) :
    c ≠ 'Σ' ∧ c ≠ 'İ' ∧ lowercaseChar c = c := by
  refine ⟨by rintro rfl; exact absurd h (by decide), by rintro rfl; exact absurd h (by decide), ?_⟩
  obtain ⟨hlow, hhigh⟩ : 48 ≤ c.toNat ∧ c.toNat ≤ 57 := Char.isDigit_iff_toNat.mp h
  have hoffset : ∀ k < 10, lowercaseOffset (48 + k) = 0 := by decide
  unfold lowercaseChar
  rw [show c.toNat = 48 + (c.toNat - 48) by omega, hoffset _ (by omega)]
  rfl

theorem isLower_suffix (n : Nat) : IsLower (suffix n) := by
  unfold suffix
  split
  · exact fun c hc => nomatch hc
  · refine List.forall_mem_cons.mpr ⟨by decide, fun c hc => ?_⟩
    exact isLower_of_isDigit (Nat.isDigit_of_mem_toDigits (by decide) (by decide) hc)

theorem suffix_inj {m n : Nat} (hm : 1 ≤ m) (hn : 1 ≤ n) (h : suffix m = suffix n) : m = n := by
  unfold suffix at h
  split at h <;> split at h
  · omega
  · exact (List.cons_ne_nil _ _ h.symm).elim
  · exact (List.cons_ne_nil _ _ h).elim
  · have hdigits := congrArg (fun digits => Nat.ofDigitChars 10 digits 0) (List.cons.inj h).2
    simpa using hdigits

theorem endsWord_suffix (n : Nat) : EndsWord (suffix n) := by
  unfold suffix
  split
  · exact fun c hc => nomatch hc
  · intro c hc
    obtain rfl : '_' = c := Option.some.inj hc
    decide +kernel

theorem toList_nameKey_numbered (name : String) (n : Nat) :
    (nameKey (numbered name n)).toList = (nameKey name).toList ++ suffix n := by
  unfold nameKey lowercase
  rw [toList_numbered, lowercaseAfter_append _ _ (isLower_suffix n) (endsWord_suffix n),
    String.toList_ofList, String.toList_ofList]

/-- **The numbered forms of a name are different names**, whatever the case. -/
theorem nameKey_numbered_inj (name : String) {m n : Nat} (hm : 1 ≤ m) (hn : 1 ≤ n)
    (h : nameKey (numbered name m) = nameKey (numbered name n)) : m = n := by
  have hkeys : (nameKey name).toList ++ suffix m = (nameKey name).toList ++ suffix n := by
    rw [← toList_nameKey_numbered, ← toList_nameKey_numbered, h]
  exact suffix_inj hm hn (List.append_cancel_left hkeys)

/-- Names that differ in case only have numbered forms that differ in case only. -/
theorem nameKey_numbered_congr {name name' : String} (h : nameKey name = nameKey name') (n : Nat) :
    nameKey (numbered name n) = nameKey (numbered name' n) := by
  refine String.toList_inj.mp ?_
  rw [toList_nameKey_numbered, toList_nameKey_numbered, h]

end Automation.Text

import Automation.Text.Utf16

/-!
# Texts are read back from their units

No character is a surrogate, so a unit that stands for a character of the basic plane is never taken for
half of a pair, and the two halves of a pair make up the one character that they came from. The units of
a character can thus be read off before any other units (`charsOfUnits?_charUnits_append`), and a text is
read back from its units: `ofUnits?_units`.
-/

namespace Automation.Text

/-- No character is a surrogate. -/
theorem toNat_lt_or_lt (c : Char) : c.toNat < 0xD800 ∨ 0xDFFF < c.toNat ∧ c.toNat < 0x110000 :=
  c.valid

theorem isHighSurrogate_eq_false {unit : Nat} (h : unit < 0xD800 ∨ 0xDFFF < unit) :
    isHighSurrogate unit = false := by
  simp only [isHighSurrogate, Bool.and_eq_false_iff, decide_eq_false_iff_not]
  omega

theorem isLowSurrogate_eq_false {unit : Nat} (h : unit < 0xD800 ∨ 0xDFFF < unit) :
    isLowSurrogate unit = false := by
  simp only [isLowSurrogate, Bool.and_eq_false_iff, decide_eq_false_iff_not]
  omega

/-- A unit that is no surrogate is a character of its own. -/
theorem charsOfUnits?_cons {unit : Nat} (h : unit < 0xD800 ∨ 0xDFFF < unit) (rest : List Nat) :
    charsOfUnits? (unit :: rest) = (charsOfUnits? rest).map (Char.ofNat unit :: ·) := by
  have hhigh := isHighSurrogate_eq_false h
  have hlow := isLowSurrogate_eq_false h
  cases rest <;> simp [charsOfUnits?, hhigh, hlow]

/-- A pair of surrogates is one character. -/
theorem charsOfUnits?_pair {high low : Nat} (hhigh : high < 0x400) (hlow : low < 0x400)
    (rest : List Nat) : charsOfUnits? ((0xD800 + high) :: (0xDC00 + low) :: rest) =
      (charsOfUnits? rest).map (Char.ofNat (0x10000 + high * 0x400 + low) :: ·) := by
  have hfirst : isHighSurrogate (0xD800 + high) = true := by
    simp only [isHighSurrogate, Bool.and_eq_true, decide_eq_true_eq]
    omega
  have hsecond : isLowSurrogate (0xDC00 + low) = true := by
    simp only [isLowSurrogate, Bool.and_eq_true, decide_eq_true_eq]
    omega
  simp [charsOfUnits?, hfirst, hsecond]

/-- **The units of a character are read first**, whatever units come after them. -/
theorem charsOfUnits?_charUnits_append (c : Char) (rest : List Nat) :
    charsOfUnits? (charUnits c ++ rest) = (charsOfUnits? rest).map (c :: ·) := by
  have hvalid := toNat_lt_or_lt c
  unfold charUnits
  split
  · rw [List.singleton_append, charsOfUnits?_cons (hvalid.imp_right And.left), Char.ofNat_toNat]
  · -- The offset beyond the basic plane has twenty bits, ten for each half.
    have hhigh : (c.toNat - 0x10000) / 0x400 < 0x400 := by omega
    have hlow : (c.toNat - 0x10000) % 0x400 < 0x400 := by omega
    have hwhole : 0x10000 + (c.toNat - 0x10000) / 0x400 * 0x400 + (c.toNat - 0x10000) % 0x400 =
        c.toNat := by omega
    rw [List.cons_append, List.singleton_append, charsOfUnits?_pair hhigh hlow, hwhole,
      Char.ofNat_toNat]

theorem charsOfUnits?_flatMap (text : List Char) :
    charsOfUnits? (text.flatMap charUnits) = some text := by
  induction text with
  | nil => rfl
  | cons c rest ih => rw [List.flatMap_cons, charsOfUnits?_charUnits_append, ih, Option.map_some]

/-- **A text is read back from its units.** -/
theorem ofUnits?_units (s : String) : ofUnits? (units s) = some s := by
  rw [ofUnits?, units, charsOfUnits?_flatMap, Option.map_some, String.ofList_toList]

/-- Different texts have different units. -/
theorem units_inj {s t : String} (h : units s = units t) : s = t :=
  Option.some.inj (by rw [← ofUnits?_units s, h, ofUnits?_units])

/-- A unit has two bytes. -/
theorem lt_of_mem_units {s : String} {unit : Nat} (h : unit ∈ units s) : unit < 0x10000 := by
  obtain ⟨c, -, h⟩ := List.mem_flatMap.mp h
  have hvalid := toNat_lt_or_lt c
  unfold charUnits at h
  split at h
  · rw [List.mem_singleton] at h
    omega
  · simp only [List.mem_cons, List.not_mem_nil, or_false] at h
    omega

end Automation.Text

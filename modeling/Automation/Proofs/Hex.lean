import Automation.Bytes
import Automation.Text.Hex
import Mathlib.Data.List.Forall2
import Mathlib.Data.List.Induction

/-!
# Hexadecimal digits

What is written byte by byte is read back (`bytesOfHex?_flatMap_hexByte`), and reading is blind to case
(`bytesOfHex?_congr`). It succeeds on pairs of digits, but also on pairs with a plus sign in the first
place: `isSome_bytesOfHex?_iff`.
-/

namespace Automation.Text

/-! ## Digits -/

/-- The characters that stand for hexadecimal digits. -/
def IsHexDigit (c : Char) : Prop :=
  '0' ≤ c ∧ c ≤ '9' ∨ 'A' ≤ c ∧ c ≤ 'F' ∨ 'a' ≤ c ∧ c ≤ 'f'

instance (c : Char) : Decidable (IsHexDigit c) :=
  inferInstanceAs (Decidable (_ ∧ _ ∨ _ ∧ _ ∨ _ ∧ _))

theorem isSome_hexValue?_iff {c : Char} : (hexValue? c).isSome ↔ IsHexDigit c := by
  unfold hexValue? IsHexDigit
  split_ifs <;> simp [*]

theorem hexValue?_hexDigit : ∀ value < 16, hexValue? (hexDigit value) = some value := by decide

theorem hexDigit_ne_plus : ∀ value < 16, hexDigit value ≠ '+' := by decide

theorem isHexDigit_hexDigit {value : Nat} (h : value < 16) : IsHexDigit (hexDigit value) := by
  rw [← isSome_hexValue?_iff, hexValue?_hexDigit value h]
  rfl

/-! ## Case -/

/-- The second character is the first one, or its lower-case form. -/
def Lowers (c d : Char) : Prop := d = c ∨ d = c.toLower

instance : DecidableRel Lowers := fun _ _ => inferInstanceAs (Decidable (_ ∨ _))

/-- Only upper-case letters have another lower-case form. -/
theorem toLower_cases (c : Char) : c.toLower = c ∨ ∃ k < 26, c = Char.ofNat (65 + k) := by
  unfold Char.toLower
  split
  · next h =>
    obtain ⟨hlow, hhigh⟩ : 65 ≤ c.toNat ∧ c.toNat ≤ 90 := h
    refine .inr ⟨c.toNat - 65, by omega, ?_⟩
    rw [show 65 + (c.toNat - 65) = c.toNat by omega, Char.ofNat_toNat]
  · exact .inl rfl

theorem Lowers.hexValue? {c d : Char} (h : Lowers c d) : hexValue? d = hexValue? c := by
  have hletters : ∀ k < 26,
      Text.hexValue? (Char.ofNat (65 + k)).toLower = Text.hexValue? (Char.ofNat (65 + k)) := by decide
  rcases h with rfl | rfl
  · rfl
  · rcases toLower_cases c with hsame | ⟨k, hk, rfl⟩
    · rw [hsame]
    · exact hletters k hk

/-- Signs have one form only. -/
theorem Lowers.eq_iff {c d sign : Char} (h : Lowers c d) (hsign : sign ∈ ['+', '-', '{', '}']) :
    d = sign ↔ c = sign := by
  have hletters : ∀ k < 26, (Char.ofNat (65 + k)).toLower ∉ ['+', '-', '{', '}'] ∧
      Char.ofNat (65 + k) ∉ ['+', '-', '{', '}'] := by decide +kernel
  rcases h with rfl | rfl
  · rfl
  · rcases toLower_cases c with hsame | ⟨k, hk, rfl⟩
    · rw [hsame]
    · obtain ⟨hlower, hupper⟩ := hletters k hk
      exact iff_of_false (fun h => hlower (h ▸ hsign)) (fun h => hupper (h ▸ hsign))

theorem byteOfHex?_congr {high low high' low' : Char} (hhigh : Lowers high high')
    (hlow : Lowers low low') : byteOfHex? high' low' = byteOfHex? high low := by
  have hplus : high' = '+' ↔ high = '+' := hhigh.eq_iff (by decide)
  unfold byteOfHex?
  rw [hhigh.hexValue?, hlow.hexValue?]
  simp only [hplus]

/-- Reading bytes is blind to case. -/
theorem bytesOfHex?_congr {digits digits' : List Char} (h : List.Forall₂ Lowers digits digits') :
    bytesOfHex? digits' = bytesOfHex? digits := by
  induction digits using bytesOfHex?.induct generalizing digits' with
  | case1 =>
    obtain rfl := List.forall₂_nil_left_iff.mp h
    rfl
  | case2 high low rest ih =>
    obtain ⟨high', later, hhigh, hlater, rfl⟩ := List.forall₂_cons_left_iff.mp h
    obtain ⟨low', rest', hlow, hrest, rfl⟩ := List.forall₂_cons_left_iff.mp hlater
    rw [bytesOfHex?, bytesOfHex?, byteOfHex?_congr hhigh hlow, ih hrest]
  | case3 c =>
    obtain ⟨d, rest, -, hrest, rfl⟩ := List.forall₂_cons_left_iff.mp h
    obtain rfl := List.forall₂_nil_left_iff.mp hrest
    rfl

/-! ## Bytes -/

theorem byteOfHex?_hexByte (byte : UInt8) :
    byteOfHex? (hexDigit (byte.toNat / 16)) (hexDigit (byte.toNat % 16)) = some byte := by
  have hbyte := byte.toNat_lt
  have hhigh : byte.toNat / 16 < 16 := by omega
  have hlow : byte.toNat % 16 < 16 := by omega
  unfold byteOfHex?
  rw [hexValue?_hexDigit _ hhigh, hexValue?_hexDigit _ hlow]
  simp only [Option.bind_eq_bind, Option.bind_some, if_neg (hexDigit_ne_plus _ hhigh),
    Nat.div_add_mod]
  exact congrArg some UInt8.ofNat_toNat

/-- **Bytes are read back from their digits.** -/
theorem bytesOfHex?_flatMap_hexByte (bytes : List UInt8) :
    bytesOfHex? (bytes.flatMap hexByte) = some bytes := by
  induction bytes with
  | nil => rfl
  | cons byte rest ih =>
    change bytesOfHex? (hexDigit _ :: hexDigit _ :: rest.flatMap hexByte) = _
    rw [bytesOfHex?, byteOfHex?_hexByte, ih]
    rfl

/-- Pairs of characters, each a digit after a digit or after a plus sign. -/
inductive Paired : List Char → Prop where
  | nil : Paired []
  | pair {high low : Char} {rest : List Char} (hhigh : IsHexDigit high ∨ high = '+')
    (hlow : IsHexDigit low) (hrest : Paired rest) : Paired (high :: low :: rest)

theorem Paired.mem {digits : List Char} (h : Paired digits) {c : Char} (hc : c ∈ digits) :
    IsHexDigit c ∨ c = '+' := by
  induction h with
  | nil => exact (List.not_mem_nil hc).elim
  | pair hhigh hlow _ ih =>
    rcases List.mem_cons.mp hc with rfl | hc
    · exact hhigh
    rcases List.mem_cons.mp hc with rfl | hc
    · exact .inl hlow
    · exact ih hc

theorem paired_cons_cons {high low : Char} {rest : List Char} :
    Paired (high :: low :: rest) ↔ ((IsHexDigit high ∨ high = '+') ∧ IsHexDigit low) ∧ Paired rest :=
  ⟨fun | .pair hhigh hlow hrest => ⟨⟨hhigh, hlow⟩, hrest⟩,
    fun ⟨⟨hhigh, hlow⟩, hrest⟩ => .pair hhigh hlow hrest⟩

theorem paired_append {first second : List Char} (h : 2 ∣ first.length) :
    Paired (first ++ second) ↔ Paired first ∧ Paired second := by
  induction first using bytesOfHex?.induct with
  | case1 => exact (and_iff_right .nil).symm
  | case2 high low rest ih =>
    have hrest : 2 ∣ rest.length := by
      simp only [List.length_cons] at h
      omega
    rw [List.cons_append, List.cons_append, paired_cons_cons, paired_cons_cons, ih hrest]
    exact and_assoc.symm
  | case3 c => exact absurd h (by simp)

theorem paired_of_isHexDigit {digits : List Char} (h : 2 ∣ digits.length)
    (hdigits : ∀ c ∈ digits, IsHexDigit c) : Paired digits := by
  induction digits using bytesOfHex?.induct with
  | case1 => exact .nil
  | case2 high low rest ih =>
    simp only [List.length_cons, List.forall_mem_cons] at h hdigits
    exact .pair (.inl hdigits.1) hdigits.2.1 (ih (by omega) hdigits.2.2)
  | case3 c => exact absurd h (by simp)

/-- Digits are pairs without plus signs. -/
theorem isHexDigit_iff_paired {digits : List Char} (h : 2 ∣ digits.length) :
    (∀ c ∈ digits, IsHexDigit c) ↔ Paired digits ∧ '+' ∉ digits := by
  refine ⟨fun hdigits => ⟨paired_of_isHexDigit h hdigits, fun hplus => ?_⟩,
    fun ⟨hpaired, hplus⟩ c hc => ?_⟩
  · exact absurd (hdigits _ hplus) (by decide)
  · exact (hpaired.mem hc).resolve_right fun hsame => hplus (hsame ▸ hc)

theorem isSome_byteOfHex?_iff {high low : Char} :
    (byteOfHex? high low).isSome ↔ (IsHexDigit high ∨ high = '+') ∧ IsHexDigit low := by
  rw [← isSome_hexValue?_iff, ← isSome_hexValue?_iff]
  unfold byteOfHex?
  cases hexValue? low with
  | none => simp
  | some units =>
    by_cases hplus : high = '+'
    · simp [hplus]
    · cases hexValue? high <;> simp [hplus]

/-- **Bytes are read from pairs of digits**, in which a plus sign may stand for the first digit. -/
theorem isSome_bytesOfHex?_iff {digits : List Char} :
    (bytesOfHex? digits).isSome ↔ Paired digits := by
  induction digits using bytesOfHex?.induct with
  | case1 => exact iff_of_true rfl .nil
  | case2 high low rest ih =>
    have hread : (bytesOfHex? (high :: low :: rest)).isSome ↔
        (byteOfHex? high low).isSome ∧ (bytesOfHex? rest).isSome := by
      rw [bytesOfHex?]
      cases byteOfHex? high low <;> cases bytesOfHex? rest <;> simp
    rw [hread, isSome_byteOfHex?_iff, ih, paired_cons_cons]
  | case3 c => exact iff_of_false Bool.false_ne_true fun h => nomatch h

/-! ## Numbers -/

/-- The upper-case digits of a number, with zeros before them up to a width. -/
def paddedHex (width n : Nat) : List Char :=
  ((Nat.toDigits 16 n).map Char.toUpper).leftpad width '0'

theorem toUpper_digitChar : ∀ value < 16, (Nat.digitChar value).toUpper = hexDigit value := by decide

theorem paddedHex_of_lt (width : Nat) {n : Nat} (h : n < 16) :
    paddedHex (width + 1) n = List.replicate width '0' ++ [hexDigit n] := by
  rw [paddedHex, Nat.toDigits_of_lt_base h, List.map_singleton, toUpper_digitChar n h]
  rfl

theorem paddedHex_succ {width : Nat} (hwidth : 0 < width) (n : Nat) :
    paddedHex (width + 1) n = paddedHex width (n / 16) ++ [hexDigit (n % 16)] := by
  rcases Nat.lt_or_ge n 16 with h | h
  · obtain ⟨width, rfl⟩ := Nat.exists_eq_succ_of_ne_zero (Nat.ne_of_gt hwidth)
    rw [paddedHex_of_lt _ h, Nat.div_eq_of_lt h, Nat.mod_eq_of_lt h, Nat.succ_eq_add_one,
      paddedHex_of_lt _ (by decide), List.replicate_succ']
    rfl
  · have hdigit := toUpper_digitChar (n % 16) (by omega)
    rw [paddedHex, Nat.toDigits_of_base_le (by decide) h, List.map_append, List.map_singleton, hdigit]
    simp [paddedHex, List.leftpad]

theorem paddedHex_byte (byte : UInt8) : paddedHex 2 byte.toNat = hexByte byte := by
  have hbyte := byte.toNat_lt
  rw [paddedHex_succ Nat.one_pos, paddedHex_of_lt 0 (by omega)]
  rfl

theorem paddedHex_append_byte {width : Nat} (hwidth : 0 < width) (n : Nat) (byte : UInt8) :
    paddedHex (width + 2) (256 * n + byte.toNat) = paddedHex width n ++ hexByte byte := by
  have hbyte := byte.toNat_lt
  rw [paddedHex_succ (by omega), paddedHex_succ hwidth, List.append_assoc]
  have hhigh : (256 * n + byte.toNat) / 16 % 16 = byte.toNat / 16 := by omega
  have hlow : (256 * n + byte.toNat) % 16 = byte.toNat % 16 := by omega
  have hrest : (256 * n + byte.toNat) / 16 / 16 = n := by omega
  rw [hhigh, hlow, hrest]
  rfl

/-- A number made of bytes is written as its bytes are. -/
theorem paddedHex_ofBig {bytes : List UInt8} {width : Nat} (hwidth : 2 * bytes.length = width)
    (hpos : 0 < width) : paddedHex width (Bytes.ofBig bytes) = bytes.flatMap hexByte := by
  induction bytes using List.reverseRecOn generalizing width with
  | nil => exact absurd hpos (by simp [← hwidth])
  | append_singleton init byte ih =>
    have hbig : Bytes.ofBig (init ++ [byte]) = 256 * Bytes.ofBig init + byte.toNat := by
      unfold Bytes.ofBig
      rw [List.reverse_append, List.reverse_singleton, List.singleton_append, Bytes.ofLittle,
        Nat.add_comm]
    rw [List.length_append, List.length_singleton, Nat.mul_add] at hwidth
    rw [← hwidth, hbig, List.flatMap_append, List.flatMap_singleton]
    rcases Nat.eq_zero_or_pos init.length with hinit | hinit
    · obtain rfl := List.length_eq_zero_iff.mp hinit
      exact (congrArg _ (by simp [Bytes.ofBig, Bytes.ofLittle])).trans (paddedHex_byte byte)
    · rw [paddedHex_append_byte (by omega), ih rfl (by omega)]

theorem take_flatMap_hexByte (n : Nat) (bytes : List UInt8) :
    (bytes.flatMap hexByte).take (2 * n) = (bytes.take n).flatMap hexByte := by
  induction n generalizing bytes with
  | zero => rfl
  | succ n ih =>
    cases bytes with
    | nil => rfl
    | cons byte rest =>
      exact congrArg (fun l => hexDigit (byte.toNat / 16) :: hexDigit (byte.toNat % 16) :: l) (ih rest)

theorem drop_flatMap_hexByte (n : Nat) (bytes : List UInt8) :
    (bytes.flatMap hexByte).drop (2 * n) = (bytes.drop n).flatMap hexByte := by
  induction n generalizing bytes with
  | zero => rfl
  | succ n ih =>
    cases bytes with
    | nil => rfl
    | cons byte rest => exact ih rest

end Automation.Text

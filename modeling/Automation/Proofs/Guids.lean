import Automation.Guid.Text
import Automation.Proofs.Hex

/-!
# Identifiers and their texts

An identifier is read back from its written form, in braces or not, and whatever letters are in lower
case: `parse?_of_isFormOf`. Reading takes five groups of digits between hyphens, but more than that, as
a plus sign may stand for the first digit of a byte: `isSome_parse?_iff`.
-/

namespace Automation

open Text

namespace Guid

variable {s s' : List Char} {groups : List (List Char)}

/-! ## Groups and braces -/

theorem pieces_eq_splitOn (s : List Char) : pieces s = s.splitOn '-' := by
  induction s with
  | nil => rfl
  | cons c rest ih =>
    rw [pieces, ih, List.splitOn_cons_eq_if_modifyHead]
    cases hrest : rest.splitOn '-' with
    | nil => exact (List.splitOn_ne_nil _ rest hrest).elim
    | cons piece later => simp

theorem unbraced_of_notMem (h : '{' ∉ s) : unbraced s = s := by
  unfold unbraced
  split
  · exact (h List.mem_cons_self).elim
  · rfl

theorem unbraced_braced (s : List Char) : unbraced ('{' :: (s ++ ['}'])) = s := by
  simp [unbraced]

theorem unbraced_cases (s : List Char) : unbraced s = s ∨ s = '{' :: (unbraced s ++ ['}']) := by
  unfold unbraced
  split
  · split
    · next hlast =>
      obtain ⟨body, rfl⟩ := List.getLast?_eq_some_iff.mp hlast
      exact .inr (by simp)
    · exact .inl rfl
  · exact .inl rfl

/-- The text consists of the groups with hyphens between them, perhaps in braces. -/
def IsArranged (groups : List (List Char)) (s : String) : Prop :=
  s.toList = ['-'].intercalate groups ∨ s.toList = '{' :: (['-'].intercalate groups ++ ['}'])

theorem isArranged_pieces (s : String) : IsArranged (pieces (unbraced s.toList)) s := by
  unfold IsArranged
  rw [pieces_eq_splitOn, List.intercalate_splitOn]
  exact (unbraced_cases s.toList).imp_left Eq.symm

theorem mem_intercalate_iff {c : Char} (hc : c ≠ '-') :
    c ∈ ['-'].intercalate groups ↔ ∃ group ∈ groups, c ∈ group := by
  induction groups with
  | nil => simp [List.intercalate]
  | cons group later ih =>
    cases later with
    | nil => simp
    | cons next rest =>
      rw [List.intercalate_cons_cons, List.mem_append, List.mem_append, List.mem_singleton,
        or_iff_left hc, ih]
      exact (List.exists_mem_cons_iff _ group (next :: rest)).symm

/-- The characters of a text are those of its groups, besides signs. -/
theorem IsArranged.mem_iff {s : String} (h : IsArranged groups s) {c : Char}
    (hc : c ∉ ['-', '{', '}']) : c ∈ s.toList ↔ ∃ group ∈ groups, c ∈ group := by
  simp only [List.mem_cons, List.not_mem_nil, or_false, not_or] at hc
  rw [← mem_intercalate_iff hc.1]
  rcases h with h | h
  · rw [h]
  · simp [h, hc]

/-- Groups without signs are found again. -/
theorem pieces_of_isArranged {s : String} (h : IsArranged groups s) (hne : groups ≠ [])
    (hsigns : ∀ group ∈ groups, '-' ∉ group ∧ '{' ∉ group) :
    pieces (unbraced s.toList) = groups := by
  have hbody : unbraced s.toList = ['-'].intercalate groups := by
    rcases h with h | h
    · rw [h]
      refine unbraced_of_notMem fun hbrace => ?_
      obtain ⟨group, hgroup, hmem⟩ := (mem_intercalate_iff (by decide)).mp hbrace
      exact (hsigns group hgroup).2 hmem
    · rw [h, unbraced_braced]
  rw [hbody, pieces_eq_splitOn, List.splitOn_intercalate _ (fun g hg => (hsigns g hg).1) hne]

/-- A text of the right groups stands for the bytes that they say. -/
theorem parse?_of_isArranged {s : String} (h : IsArranged groups s)
    (hlengths : groups.map List.length = groupLengths)
    (hsigns : ∀ group ∈ groups, '-' ∉ group ∧ '{' ∉ group) :
    parse? s = (bytesOfHex? groups.flatten).map ofBytes := by
  have hne : groups ≠ [] := by
    rintro rfl
    exact nomatch hlengths
  unfold parse?
  dsimp only
  rw [pieces_of_isArranged h hne hsigns, if_pos hlengths]

/-! ## Written forms -/

theorem length_cut (lengths : List Nat) (digits : List Char)
    (h : lengths.foldr (· + ·) 0 = digits.length) :
    (cut lengths digits).map List.length = lengths ∧ (cut lengths digits).flatten = digits := by
  induction lengths generalizing digits with
  | nil => exact ⟨rfl, (List.length_eq_zero_iff.mp h.symm).symm⟩
  | cons n later ih =>
    rw [List.foldr_cons] at h
    obtain ⟨hlengths, hflatten⟩ := ih (digits.drop n) (by rw [List.length_drop]; omega)
    rw [cut, List.map_cons, List.flatten_cons, hlengths, hflatten, List.length_take,
      List.take_append_drop, Nat.min_eq_left (by omega)]
    exact ⟨rfl, rfl⟩

theorem length_digits (g : Guid) : g.digits.length = 32 := by
  have hbytes : ∀ byte ∈ g.bytes.toList, (hexByte byte).length = 2 := fun _ _ => rfl
  rw [digits, List.length_flatMap, List.map_congr_left hbytes]
  simp

theorem isHexDigit_digits (g : Guid) : ∀ c ∈ g.digits, IsHexDigit c := by
  intro c hc
  obtain ⟨byte, -, hc⟩ := List.mem_flatMap.mp hc
  have hbyte := byte.toNat_lt
  simp only [hexByte, List.mem_cons, List.not_mem_nil, or_false] at hc
  rcases hc with rfl | rfl
  · exact isHexDigit_hexDigit (by omega)
  · exact isHexDigit_hexDigit (by omega)

theorem ofBytes_toList (g : Guid) : ofBytes g.bytes.toList = g := by
  obtain ⟨bytes⟩ := g
  refine congrArg Guid.mk (Vector.ext fun i hi => ?_)
  simp

/-- **The written form shows the four fields**, numbers with zeros before them. -/
theorem toList_text (g : Guid) : g.text.toList = ['-'].intercalate
    [paddedHex 8 g.data1, paddedHex 4 g.data2, paddedHex 4 g.data3,
      (g.data4.take 2).flatMap hexByte, (g.data4.drop 2).flatMap hexByte] := by
  have hlength : g.bytes.toList.length = 16 := g.bytes.size_toArray
  have hlast : (g.bytes.toList.drop 10).take 6 = g.bytes.toList.drop 10 :=
    List.take_of_length_le (by simp [hlength])
  have hgroups : cut groupLengths g.digits =
      [(g.bytes.toList.take 4).flatMap hexByte, ((g.bytes.toList.drop 4).take 2).flatMap hexByte,
        ((g.bytes.toList.drop 6).take 2).flatMap hexByte, (g.data4.take 2).flatMap hexByte,
        (g.data4.drop 2).flatMap hexByte] := by
    change [g.digits.take (2 * 4), (g.digits.drop (2 * 4)).take (2 * 2),
      ((g.digits.drop (2 * 4)).drop (2 * 2)).take (2 * 2),
      (((g.digits.drop (2 * 4)).drop (2 * 2)).drop (2 * 2)).take (2 * 2),
      ((((g.digits.drop (2 * 4)).drop (2 * 2)).drop (2 * 2)).drop (2 * 2)).take (2 * 6)] = _
    unfold digits data4
    simp only [take_flatMap_hexByte, drop_flatMap_hexByte, List.drop_drop, Nat.reduceAdd, hlast]
  rw [text, String.toList_ofList, hgroups, data1, data2, data3,
    paddedHex_ofBig (by simp [hlength]) (by decide), paddedHex_ofBig (by simp [hlength]) (by decide),
    paddedHex_ofBig (by simp [hlength]) (by decide)]

/-- The digits of an identifier in groups stand for it. -/
theorem parse?_of_isArranged_digits {g : Guid} {s : String}
    (h : IsArranged (cut groupLengths g.digits) s) : parse? s = some g := by
  obtain ⟨hlengths, hflatten⟩ := length_cut groupLengths g.digits (by rw [length_digits]; rfl)
  have hsigns : ∀ group ∈ cut groupLengths g.digits, '-' ∉ group ∧ '{' ∉ group := by
    intro group hgroup
    have hdigits : ∀ c ∈ group, IsHexDigit c := fun c hc =>
      isHexDigit_digits g c (hflatten ▸ List.mem_flatten_of_mem hgroup hc)
    exact ⟨fun hc => absurd (hdigits _ hc) (by decide), fun hc => absurd (hdigits _ hc) (by decide)⟩
  rw [parse?_of_isArranged h hlengths hsigns, hflatten, digits, bytesOfHex?_flatMap_hexByte,
    Option.map_some, ofBytes_toList]

theorem parse?_text (g : Guid) : parse? g.text = some g :=
  parse?_of_isArranged_digits (.inl String.toList_ofList)

theorem parse?_bracedText (g : Guid) : parse? g.bracedText = some g := by
  refine parse?_of_isArranged_digits (.inr ?_)
  simp [bracedText, text]

/-! ## Case -/

theorem pieces_congr (h : List.Forall₂ Lowers s s') :
    List.Forall₂ (List.Forall₂ Lowers) (pieces s) (pieces s') := by
  induction h with
  | nil => exact .cons .nil .nil
  | @cons c d rest rest' hcd _ ih =>
    have hhyphen : d = '-' ↔ c = '-' := hcd.eq_iff (by decide)
    rw [pieces, pieces]
    generalize pieces rest = groups, pieces rest' = groups' at ih
    cases ih with
    | nil => exact .cons (.cons hcd .nil) .nil
    | cons hpiece hlater =>
      simp only [hhyphen]
      split
      · exact .cons .nil (.cons hpiece hlater)
      · exact .cons (.cons hcd hpiece) hlater

/-- Both texts end in a brace, or neither does. -/
theorem brace_congr (h : List.Forall₂ Lowers s s') :
    (s'.getLast? = some '}' ↔ s.getLast? = some '}') ∧
      List.Forall₂ Lowers s.dropLast s'.dropLast := by
  induction h with
  | nil => exact ⟨.rfl, .nil⟩
  | @cons c d rest rest' hcd hrest ih =>
    cases hrest with
    | nil =>
      have hbrace : d = '}' ↔ c = '}' := hcd.eq_iff (by decide)
      exact ⟨by simp [hbrace], .nil⟩
    | cons =>
      rw [List.getLast?_cons_cons, List.getLast?_cons_cons, List.dropLast_cons_cons,
        List.dropLast_cons_cons]
      exact ⟨ih.1, .cons hcd ih.2⟩

theorem unbraced_cons (c : Char) (rest : List Char) : unbraced (c :: rest) =
    if c = '{' ∧ rest.getLast? = some '}' then rest.dropLast else c :: rest := by
  by_cases hc : c = '{'
  · simp [unbraced, hc]
  · simp [unbraced, hc]

theorem unbraced_congr (h : List.Forall₂ Lowers s s') :
    List.Forall₂ Lowers (unbraced s) (unbraced s') := by
  cases h with
  | nil => exact .nil
  | @cons c d rest rest' hcd hrest =>
    have hbrace : d = '{' ↔ c = '{' := hcd.eq_iff (by decide)
    obtain ⟨hlast, hinner⟩ := brace_congr hrest
    rw [unbraced_cons, unbraced_cons]
    simp only [hbrace, hlast]
    split
    · exact hinner
    · exact .cons hcd hrest

/-- **Reading is blind to case.** -/
theorem parse?_congr {s s' : String} (h : List.Forall₂ Lowers s.toList s'.toList) :
    parse? s' = parse? s := by
  have hpieces := pieces_congr (unbraced_congr h)
  have hlengths : (pieces (unbraced s'.toList)).map List.length =
      (pieces (unbraced s.toList)).map List.length := by
    have hsame : List.Forall₂ Eq ((pieces (unbraced s.toList)).map List.length)
        ((pieces (unbraced s'.toList)).map List.length) := by
      rw [List.forall₂_map_left_iff, List.forall₂_map_right_iff]
      exact hpieces.imp fun _ _ hgroup => hgroup.length_eq
    rw [List.forall₂_eq_eq_eq] at hsame
    exact hsame.symm
  unfold parse?
  dsimp only
  rw [hlengths, bytesOfHex?_congr (List.rel_flatten hpieces)]

/-- The text is the written form of the identifier, in braces or not, some letters of which may be in
lower case. -/
def IsFormOf (g : Guid) (s : String) : Prop :=
  List.Forall₂ Lowers g.text.toList s.toList ∨ List.Forall₂ Lowers g.bracedText.toList s.toList

/-- **An identifier is read back from each of its forms.** -/
theorem parse?_of_isFormOf {g : Guid} {s : String} (h : g.IsFormOf s) : parse? s = some g := by
  rcases h with h | h
  · rw [parse?_congr h, parse?_text]
  · rw [parse?_congr h, parse?_bracedText]

theorem exportNamespace_parsed :
    exportNamespace.IsFormOf "\x7b9c1A6e3D-51b2-4F0e-8A3B-27d4610C5E92\x7d" ∧
      parse? "\x7b9c1A6e3D-51b2-4F0e-8A3B-27d4610C5E92\x7d" = some exportNamespace := by
  have hform : exportNamespace.IsFormOf "\x7b9c1A6e3D-51b2-4F0e-8A3B-27d4610C5E92\x7d" :=
    .inr (by decide +kernel)
  exact ⟨hform, parse?_of_isFormOf hform⟩

/-! ## What is read -/

/-- The text consists of five groups of the right lengths, all of a kind. -/
def IsText (IsGroup : List Char → Prop) (s : String) : Prop :=
  ∃ groups, groups.map List.length = groupLengths ∧ (∀ group ∈ groups, IsGroup group) ∧
    IsArranged groups s

/-- All characters are hexadecimal digits. -/
def AllDigits (group : List Char) : Prop := ∀ c ∈ group, IsHexDigit c

theorem even_of_lengths (h : groups.map List.length = groupLengths) :
    ∀ group ∈ groups, 2 ∣ group.length := by
  intro group hgroup
  have hlengths : ∀ n ∈ groupLengths, 2 ∣ n := by decide
  exact hlengths _ (h ▸ List.mem_map_of_mem hgroup)

theorem paired_flatten (h : ∀ group ∈ groups, 2 ∣ group.length) :
    Paired groups.flatten ↔ ∀ group ∈ groups, Paired group := by
  induction groups with
  | nil => exact iff_of_true .nil fun _ h => nomatch h
  | cons group later ih =>
    obtain ⟨hgroup, hlater⟩ := List.forall_mem_cons.mp h
    rw [List.flatten_cons, paired_append hgroup, ih hlater, List.forall_mem_cons]

/-- **Which texts are read**: those of five groups, in which a plus sign may stand for the first digit of
a byte. -/
theorem isSome_parse?_iff_isText (s : String) : (parse? s).isSome ↔ IsText Paired s := by
  constructor
  · intro h
    unfold parse? at h
    dsimp only at h
    split at h
    · next hlengths =>
      rw [Option.isSome_map, isSome_bytesOfHex?_iff, paired_flatten (even_of_lengths hlengths)] at h
      exact ⟨_, hlengths, h, isArranged_pieces s⟩
    · exact nomatch h
  · rintro ⟨groups, hlengths, hpaired, harranged⟩
    have hsigns : ∀ group ∈ groups, '-' ∉ group ∧ '{' ∉ group := fun group hgroup =>
      ⟨fun hmem => absurd ((hpaired group hgroup).mem hmem) (by decide),
        fun hmem => absurd ((hpaired group hgroup).mem hmem) (by decide)⟩
    rw [parse?_of_isArranged harranged hlengths hsigns, Option.isSome_map, isSome_bytesOfHex?_iff,
      paired_flatten (even_of_lengths hlengths)]
    exact hpaired

theorem isText_allDigits_iff {s : String} :
    IsText AllDigits s ↔ IsText Paired s ∧ '+' ∉ s.toList := by
  constructor
  · rintro ⟨groups, hlengths, hdigits, harranged⟩
    have hboth : ∀ group ∈ groups, Paired group ∧ '+' ∉ group := fun group hgroup =>
      (isHexDigit_iff_paired (even_of_lengths hlengths group hgroup)).mp (hdigits group hgroup)
    refine ⟨⟨groups, hlengths, fun group hgroup => (hboth group hgroup).1, harranged⟩, ?_⟩
    rw [harranged.mem_iff (by decide)]
    exact fun ⟨group, hgroup, hplus⟩ => (hboth group hgroup).2 hplus
  · rintro ⟨⟨groups, hlengths, hpaired, harranged⟩, hplus⟩
    rw [harranged.mem_iff (by decide)] at hplus
    refine ⟨groups, hlengths, fun group hgroup => ?_, harranged⟩
    exact (isHexDigit_iff_paired (even_of_lengths hlengths group hgroup)).mpr
      ⟨hpaired group hgroup, fun hmem => hplus ⟨group, hgroup, hmem⟩⟩

/-- **Texts of digits are read, and no others without plus signs.** -/
theorem isSome_parse?_iff (s : String) :
    ((parse? s).isSome ↔ IsText Paired s) ∧
      (IsText AllDigits s ↔ (parse? s).isSome ∧ '+' ∉ s.toList) := by
  rw [isSome_parse?_iff_isText]
  exact ⟨.rfl, isText_allDigits_iff⟩

/-- A sign is read as if it were a zero. -/
theorem signed_parsed :
    parse? "+1020400-0000-0000-C000-000000000046" = parse? "01020400-0000-0000-C000-000000000046" ∧
      (parse? "+1020400-0000-0000-C000-000000000046").isSome ∧
      ¬IsText AllDigits "+1020400-0000-0000-C000-000000000046" :=
  ⟨by decide +kernel, by decide +kernel, fun h => (isText_allDigits_iff.mp h).2 (by decide)⟩

end Guid

end Automation

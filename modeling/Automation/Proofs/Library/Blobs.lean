import Automation.Library.Variant
import Automation.Proofs.Utf16

/-!
# Values and their blobs

What is written into a blob is read back from it, whatever bytes come after: numbers
(`takeNumber?_little_append`), units (`takeUnits?_flatMap_append`) and payloads
(`takePayload?_payload_append`). Only the count of the units of a text has a bound, as four bytes hold it:
a longer text leaves bytes over and is not read at all. `decode?_encode` says so of every value, and that
different values have different blobs even then.
-/

namespace Automation

/-- What a byte string of a fixed width keeps of a number. -/
theorem Bytes.ofLittle_little_eq_mod (width n : Nat) :
    ofLittle (little width n) = n % capacity width := by
  induction width generalizing n with
  | zero => exact (Nat.mod_one n).symm
  | succ width ih =>
    have hbyte : (UInt8.ofNat (n % 256)).toNat = n % 256 := by simp
    rw [little, ofLittle, capacity, ih, hbyte, Nat.mod_mul]

namespace Library

namespace Variant

/-! ## What is read -/

/-- A number is read as far as it fits its width. -/
theorem takeNumber?_little_append_eq_mod (width n : Nat) (rest : Blob) :
    takeNumber? width (Bytes.little width n ++ rest) = some (n % Bytes.capacity width, rest) := by
  have hlength : ¬(Bytes.little width n ++ rest).length < width := by simp
  rw [takeNumber?, if_neg hlength, List.take_left' (Bytes.length_little width n),
    List.drop_left' (Bytes.length_little width n), Bytes.ofLittle_little_eq_mod]

theorem takeNumber?_little_append (width : Nat) {n : Nat} (h : n < Bytes.capacity width)
    (rest : Blob) :
    takeNumber? width (Bytes.little width n ++ rest) = some (n, rest) := by
  rw [takeNumber?_little_append_eq_mod, Nat.mod_eq_of_lt h]

/-- Units are read from the first one on, as many as are asked for. -/
theorem takeUnits?_flatMap {units : List Nat} (hunits : ∀ unit ∈ units, unit < 0x10000)
    {count : Nat} (hcount : count ≤ units.length) (rest : Blob) :
    takeUnits? count (units.flatMap (Bytes.little 2) ++ rest) =
      some (units.take count, (units.drop count).flatMap (Bytes.little 2) ++ rest) := by
  induction count generalizing units with
  | zero => rfl
  | succ count ih =>
    cases units with
    | nil => exact absurd hcount (Nat.not_succ_le_zero count)
    | cons unit later =>
      obtain ⟨hunit, hlater⟩ := List.forall_mem_cons.mp hunits
      rw [List.flatMap_cons, List.append_assoc, takeUnits?, takeNumber?_little_append 2 hunit]
      simp only [Option.bind_eq_bind, Option.bind_some, ih hlater (Nat.le_of_succ_le_succ hcount)]
      rfl

/-- The units of a text are read, whatever bytes come after them. -/
theorem takeUnits?_units (s : String) (rest : Blob) :
    takeUnits? (Text.units s).length ((Text.units s).flatMap (Bytes.little 2) ++ rest) =
      some (Text.units s, rest) := by
  simpa using takeUnits?_flatMap (fun _ h => Text.lt_of_mem_units h) (Nat.le_refl _) rest

theorem length_flatMap_little (units : List Nat) :
    (units.flatMap (Bytes.little 2)).length = 2 * units.length := by
  induction units with
  | nil => rfl
  | cons unit later ih =>
    rw [List.flatMap_cons, List.length_append, Bytes.length_little, ih, List.length_cons]
    omega

/-- Different texts have different bytes. -/
theorem flatMap_little_units_inj {s t : String}
    (h : (Text.units s).flatMap (Bytes.little 2) = (Text.units t).flatMap (Bytes.little 2)) :
    s = t := by
  have hlength := congrArg List.length h
  rw [length_flatMap_little, length_flatMap_little] at hlength
  have hsame : (Text.units s).length = (Text.units t).length := by omega
  have hs := takeUnits?_units s []
  rw [h, hsame, takeUnits?_units t] at hs
  exact Text.units_inj (Prod.mk.inj (Option.some.inj hs)).1.symm

/-! ## Payloads -/

/-- How many units a payload counts. -/
def unitCount : Variant → Nat
  | bstr value => (Text.units value).length
  | _ => 0

/-- The count of the units has four bytes. -/
def IsCounted (v : Variant) : Prop := v.unitCount < 0x100000000

instance : DecidablePred IsCounted := fun v => inferInstanceAs (Decidable (v.unitCount < _))

/-- **A payload is read back**, whatever bytes come after it. -/
theorem takePayload?_payload_append {v : Variant} (h : v.IsCounted) (rest : Blob) :
    takePayload? v.elementType (v.payload ++ rest) = some (v, rest) := by
  cases v with
  | empty => rfl
  | bool value =>
    have hnumber : (if value then 0xFFFF else 0) < Bytes.capacity 2 := by cases value <;> decide
    simp only [takePayload?, elementType, payload, takeNumber?_little_append 2 hnumber rest]
    cases value <;> rfl
  | i1 value =>
    simp only [takePayload?, elementType, payload, Option.map_some, UInt8.ofNat_toNat,
      takeNumber?_little_append 1 value.toUInt8.toNat_lt rest]
    rfl
  | ui1 value =>
    simp [takePayload?, elementType, payload, takeNumber?_little_append 1 value.toNat_lt rest]
  | i2 value =>
    simp only [takePayload?, elementType, payload, Option.map_some, UInt16.ofNat_toNat,
      takeNumber?_little_append 2 value.toUInt16.toNat_lt rest]
    rfl
  | ui2 value =>
    simp [takePayload?, elementType, payload, takeNumber?_little_append 2 value.toNat_lt rest]
  | i4 value =>
    simp only [takePayload?, elementType, payload, Option.map_some, UInt32.ofNat_toNat,
      takeNumber?_little_append 4 value.toUInt32.toNat_lt rest]
    rfl
  | ui4 value =>
    simp [takePayload?, elementType, payload, takeNumber?_little_append 4 value.toNat_lt rest]
  | i8 value =>
    simp only [takePayload?, elementType, payload, Option.map_some, UInt64.ofNat_toNat,
      takeNumber?_little_append 8 value.toUInt64.toNat_lt rest]
    rfl
  | ui8 value =>
    simp [takePayload?, elementType, payload, takeNumber?_little_append 8 value.toNat_lt rest]
  | r4 value =>
    simp [takePayload?, elementType, payload, takeNumber?_little_append 4 value.toNat_lt rest]
  | r8 value =>
    simp [takePayload?, elementType, payload, takeNumber?_little_append 8 value.toNat_lt rest]
  | bstr value =>
    have hcount : (Text.units value).length < Bytes.capacity 4 := h
    simp only [takePayload?, elementType, payload, List.append_assoc]
    rw [takeNumber?_little_append 4 hcount]
    simp [takeUnits?_units, Text.ofUnits?_units]

/-- Of a text with more units than are counted, bytes are left over. -/
theorem ne_nil_of_takePayload?_payload {v : Variant} (h : ¬v.IsCounted) {read : Variant} {rest : Blob}
    (hread : takePayload? v.elementType v.payload = some (read, rest)) : rest ≠ [] := by
  cases v with
  | bstr value =>
    have hcount : Bytes.capacity 4 ≤ (Text.units value).length := Nat.le_of_not_lt h
    have hmod : (Text.units value).length % Bytes.capacity 4 < Bytes.capacity 4 :=
      Nat.mod_lt _ (by decide)
    simp only [takePayload?, elementType, payload, takeNumber?_little_append_eq_mod] at hread
    generalize (Text.units value).length % Bytes.capacity 4 = count at hmod hread
    have hle : count ≤ (Text.units value).length := by omega
    have hunits := takeUnits?_flatMap (fun _ h => Text.lt_of_mem_units h) hle []
    rw [List.append_nil] at hunits
    simp only [hunits, Option.bind_eq_bind, Option.bind_some] at hread
    obtain ⟨text, -, hread⟩ := Option.bind_eq_some_iff.mp hread
    obtain ⟨-, rfl⟩ := Prod.mk.inj (Option.some.inj hread)
    have hrest : 2 * ((Text.units value).length - count) ≠ 0 := by omega
    rw [← List.length_drop, ← length_flatMap_little] at hrest
    exact fun hnil => hrest (List.length_eq_zero_iff.mpr (by simpa using hnil))
  | _ => exact absurd (show (0 : Nat) < _ by decide) h

/-! ## Blobs -/

theorem code_lt (type : ElementType) : type.code < Bytes.capacity 2 := by cases type <;> decide

/-- What is read of the blob of a value is read of its payload. -/
theorem decode?_encode_eq (v : Variant) :
    decode? v.encode = (takePayload? v.elementType v.payload).bind fun (read, rest) =>
      if rest.isEmpty then some read else none := by
  rw [decode?, encode, takeNumber?_little_append 2 (code_lt v.elementType)]
  simp only [Option.bind_eq_bind, Option.bind_some, ElementType.ofCode?_code]
  rfl

theorem decode?_encode_of_isCounted {v : Variant} (h : v.IsCounted) : decode? v.encode = some v := by
  have hread := takePayload?_payload_append h []
  rw [List.append_nil] at hread
  rw [decode?_encode_eq, hread]
  rfl

theorem decode?_encode_of_not_isCounted {v : Variant} (h : ¬v.IsCounted) :
    decode? v.encode = none := by
  rw [decode?_encode_eq, Option.bind_eq_none_iff]
  intro (read, rest) hread
  have hrest := ne_nil_of_takePayload?_payload h hread
  simp [hrest]

/-- A value whose units are too many to count is a text. -/
theorem exists_bstr_of_not_isCounted {v : Variant} (h : ¬v.IsCounted) :
    ∃ text, v = bstr text := by
  cases v with
  | bstr text => exact ⟨text, rfl⟩
  | _ => exact absurd (show (0 : Nat) < _ by decide) h

/-- The bytes of a text come after six of its code and its count. -/
theorem drop_encode_bstr (text : String) :
    (bstr text).encode.drop 6 = (Text.units text).flatMap (Bytes.little 2) := by
  rw [encode, payload, ← List.append_assoc]
  exact List.drop_left' (by simp)

/-- **Blobs are read back**: of a value whose units four bytes count, and so of every value that is no
text, the blob is read back as that value, and that of a longer text is not read at all. Different values
have different blobs, however long they are. -/
theorem decode?_encode :
    (∀ v : Variant, decode? v.encode = if v.IsCounted then some v else none) ∧
      ∀ v w : Variant, v.encode = w.encode → v = w := by
  constructor
  · intro v
    split
    · exact decode?_encode_of_isCounted ‹_›
    · exact decode?_encode_of_not_isCounted ‹_›
  · intro v w h
    by_cases hv : v.IsCounted
    · have hread := decode?_encode_of_isCounted hv
      by_cases hw : w.IsCounted
      · rw [h, decode?_encode_of_isCounted hw] at hread
        exact (Option.some.inj hread).symm
      · rw [h, decode?_encode_of_not_isCounted hw] at hread
        exact absurd hread.symm (Option.some_ne_none v)
    · by_cases hw : w.IsCounted
      · have hread := decode?_encode_of_isCounted hw
        rw [← h, decode?_encode_of_not_isCounted hv] at hread
        exact absurd hread.symm (Option.some_ne_none w)
      · obtain ⟨s, rfl⟩ := exists_bstr_of_not_isCounted hv
        obtain ⟨t, rfl⟩ := exists_bstr_of_not_isCounted hw
        have hdrop := congrArg (List.drop 6) h
        rw [drop_encode_bstr, drop_encode_bstr] at hdrop
        rw [flatMap_little_units_inj hdrop]

end Variant

end Library

end Automation

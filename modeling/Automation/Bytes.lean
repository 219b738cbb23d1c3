/-!
# Numbers as bytes

Little-endian and big-endian byte strings of a fixed width, and the number a little-endian byte
string stands for. `ofLittle_little` says that a number that fits its width is read back.
-/

namespace Automation.Bytes

/-- The `width` low bytes of a number, least significant first. -/
def little : (width : Nat) → Nat → List UInt8
  | 0, _ => []
  | width + 1, n => UInt8.ofNat (n % 256) :: little width (n / 256)

/-- The `width` low bytes of a number, most significant first. -/
def big (width n : Nat) : List UInt8 := (little width n).reverse

/-- The number whose bytes, least significant first, are given. -/
def ofLittle : List UInt8 → Nat
  | [] => 0
  | byte :: rest => byte.toNat + 256 * ofLittle rest

/-- The number whose bytes, most significant first, are given. -/
def ofBig (bytes : List UInt8) : Nat := ofLittle bytes.reverse

/-- How many numbers `width` bytes can tell apart. -/
def capacity : (width : Nat) → Nat
  | 0 => 1
  | width + 1 => 256 * capacity width

@[simp] theorem length_little (width n : Nat) : (little width n).length = width := by
  induction width generalizing n with
  | zero => rfl
  | succ width ih => simp [little, ih]

@[simp] theorem length_big (width n : Nat) : (big width n).length = width := by
  simp [big]

theorem ofLittle_little {width n : Nat} (h : n < capacity width) :
    ofLittle (little width n) = n := by
  induction width generalizing n with
  | zero =>
    rw [capacity] at h
    rw [little, ofLittle]
    omega
  | succ width ih =>
    have hdiv : n / 256 < capacity width := Nat.div_lt_of_lt_mul h
    have hbyte : (UInt8.ofNat (n % 256)).toNat = n % 256 := by simp
    rw [little, ofLittle, ih hdiv, hbyte]
    omega

theorem ofBig_big {width n : Nat} (h : n < capacity width) : ofBig (big width n) = n := by
  simp [ofBig, big, ofLittle_little h]

end Automation.Bytes

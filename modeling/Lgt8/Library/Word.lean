import Mathlib.Tactic

/-!
# Fixed-width integers of a C program, read as mathematical integers

A C `int` is an integer in `[-2^31, 2^31)`; arithmetic that leaves the range wraps on the machine.
`int32` is that wrapping, `uint8` the conversion of an `int` to an eight-bit unsigned value.  Both
are the identity inside their range (`int32_of_range`, `toNat_uint8`), which is all that code whose
operands are bounded ever needs.
-/

namespace Library

/-- An integer brought back into the range of a 32-bit `int`. -/
def int32 (x : ℤ) : ℤ := x.bmod 4294967296

/-- Conversion of an `int` to an unsigned byte: the low eight bits. -/
def uint8 (x : ℤ) : UInt8 := UInt8.ofNat (x % 256).toNat

/-- The bytes of an ASCII text. -/
def ascii (text : String) : List UInt8 := text.toList.map fun c => UInt8.ofNat c.toNat

lemma int32_of_range {x : ℤ} (hlo : -2147483648 ≤ x) (hhi : x < 2147483648) : int32 x = x := by
  simp only [int32, Int.bmod]
  split <;> omega

lemma int32_lower (x : ℤ) : -2147483648 ≤ int32 x := by
  simp only [int32, Int.bmod]
  split <;> omega

lemma int32_upper (x : ℤ) : int32 x < 2147483648 := by
  simp only [int32, Int.bmod]
  split <;> omega

@[simp] lemma int32_int32 (x : ℤ) : int32 (int32 x) = int32 x :=
  int32_of_range (int32_lower x) (int32_upper x)

lemma toNat_uint8 {x : ℤ} (hlo : 0 ≤ x) (hhi : x < 256) : (uint8 x).toNat = x.toNat := by
  have hx : x % 256 = x := by omega
  rw [uint8, hx, UInt8.toNat_ofNat']
  omega

lemma uint8_congr {v w : ℤ} (h : v % 256 = w % 256) : uint8 v = uint8 w := by
  rw [uint8, h, uint8]

lemma toNat_uint8_emod (v : ℤ) : ((uint8 v).toNat : ℤ) = v % 256 := by
  rw [uint8, UInt8.toNat_ofNat']
  omega

lemma uint8_ne_max {x : ℤ} (hlo : 0 ≤ x) (hhi : x ≤ 254) : uint8 x ≠ 255 := by
  intro h
  have := toNat_uint8 hlo (by omega)
  rw [h] at this
  simp at this
  omega

lemma zero_ne_max : (0 : UInt8) ≠ 255 := by decide

/-! ## Counting a byte down -/

lemma toNat_pred {v : UInt8} (h : v ≠ 0) : (v - 1).toNat + 1 = v.toNat := by
  have hv : v.toNat ≠ 0 := fun h0 => h (UInt8.toNat.inj h0)
  rw [UInt8.toNat_sub_of_le]
  · simp
    omega
  · rw [UInt8.le_iff_toNat_le]
    simp
    omega

/-- Counting down never produces the top value, which only wrapping would. -/
lemma pred_ne_max {v : UInt8} (h : v ≠ 0) : v - 1 ≠ 255 := by
  intro h1
  have := toNat_pred h
  have hv := v.toNat_lt
  rw [h1] at this
  simp at this
  omega

end Library

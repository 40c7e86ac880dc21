import Mathlib.Tactic
import Mathlib.Data.Int.Log
import Mathlib.Data.Rat.Floor
import Lgt8.Library.Word

/-!
# `double`

The servo regulator and the telemetry slots compute in `double`.  The model is generic in the
arithmetic: `DoubleOps F` lists the operations the firmware uses and the one law that any of its
results here depends on — the conversion of an `int` is exact, so two converted integers compare
equal precisely when the integers are.  The machine's binary64 is one such arithmetic; `ℚ`, the
instance below, is the exact one, and it computes.  `Signed` is the exact one with a sign bit, which
a value keeps when it is zero.
-/

namespace Lgt8

open Library

/-- The `double` operations of the firmware. -/
class DoubleOps (F : Type) where
  ofInt : ℤ → F
  /-- A decimal literal of the source. -/
  ofRat : ℚ → F
  add : F → F → F
  sub : F → F → F
  mul : F → F → F
  div : F → F → F
  eq : F → F → Bool
  lt : F → F → Bool
  /-- Conversion to `uint8_t`. -/
  toUint8 : F → UInt8
  /-- The text `sprintf` makes of a value with `"%6.4E"`. -/
  sprintfE : F → List UInt8
  /-- Conversion of an `int` is exact. -/
  eq_ofInt : ∀ m n : ℤ, -2147483648 ≤ m → m < 2147483648 → -2147483648 ≤ n → n < 2147483648 →
    eq (ofInt m) (ofInt n) = decide (m = n)

namespace DoubleOps

variable {F : Type} [DoubleOps F]

/-- The constant `0` of the source, written as an `int` or as `0.0`. -/
def zero : F := ofInt 0

@[simp] lemma eq_zero_zero : eq (zero : F) zero = true := by
  rw [zero, eq_ofInt 0 0] <;> decide

end DoubleOps

/-! ## Exact arithmetic -/

/-- Truncation toward zero. -/
def truncate (q : ℚ) : ℤ := if q < 0 then ⌈q⌉ else ⌊q⌋

/-- Rounding to the nearest integer, halves to even. -/
def roundHalfEven (q : ℚ) : ℤ :=
  if 2 * (q - ⌊q⌋) < 1 then ⌊q⌋
  else if 1 < 2 * (q - ⌊q⌋) then ⌊q⌋ + 1
  else if ⌊q⌋ % 2 = 0 then ⌊q⌋ else ⌊q⌋ + 1

/-- The decimal digits of `n`, at least `width` of them. -/
def decimalDigits (width n : ℕ) : List UInt8 :=
  let ds := (Nat.toDigits 10 n).map fun c => UInt8.ofNat c.toNat
  List.replicate (width - ds.length) 48 ++ ds

/-- Five significant digits and the decimal exponent of a positive number. -/
def scientific (q : ℚ) : ℕ × ℤ :=
  let e := Int.log 10 q
  let m := (roundHalfEven (q * 10 ^ (4 - e))).toNat
  if 100000 ≤ m then (10000, e + 1) else (m, e)

/-- `sprintf` with `"%6.4E"`: sign, one digit, point, four digits, `E`, sign and two or more
digits of exponent. -/
def sprintfE (q : ℚ) : List UInt8 :=
  let r := if q = 0 then (0, 0) else scientific |q|
  let ds := decimalDigits 5 r.1
  (if q < 0 then [45] else []) ++ ds.take 1 ++ [46] ++ ds.drop 1 ++ [69]
    ++ (if r.2 < 0 then [45] else [43]) ++ decimalDigits 2 r.2.natAbs

instance : DoubleOps ℚ where
  ofInt n := n
  ofRat q := q
  add := (· + ·)
  sub := (· - ·)
  mul := (· * ·)
  div := (· / ·)
  eq a b := decide (a = b)
  lt a b := decide (a < b)
  toUint8 q := uint8 (truncate q)
  sprintfE := sprintfE
  eq_ofInt m n _ _ _ _ := by simp

/-! ## Exact arithmetic with a sign bit -/

/-- A finite number as `double` has it, sign and magnitude.  A zero has a sign, too. -/
structure Signed where
  negative : Bool
  magnitude : ℚ≥0

namespace Signed

/-- The number itself; the two zeros have one value. -/
def value (x : Signed) : ℚ := if x.negative then -x.magnitude else x.magnitude

/-- The number with value `q`, where a zero gets the sign `zeroSign`. -/
def ofValue (zeroSign : Bool) (q : ℚ) : Signed where
  negative := if q = 0 then zeroSign else decide (q < 0)
  magnitude := q.nnabs

lemma value_ofValue (b : Bool) (q : ℚ) : (ofValue b q).value = q := by
  have habs : ((q.nnabs : ℚ≥0) : ℚ) = |q| := Rat.coe_nnabs q
  rw [value, ofValue]
  dsimp only
  rw [habs]
  rcases lt_trichotomy q 0 with h | rfl | h
  · rw [if_neg h.ne, decide_eq_true h, if_pos rfl, abs_of_neg h, neg_neg]
  · simp
  · rw [if_neg h.ne', decide_eq_false (not_lt.mpr h.le), if_neg (by decide), abs_of_pos h]

end Signed

/-- The sign of a product or quotient is that of its parts together, also where it is zero.  A sum
that is zero is `-0.0` only if both its parts are; the literals and integers are never. -/
instance : DoubleOps Signed where
  ofInt n := .ofValue false n
  ofRat q := .ofValue false q
  add x y := .ofValue (x.negative && y.negative) (x.value + y.value)
  sub x y := .ofValue (x.negative && !y.negative) (x.value - y.value)
  mul x y := ⟨x.negative != y.negative, x.magnitude * y.magnitude⟩
  div x y := ⟨x.negative != y.negative, x.magnitude / y.magnitude⟩
  eq x y := decide (x.value = y.value)
  lt x y := decide (x.value < y.value)
  toUint8 x := uint8 (truncate x.value)
  sprintfE x := (if x.negative then [45] else []) ++ sprintfE x.magnitude
  eq_ofInt m n _ _ _ _ := by simp [Signed.value_ofValue]

/-! ## Exact arithmetic with checked division -/

/-- A number, or nothing where a division by zero went into it. -/
abbrev Checked := Option ℚ

instance : DoubleOps Checked where
  ofInt n := some n
  ofRat q := some q
  add := Option.map₂ (· + ·)
  sub := Option.map₂ (· - ·)
  mul := Option.map₂ (· * ·)
  div a b := a.bind fun x => b.bind fun y => if y = 0 then none else some (x / y)
  eq a b := (Option.map₂ (fun x y => decide (x = y)) a b).getD false
  lt a b := (Option.map₂ (fun x y => decide (x < y)) a b).getD false
  toUint8 a := uint8 (truncate (a.getD 0))
  sprintfE a := sprintfE (a.getD 0)
  eq_ofInt m n _ _ _ _ := by simp

end Lgt8

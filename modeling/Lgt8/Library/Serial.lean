import Mathlib.Tactic

/-!
# Serial numbers

A stream that has no end is numbered with `w` bits.  Two numbers are compared by the sign of their
difference, which says how their positions in the stream compare as long as these are less than half
of the numbers apart.

* `num` — the number of a position.
* `Lt`, `Leq`, `Gt`, `Geq`, `Between` — the comparisons.
* `Near` — two positions no further apart than the comparisons allow.
* `leq_num`, `geq_num`, **`between_num`**, `num_inj` — on the numbers of near positions the
  comparisons are those of the positions.
-/

namespace Library.Serial

variable {w : ℕ} {x y z : ℤ}

/-- The number of a position. -/
def num (w : ℕ) (x : ℤ) : BitVec w := BitVec.ofInt w x

def Lt (a b : BitVec w) : Prop := (a - b).toInt < 0

def Leq (a b : BitVec w) : Prop := (a - b).toInt ≤ 0

def Gt (a b : BitVec w) : Prop := (a - b).toInt > 0

def Geq (a b : BitVec w) : Prop := (a - b).toInt ≥ 0

/-- `a` is neither before `b` nor behind `c`. -/
def Between (a b c : BitVec w) : Prop := Geq a b ∧ Leq a c

instance (a b : BitVec w) : Decidable (Lt a b) := inferInstanceAs (Decidable (_ < _))

instance (a b : BitVec w) : Decidable (Leq a b) := inferInstanceAs (Decidable (_ ≤ _))

instance (a b : BitVec w) : Decidable (Gt a b) := inferInstanceAs (Decidable (_ > _))

instance (a b : BitVec w) : Decidable (Geq a b) := inferInstanceAs (Decidable (_ ≥ _))

instance (a b c : BitVec w) : Decidable (Between a b c) := inferInstanceAs (Decidable (_ ∧ _))

/-! ## Numbers of positions -/

lemma num_add : num w (x + y) = num w x + num w y := BitVec.ofInt_add ..

lemma num_sub : num w (x - y) = num w x - num w y := by
  have h : num w x = num w (x - y) + num w y := by rw [← num_add, sub_add_cancel]
  rw [h, BitVec.add_sub_cancel]

lemma num_add_ofNat (n : ℕ) : num w x + BitVec.ofNat w n = num w (x + n) := by
  rw [num_add]
  congr 1

lemma num_add_one : num w x + 1 = num w (x + 1) := num_add_ofNat 1

/-- The comparisons can tell how `x` and `y` lie. -/
def Near (w : ℕ) (x y : ℤ) : Prop := -2 ^ w ≤ 2 * (x - y) ∧ 2 * (x - y) < 2 ^ w

lemma toInt_num_sub (h : Near w x y) : (num w x - num w y).toInt = x - y := by
  rw [← num_sub, num, BitVec.toInt_ofInt]
  refine Int.bmod_eq_of_le_mul_two ?_ ?_ <;> push_cast
  · linarith [h.1]
  · linarith [h.2]

/-! ## Comparing -/

lemma leq_num (h : Near w x y) : Leq (num w x) (num w y) ↔ x ≤ y := by
  rw [Leq, toInt_num_sub h, sub_nonpos]

lemma geq_num (h : Near w x y) : Geq (num w x) (num w y) ↔ y ≤ x := by
  rw [Geq, toInt_num_sub h, ge_iff_le, sub_nonneg]

lemma between_num (hy : Near w x y) (hz : Near w x z) :
    Between (num w x) (num w y) (num w z) ↔ y ≤ x ∧ x ≤ z := by
  rw [Between, geq_num hy, leq_num hz]

lemma num_inj (h : Near w x y) : num w x = num w y ↔ x = y := by
  constructor
  · intro he
    have := toInt_num_sub h
    rw [he, BitVec.sub_self, BitVec.toInt_zero] at this
    linarith
  · rintro rfl
    rfl

end Library.Serial

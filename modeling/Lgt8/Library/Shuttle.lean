import Mathlib.Tactic

/-!
# A shuttle between two ends

A shuttle runs on the integer line: its first leg ends at `out`, the next at `inn`, then at `out`
again, and so on.  `Shuttle.Step` is all it may do: stay, go one place toward the end of its leg, or
start the next leg — which it may only do at the end of the present one.  So along a sequence of
such steps the ends are reached strictly in turn, no leg is cut short and none is overrun; in
particular `out` comes first (**`Step.first_leg`**).
-/

namespace Library

structure Shuttle where
  place : ℤ
  /-- The number of legs completed. -/
  leg : ℕ

namespace Shuttle

variable {out inn : ℤ}

/-- The end of leg `n`. -/
def goal (out inn : ℤ) (n : ℕ) : ℤ := if n % 2 = 0 then out else inn

inductive Step (out inn : ℤ) : Shuttle → Shuttle → Prop
  | stay (s : Shuttle) : Step out inn s s
  | go (s : Shuttle) (h : s.place ≠ goal out inn s.leg) :
      Step out inn s { s with place := s.place + (goal out inn s.leg - s.place).sign }
  | turn (s : Shuttle) (h : s.place = goal out inn s.leg) :
      Step out inn s { s with leg := s.leg + 1 }

lemma goal_eq (out inn : ℤ) (n : ℕ) : goal out inn n = out ∨ goal out inn n = inn := by
  rw [goal]
  split
  · exact Or.inl rfl
  · exact Or.inr rfl

/-- Two legs in a row end at different ends. -/
lemma goal_succ_ne (h : out ≠ inn) (n : ℕ) : goal out inn (n + 1) ≠ goal out inn n := by
  rw [goal, goal]
  split_ifs
  · omega
  · exact h
  · exact h.symm
  · omega

/-- Each of the two ends is that of leg `n` or of the leg after it. -/
lemma eq_goal (n : ℕ) {x : ℤ} (hx : x = out ∨ x = inn) :
    x = goal out inn n ∨ x = goal out inn (n + 1) := by
  rw [goal, goal]
  rcases Nat.mod_two_eq_zero_or_one n with h | h
  · have : (n + 1) % 2 ≠ 0 := by omega
    rw [if_pos h, if_neg this]
    exact hx
  · have : (n + 1) % 2 = 0 := by omega
    rw [if_neg (by omega), if_pos this]
    exact hx.symm

/-- **The first leg is not skipped**: until the shuttle has been at `out` it comes no further away
from it. -/
lemma Step.first_leg {s t : Shuttle} (h : Step out inn s t) (h0 : s.leg = 0)
    (hne : s.place ≠ out) :
    t.leg = 0 ∧ (t.place - out).natAbs ≤ (s.place - out).natAbs := by
  have hgoal : goal out inn s.leg = out := by rw [h0]; rfl
  cases h with
  | stay => exact ⟨h0, le_rfl⟩
  | go _ =>
      refine ⟨h0, ?_⟩
      show (s.place + (goal out inn s.leg - s.place).sign - out).natAbs ≤ _
      rw [hgoal]
      rcases lt_or_gt_of_ne hne with hlt | hgt
      · rw [Int.sign_eq_one_of_pos (by omega)]
        omega
      · rw [Int.sign_eq_neg_one_of_neg (by omega)]
        omega
  | turn h => exact absurd (h.trans hgoal) hne

end Shuttle

end Library

import Mathlib.Tactic

/-!
# Writing a run of cells on a tape

A tape is a function on `ℤ`.  `paint` is the loop that writes one value into `n` consecutive
cells, walking in a direction `d`; `paint_apply` is its closed form, and `paint_eq_self_iff` says
when it changes nothing.  `towards` is the walk from one cell to another.  Nothing here depends on
what the cells mean.
-/

namespace Library

variable {β : Type*}

/-- Write `v` into `n` cells, starting at `p` and walking by `d`. -/
def paint (d : ℤ) (v : β) : ℕ → ℤ → (ℤ → β) → ℤ → β
  | 0, _, tape => tape
  | n + 1, p, tape => paint d v n (p + d) (Function.update tape p v)

/-- The cells such a walk visits, in order. -/
def walk (d : ℤ) : ℕ → ℤ → List ℤ
  | 0, _ => []
  | n + 1, p => p :: walk d n (p + d)

lemma mem_walk {d : ℤ} : ∀ {n : ℕ} {p i : ℤ}, i ∈ walk d n p ↔ ∃ k : ℕ, k < n ∧ i = p + k * d
  | 0, p, i => by simp [walk]
  | n + 1, p, i => by
      rw [walk, List.mem_cons, mem_walk]
      constructor
      · rintro (rfl | ⟨k, hk, rfl⟩)
        · exact ⟨0, by omega, by simp⟩
        · exact ⟨k + 1, by omega, by push_cast; ring⟩
      · rintro ⟨k, hk, rfl⟩
        cases k with
        | zero => exact Or.inl (by simp)
        | succ k => exact Or.inr ⟨k, by omega, by push_cast; ring⟩

@[simp] lemma length_walk (d : ℤ) : ∀ (n : ℕ) (p : ℤ), (walk d n p).length = n
  | 0, _ => rfl
  | n + 1, p => by rw [walk, List.length_cons, length_walk]

/-- The cells from `p` towards `q`, without `q`. -/
def towards (p q : ℤ) : List ℤ := walk (q - p).sign (q - p).natAbs p

lemma length_towards (p q : ℤ) : (towards p q).length = (q - p).natAbs := length_walk _ _ _

/-- They are the cells between the two. -/
lemma mem_towards {p q i : ℤ} : i ∈ towards p q ↔ p ≤ i ∧ i < q ∨ q < i ∧ i ≤ p := by
  rw [towards, mem_walk]
  rcases lt_trichotomy (q - p) 0 with h | h | h
  · rw [Int.sign_eq_neg_one_of_neg h]
    constructor
    · rintro ⟨k, hk, rfl⟩
      omega
    · intro hi
      exact ⟨(p - i).toNat, by omega, by omega⟩
  · rw [h]
    constructor
    · rintro ⟨k, hk, rfl⟩
      exact absurd hk (Nat.not_lt_zero k)
    · omega
  · rw [Int.sign_eq_one_of_pos h]
    constructor
    · rintro ⟨k, hk, rfl⟩
      omega
    · intro hi
      exact ⟨(i - p).toNat, by omega, by omega⟩

/-- **What painting does**: the visited cells hold the value, the others keep theirs. -/
theorem paint_apply {d : ℤ} {v : β} : ∀ {n : ℕ} {p : ℤ} {tape : ℤ → β} {i : ℤ},
    paint d v n p tape i = if i ∈ walk d n p then v else tape i
  | 0, p, tape, i => by simp [paint, walk]
  | n + 1, p, tape, i => by
      rw [paint, paint_apply, walk]
      by_cases hi : i ∈ walk d n (p + d)
      · simp [hi]
      · by_cases hp : i = p <;> simp [hi, hp]

lemma paint_of_visited {d : ℤ} {v : β} {n : ℕ} {p : ℤ} {tape : ℤ → β} {k : ℕ} (hk : k < n) :
    paint d v n p tape (p + k * d) = v := by
  rw [paint_apply, if_pos (mem_walk.mpr ⟨k, hk, rfl⟩)]

/-- Painting changes nothing exactly if the cells it visits hold the value already. -/
theorem paint_eq_self_iff {d : ℤ} {v : β} {n : ℕ} {p : ℤ} {tape : ℤ → β} :
    paint d v n p tape = tape ↔ ∀ k : ℕ, k < n → tape (p + k * d) = v := by
  constructor
  · intro h k hk
    rw [← h, paint_of_visited hk]
  · intro h
    funext i
    rw [paint_apply]
    split
    · next hi =>
        obtain ⟨k, hk, rfl⟩ := mem_walk.mp hi
        exact (h k hk).symm
    · rfl

end Library

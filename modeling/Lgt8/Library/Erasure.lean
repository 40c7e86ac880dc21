import Mathlib.Tactic

/-!
# Erasing while iterating

A loop counts an index up over a list and erases the elements that equal `a`.  What follows an
erased element moves to the index just visited, and is never looked at.

* `eraseFrom` — the loop.
* `eraseSkipping` — what it does, by recursion on the list; `eraseFrom_eq`.
* **`eraseSkipping_eq_filter_iff`** — it erases every `a` exactly if no two neighbours equal `a`.
-/

namespace Library

variable {α : Type*} [DecidableEq α]

/-- `for (; i < size; ++i) if (xs[i] == a) erase(i);` -/
def eraseFrom (a : α) (xs : List α) (i : ℕ) : List α :=
  if h : i < xs.length then
    if xs[i] = a then eraseFrom a (xs.eraseIdx i) (i + 1)
    else eraseFrom a xs (i + 1)
  else xs
termination_by xs.length - i
decreasing_by
  · rw [List.length_eraseIdx_of_lt h]
    omega
  · omega

/-- The element behind an erased one stays, whatever it is. -/
def eraseSkipping (a : α) : List α → List α
  | [] => []
  | [x] => if x = a then [] else [x]
  | x :: y :: xs =>
      if x = a then y :: eraseSkipping a xs else x :: eraseSkipping a (y :: xs)

lemma eraseSkipping_cons_self (a : α) (xs : List α) :
    eraseSkipping a (a :: xs) = xs.take 1 ++ eraseSkipping a (xs.drop 1) := by
  cases xs with
  | nil => rw [eraseSkipping, if_pos rfl]; rfl
  | cons y ys => rw [eraseSkipping, if_pos rfl]; rfl

lemma eraseSkipping_cons_ne {a x : α} (h : x ≠ a) (xs : List α) :
    eraseSkipping a (x :: xs) = x :: eraseSkipping a xs := by
  cases xs with
  | nil => simp [eraseSkipping, h]
  | cons y ys => rw [eraseSkipping, if_neg h]

/-- The loop, from where it stands on. -/
lemma eraseFrom_append (a : α) (done rest : List α) :
    eraseFrom a (done ++ rest) done.length = done ++ eraseSkipping a rest := by
  induction h : rest.length using Nat.strong_induction_on generalizing done rest with
  | _ n ih =>
      rw [eraseFrom]
      cases rest with
      | nil => rw [dif_neg (by simp)]; rfl
      | cons x rest =>
          rw [dif_pos (by simp), List.getElem_append_right le_rfl]
          simp only [Nat.sub_self, List.getElem_cons_zero]
          subst h
          by_cases hx : x = a
          · subst hx
            rw [if_pos rfl, List.eraseIdx_append_of_length_le le_rfl, Nat.sub_self,
              List.eraseIdx_cons_zero, eraseSkipping_cons_self]
            cases rest with
            | nil =>
                -- the erased element was the last one
                rw [eraseFrom, dif_neg (by simp)]
                rfl
            | cons y rest =>
                have hnext := ih rest.length (by simp) (done ++ [y]) rest rfl
                simpa using hnext
          · have hnext := ih rest.length (by simp) (done ++ [x]) rest rfl
            rw [if_neg hx, eraseSkipping_cons_ne hx]
            simpa using hnext

/-- **What the loop does.** -/
theorem eraseFrom_eq (a : α) (xs : List α) : eraseFrom a xs 0 = eraseSkipping a xs :=
  eraseFrom_append a [] xs

/-! ## When it erases every one -/

/-- No two neighbours equal `a`. -/
def Apart (a : α) (xs : List α) : Prop := xs.IsChain fun x y => ¬ (x = a ∧ y = a)

omit [DecidableEq α] in
lemma apart_cons_ne {a x : α} (h : x ≠ a) (xs : List α) : Apart a (x :: xs) ↔ Apart a xs := by
  cases xs with
  | nil => simp [Apart]
  | cons y ys => simp [Apart, h]

/-- It erases nothing else. -/
lemma filter_eraseSkipping (a : α) (xs : List α) :
    (eraseSkipping a xs).filter (· ≠ a) = xs.filter (· ≠ a) := by
  induction xs using eraseSkipping.induct a with
  | case1 => rfl
  | case2 => simp [eraseSkipping]
  | case3 x hx => simp [eraseSkipping, hx]
  | case4 y xs ih =>
      rw [eraseSkipping_cons_self, List.filter_append, List.filter_cons_of_neg (by simp)]
      simp only [List.take_succ_cons, List.take_zero, List.drop_succ_cons, List.drop_zero]
      rw [ih, ← List.filter_append]
      rfl
  | case5 x y xs hx ih =>
      rw [eraseSkipping_cons_ne hx, List.filter_cons_of_pos (by simpa using hx),
        List.filter_cons_of_pos (by simpa using hx), ih]

lemma mem_eraseSkipping_of_ne {a b : α} (h : b ≠ a) (xs : List α) :
    b ∈ eraseSkipping a xs ↔ b ∈ xs := by
  have hmem : b ∈ (eraseSkipping a xs).filter (· ≠ a) ↔ b ∈ xs.filter (· ≠ a) := by
    rw [filter_eraseSkipping]
  simpa [h] using hmem

lemma length_eraseSkipping_le (a : α) (xs : List α) :
    (eraseSkipping a xs).length ≤ xs.length := by
  induction xs using eraseSkipping.induct a with
  | case1 => exact le_rfl
  | case2 => simp [eraseSkipping]
  | case3 x hx => simp [eraseSkipping, hx]
  | case4 y xs ih =>
      rw [eraseSkipping, if_pos rfl]
      simp only [List.length_cons]
      omega
  | case5 x y xs hx ih =>
      rw [eraseSkipping_cons_ne hx]
      simp only [List.length_cons] at ih ⊢
      omega

/-- If there is one it erases one. -/
lemma eraseSkipping_eq_self_iff (a : α) (xs : List α) :
    eraseSkipping a xs = xs ↔ a ∉ xs := by
  induction xs with
  | nil => simp [eraseSkipping]
  | cons x xs ih =>
      by_cases hx : x = a
      · subst hx
        refine iff_of_false (fun h => ?_) (by simp)
        have hlen := congrArg List.length h
        rw [eraseSkipping_cons_self, List.length_append, List.length_take, List.length_cons] at hlen
        have hle := length_eraseSkipping_le x (xs.drop 1)
        rw [List.length_drop] at hle
        omega
      · rw [eraseSkipping_cons_ne hx]
        simp [Ne.symm hx, ih]

/-- **When it erases every one.** -/
theorem eraseSkipping_eq_filter_iff (a : α) (xs : List α) :
    eraseSkipping a xs = xs.filter (· ≠ a) ↔ Apart a xs := by
  induction xs using eraseSkipping.induct a with
  | case1 => simp [eraseSkipping, Apart]
  | case2 => simp [eraseSkipping, Apart]
  | case3 x hx => simp [eraseSkipping, Apart, hx]
  | case4 y xs ih =>
      rw [eraseSkipping_cons_self]
      by_cases hy : y = a
      · subst hy
        have hleft : y ∉ (y :: y :: xs).filter (· ≠ y) := by simp
        have hright : ¬ Apart y (y :: y :: xs) := by simp [Apart]
        refine iff_of_false (fun h => hleft ?_) hright
        rw [← h]
        simp
      · have hback : Apart a (a :: y :: xs) ↔ Apart a (y :: xs) := by simp [Apart, hy]
        rw [hback, apart_cons_ne hy, ← ih]
        simp [hy]
  | case5 x y xs hx ih =>
      rw [eraseSkipping_cons_ne hx, apart_cons_ne hx, ← ih]
      simp [hx]

end Library

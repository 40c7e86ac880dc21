import Mathlib.Tactic

/-!
# Records kept as separated texts

A record of fixed-width fields lies in an array, field by field, and is read by splitting it at a
separator.

* `map_range_mul` — an array of `n` fields of `k` cells, field by field.
* `map_range_getD` — the first cells of an array that holds a list.
* `foldl_range_all`, `foldl_range_keep` — a loop that sets one field at each turn.
* `foldl_track` — two loops that stay in a relation.
* `splitOn_terminated` — a text of fields, each closed by the separator, and a last one.
* `length_splitOn` — there is one field more than there are separators.
* `count_fields` — how many separators `n` fields of at most one each contain.
-/

namespace Library

variable {α β : Type*}

/-- A row of `n * k` cells is `n` rows of `k`. -/
lemma map_range_mul (f : ℕ → α) (n k : ℕ) :
    (List.range (n * k)).map f
      = (List.range n).flatMap fun i => (List.range k).map fun j => f (k * i + j) := by
  induction n with
  | zero => simp
  | succ n ih =>
      rw [Nat.succ_mul, List.range_add, List.map_append, ih, List.range_succ,
        List.flatMap_append, List.flatMap_singleton, List.map_map, Nat.mul_comm n k]
      rfl

lemma map_range_add (f : ℕ → α) (n k : ℕ) :
    (List.range (n + k)).map f
      = (List.range n).map f ++ (List.range k).map fun j => f (n + j) := by
  rw [List.range_add, List.map_append, List.map_map]
  rfl

/-- Reading the first `n` cells of an array that holds a list. -/
lemma map_range_getD {l : List α} {n : ℕ} (d : α) (h : n ≤ l.length) :
    ((List.range n).map fun i => l.getD i d) = l.take n := by
  refine List.ext_getElem (by simp [h]) fun i h1 h2 => ?_
  have hi : i < l.length := by
    rw [List.length_take] at h2
    omega
  rw [List.getElem_map, List.getElem_range, List.getElem_take, List.getD_eq_getElem?_getD,
    List.getElem?_eq_getElem hi, Option.getD_some]

/-- When turn `i` of a loop sets field `i` and no turn undoes a field, the loop sets them all. -/
lemma foldl_range_all {f : β → ℕ → β} {P : ℕ → β → Prop} {n : ℕ}
    (hset : ∀ b i, i < n → P i (f b i)) (hkeep : ∀ b i j, i < n → j < n → P j b → P j (f b i))
    (b : β) : ∀ j < n, P j ((List.range n).foldl f b) := by
  have hprefix : ∀ m ≤ n, ∀ j < m, P j ((List.range m).foldl f b) := by
    intro m
    induction m with
    | zero => intro _ j hj; exact absurd hj (Nat.not_lt_zero j)
    | succ m ih =>
        intro hm j hj
        rw [List.range_succ, List.foldl_append, List.foldl_cons, List.foldl_nil]
        rcases Nat.lt_succ_iff_lt_or_eq.mp hj with h | h
        · exact hkeep _ m j (by omega) (by omega) (ih (by omega) j h)
        · subst h
          exact hset _ j (by omega)
  exact hprefix n le_rfl

/-- What every turn of a loop keeps, the loop keeps. -/
lemma foldl_range_keep {f : β → ℕ → β} {I : β → Prop} {n : ℕ}
    (hkeep : ∀ b i, i < n → I b → I (f b i)) {b : β} (hb : I b) : I ((List.range n).foldl f b) :=
  List.foldlRecOn _ f hb fun b hb i hi => hkeep b i (List.mem_range.mp hi) hb

/-- Two loops over the same list stay in a relation that each turn keeps. -/
lemma foldl_track {γ : Type*} {f : β → α → β} {g : γ → α → γ} (R : β → γ → Prop)
    (hstep : ∀ b c a, R b c → R (f b a) (g c a)) :
    ∀ (l : List α) {b : β} {c : γ}, R b c → R (l.foldl f b) (l.foldl g c)
  | [], _, _, h => h
  | a :: l, _, _, h => foldl_track R hstep l (hstep _ _ a h)

variable [DecidableEq α]

/-- Fields closed by the separator, and a last one that is not. -/
lemma splitOn_terminated {x : α} {l : List α} (hl : x ∉ l) :
    ∀ {ls : List (List α)}, (∀ m ∈ ls, x ∉ m) →
      ((ls.flatMap fun m => m ++ [x]) ++ l).splitOn x = ls ++ [l]
  | [], _ => List.splitOn_eq_singleton hl
  | m :: ls, h => by
      rw [List.flatMap_cons, List.append_assoc, List.append_assoc, List.singleton_append,
        List.splitOn_append_cons_self_of_not_mem (h m List.mem_cons_self),
        splitOn_terminated hl fun n hn => h n (List.mem_cons_of_mem _ hn), List.cons_append]

/-- There is one field more than there are separators. -/
lemma length_splitOn (x : α) (l : List α) : (l.splitOn x).length = l.count x + 1 := by
  induction l with
  | nil => rfl
  | cons a l ih =>
      rw [List.splitOn_cons_eq_if_modifyHead, List.count_cons]
      split
      · rw [List.length_cons, ih]
      · rw [List.length_modifyHead, ih, Nat.add_zero]

/-- Where a field has the separator exactly if `p` holds, and then once. -/
lemma count_fields {x : α} {p : β → Prop} [DecidablePred p] {f : β → List α} :
    ∀ {bs : List β}, (∀ b ∈ bs, (f b).count x = if p b then 1 else 0) →
      (bs.flatMap f).count x = bs.countP fun b => p b
  | [], _ => rfl
  | b :: bs, h => by
      rw [List.flatMap_cons, List.count_append, h b List.mem_cons_self,
        count_fields fun c hc => h c (List.mem_cons_of_mem _ hc), List.countP_cons, Nat.add_comm]
      simp

end Library

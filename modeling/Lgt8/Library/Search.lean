import Mathlib.Tactic

/-!
# Searching a list for a piece of it

`search tok bs` is where `tok` first occurs in `bs`.

* **`search_eq_some_iff`** — what is in front of the first occurrence, and what behind.
* `search_append` — what is behind an occurrence does not matter.
* `search_eq_none_iff`, `search_isSome_iff` — whether there is one.
-/

namespace Library

variable {α : Type*} [DecidableEq α] {tok bs cs : List α} {a : α} {k : ℕ}

/-- Where `tok` first occurs. -/
def search (tok : List α) : List α → Option ℕ
  | [] => if tok = [] then some 0 else none
  | b :: bs => if tok <+: b :: bs then some 0 else (search tok bs).map (· + 1)

lemma search_isSome_iff : (search tok bs).isSome ↔ tok <:+: bs := by
  induction bs with
  | nil =>
      rw [search, List.infix_nil]
      split <;> simp [*]
  | cons b bs ih =>
      rw [search, List.infix_cons_iff, ← ih]
      split <;> simp [*]

lemma search_eq_none_iff : search tok bs = none ↔ ¬ tok <:+: bs := by
  rw [← search_isSome_iff, Option.not_isSome_iff_eq_none]

/-- The first occurrence, with what is in front of it and behind. -/
theorem search_eq_some_iff : search tok bs = some k ↔
    ∃ pre post, bs = pre ++ tok ++ post ∧ pre.length = k ∧ ∀ j < k, ¬ tok <+: bs.drop j := by
  induction bs generalizing k with
  | nil =>
      rw [search]
      constructor
      · intro h
        split at h
        · next htok =>
            cases h
            exact ⟨[], [], by simp [htok], rfl, nofun⟩
        · cases h
      · rintro ⟨pre, post, h, rfl, -⟩
        have hnil : pre = [] ∧ tok = [] ∧ post = [] := by simpa using h.symm
        rw [if_pos hnil.2.1, hnil.1]
        rfl
  | cons b bs ih =>
      rw [search]
      by_cases hb : tok <+: b :: bs
      · rw [if_pos hb]
        constructor
        · intro h
          cases h
          obtain ⟨post, hpost⟩ := hb
          exact ⟨[], post, hpost.symm, rfl, nofun⟩
        · rintro ⟨pre, post, -, rfl, hfirst⟩
          cases pre with
          | nil => rfl
          | cons c pre => exact absurd hb (hfirst 0 (Nat.succ_pos _))
      · rw [if_neg hb, Option.map_eq_some_iff]
        constructor
        · rintro ⟨j, hj, rfl⟩
          obtain ⟨pre, post, rfl, rfl, hfirst⟩ := ih.mp hj
          refine ⟨b :: pre, post, rfl, rfl, fun i hi => ?_⟩
          cases i with
          | zero => exact hb
          | succ i => exact hfirst i (Nat.lt_of_succ_lt_succ hi)
        · rintro ⟨pre, post, hpre, rfl, hfirst⟩
          cases pre with
          | nil => exact absurd ⟨post, hpre.symm⟩ hb
          | cons c pre =>
              obtain ⟨rfl, rfl⟩ := List.cons.inj hpre
              exact ⟨pre.length, ih.mpr ⟨pre, post, rfl, rfl, fun i hi =>
                hfirst (i + 1) (Nat.succ_lt_succ hi)⟩, rfl⟩

lemma search_le (h : search tok bs = some k) : k + tok.length ≤ bs.length := by
  obtain ⟨pre, post, rfl, rfl, -⟩ := search_eq_some_iff.mp h
  simp

/-- What is behind the first occurrence does not matter. -/
lemma search_append (h : search tok bs = some k) (cs : List α) : search tok (bs ++ cs) = some k := by
  have hle := search_le h
  obtain ⟨pre, post, hbs, hpre, hfirst⟩ := search_eq_some_iff.mp h
  refine search_eq_some_iff.mpr ⟨pre, post ++ cs, by rw [hbs, List.append_assoc], hpre, ?_⟩
  intro j hj hpref
  refine hfirst j hj ?_
  rw [List.drop_append_of_le_length (by omega)] at hpref
  refine List.prefix_of_prefix_length_le hpref (List.prefix_append _ _) ?_
  rw [List.length_drop]
  omega

/-- A piece occurs nowhere in front of where its first element occurs. -/
lemma search_of_not_mem (h : a ∉ bs) :
    search (a :: tok) (bs ++ (a :: tok) ++ cs) = some bs.length := by
  refine search_eq_some_iff.mpr ⟨bs, cs, rfl, rfl, fun j hj hpref => h ?_⟩
  rw [List.append_assoc, List.drop_append_of_le_length hj.le] at hpref
  obtain ⟨b, bs', hdrop⟩ := List.exists_cons_of_ne_nil (l := bs.drop j) (by simpa using hj)
  rw [hdrop] at hpref
  obtain ⟨post, hpost⟩ := hpref
  obtain ⟨rfl, -⟩ := List.cons.inj hpost
  exact List.mem_of_mem_drop (hdrop ▸ List.mem_cons_self ..)

end Library

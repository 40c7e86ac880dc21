import Mathlib.Tactic
import Lgt8.Library.Layout

/-!
# Structures in memory

A C structure is a stretch of memory with fields in it that do not overlap.  `Record.get` and
`Record.set` read and write a field of the structure at an address.

* `get_set_self`, `get_set_of_ne`, `get_set_of_apart` — what is read after a write: the value, if it
  fits the field, and elsewhere what was there.
* `set_of_outside`, `get_congr` — the bytes a write touches, and the bytes a read depends on.
* `set_comm_of_ne`, `set_comm_of_apart` — writes of different fields in either order.
-/

namespace Library

/-- Where the fields of a structure lie. -/
structure Record (ι : Type*) where
  off : ι → ℕ
  width : ι → ℕ
  size : ℕ
  inside : ∀ f, off f + width f ≤ size
  apart : ∀ f g, f ≠ g → off f + width f ≤ off g ∨ off g + width g ≤ off f

namespace Record

variable {ι : Type*} {r : Record ι} {f g : ι} {a b v : ℕ} {m m' : Memory}

/-- The field `f` of the structure at `a`. -/
def get (r : Record ι) (f : ι) (a : ℕ) (m : Memory) : ℕ :=
  leNat (m.load (a + r.off f) (r.width f))

def set (r : Record ι) (f : ι) (a v : ℕ) (m : Memory) : Memory :=
  m.store (a + r.off f) (leBytes (r.width f) v)

lemma get_set_self (h : v < 256 ^ r.width f) : r.get f a (r.set f a v m) = v := by
  have hload : (r.set f a v m).load (a + r.off f) (r.width f) = leBytes (r.width f) v := by
    have hstore : (r.set f a v m).load (a + r.off f) (leBytes (r.width f) (v : ℤ)).length
        = leBytes (r.width f) v := Memory.load_store
    rwa [length_leBytes] at hstore
  have hz : ((leNat (leBytes (r.width f) v) : ℕ) : ℤ) = (v : ℤ) := by
    rw [leNat_leBytes, Int.emod_eq_of_lt (Int.natCast_nonneg v) (by exact_mod_cast h)]
  rw [get, hload]
  exact_mod_cast hz

lemma get_set_of_ne (h : f ≠ g) : r.get f a (r.set g a v m) = r.get f a m := by
  rw [get, set, Memory.load_store_of_disjoint]
  · rfl
  · rw [length_leBytes]
    rcases r.apart f g h with h | h
    · exact Or.inl (by omega)
    · exact Or.inr (by omega)

lemma set_of_outside {i : ℕ} (h : i < a ∨ a + r.size ≤ i) : r.set f a v m i = m i := by
  have hin := r.inside f
  rcases h with h | h
  · exact Memory.store_of_lt (by omega)
  · exact Memory.store_of_le (by rw [length_leBytes]; omega)

lemma get_congr (h : ∀ i, a ≤ i → i < a + r.size → m' i = m i) : r.get f a m' = r.get f a m := by
  have hin := r.inside f
  have hload : m'.load (a + r.off f) (r.width f) = m.load (a + r.off f) (r.width f) := by
    refine List.map_congr_left fun k hk => h _ (by omega) ?_
    have := List.mem_range.mp hk
    omega
  rw [get, hload, get]

lemma get_set_of_apart (h : a + r.size ≤ b ∨ b + r.size ≤ a) :
    r.get f a (r.set g b v m) = r.get f a m := by
  refine get_congr fun i hi hi' => set_of_outside ?_
  omega

private lemma store_comm {src src' : List UInt8}
    (h : a + src.length ≤ b ∨ b + src'.length ≤ a) :
    (m.store b src').store a src = (m.store a src).store b src' := by
  funext i
  by_cases hi : a ≤ i ∧ i < a + src.length
  · have hi' : ¬ (b ≤ i ∧ i < b + src'.length) := by omega
    simp only [Memory.store, if_pos hi, if_neg hi']
  · simp only [Memory.store, if_neg hi]

/-- Two fields may be written in either order. -/
lemma set_comm_of_ne {w : ℕ} (h : f ≠ g) :
    r.set f a v (r.set g a w m) = r.set g a w (r.set f a v m) := by
  refine store_comm ?_
  simp only [length_leBytes]
  rcases r.apart f g h with h | h
  · exact Or.inl (by omega)
  · exact Or.inr (by omega)

lemma set_comm_of_apart {w : ℕ} (h : a + r.size ≤ b ∨ b + r.size ≤ a) :
    r.set f a v (r.set g b w m) = r.set g b w (r.set f a v m) := by
  have hf := r.inside f
  have hg := r.inside g
  refine store_comm ?_
  simp only [length_leBytes]
  omega

end Record

end Library

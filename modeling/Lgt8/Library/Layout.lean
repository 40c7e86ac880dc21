import Mathlib.Tactic
import Lgt8.Library.Word

/-!
# Objects in memory

Memory is a function from addresses to bytes.  `Memory.store` and `Memory.load` copy stretches of it,
`leBytes` is an integer as a little-endian machine stores it, and `offset` is where a C compiler puts
a field of a class: each field at the next multiple of its alignment behind the one declared before
it.

* `leNat_leBytes` — reading an integer back gives it modulo the width it was stored in.
* **`store_frame_iff`** — a store changes nothing but its first byte exactly if the bytes behind it
  were there already.
-/

namespace Library

/-- Memory, byte by byte. -/
abbrev Memory := ℕ → UInt8

namespace Memory

def store (a : ℕ) (src : List UInt8) (m : Memory) : Memory := fun i =>
  if a ≤ i ∧ i < a + src.length then src.getD (i - a) 0 else m i

def load (a n : ℕ) (m : Memory) : List UInt8 := (List.range n).map fun k => m (a + k)

variable {a n : ℕ} {src : List UInt8} {m : Memory}

lemma store_of_lt {i : ℕ} (h : i < a) : store a src m i = m i := if_neg (by omega)

lemma store_of_le {i : ℕ} (h : a + src.length ≤ i) : store a src m i = m i := if_neg (by omega)

lemma store_apply {k : ℕ} (hk : k < src.length) : store a src m (a + k) = src[k] := by
  rw [store, if_pos (by omega), Nat.add_sub_cancel_left, List.getElem_eq_getD 0]

@[simp] lemma length_load : (m.load a n).length = n := by simp [load]

lemma load_cons : m.load a (n + 1) = m a :: m.load (a + 1) n := by
  rw [load, List.range_succ_eq_map, List.map_cons, List.map_map]
  refine congrArg₂ _ rfl (List.map_congr_left fun k _ => ?_)
  show m (a + (k + 1)) = m (a + 1 + k)
  rw [Nat.add_comm k 1, Nat.add_assoc]

lemma load_eq_iff : m.load a src.length = src ↔ ∀ k (hk : k < src.length), m (a + k) = src[k] := by
  constructor
  · intro h k hk
    have hget := List.getElem_of_eq h (by simpa using hk)
    simpa [load] using hget
  · intro h
    refine List.ext_getElem (by simp) fun k hk hk' => ?_
    simpa [load] using h k hk'

/-- What was stored is what is loaded. -/
lemma load_store : (m.store a src).load a src.length = src :=
  load_eq_iff.mpr fun _ hk => store_apply hk

/-- A store elsewhere does not matter. -/
lemma load_store_of_disjoint {b : ℕ} (h : b + n ≤ a ∨ a + src.length ≤ b) :
    (m.store a src).load b n = m.load b n := by
  refine List.map_congr_left fun k hk => ?_
  have hkn := List.mem_range.mp hk
  rcases h with h | h
  · exact store_of_lt (by omega)
  · exact store_of_le (by omega)

/-- **A store changes nothing but its first byte** exactly if the others were there already. -/
theorem store_frame_iff {b : UInt8} {bs : List UInt8} :
    (∀ i, i ≠ a → m.store a (b :: bs) i = m i) ↔ m.load (a + 1) bs.length = bs := by
  rw [load_eq_iff]
  constructor
  · intro h k hk
    have hk' : k + 1 < (b :: bs).length := Nat.succ_lt_succ hk
    have hstore := store_apply (a := a) (m := m) hk'
    rw [h (a + (k + 1)) (by omega)] at hstore
    rw [Nat.add_assoc, Nat.add_comm 1 k, hstore]
    rfl
  · intro h i hi
    by_cases hin : a < i ∧ i < a + (b :: bs).length
    · obtain ⟨k, rfl⟩ : ∃ k, i = a + (k + 1) := ⟨i - a - 1, by omega⟩
      have hk : k < bs.length := by
        have := hin.2
        rw [List.length_cons] at this
        omega
      rw [store_apply (Nat.succ_lt_succ hk), List.getElem_cons_succ, ← h k hk, Nat.add_assoc,
        Nat.add_comm 1 k]
    · rcases Nat.lt_or_ge i a with hlt | hge
      · exact store_of_lt hlt
      · exact store_of_le (by omega)

end Memory

/-! ## Integers -/

/-- The low `n` bytes of an integer, the lowest first. -/
def leBytes : ℕ → ℤ → List UInt8
  | 0, _ => []
  | n + 1, v => uint8 v :: leBytes n (v / 256)

/-- The number such bytes stand for. -/
def leNat : List UInt8 → ℕ
  | [] => 0
  | b :: bs => b.toNat + 256 * leNat bs

@[simp] lemma length_leBytes (n : ℕ) (v : ℤ) : (leBytes n v).length = n := by
  induction n generalizing v with
  | zero => rfl
  | succ n ih => rw [leBytes, List.length_cons, ih]

/-- The low byte of a remainder, and the others. -/
lemma emod_byte (v : ℤ) {m : ℤ} (hm : 0 < m) : v % (256 * m) = v % 256 + 256 * (v / 256 % m) := by
  have hlow := Int.emod_add_mul_ediv v 256
  have hhigh := Int.emod_add_mul_ediv (v / 256) m
  have hlow0 : 0 ≤ v % 256 := Int.emod_nonneg _ (by decide)
  have hlow1 : v % 256 < 256 := Int.emod_lt_of_pos _ (by decide)
  have hhigh0 := Int.emod_nonneg (v / 256) hm.ne'
  have hhigh1 := Int.emod_lt_of_pos (v / 256) hm
  have hv : v = v % 256 + 256 * (v / 256 % m) + 256 * m * (v / 256 / m) := by
    linear_combination -hlow - 256 * hhigh
  conv_lhs => rw [hv]
  rw [Int.add_mul_emod_self_left]
  exact Int.emod_eq_of_lt (by omega) (by omega)

/-- **Reading an integer back.** -/
theorem leNat_leBytes (n : ℕ) (v : ℤ) : (leNat (leBytes n v) : ℤ) = v % 256 ^ n := by
  induction n generalizing v with
  | zero => simp [leBytes, leNat]
  | succ n ih =>
      rw [leBytes, leNat, Nat.cast_add, toNat_uint8_emod, Nat.cast_mul, ih, pow_succ',
        emod_byte v (by positivity)]
      rfl

/-! ## Fields -/

structure CType where
  size : ℕ
  align : ℕ

namespace CType

def byte : CType := ⟨1, 1⟩

def word : CType := ⟨4, 4⟩

def double : CType := ⟨8, 8⟩

def array (n : ℕ) (t : CType) : CType := ⟨n * t.size, t.align⟩

end CType

/-- The next multiple of `align`. -/
def alignUp (align n : ℕ) : ℕ := (n + align - 1) / align * align

/-- Where the field `f` lies, if `n` bytes come before the fields declared in this order. -/
def offset {ι : Type*} [DecidableEq ι] (ctype : ι → CType) (f : ι) : ℕ → List ι → ℕ
  | n, [] => n
  | n, g :: gs =>
      let here := alignUp (ctype g).align n
      if g = f then here else offset ctype f (here + (ctype g).size) gs

end Library

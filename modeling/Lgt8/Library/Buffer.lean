import Mathlib.Tactic

/-!
# A buffer that records its accesses

Code that is handed a bare pointer knows no length.  `Buffer` is the memory behind such a pointer
together with the offsets read and written through it so far, so that how far a routine reaches is
something to compute: `Within n` says that all of it lies in the first `n` bytes, and there is one
lemma for each way to access the buffer.
-/

namespace Library

structure Buffer where
  mem : ℕ → UInt8
  /-- The offsets accessed, latest first. -/
  accessed : List ℕ

namespace Buffer

/-- A buffer nobody has accessed. -/
def fresh (mem : ℕ → UInt8) : Buffer := ⟨mem, []⟩

/-- Read one byte. -/
def read (i : ℕ) (b : Buffer) : UInt8 × Buffer := (b.mem i, { b with accessed := i :: b.accessed })

/-- `memcpy` of `n` bytes from offset `i` on. -/
def load (i n : ℕ) (b : Buffer) : List UInt8 × Buffer :=
  ((List.range n).map fun k => b.mem (i + k),
    { b with accessed := (List.range n).map (i + ·) ++ b.accessed })

/-- `memcpy` of `src` to offset `i`. -/
def store (i : ℕ) (src : List UInt8) (b : Buffer) : Buffer where
  mem j := if i ≤ j ∧ j < i + src.length then src.getD (j - i) 0 else b.mem j
  accessed := (List.range src.length).map (i + ·) ++ b.accessed

/-- Everything accessed lies in the first `n` bytes. -/
def Within (n : ℕ) (b : Buffer) : Prop := ∀ i ∈ b.accessed, i < n

lemma within_fresh (n : ℕ) (mem : ℕ → UInt8) : (fresh mem).Within n := nofun

lemma within_read {n i : ℕ} {b : Buffer} : (b.read i).2.Within n ↔ i < n ∧ b.Within n :=
  List.forall_mem_cons

/-- A stretch of `k` bytes from offset `i` on. -/
lemma forall_stretch {n i k : ℕ} (hk : 0 < k) :
    (∀ j ∈ (List.range k).map (i + ·), j < n) ↔ i + k ≤ n := by
  constructor
  · intro h
    have hlast := h (i + (k - 1)) (List.mem_map.mpr ⟨k - 1, List.mem_range.mpr (by omega), rfl⟩)
    omega
  · intro h j hj
    obtain ⟨d, hd, rfl⟩ := List.mem_map.mp hj
    have := List.mem_range.mp hd
    omega

lemma within_load {n i k : ℕ} {b : Buffer} (hk : 0 < k) :
    (b.load i k).2.Within n ↔ i + k ≤ n ∧ b.Within n :=
  List.forall_mem_append.trans (and_congr_left fun _ => forall_stretch hk)

lemma within_store {n i : ℕ} {src : List UInt8} {b : Buffer} (hs : src ≠ []) :
    (b.store i src).Within n ↔ i + src.length ≤ n ∧ b.Within n :=
  List.forall_mem_append.trans
    (and_congr_left fun _ => forall_stretch (List.length_pos_iff.mpr hs))

end Buffer

end Library

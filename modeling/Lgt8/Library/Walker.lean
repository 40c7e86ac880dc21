import Mathlib.Tactic

/-!
# A walker on a line of pending cells

A walker stands on a cell of the integer line, faces one way and knows which cells are *pending*.
From a pending cell it may advance: the cell stops being pending and the walker moves one cell on.
From any cell it may also stay.  It is at rest when its cell is not pending.

This is the abstract content of any device that executes a plan laid out in space rather than in a
queue.  Two facts about it are proved once here:

* **`Walker.Walk.spec`** — what any number of steps does: the walker went `k` cells on, all of which
  were pending and no longer are, and nothing else changed.
* **`Walker.Fenced.step`**, **`Walker.Fenced.plan`** — containment: if an end cell of an interval is
  pending only while the walker stands on it facing inward, no step leaves the interval, and every
  plan whose target lies inside keeps it so — whatever older plans are still lying about.
-/

namespace Library

structure Walker where
  head : ℤ
  /-- The direction faced, `1` or `-1`. -/
  dir : ℤ
  pending : Set ℤ

namespace Walker

/-- The cell is finished: it is no longer pending and the walker stands on the next one. -/
def advance (w : Walker) : Walker :=
  { w with head := w.head + w.dir, pending := w.pending \ {w.head} }

lemma advance_head (w : Walker) : w.advance.head = w.head + w.dir := rfl

lemma advance_dir (w : Walker) : w.advance.dir = w.dir := rfl

/-- One step: stay, or advance from a pending cell. -/
inductive Step : Walker → Walker → Prop
  | stay (w : Walker) : Step w w
  | advance (w : Walker) (h : w.head ∈ w.pending) : Step w w.advance

/-- Nothing is pending under the walker. -/
def AtRest (w : Walker) : Prop := w.head ∉ w.pending

/-- Face `d` and make `n` cells pending, from the walker's own on. -/
def plan (d : ℤ) (n : ℕ) (w : Walker) : Walker :=
  { w with dir := d, pending := w.pending ∪ {i | ∃ k : ℕ, k < n ∧ i = w.head + k * d} }

/-! ## Walks -/

/-- Any number of steps. -/
abbrev Walk : Walker → Walker → Prop := Relation.ReflTransGen Step

/-- `w'` is `w` after finishing exactly `k` cells. -/
structure Went (w w' : Walker) (k : ℕ) : Prop where
  head : w'.head = w.head + k * w.dir
  dir : w'.dir = w.dir
  pending : w'.pending = w.pending \ {i | ∃ j : ℕ, j < k ∧ i = w.head + j * w.dir}
  finished : ∀ j : ℕ, j < k → w.head + j * w.dir ∈ w.pending

lemma Went.refl (w : Walker) : Went w w 0 where
  head := by simp
  dir := rfl
  pending := by simp
  finished := by simp

/-- The walker has not been to the cells at or ahead of it, so it sees them as they were. -/
lemma Went.mem_ahead {w w' : Walker} {k : ℕ} (h : Went w w' k) (hd : w.dir ≠ 0) {j : ℕ}
    (hj : k ≤ j) : w.head + j * w.dir ∈ w'.pending ↔ w.head + j * w.dir ∈ w.pending := by
  rw [h.pending, Set.mem_sdiff, and_iff_left]
  rintro ⟨i, hi, heq⟩
  have : (j : ℤ) * w.dir = i * w.dir := by linarith
  have := mul_right_cancel₀ hd this
  omega

lemma Went.advance {w w' : Walker} {k : ℕ} (h : Went w w' k) (hd : w.dir ≠ 0)
    (hp : w'.head ∈ w'.pending) : Went w w'.advance (k + 1) where
  head := by
    rw [Walker.advance, h.head, h.dir]
    push_cast
    ring
  dir := h.dir
  pending := by
    ext i
    simp only [Walker.advance, h.pending, h.head, Set.mem_sdiff, Set.mem_singleton_iff,
      Set.mem_ofPred_eq]
    constructor
    · rintro ⟨⟨hi, hn⟩, hne⟩
      refine ⟨hi, ?_⟩
      rintro ⟨j, hj, rfl⟩
      rcases Nat.lt_succ_iff_lt_or_eq.mp hj with hlt | rfl
      · exact hn ⟨j, hlt, rfl⟩
      · exact hne rfl
    · rintro ⟨hi, hn⟩
      exact ⟨⟨hi, fun ⟨j, hj, e⟩ => hn ⟨j, by omega, e⟩⟩, fun e => hn ⟨k, by omega, e⟩⟩
  finished := by
    intro j hj
    rcases Nat.lt_succ_iff_lt_or_eq.mp hj with hlt | rfl
    · exact h.finished j hlt
    · rw [h.head] at hp
      exact (h.mem_ahead hd le_rfl).mp hp

/-- **What a walk does.** -/
theorem Walk.spec {w w' : Walker} (h : Walk w w') (hd : w.dir ≠ 0) : ∃ k, Went w w' k := by
  induction h with
  | refl => exact ⟨0, Went.refl w⟩
  | tail _ hstep ih =>
      obtain ⟨k, hk⟩ := ih
      cases hstep with
      | stay => exact ⟨k, hk⟩
      | advance hp => exact ⟨k + 1, hk.advance hd hp⟩

/-- **Where a walk comes to rest** is decided by the plan alone: after `k` finished cells it is at
rest exactly if the `k`-th cell ahead was not pending to begin with. -/
theorem Went.atRest_iff {w w' : Walker} {k : ℕ} (h : Went w w' k) (hd : w.dir ≠ 0) :
    w'.AtRest ↔ w.head + k * w.dir ∉ w.pending := by
  rw [AtRest, h.head, h.mem_ahead hd le_rfl]

/-- **The rest of a plan of `n` cells** is its end exactly if the cell behind its last is free. -/
theorem Went.rest_eq_iff {w w' : Walker} {k : ℕ} (h : Went w w' k) (hd : w.dir ≠ 0)
    (hr : w'.AtRest) {n : ℕ} (hn : ∀ j : ℕ, j < n → w.head + j * w.dir ∈ w.pending) :
    k = n ↔ w.head + n * w.dir ∉ w.pending := by
  rw [h.atRest_iff hd] at hr
  constructor
  · rintro rfl
    exact hr
  · intro hfree
    rcases lt_trichotomy k n with hlt | rfl | hlt
    · exact absurd (hn k hlt) hr
    · rfl
    · exact absurd (h.finished n hlt) hfree

/-! ## Containment -/

/-- The walker is inside `[lo, hi]`, and an end cell is pending only under a walker that faces
inward. -/
structure Fenced (lo hi : ℤ) (w : Walker) : Prop where
  lower : lo ≤ w.head
  upper : w.head ≤ hi
  atLower : lo ∈ w.pending → w.head = lo ∧ w.dir = 1
  atUpper : hi ∈ w.pending → w.head = hi ∧ w.dir = -1

lemma Fenced.of_no_pending {lo hi : ℤ} {w : Walker} (hlo : lo ≤ w.head) (hhi : w.head ≤ hi)
    (h : ∀ i, lo ≤ i → i ≤ hi → i ∉ w.pending) : Fenced lo hi w where
  lower := hlo
  upper := hhi
  atLower hp := absurd hp (h lo le_rfl (by omega))
  atUpper hp := absurd hp (h hi (by omega) le_rfl)

/-- Fewer pending cells are no harm. -/
lemma Fenced.mono {lo hi : ℤ} {w w' : Walker} (h : Fenced lo hi w) (hh : w'.head = w.head)
    (hd : w'.dir = w.dir) (hp : w'.pending ⊆ w.pending) : Fenced lo hi w' where
  lower := hh ▸ h.lower
  upper := hh ▸ h.upper
  atLower hm := by rw [hh, hd]; exact h.atLower (hp hm)
  atUpper hm := by rw [hh, hd]; exact h.atUpper (hp hm)

/-- No step leaves the fence. -/
theorem Fenced.step {lo hi : ℤ} {w w' : Walker} (hd : w.dir = 1 ∨ w.dir = -1)
    (h : Fenced lo hi w) (hs : Step w w') : Fenced lo hi w' := by
  cases hs with
  | stay => exact h
  | advance hp =>
      have hne_lo : lo ∈ w.pending \ {w.head} → False := by
        rintro ⟨hm, hn⟩
        exact hn (h.atLower hm).1.symm
      have hne_hi : hi ∈ w.pending \ {w.head} → False := by
        rintro ⟨hm, hn⟩
        exact hn (h.atUpper hm).1.symm
      refine ⟨?_, ?_, fun hm => (hne_lo hm).elim, fun hm => (hne_hi hm).elim⟩
      · -- stepping down from the lower end would need the end cell pending and a walker facing out
        show lo ≤ w.head + w.dir
        have := h.lower
        rcases hd with hd | hd
        · omega
        · by_cases he : w.head = lo
          · have := (h.atLower (he ▸ hp)).2
            omega
          · omega
      · show w.head + w.dir ≤ hi
        have := h.upper
        rcases hd with hd | hd
        · by_cases he : w.head = hi
          · have := (h.atUpper (he ▸ hp)).2
            omega
          · omega
        · omega

/-- The cells between the walker and the end it faces. -/
def room (lo hi : ℤ) (w : Walker) : ℕ := (if w.dir = 1 then hi - w.head else w.head - lo).toNat

/-- An advance inside the fence takes one cell of the room away. -/
lemma Fenced.room_advance {lo hi : ℤ} {w : Walker} (hd : w.dir = 1 ∨ w.dir = -1)
    (h : Fenced lo hi w.advance) : room lo hi w.advance < room lo hi w := by
  have hlo := h.lower
  have hhi := h.upper
  rw [advance_head] at hlo hhi
  rw [room, room, advance_dir, advance_head]
  rcases hd with hd | hd
  · rw [if_pos hd, if_pos hd]
    omega
  · rw [if_neg (by omega), if_neg (by omega)]
    omega

/-- Turning the walker keeps the fence, unless it stands on a pending end cell and turns outward. -/
theorem Fenced.turn {lo hi : ℤ} {w : Walker} (h : Fenced lo hi w) {d : ℤ}
    (hlo : w.head = lo → lo ∈ w.pending → d = 1)
    (hhi : w.head = hi → hi ∈ w.pending → d = -1) : Fenced lo hi { w with dir := d } where
  lower := h.lower
  upper := h.upper
  atLower hp := ⟨(h.atLower hp).1, hlo (h.atLower hp).1 hp⟩
  atUpper hp := ⟨(h.atUpper hp).1, hhi (h.atUpper hp).1 hp⟩

/-- **Every plan whose target lies inside the fence keeps it**, whatever is pending already. -/
theorem Fenced.plan {lo hi : ℤ} {w : Walker} (h : Fenced lo hi w) {d : ℤ} {n : ℕ}
    (hd : d = 1 ∨ d = -1) (hn : n ≠ 0) (hlo : lo ≤ w.head + n * d) (hhi : w.head + n * d ≤ hi) :
    Fenced lo hi (w.plan d n) where
  lower := h.lower
  upper := h.upper
  atLower := by
    rintro (hp | ⟨k, hk, he⟩)
    · refine ⟨(h.atLower hp).1, hd.resolve_right ?_⟩
      rintro rfl
      have := (h.atLower hp).1
      omega
    · have := h.lower
      rcases hd with rfl | rfl
      · exact ⟨by show w.head = lo; omega, rfl⟩
      · omega
  atUpper := by
    rintro (hp | ⟨k, hk, he⟩)
    · refine ⟨(h.atUpper hp).1, hd.resolve_left ?_⟩
      rintro rfl
      have := (h.atUpper hp).1
      omega
    · have := h.upper
      rcases hd with rfl | rfl
      · omega
      · exact ⟨by show w.head = hi; omega, rfl⟩

end Walker

end Library

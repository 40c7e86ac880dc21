import Mathlib.Tactic
import Lgt8.Library.Walker
import Lgt8.Sweep.Effects

/-!
# The carriage as a walker

The carriage is a walker on the line of map cells: `walker` reads the object as one.  A tick is a
step of it (`Ticked.step`), and on a pending cell the ticks are a countdown to the next advance
(`Ticked.progress`).  A move is a plan of it (`slid_walker`).
-/

namespace Lgt8.Sweep

open Library

/-- The carriage: the cell under the pointer, the direction the pointer moves in, and the cells
that hold a delay. -/
def walker (sw : Sweep) : Walker where
  head := sw.sweepmapptr
  dir := stride sw.outdir
  pending := {i | sw.sweepmap i ≠ 255}

lemma walker_dir_cases (sw : Sweep) : sw.walker.dir = 1 ∨ sw.walker.dir = -1 :=
  stride_cases sw.outdir

lemma walker_dir_ne_zero (sw : Sweep) : sw.walker.dir ≠ 0 := by
  rcases walker_dir_cases sw with h | h <;> rw [h] <;> decide

lemma atRest_iff (sw : Sweep) : sw.walker.AtRest ↔ sw.current = 255 := by
  show ¬ (sw.sweepmap sw.sweepmapptr ≠ 255) ↔ _
  rw [not_not]
  rfl

lemma SameCarriage.walker {sw sw' : Sweep} (h : SameCarriage sw sw') : sw'.walker = sw.walker := by
  simp only [Sweep.walker, h.sweepmapptr, h.outdir, h.sweepmap]

lemma SameCarriage.current {sw sw' : Sweep} (h : SameCarriage sw sw') :
    sw'.current = sw.current := by
  rw [Sweep.current, h.sweepmap, h.sweepmapptr, Sweep.current]

/-! ## A tick is a step -/

/-- A cell rewritten with a delay stays pending. -/
lemma pending_update {sw : Sweep} {v : UInt8} (hc : sw.current ≠ 255) (hv : v ≠ 255) :
    {i | Function.update sw.sweepmap sw.sweepmapptr v i ≠ 255} = {i | sw.sweepmap i ≠ 255} := by
  ext i
  by_cases hi : i = sw.sweepmapptr
  · subst hi
    simp only [Function.update_self, Set.mem_ofPred_eq]
    exact ⟨fun _ => hc, fun _ => hv⟩
  · simp [hi]

lemma latched_ne {sw : Sweep} (hc : sw.current ≠ 255) (hg : sw.pulsegap ≠ 255) :
    sw.latched ≠ 255 := by
  rw [latched]
  split
  · exact hc
  · exact hg

lemma counted_walker {sw : Sweep} (hc : sw.current ≠ 255) (h0 : sw.current ≠ 0) :
    sw.counted.walker = sw.walker := by
  simp only [counted, walker, pending_update hc (pred_ne_max h0)]

lemma dropped_walker {sw : Sweep} (hc : sw.current ≠ 255) (hg : sw.pulsegap ≠ 255) :
    sw.dropped.walker = sw.walker := by
  simp only [dropped, walker, pending_update hc (latched_ne hc hg)]

lemma raised_walker (sw : Sweep) : sw.raised.walker = sw.walker.advance := by
  have hp : {i | Function.update sw.sweepmap sw.sweepmapptr 255 i ≠ 255}
      = {i | sw.sweepmap i ≠ 255} \ {sw.sweepmapptr} := by
    ext i
    by_cases hi : i = sw.sweepmapptr <;> simp [hi]
  simp only [raised, walker, Walker.advance, hp]

lemma ne_max_of_eq_zero {v : UInt8} (h : v = 0) : v ≠ 255 := h ▸ zero_ne_max

namespace Ticked

variable {sw sw' : Sweep}

/-- The latched delay is never 255, as it is only ever copied from a cell that is not. -/
lemma gap (h : Ticked sw sw') (hg : sw.pulsegap ≠ 255) : sw'.pulsegap ≠ 255 := by
  cases h with
  | off _ h => exact h.pulsegap ▸ hg
  | rest _ _ h => exact h.pulsegap ▸ zero_ne_max
  | count _ hc _ h => exact h ▸ latched_ne hc hg
  | drop _ h0 _ h => exact h.pulsegap ▸ latched_ne (ne_max_of_eq_zero h0) hg
  | raise _ _ _ h => exact h.pulsegap ▸ zero_ne_max

/-- **A tick is a step of the walker.** -/
theorem step (h : Ticked sw sw') (hg : sw.pulsegap ≠ 255) :
    Walker.Step sw.walker sw'.walker := by
  cases h with
  | off _ h => exact h.walker ▸ .stay _
  | rest _ _ h => exact h.walker ▸ .stay _
  | count _ hc h0 h => exact h ▸ counted_walker hc h0 ▸ .stay _
  | drop _ h0 _ h =>
      rw [h.walker, dropped_walker (ne_max_of_eq_zero h0) hg]
      exact .stay _
  | raise _ h0 _ h =>
      rw [h.walker, raised_walker]
      exact .advance _ (ne_max_of_eq_zero h0)

end Ticked

/-- More than the ticks left on the current cell: the half with the pulse high comes first, and
either half counts a byte down. -/
def countdown (sw : Sweep) : ℕ := (if sw.pulse then 256 else 0) + sw.current.toNat

lemma SameCarriage.countdown {sw sw' : Sweep} (h : SameCarriage sw sw') :
    sw'.countdown = sw.countdown := by
  rw [Sweep.countdown, h.pulse, h.current, Sweep.countdown]

lemma countdown_lt (sw : Sweep) : sw.countdown < 512 := by
  have := sw.current.toNat_lt
  rw [countdown]
  split <;> omega

lemma counted_countdown {sw : Sweep} (h0 : sw.current ≠ 0) :
    sw.counted.countdown < sw.countdown := by
  have hc : sw.counted.current = sw.current - 1 := Function.update_self _ _ _
  have hp : sw.counted.pulse = sw.pulse := rfl
  have := toNat_pred h0
  rw [countdown, countdown, hc, hp]
  omega

lemma dropped_countdown {sw : Sweep} (hp : sw.pulse = true) :
    sw.dropped.countdown < sw.countdown := by
  have hc : sw.dropped.current = sw.latched := Function.update_self _ _ _
  have hlow : sw.dropped.pulse = false := rfl
  have := sw.latched.toNat_lt
  rw [countdown, countdown, hc, hlow, hp, if_pos rfl, if_neg (by decide)]
  omega

/-- **A tick on a pending cell** counts down, or finishes the cell and advances. -/
theorem Ticked.progress {sw sw' : Sweep} (h : Ticked sw sw') (he : sw.enable = true)
    (hc : sw.current ≠ 255) (hg : sw.pulsegap ≠ 255) :
    sw'.enable = true ∧
    ((sw'.walker = sw.walker ∧ sw'.countdown < sw.countdown) ∨
      sw'.walker = sw.walker.advance) := by
  cases h with
  | off hoff _ => rw [he] at hoff; cases hoff
  | rest _ hrest _ => exact absurd hrest hc
  | count _ _ h0 h =>
      rw [h]
      exact ⟨he, Or.inl ⟨counted_walker hc h0, counted_countdown h0⟩⟩
  | drop _ _ hp h =>
      refine ⟨h.enable ▸ he, Or.inl ⟨?_, ?_⟩⟩
      · rw [h.walker, dropped_walker hc hg]
      · rw [h.countdown]
        exact dropped_countdown hp
  | raise _ _ _ h => exact ⟨h.enable ▸ he, Or.inr (by rw [h.walker, raised_walker])⟩

/-- Only ticks of an enabled driver do anything to the plan. -/
lemma Ticked.enable {sw sw' : Sweep} (h : Ticked sw sw') : sw'.enable = sw.enable := by
  cases h with
  | off _ h => exact h.enable
  | rest _ _ h => exact h.enable
  | count _ _ _ h => rw [h]; rfl
  | drop _ _ _ h => exact h.enable
  | raise _ _ _ h => exact h.enable

/-- Only a tick at rest queues an event. -/
lemma Ticked.events_of_moving {sw sw' : Sweep} (h : Ticked sw sw') (he : sw.enable = true)
    (hc : sw.current ≠ 255) : sw'.events = sw.events := by
  cases h with
  | off hoff _ => rw [he] at hoff; cases hoff
  | rest _ hrest _ => exact absurd hrest hc
  | count _ _ _ h => rw [h]; rfl
  | drop _ _ _ h => exact h.events
  | raise _ _ _ h => exact h.events

/-- A carriage at rest stays at rest. -/
lemma Ticked.current_rest {sw sw' : Sweep} (h : Ticked sw sw') (hc : sw.current = 255) :
    sw'.current = 255 := by
  cases h with
  | off _ h => exact h.current.trans hc
  | rest _ _ h => exact h.current.trans hc
  | count _ hn _ _ => exact absurd hc hn
  | drop _ h0 _ _ => exact absurd hc (ne_max_of_eq_zero h0)
  | raise _ h0 _ _ => exact absurd hc (ne_max_of_eq_zero h0)

/-! ## A move is a plan -/

lemma paint_pending_subset (d : ℤ) (v : UInt8) (n : ℕ) (p : ℤ) (map : ℤ → UInt8) :
    {i | paint d v n p map i ≠ 255}
      ⊆ {i | map i ≠ 255} ∪ {i | ∃ k : ℕ, k < n ∧ i = p + k * d} := by
  intro i hi
  by_cases hw : i ∈ walk d n p
  · exact Or.inr (mem_walk.mp hw)
  · refine Or.inl ?_
    simpa [paint_apply, hw] using hi

lemma paint_pending {d : ℤ} {v : UInt8} (hv : v ≠ 255) (n : ℕ) (p : ℤ) (map : ℤ → UInt8) :
    {i | paint d v n p map i ≠ 255}
      = {i | map i ≠ 255} ∪ {i | ∃ k : ℕ, k < n ∧ i = p + k * d} := by
  refine Set.Subset.antisymm (paint_pending_subset d v n p map) ?_
  rintro i (hi | ⟨k, hk, rfl⟩)
  · by_cases hw : i ∈ walk d n p
    · simpa [paint_apply, hw] using hv
    · simpa [paint_apply, hw] using hi
  · simpa [paint_of_visited hk] using hv

/-- **A move at a real speed is a plan of the walker.** -/
theorem slid_walker {step speed : ℤ} (hv : uint8 speed ≠ 255) (sw : Sweep) :
    (sw.slid step speed).walker
      = sw.walker.plan (stride (!decide (0 < step))) (slideCells step) := by
  simp only [slid, walker, Walker.plan, paint_pending hv]

/-- **A `Goto` at a real speed, as a plan**: the cells up to the target are pending, and the
target's own cell is pending only if it was before. -/
theorem gone_planned {sw : Sweep} (hc : sw.sweepmapptr = 4000 - sw.sweeppos) (target speed : ℤ)
    (hlo : -2147483648 < target - sw.sweeppos) (hhi : target - sw.sweeppos < 2147483648)
    (hv : uint8 speed ≠ 255) :
    (sw.gone target speed).walker.head
        + (target - sw.sweeppos).natAbs * (sw.gone target speed).walker.dir = 4000 - target ∧
    (∀ j : ℕ, j < (target - sw.sweeppos).natAbs →
      (sw.gone target speed).walker.head + j * (sw.gone target speed).walker.dir
        ∈ (sw.gone target speed).walker.pending) ∧
    (4000 - target ∈ (sw.gone target speed).walker.pending ↔ sw.sweepmap (4000 - target) ≠ 255) := by
  rw [gone, int32_of_range (by omega) hhi]
  by_cases hne : target - sw.sweeppos ≠ 0
  · rw [if_pos hne, slid_walker hv, slideCells_of_range _ hlo hhi]
    have hend := natAbs_mul_stride (target - sw.sweeppos)
    simp only [Walker.plan, walker]
    refine ⟨by rw [hend]; omega, fun j hj => Or.inr ⟨j, hj, rfl⟩, ?_⟩
    rw [Set.mem_union, or_iff_left, Set.mem_ofPred_eq]
    rintro ⟨k, hk, he⟩
    rcases stride_of_step (target - sw.sweeppos) with ⟨_, hs⟩ | ⟨_, hs⟩ <;> rw [hs] at he <;> omega
  · rw [if_neg hne]
    have hn : (target - sw.sweeppos).natAbs = 0 := by omega
    rw [hn]
    refine ⟨?_, fun j hj => absurd hj (Nat.not_lt_zero j), Iff.rfl⟩
    simp only [walker]
    omega

/-- Whatever the speed, a move keeps the fence around every interval its target lies in. -/
theorem slid_fenced {lo hi : ℤ} {step : ℤ} (speed : ℤ) {sw : Sweep}
    (h : Walker.Fenced lo hi sw.walker) (hn : slideCells step ≠ 0)
    (hlo : lo ≤ sw.sweepmapptr + slideCells step * stride (!decide (0 < step)))
    (hhi : sw.sweepmapptr + slideCells step * stride (!decide (0 < step)) ≤ hi) :
    Walker.Fenced lo hi (sw.slid step speed).walker :=
  (h.plan (stride_cases _) hn hlo hhi).mono rfl rfl (paint_pending_subset _ _ _ _ _)

end Lgt8.Sweep

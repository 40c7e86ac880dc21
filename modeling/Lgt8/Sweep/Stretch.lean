import Mathlib.Tactic
import Lgt8.Sweep.Passes

/-!
# The stretch of cells a move writes

`Goto` counts the steps from `sweeppos` to its target and writes that many cells from `sweepmapptr`
on.  The two variables agree on where the carriage is (`coupled_run`), and the direction `Goto` takes
is the one the tick handler knows, so the cells end before the target's own.  But the steps are a
difference of two `int`s, and nothing keeps the target of a command close enough for it to fit.

* `WritesUpTo` — a move writes the cells from the pointer towards its target's, that one left out.
* `gone_writes_iff` — it does, where the two agree, exactly if the difference does not overflow.
* **`goto_writes_iff`** — so it is in every state a run can reach.
* `far_target_misses` — a command whose target is too far away.
-/

namespace Lgt8.Sweep

open Library

variable {F : Type}

/-- **A move writes the steps to its target**, one cell each and in order, and touches no other. -/
structure WritesUpTo (target speed : ℤ) (sw sw' : Sweep) : Prop where
  steps : (towards sw.sweepmapptr (4000 - target)).length = (target - sw.sweeppos).natAbs
  touched : sw'.touched = (towards sw.sweepmapptr (4000 - target)).reverse ++ sw.touched
  /-- The cells from the pointer on, up to the target's and without it, hold the speed. -/
  written : ∀ i, sw'.sweepmap i =
    if sw.sweepmapptr ≤ i ∧ i < 4000 - target ∨ 4000 - target < i ∧ i ≤ sw.sweepmapptr then
      uint8 speed
    else sw.sweepmap i

/-- `Slide` takes the direction of its step count, in cells. -/
lemma stride_eq_sign {step : ℤ} (h : step ≠ 0) : stride (!decide (0 < step)) = (-step).sign := by
  rcases stride_of_step step with ⟨hpos, hs⟩ | ⟨hneg, hs⟩
  · rw [hs, Int.sign_eq_neg_one_of_neg (by omega)]
  · rw [hs, Int.sign_eq_one_of_pos (by omega)]

lemma slideCells_lt (step : ℤ) : slideCells step < 2147483648 := by
  have := int32_upper |step|
  rw [slideCells]
  omega

lemma length_gone_touched (target speed : ℤ) (sw : Sweep) :
    (sw.gone target speed).touched.length
      = slideCells (int32 (target - sw.sweeppos)) + sw.touched.length := by
  rw [gone]
  split
  · rw [slid, List.length_append, List.length_reverse, length_walk]
  · case isFalse h =>
      rw [not_not.mp h]
      exact (Nat.zero_add _).symm

/-- The cells are right as long as the number of steps is. -/
theorem gone_writes_iff {sw : Sweep} (hc : sw.sweepmapptr = 4000 - sw.sweeppos) {target : ℤ}
    (hne : target ≠ sw.sweeppos) (speed : ℤ) :
    WritesUpTo target speed sw (sw.gone target speed) ↔
      -2147483648 < target - sw.sweeppos ∧ target - sw.sweeppos < 2147483648 := by
  have hlen : (towards sw.sweepmapptr (4000 - target)).length = (target - sw.sweeppos).natAbs := by
    rw [length_towards, hc]
    omega
  constructor
  · intro h
    have hcount := congrArg List.length h.touched
    rw [length_gone_touched, List.length_append, List.length_reverse, hlen] at hcount
    have := slideCells_lt (int32 (target - sw.sweeppos))
    omega
  · rintro ⟨hlo, hhi⟩
    have hdif : int32 (target - sw.sweeppos) = target - sw.sweeppos :=
      int32_of_range hlo.le hhi
    have hstep : target - sw.sweeppos ≠ 0 := by omega
    have hrest : 4000 - target - sw.sweepmapptr = -(target - sw.sweeppos) := by omega
    have hwalk : towards sw.sweepmapptr (4000 - target)
        = walk (stride (!decide (0 < target - sw.sweeppos))) (slideCells (target - sw.sweeppos))
          sw.sweepmapptr := by
      rw [towards, hrest, stride_eq_sign hstep, slideCells_of_range _ hlo hhi, Int.natAbs_neg]
    rw [gone, hdif, if_pos hstep]
    refine ⟨hlen, ?_, fun i => ?_⟩
    · rw [hwalk, slid]
    · simp only [← mem_towards, hwalk]
      exact paint_apply

/-- **In every state a run can reach** the pointer and the position count the same rail, and a
`Goto` writes the cells up to its target's exactly if the number of steps fits an `int`. -/
theorem goto_writes_iff (raw : Sweep) (w : World F) {labels : List Label} {s : SweepCtx F}
    (hs : run step (boot raw w) labels = .ok s) :
    s.obj.sweepmapptr + s.obj.sweeppos = 4000 ∧
      ∀ target speed : ℤ, target ≠ s.obj.sweeppos →
        (WritesUpTo target speed s.obj (goto target speed s).obj ↔
          -2147483648 < target - s.obj.sweeppos ∧ target - s.obj.sweeppos < 2147483648) := by
  have hc := coupled_run raw w hs
  refine ⟨by omega, fun target speed hne => ?_⟩
  rw [goto_obj]
  exact gone_writes_iff hc hne speed

theorem goto_writes_iff_boot :
    (boot blank (.blank : World ℚ)).obj.sweepmapptr + (boot blank (.blank : World ℚ)).obj.sweeppos
        = 4000 ∧
      WritesUpTo 2500 4 (boot blank (.blank : World ℚ)).obj
        (goto 2500 4 (boot blank (.blank : World ℚ))).obj := by
  have hs : run step (boot blank (.blank : World ℚ)) [] = .ok _ := run_nil _
  obtain ⟨hc, hw⟩ := goto_writes_iff blank .blank hs
  exact ⟨hc, (hw 2500 4 (by decide)).mpr ⟨by decide, by decide⟩⟩

/-- As the first command, `SWEEP_GOTO "-2147483648 5"` sends the carriage the other way. -/
theorem far_target_misses :
    ∃ s : SweepCtx ℚ, run step (boot blank .blank) [] = .ok s ∧ s.obj.sweeppos = 2000 ∧
      ¬ WritesUpTo (-2147483648) 5 s.obj (goto (-2147483648) 5 s).obj ∧
      (goto (-2147483648) 5 s).obj.outdir = false := by
  refine ⟨_, run_nil _, rfl, fun h => ?_, ?_⟩
  · rw [goto_obj, gone_writes_iff rfl (by decide)] at h
    exact absurd h.1 (by decide)
  · rw [goto_obj]
    decide

example : sscanfInts 2 (AntaresMsg.compose Comands.sweepGoto.code 0 2 "-2147483648 5").data
    = [-2147483648, 5] := by
  decide

end Lgt8.Sweep

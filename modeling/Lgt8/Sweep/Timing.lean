import Mathlib.Tactic
import Lgt8.Sweep.Carriage

/-!
# How long a move takes

A step of the carriage is two half periods of `g + 1` ticks, the first with the pulse high and the
second with it low, and both are counted down in the map cell itself, from the delay `g` in
`pulsegap`, where zero stands for no delay latched yet.

* `Executes` — ticks after a move was planned, with the driver switched off and on in between, and
  the `Tally` of the ticks that count.
* `InMove`, **`InMove.tick`** — tick `r` of step `j`, and that a tick is followed by the next.
* **`move_exact`** — a move of `n` steps takes `2 * |n| * (g + 1)` ticks, not one less, and issues
  `|n|` low pulses of `g + 1` ticks.
-/

namespace Lgt8.Sweep

open Library

variable {F : Type}

/-- The carriage at rest on an empty map, the driver switched on or not. -/
structure Settled (sw : Sweep) : Prop where
  map : ∀ i, 0 ≤ i → i ≤ 3999 → sw.sweepmap i = 255
  pulse : sw.pulse = true
  gap : sw.pulsegap = 0
  lower : 1 ≤ sw.sweeppos
  upper : sw.sweeppos ≤ 4000
  /-- So it is in every state a run can reach (`coupled_run`). -/
  coupled : sw.sweepmapptr = 4000 - sw.sweeppos

/-! ## Executing a move -/

/-- What an observer of the pulse has counted: the ticks of an enabled driver, how long each low
pulse was, and how long the pulse has been low. -/
structure Tally where
  ticks : ℕ
  lows : List ℕ
  low : ℕ

/-- A tick from `sw` to `sw'`, which counts nothing while the driver is off. -/
def clock (sw sw' : Sweep) (b : Tally) : Tally :=
  if sw.enable then
    let low := if sw.pulse then 0 else b.low + 1
    if sw.pulse = false ∧ sw'.pulse = true then ⟨b.ticks + 1, b.lows ++ [low], 0⟩
    else ⟨b.ticks + 1, b.lows, low⟩
  else b

/-- Any ticks after `s`, with any `SWEEP_ENABLE` in between. -/
inductive Executes (s : SweepCtx F) : SweepCtx F → Tally → Prop
  | start : Executes s s ⟨0, [], 0⟩
  | tick {u : SweepCtx F} {b : Tally} (h : Executes s u b) :
      Executes s (serviceBoard u) (clock u.obj (serviceBoard u).obj b)
  | enable {u : SweepCtx F} {b : Tally} (h : Executes s u b) (on : Bool) :
      Executes s (setEnable on u) b

/-- What is left in the cell after `r` ticks of its step. -/
def left (g r : ℕ) : ℕ := if r ≤ g then g - r else 2 * g + 1 - r

/-- Tick `r` of step `j`, in a move of `m` steps by `d` from cell `p` and position `x`. -/
structure InMove (m g : ℕ) (d p x : ℤ) (j r : ℕ) (sw : Sweep) (b : Tally) : Prop where
  step_le : j ≤ m
  tick_lt : r < 2 * (g + 1)
  last : j = m → r = 0
  outdir : stride sw.outdir = d
  sweepmapptr : sw.sweepmapptr = p + j * d
  sweeppos : sw.sweeppos = x - j * d
  current : j < m → sw.current.toNat = left g r
  ahead : ∀ l : ℕ, j < l → l < m → (sw.sweepmap (p + l * d)).toNat = g
  clear : ∀ i, 0 ≤ i → i ≤ 3999 → (∀ l : ℕ, j ≤ l → l < m → i ≠ p + l * d) → sw.sweepmap i = 255
  pulse : sw.pulse = decide (r ≤ g)
  pulsegap : sw.pulsegap.toNat = if r = 0 then 0 else g
  ticks : b.ticks = j * (2 * (g + 1)) + r
  lows : b.lows = List.replicate j (g + 1)
  low : b.low = r - (g + 1)

namespace InMove

variable {m g j r : ℕ} {d p x : ℤ} {sw sw' : Sweep} {b b' : Tally}

lemma congr (h : InMove m g d p x j r sw b) (hmap : sw'.sweepmap = sw.sweepmap)
    (hptr : sw'.sweepmapptr = sw.sweepmapptr) (hpos : sw'.sweeppos = sw.sweeppos)
    (hgap : sw'.pulsegap = sw.pulsegap) (hdir : sw'.outdir = sw.outdir)
    (hpulse : sw'.pulse = sw.pulse) : InMove m g d p x j r sw' b where
  step_le := h.step_le
  tick_lt := h.tick_lt
  last := h.last
  outdir := by rw [hdir, h.outdir]
  sweepmapptr := by rw [hptr, h.sweepmapptr]
  sweeppos := by rw [hpos, h.sweeppos]
  current hj := by rw [Sweep.current, hmap, hptr]; exact h.current hj
  ahead := by rw [hmap]; exact h.ahead
  clear := by rw [hmap]; exact h.clear
  pulse := by rw [hpulse, h.pulse]
  pulsegap := by rw [hgap, h.pulsegap]
  ticks := h.ticks
  lows := h.lows
  low := h.low

lemma left_le (g r : ℕ) (hr : r < 2 * (g + 1)) : left g r ≤ g := by
  rw [left]
  split <;> omega

/-- A step of the move is a cell to work on. -/
lemma current_ne (h : InMove m g d p x j r sw b) (hj : j < m) (hg : g ≤ 254) :
    sw.current ≠ 255 := by
  intro h255
  have hc := h.current hj
  have hl := left_le g r h.tick_lt
  rw [h255] at hc
  simp at hc
  omega

/-- The delay is latched from the cell in the first tick, and kept. -/
lemma latched (h : InMove m g d p x j r sw b) (hj : j < m) : sw.latched.toNat = g := by
  have hgap := h.pulsegap
  have hc := h.current hj
  have hr := h.tick_lt
  rw [Sweep.latched]
  rw [left] at hc
  split
  · next h0 =>
      rw [h0] at hgap
      simp at hgap
      split at hc <;> omega
  · next h0 =>
      have hne : sw.pulsegap.toNat ≠ 0 := fun h => h0 (UInt8.toNat_inj.mp h)
      split at hgap <;> omega

/-- Another cell of the way is not under the pointer. -/
lemma cell_ne (h : InMove m g d p x j r sw b) (hd : d ≠ 0) {l : ℕ} (hl : l ≠ j) :
    p + l * d ≠ sw.sweepmapptr := by
  rw [h.sweepmapptr]
  intro he
  have hmul : (l : ℤ) = j := mul_right_cancel₀ hd (add_left_cancel he)
  exact hl (Nat.cast_inj.mp hmul)

/-- The cell under the pointer is rewritten, and the next tick of the step begins. -/
lemma rewrite (h : InMove m g d p x j r sw b) (hd : d ≠ 0) (hj : j < m)
    (hr : r + 1 < 2 * (g + 1)) {v : UInt8} (hv : v.toNat = left g (r + 1))
    (hmap : sw'.sweepmap = Function.update sw.sweepmap sw.sweepmapptr v)
    (hptr : sw'.sweepmapptr = sw.sweepmapptr) (hpos : sw'.sweeppos = sw.sweeppos)
    (hdir : sw'.outdir = sw.outdir) (hgap : sw'.pulsegap = sw.latched)
    (hpulse : sw'.pulse = decide (r + 1 ≤ g))
    (hb : b' = ⟨b.ticks + 1, b.lows, r + 1 - (g + 1)⟩) : InMove m g d p x j (r + 1) sw' b' where
  step_le := h.step_le
  tick_lt := hr
  last he := absurd he (Nat.ne_of_lt hj)
  outdir := by rw [hdir, h.outdir]
  sweepmapptr := by rw [hptr, h.sweepmapptr]
  sweeppos := by rw [hpos, h.sweeppos]
  current _ := by rw [Sweep.current, hmap, hptr, Function.update_self, hv]
  ahead l hl hlm := by
    rw [hmap, Function.update_of_ne (h.cell_ne hd hl.ne'), h.ahead l hl hlm]
  clear i hlo hhi hi := by
    have hne : i ≠ sw.sweepmapptr := h.sweepmapptr ▸ hi j le_rfl hj
    rw [hmap, Function.update_of_ne hne, h.clear i hlo hhi hi]
  pulse := hpulse
  pulsegap := by rw [hgap, h.latched hj, if_neg (Nat.succ_ne_zero r)]
  ticks := by rw [hb]; exact congrArg (· + 1) h.ticks
  lows := by rw [hb]; exact h.lows
  low := by rw [hb]

/-- The step is done, and the next one begins. -/
lemma finish (h : InMove m g d p x j (2 * g + 1) sw b) (hd : d ≠ 0) (hj : j < m)
    (hmap : sw'.sweepmap = Function.update sw.sweepmap sw.sweepmapptr 255)
    (hptr : sw'.sweepmapptr = sw.sweepmapptr + stride sw.outdir)
    (hpos : sw'.sweeppos = sw.sweeppos - stride sw.outdir) (hdir : sw'.outdir = sw.outdir)
    (hgap : sw'.pulsegap = 0) (hpulse : sw'.pulse = true)
    (hb : b' = ⟨b.ticks + 1, b.lows ++ [b.low + 1], 0⟩) :
    InMove m g d p x (j + 1) 0 sw' b' where
  step_le := hj
  tick_lt := by omega
  last _ := rfl
  outdir := by rw [hdir, h.outdir]
  sweepmapptr := by
    rw [hptr, h.sweepmapptr, h.outdir]
    push_cast
    ring
  sweeppos := by
    rw [hpos, h.sweeppos, h.outdir]
    push_cast
    ring
  current hlt := by
    have hnext : sw'.sweepmapptr = p + (j + 1 : ℕ) * d := by
      rw [hptr, h.sweepmapptr, h.outdir]
      push_cast
      ring
    have hne : p + (j + 1 : ℕ) * d ≠ sw.sweepmapptr := h.cell_ne hd (Nat.succ_ne_self j)
    rw [Sweep.current, hnext, hmap, Function.update_of_ne hne, h.ahead _ (Nat.lt_succ_self j) hlt]
    rfl
  ahead l hl hlm := by
    have hlt : j < l := (Nat.lt_succ_self j).trans hl
    rw [hmap, Function.update_of_ne (h.cell_ne hd hlt.ne'), h.ahead l hlt hlm]
  clear i hlo hhi hi := by
    rw [hmap]
    by_cases hcur : i = sw.sweepmapptr
    · rw [hcur, Function.update_self]
    · rw [Function.update_of_ne hcur]
      refine h.clear i hlo hhi fun l hl hlm => ?_
      rcases Nat.eq_or_lt_of_le hl with rfl | hlt
      · exact h.sweepmapptr ▸ hcur
      · exact hi l hlt hlm
  pulse := hpulse
  pulsegap := by rw [hgap]; rfl
  ticks := by
    rw [hb]
    dsimp only
    rw [h.ticks]
    ring
  lows := by
    have hlow : b.low + 1 = g + 1 := by
      rw [h.low]
      omega
    rw [hb]
    dsimp only
    rw [h.lows, hlow, List.replicate_succ']
  low := by
    rw [hb]
    exact (Nat.zero_sub _).symm

/-- A tick while the driver is off. -/
lemma idle (h : InMove m g d p x j r sw b) (ht : Ticked sw sw') (hoff : sw.enable = false) :
    InMove m g d p x j r sw' (clock sw sw' b) := by
  have hb : clock sw sw' b = b := by
    rw [clock, hoff]
    rfl
  rw [hb]
  cases ht with
  | off _ hs => exact h.congr hs.sweepmap hs.sweepmapptr hs.sweeppos hs.pulsegap hs.outdir hs.pulse
  | rest he _ _ => rw [hoff] at he; cases he
  | count he _ _ _ => rw [hoff] at he; cases he
  | drop he _ _ _ => rw [hoff] at he; cases he
  | raise he _ _ _ => rw [hoff] at he; cases he

/-- **A tick of a move** is followed by the next tick of the step, or by the next step. -/
theorem tick (h : InMove m g d p x j r sw b) (ht : Ticked sw sw') (hd : d ≠ 0) (hg : g ≤ 254)
    (hj : j < m) (hon : sw.enable = true) :
    InMove m g d p x j (r + 1) sw' (clock sw sw' b) ∨
      InMove m g d p x (j + 1) 0 sw' (clock sw sw' b) := by
  have hc := h.current hj
  have hp := h.pulse
  have hr := h.tick_lt
  have hlow := h.low
  rw [left] at hc
  cases ht with
  | off hoff _ => rw [hon] at hoff; cases hoff
  | rest _ hrest _ => exact absurd hrest (h.current_ne hj hg)
  | count _ _ h0 hs =>
      have hpred := toNat_pred h0
      -- the cell is not counted down yet, so this is the last tick of neither half
      have hne : r ≠ g ∧ r ≠ 2 * g + 1 := by
        constructor <;> rintro rfl <;> split at hc <;> omega
      refine Or.inl (h.rewrite hd hj (by omega) (v := sw.current - 1) ?_ (by rw [hs]; rfl)
        (by rw [hs]; rfl) (by rw [hs]; rfl) (by rw [hs]; rfl) (by rw [hs]; rfl) ?_ ?_)
      · rw [left]
        split at hc <;> split <;> omega
      · rw [hs]
        show sw.pulse = _
        rw [hp]
        exact decide_eq_decide.mpr (by omega)
      · have hsame : sw'.pulse = sw.pulse := by rw [hs]; rfl
        rw [clock, hon, if_pos rfl, hsame, if_neg (by rintro ⟨h1, h2⟩; rw [h1] at h2; cases h2), hp,
          hlow]
        simp only [decide_eq_true_eq]
        congr 1
        split <;> omega
  | drop _ h0 hhigh hs =>
      have hrg : r ≤ g := of_decide_eq_true (hp.symm.trans hhigh)
      have h0' : sw.current.toNat = 0 := by rw [h0]; rfl
      rw [if_pos hrg] at hc
      refine Or.inl (h.rewrite hd hj (by omega) (v := sw.latched) ?_ hs.sweepmap hs.sweepmapptr
        hs.sweeppos hs.outdir hs.pulsegap ?_ ?_)
      · rw [h.latched hj, left, if_neg (by omega)]
        omega
      · rw [hs.pulse]
        exact (decide_eq_false (by omega)).symm
      · rw [clock, hon, if_pos rfl, hhigh, if_neg (by rintro ⟨h1, -⟩; cases h1), if_pos rfl]
        congr 1
        omega
  | raise _ h0 hlowp hs =>
      have hrg : ¬ r ≤ g := of_decide_eq_false (hp.symm.trans hlowp)
      have h0' : sw.current.toNat = 0 := by rw [h0]; rfl
      rw [if_neg hrg] at hc
      obtain rfl : r = 2 * g + 1 := by omega
      refine Or.inr (h.finish hd hj hs.sweepmap hs.sweepmapptr hs.sweeppos hs.outdir hs.pulsegap
        hs.pulse ?_)
      have hhigh : sw'.pulse = true := hs.pulse
      rw [clock, hon, if_pos rfl, hlowp, hhigh, if_pos ⟨rfl, rfl⟩]
      rfl

end InMove

/-! ## From rest to rest -/

section

variable {s : SweepCtx F} {n : ℤ} {g : ℕ}

/-- The cells of a move on the rail are cells of the map. -/
lemma Settled.cell {sw : Sweep} (h : Settled sw) (hlo : 1 ≤ sw.sweeppos + n)
    (hhi : sw.sweeppos + n ≤ 4000) {l : ℕ} (hl : l < n.natAbs) :
    0 ≤ sw.sweepmapptr + l * stride (!decide (0 < n)) ∧
      sw.sweepmapptr + l * stride (!decide (0 < n)) ≤ 3999 := by
  have := h.lower
  have := h.upper
  have := h.coupled
  rcases stride_of_step n with ⟨_, hs⟩ | ⟨_, hs⟩ <;> rw [hs] <;> omega

/-- The move is planned. -/
lemma Settled.slide (h : Settled s.obj) (hn : n ≠ 0) (hlo : 1 ≤ s.obj.sweeppos + n)
    (hhi : s.obj.sweeppos + n ≤ 4000) (hg : g ≤ 254) :
    InMove n.natAbs g (stride (!decide (0 < n))) s.obj.sweepmapptr s.obj.sweeppos 0 0
      (slide n g s).obj ⟨0, [], 0⟩ := by
  have hx := h.lower
  have hx' := h.upper
  have hv : (uint8 g).toNat = g := by
    rw [toNat_uint8 (by omega) (by omega)]
    rfl
  have hcells : slideCells n = n.natAbs := slideCells_of_range n (by omega) (by omega)
  rw [slide_obj, slid, hcells]
  exact {
    step_le := Nat.zero_le _
    tick_lt := by omega
    last := fun he => absurd (Int.natAbs_eq_zero.mp he.symm) hn
    outdir := rfl
    sweepmapptr := by simp
    sweeppos := by simp
    current := fun hm => by
      have hpaint : paint (stride (!decide (0 < n))) (uint8 g) n.natAbs s.obj.sweepmapptr
          s.obj.sweepmap (s.obj.sweepmapptr + (0 : ℕ) * stride (!decide (0 < n))) = uint8 g :=
        paint_of_visited hm
      rw [Nat.cast_zero, zero_mul, add_zero] at hpaint
      exact (congrArg UInt8.toNat hpaint).trans hv
    ahead := fun l _ hl => by
      dsimp only
      rw [paint_of_visited hl, hv]
    clear := fun i hi0 hi1 hi => by
      dsimp only
      rw [paint_apply, if_neg fun hw => ?_]
      · exact h.map i hi0 hi1
      · obtain ⟨l, hl, he⟩ := mem_walk.mp hw
        exact hi l (Nat.zero_le l) hl he
    pulse := h.pulse.trans (decide_eq_true (Nat.zero_le g)).symm
    pulsegap := by
      dsimp only
      rw [h.gap]
      rfl
    ticks := by simp
    lows := rfl
    low := by simp }

/-- **Every execution** is at some tick of the move, or past it. -/
lemma Settled.executes (h : Settled s.obj) (hn : n ≠ 0) (hlo : 1 ≤ s.obj.sweeppos + n)
    (hhi : s.obj.sweeppos + n ≤ 4000) (hg : g ≤ 254) {u : SweepCtx F} {b : Tally}
    (hu : Executes (Sweep.slide n g s) u b) :
    (∃ j r, InMove n.natAbs g (stride (!decide (0 < n))) s.obj.sweepmapptr s.obj.sweeppos j r
      u.obj b) ∨ n.natAbs * (2 * (g + 1)) < b.ticks := by
  have hd : stride (!decide (0 < n)) ≠ 0 := by
    rcases stride_cases (!decide (0 < n)) with hs | hs <;> rw [hs] <;> decide
  induction hu with
  | start => exact Or.inl ⟨0, 0, h.slide hn hlo hhi hg⟩
  | @tick u b _ ih =>
      have ht := serviceBoard_ticked u
      have hmono : b.ticks ≤ (clock u.obj (serviceBoard u).obj b).ticks := by
        rw [clock]
        dsimp only
        split_ifs <;> simp
      rcases ih with ⟨j, r, hin⟩ | hpast
      · cases hon : u.obj.enable with
        | false => exact Or.inl ⟨j, r, hin.idle ht hon⟩
        | true =>
            rcases Nat.eq_or_lt_of_le hin.step_le with he | hj
            · -- the move was over
              have hticks := hin.ticks
              rw [hin.last he, he, Nat.add_zero] at hticks
              refine Or.inr ?_
              rw [← hticks, clock, hon, if_pos rfl]
              dsimp only
              split_ifs <;> exact Nat.lt_succ_self _
            · rcases hin.tick ht hd hg hj hon with hnext | hnext
              · exact Or.inl ⟨_, _, hnext⟩
              · exact Or.inl ⟨_, _, hnext⟩
      · exact Or.inr (hpast.trans_le hmono)
  | @enable u b _ on ih =>
      refine ih.imp (fun ⟨j, r, hin⟩ => ⟨j, r, ?_⟩) id
      rw [setEnable_obj]
      exact hin.congr rfl rfl rfl rfl rfl rfl

/-- **A move takes as long as it should.**  From rest, a move of `n` steps at delay `g` has the
carriage at its target after `2 * |n| * (g + 1)` ticks of an enabled driver and not before, it has
then issued `|n|` low pulses of `g + 1` ticks each, and it leaves the carriage at rest. -/
theorem move_exact (h : Settled s.obj) (hn : n ≠ 0) (hlo : 1 ≤ s.obj.sweeppos + n)
    (hhi : s.obj.sweeppos + n ≤ 4000) (hg : g ≤ 254) {u : SweepCtx F} {b : Tally}
    (hu : Executes (slide n g s) u b) :
    (b.ticks < 2 * n.natAbs * (g + 1) → u.obj.sweeppos ≠ s.obj.sweeppos + n) ∧
    (b.ticks = 2 * n.natAbs * (g + 1) →
      u.obj.sweeppos = s.obj.sweeppos + n ∧ b.lows = List.replicate n.natAbs (g + 1) ∧ b.low = 0 ∧
        Settled u.obj) := by
  have hlength : 2 * n.natAbs * (g + 1) = n.natAbs * (2 * (g + 1)) := by ring
  have hend := natAbs_mul_stride n
  rw [hlength]
  rcases h.executes hn hlo hhi hg hu with ⟨j, r, hin⟩ | hpast
  · have hticks := hin.ticks
    have hpos := hin.sweeppos
    rcases Nat.eq_or_lt_of_le hin.step_le with rfl | hj
    · -- every step is done
      have hr := hin.last rfl
      subst hr
      have harrived : u.obj.sweeppos = s.obj.sweeppos + n := by rw [hpos]; omega
      refine ⟨fun hlt => absurd hticks (by omega), fun _ => ⟨harrived, hin.lows, ?_, ?_⟩⟩
      · rw [hin.low, Nat.zero_sub]
      · refine ⟨fun i hi0 hi1 => hin.clear i hi0 hi1 fun l hl hlm => by omega, ?_, ?_, ?_, ?_, ?_⟩
        · exact hin.pulse.trans (decide_eq_true (Nat.zero_le g))
        · exact UInt8.toNat_inj.mp hin.pulsegap
        · rw [harrived]
          exact hlo
        · rw [harrived]
          exact hhi
        · rw [hin.sweepmapptr, hpos, h.coupled]
          ring
    · have hstep : (j + 1) * (2 * (g + 1)) ≤ n.natAbs * (2 * (g + 1)) := Nat.mul_le_mul_right _ hj
      have hr := hin.tick_lt
      have hlt : b.ticks < n.natAbs * (2 * (g + 1)) := by
        rw [hticks]
        rw [Nat.succ_mul] at hstep
        omega
      refine ⟨fun _ => ?_, fun he => absurd he (Nat.ne_of_lt hlt)⟩
      rw [hpos]
      rcases stride_of_step n with ⟨_, hs⟩ | ⟨_, hs⟩ <;> rw [hs] <;> omega
  · exact ⟨fun hlt => by omega, fun he => by omega⟩

end

/-- The driver at rest in the middle of the rail, switched off. -/
def parkedOff : SweepCtx ℚ where
  obj := { blank with
    sweepmap := fun _ => 255, sweepmapptr := 2000, sweeppos := 2000, pulse := true }
  world := .blank

/-- Two steps down at delay 1 take eight ticks; the two in the middle, with the driver switched off,
do not count. -/
theorem move_exact_step : ∃ u b, Executes (slide (-2) 1 parkedOff) u b ∧ b.ticks = 8 ∧
    u.obj.sweeppos = 1998 ∧ b.lows = [2, 2] ∧ b.low = 0 ∧ Settled u.obj := by
  have hoff : Executes (slide (-2) 1 parkedOff) _ _ :=
    .tick (.tick (.enable (.tick (.tick (.tick .start))) false))
  have hend := Executes.tick (.tick (.tick (.tick (.tick (hoff.enable true)))))
  refine ⟨_, _, hend, rfl, ?_⟩
  exact (move_exact (g := 1) ⟨fun _ _ _ => rfl, rfl, rfl, by decide, by decide, by decide⟩
    (by decide) (by decide) (by decide) (by decide) hend).2 rfl

end Lgt8.Sweep

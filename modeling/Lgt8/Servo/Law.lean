import Mathlib.Tactic
import Lgt8.Servo.Bounds
import Lgt8.Servo.Tick

/-!
# What the regulator asks for, by setpoint

With the gains and the transfer curve the firmware sets, and doubles as exact rationals, the
regulator's output rises with the setpoint (`output_mono`), but the curve it is sent through is a
parabola that opens downward: past its vertex the drive falls again.

* `reach` — how far from the vertex the curve is still worth a whole percent.
* `le_requested_iff`, `requested_eq_zero_iff` — the request is at least `k` percent exactly within the
  reach of `k`, and zero exactly past the reach of 1.
* **`requested_le_iff`** — so of two setpoints the larger asks for less exactly if it has gone past a
  reach the smaller is in; `standstill_overshoot` is a case at standstill.
-/

namespace Lgt8.Servo

open Library DoubleOps

/-- The request the regulator makes in place of `s`, were the setpoint `setpoint`. -/
def requested (s : ServoCtx ℚ) (setpoint : ℚ) : UInt8 :=
  (regulate { s with obj.servoSetpoint := setpoint }).2.obj.requestPwm0

/-- The regulator and the curve as the firmware sets them. -/
def tuned (s : ServoCtx ℚ) : ServoCtx ℚ := setServoTransfer (setServoPID s)

/-- A tick with an update is where the request is made, of the speed just measured. -/
lemma serviceBoard_requested {s : ServoCtx ℚ} (hdue : Due s) (hset : s.obj.servoSetpoint ≠ 0) :
    (serviceBoard s).obj.requestPwm0 = requested (measured s) s.obj.servoSetpoint := by
  have heq : DoubleOps.eq s.obj.servoSetpoint zero = false :=
    decide_eq_false (by rw [zero]; exact_mod_cast hset)
  rw [serviceBoard_of_measures hdue (Or.inr heq)]
  rfl

/-- The request depends on the measured speed, the regulator and the curve. -/
lemma requested_congr {s t : ServoCtx ℚ} (hspeed : t.obj.speed = s.obj.speed)
    (hctl : t.obj.svctl = s.obj.svctl) (hcurve : t.obj.servotransfer = s.obj.servotransfer)
    {setpoint : ℚ} (h : setpoint ≠ 0) : requested t setpoint = requested s setpoint := by
  have heq : DoubleOps.eq setpoint zero = false :=
    decide_eq_false (by rw [zero]; exact_mod_cast h)
  rw [requested, requested, regulate, regulate]
  simp only [heq, hspeed, hctl, hcurve]
  rfl

/-! ## The output -/

/-- The output for measured speed `v`, last speed `d` and integrator `i`. -/
def output (v d i setpoint : ℚ) : ℚ :=
  -(1 / 5) * (v - setpoint) - 1 / 2 * max (-300) (min 300 (i + (v - setpoint))) - 1 / 10 * (v - d)

lemma output_mono (v d i : ℚ) {s₁ s₂ : ℚ} (h : s₁ ≤ s₂) : output v d i s₁ ≤ output v d i s₂ := by
  have hclamp : max (-300) (min 300 (i + (v - s₂))) ≤ max (-300) (min 300 (i + (v - s₁))) := by
    gcongr
  rw [output, output]
  linarith

lemma lt_iff (a b : ℚ) : lt a b = true ↔ a < b := decide_eq_true_iff

lemma ite_lt_eq_min (a x : ℚ) : (if a < x then a else x) = min a x := by
  split
  · next h => rw [min_eq_left h.le]
  · next h => rw [min_eq_right (not_lt.mp h)]

lemma ite_lt_eq_max (a x : ℚ) : (if x < a then a else x) = max a x := by
  split
  · next h => rw [max_eq_left h.le]
  · next h => rw [max_eq_right (not_lt.mp h)]

/-- The integrator's clamp, in closed form. -/
lemma clamp_eq (x : ℚ) :
    (if 300 < x then 300 else if x < -300 then -300 else x) = max (-300) (min 300 x) := by
  rw [ite_lt_eq_max]
  split
  · next h => rw [min_eq_left h.le, max_eq_right (by norm_num)]
  · next h => rw [min_eq_right (not_lt.mp h)]

lemma updateServo_output (s : ServoCtx ℚ) (setpoint : ℚ) :
    (updateServo (tuned s).obj.svctl (s.obj.speed - setpoint) s.obj.speed).1
      = output s.obj.speed s.obj.svctl.dState s.obj.svctl.iState setpoint := by
  have h : (updateServo (tuned s).obj.svctl (s.obj.speed - setpoint) s.obj.speed).1
      = (-0.2) * (s.obj.speed - setpoint) + (-0.5) *
        (if ((300 : ℤ) : ℚ) < s.obj.svctl.iState + (s.obj.speed - setpoint) then ((300 : ℤ) : ℚ)
          else if s.obj.svctl.iState + (s.obj.speed - setpoint) < ((-300 : ℤ) : ℚ)
            then ((-300 : ℤ) : ℚ) else s.obj.svctl.iState + (s.obj.speed - setpoint))
        - 0.1 * (s.obj.speed - s.obj.svctl.dState) := by
    simp only [updateServo, DoubleOps.lt, decide_eq_true_eq]
    rfl
  rw [h, output, ← clamp_eq]
  push_cast
  ring

/-! ## The request -/

/-- Where the curve is highest. -/
def vertex : ℚ := 1.3861602127 / (2 * 0.0059742764)

/-- The square of the distance from the vertex at which the curve is worth `k` percent. -/
def reach (k : ℕ) : ℚ := 19.0818770428 / 0.0059742764 + vertex ^ 2 - k / 0.0059742764

/-- The drive, in percent, for an output of the regulator. -/
def percent (gamma : ℚ) : ℚ :=
  let curve := gamma * gamma * (-0.0059742764) + gamma * 1.3861602127 + 19.0818770428
  min 80 (min 100 (max 0 curve))

lemma le_percent_iff {k : ℕ} (h1 : 1 ≤ k) (h80 : k ≤ 80) (gamma : ℚ) :
    (k : ℚ) ≤ percent gamma ↔ (gamma - vertex) ^ 2 ≤ reach k := by
  have hk1 : (1 : ℚ) ≤ k := by exact_mod_cast h1
  have hk80 : (k : ℚ) ≤ 80 := by exact_mod_cast h80
  have hnot : ¬ (k : ℚ) ≤ 0 := by linarith
  have hcurve : gamma * gamma * (-0.0059742764) + gamma * 1.3861602127 + 19.0818770428 - k
      = 0.0059742764 * (reach k - (gamma - vertex) ^ 2) := by
    rw [reach, vertex]
    ring
  rw [percent, le_min_iff, le_min_iff, le_max_iff, or_iff_right hnot, and_iff_right hk80,
    and_iff_right (by linarith), ← sub_nonneg, hcurve, ← sub_nonneg (a := reach k)]
  exact mul_nonneg_iff_of_pos_left (by norm_num)

lemma percent_mem (gamma : ℚ) : percent gamma ∈ Set.Icc (0 : ℚ) 80 :=
  ⟨le_min (by norm_num) (le_min (by norm_num) (le_max_left _ _)), min_le_left _ _⟩

lemma le_toUint8_iff {q : ℚ} (hq : q ∈ Set.Icc (0 : ℚ) 80) (k : ℕ) :
    k ≤ (DoubleOps.toUint8 q).toNat ↔ (k : ℚ) ≤ q := by
  have hfloor80 : ⌊q⌋ ≤ 80 := by
    have : (⌊q⌋ : ℚ) ≤ 80 := (Int.floor_le q).trans hq.2
    exact_mod_cast this
  have htrunc : truncate q = ⌊q⌋ := if_neg (not_lt.mpr hq.1)
  have hbyte : (DoubleOps.toUint8 q).toNat = ⌊q⌋.toNat := by
    show (uint8 (truncate q)).toNat = ⌊q⌋.toNat
    rw [htrunc, toNat_uint8 (Int.floor_nonneg.mpr hq.1) (by omega)]
  rw [hbyte, Int.floor_toNat, Nat.le_floor_iff hq.1]

/-- **What the regulator requests**, in closed form. -/
theorem requested_eq (s : ServoCtx ℚ) {setpoint : ℚ} (h : setpoint ≠ 0) :
    requested (tuned s) setpoint = DoubleOps.toUint8
      (percent (output s.obj.speed s.obj.svctl.dState s.obj.svctl.iState setpoint)) := by
  have heq : DoubleOps.eq setpoint zero = false :=
    decide_eq_false (by rw [zero]; exact_mod_cast h)
  have hcurve : ∀ gamma : ℚ, (if lt (ofInt 80) (calculatePWM (tuned s).obj.servotransfer gamma)
      then ofInt 80 else calculatePWM (tuned s).obj.servotransfer gamma) = percent gamma := by
    intro gamma
    have hcalc : calculatePWM (tuned s).obj.servotransfer gamma
        = min 100 (max 0 (gamma * gamma * (-0.0059742764) + gamma * 1.3861602127
          + 19.0818770428)) := by
      rw [← ite_lt_eq_max, ← ite_lt_eq_min]
      simp only [calculatePWM, lt_iff]
      push_cast [tuned, setServoPID, setServoTransfer]
      rfl
    rw [hcalc, percent, ← ite_lt_eq_min 80]
    simp only [lt_iff]
    rfl
  have hout := updateServo_output s setpoint
  rw [requested, regulate]
  simp only [heq]
  rw [← hout, ← hcurve]
  rfl

lemma le_requested_iff (s : ServoCtx ℚ) {setpoint : ℚ} (h : setpoint ≠ 0) {k : ℕ} (h1 : 1 ≤ k)
    (h80 : k ≤ 80) : k ≤ (requested (tuned s) setpoint).toNat ↔
      (output s.obj.speed s.obj.svctl.dState s.obj.svctl.iState setpoint - vertex) ^ 2 ≤ reach k := by
  rw [requested_eq s h, le_toUint8_iff (percent_mem _), le_percent_iff h1 h80]

/-- Nothing is asked for past the reach of one percent. -/
lemma requested_eq_zero_iff (s : ServoCtx ℚ) {setpoint : ℚ} (h : setpoint ≠ 0) :
    requested (tuned s) setpoint = 0 ↔ reach 1 <
      (output s.obj.speed s.obj.svctl.dState s.obj.svctl.iState setpoint - vertex) ^ 2 := by
  rw [← not_le, ← le_requested_iff s h le_rfl (by decide), ← UInt8.toNat_inj]
  show _ = 0 ↔ _
  omega

/-- With the constants of the source a state regulates as the tuned one does. -/
lemma requested_of_tuning {s : ServoCtx ℚ} (ht : tuning s = setTuning) {setpoint : ℚ}
    (h : setpoint ≠ 0) : requested s setpoint = requested (tuned s) setpoint := by
  refine requested_congr (s := tuned s) (t := s) rfl ?_ (congrArg Tuning.servotransfer ht) h
  have hpid : s.obj.svctl = { s.obj.svctl with
      iMin := (tuning s).iMin, iMax := (tuning s).iMax, iGain := (tuning s).iGain,
      pGain := (tuning s).pGain, dGain := (tuning s).dGain } := rfl
  rw [hpid, ht]
  rfl

/-- Requests compare as the percents they are worth. -/
lemma requested_le (s : ServoCtx ℚ) {s₁ s₂ : ℚ} (h₁ : s₁ ≠ 0)
    (h : ∀ k, 1 ≤ k → k ≤ 80 → k ≤ (requested (tuned s) s₁).toNat →
      k ≤ (requested (tuned s) s₂).toNat) :
    requested (tuned s) s₁ ≤ requested (tuned s) s₂ := by
  have h80 : (requested (tuned s) s₁).toNat ≤ 80 := by
    rw [requested_eq s h₁]
    exact toUint8_le (percent_mem _).1 (percent_mem _).2
  rw [UInt8.le_iff_toNat_le]
  by_cases h0 : (requested (tuned s) s₁).toNat = 0
  · omega
  · exact h _ (by omega) h80 le_rfl

/-- **When a larger setpoint asks for no less.**  The output for the larger setpoint lies nowhere
past the vertex beyond a reach that the output for the smaller one is in. -/
theorem requested_le_iff (s : ServoCtx ℚ) {s₁ s₂ : ℚ} (h₁ : s₁ ≠ 0) (h₂ : s₂ ≠ 0) (hle : s₁ ≤ s₂) :
    requested (tuned s) s₁ ≤ requested (tuned s) s₂ ↔
      ∀ k, 1 ≤ k → k ≤ 80 →
        (output s.obj.speed s.obj.svctl.dState s.obj.svctl.iState s₁ - vertex) ^ 2 ≤ reach k →
        ¬ (vertex < output s.obj.speed s.obj.svctl.dState s.obj.svctl.iState s₂ ∧
          reach k <
            (output s.obj.speed s.obj.svctl.dState s.obj.svctl.iState s₂ - vertex) ^ 2) := by
  have hmono := output_mono s.obj.speed s.obj.svctl.dState s.obj.svctl.iState hle
  constructor
  · rintro h k h1 h80 hin ⟨-, hout⟩
    have hk := (le_requested_iff s h₁ h1 h80).mpr hin
    rw [UInt8.le_iff_toNat_le] at h
    have hk₂ := (le_requested_iff s h₂ h1 h80).mp (hk.trans h)
    exact absurd hk₂ (not_le.mpr hout)
  · intro h
    refine requested_le s h₁ fun k h1 h80 hk => ?_
    have hin := (le_requested_iff s h₁ h1 h80).mp hk
    rw [le_requested_iff s h₂ h1 h80]
    rcases le_or_gt (output s.obj.speed s.obj.svctl.dState s.obj.svctl.iState s₂) vertex
      with hleft | hpast
    · -- before the vertex the larger output is the closer one
      nlinarith
    · exact not_lt.mp fun hout => h k h1 h80 hin ⟨hpast, hout⟩

/-- The plate at rest, and nothing in the regulator. -/
def standstill : ServoCtx ℚ := ⟨blank, World.blank⟩

theorem requested_le_iff_standstill :
    requested (tuned standstill) 10 ≤ requested (tuned standstill) 20 ↔
      ∀ k, 1 ≤ k → k ≤ 80 → (output 0 0 0 10 - vertex) ^ 2 ≤ reach k →
        ¬ (vertex < output 0 0 0 20 ∧ reach k < (output 0 0 0 20 - vertex) ^ 2) :=
  requested_le_iff standstill (by norm_num) (by norm_num) (by norm_num)

lemma standstill_hundred : requested (tuned standstill) 100 = 80 := by
  decide +kernel

/-- **At standstill**, 100 revolutions per minute ask for 80 percent and 1000 for nothing. -/
theorem standstill_overshoot :
    requested (tuned standstill) 100 = 80 ∧ requested (tuned standstill) 1000 = 0 :=
  ⟨standstill_hundred, by decide +kernel⟩

end Lgt8.Servo

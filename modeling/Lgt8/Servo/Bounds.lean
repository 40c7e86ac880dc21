import Mathlib.Tactic
import Lgt8.Servo.Runs

/-!
# The servo's bounds

Whatever is commanded, the duty cycle of channel 0 stays at 80 percent or below, because `setPWM`
caps it; what the regulator requests stays there too, because it is capped once more; the integrator
is clamped to limits that nothing changes; and the speed is computed without a division by zero.
Doubles are exact rationals here.

* `regulate_request_le`, `updateServo_iState_mem`, `speedOf_checked` — one lemma for each function.
* **`igbt_protected`** — the four of them, over every run from the start.
-/

namespace Lgt8.Servo

open Library DoubleOps

/-! ## The duty cycle -/

section

variable {F : Type}

lemma capped_le (v : UInt8) : (Drive.capped v).toNat ≤ 80 := by
  rw [Drive.capped]
  split
  · decide
  · next h =>
      rw [UInt8.lt_iff_toNat_lt] at h
      exact not_lt.mp h

lemma duty_step [DoubleOps F] {s t : ServoCtx F} {l : Label} (hs : s.world.duty0.toNat ≤ 80)
    (h : step s l = .ok t) : t.world.duty0.toNat ≤ 80 := by
  rcases step_drive h with ⟨-, r, hr⟩ | ⟨m, -, hm⟩ | ⟨-, hn⟩
  · have hduty : t.world.duty0 = (drive s).nextDuty := congrArg Drive.duty hr
    rw [hduty, Drive.nextDuty]
    split
    · exact hs
    · exact capped_le _
  · have hduty : t.world.duty0 = s.world.duty0 :=
      (congrArg Drive.duty hm).trans (Drive.obey_duty _ _ _)
    rw [hduty]
    exact hs
  · have hduty : t.world.duty0 = s.world.duty0 := congrArg Drive.duty hn
    rw [hduty]
    exact hs

/-! ## The regulator's constants -/

/-- What the firmware sets once: the gains, the integrator's limits and the transfer curve. -/
structure Tuning (F : Type) where
  iMin : F
  iMax : F
  iGain : F
  pGain : F
  dGain : F
  servotransfer : Svtf F

def tuning (s : ServoCtx F) : Tuning F :=
  ⟨s.obj.svctl.iMin, s.obj.svctl.iMax, s.obj.svctl.iGain, s.obj.svctl.pGain, s.obj.svctl.dGain,
    s.obj.servotransfer⟩

lemma tuning_updatePwm (s : ServoCtx F) : tuning (updatePwm s) = tuning s := by
  rw [updatePwm]
  split <;> rfl

lemma tuning_serviceTach (tick : UInt32) (s : ServoCtx F) :
    tuning (serviceTach tick s) = tuning s := by
  rw [serviceTach]
  dsimp only
  split_ifs <;> rfl

lemma tuning_scanRequest (mes : List UInt8) (s : ServoCtx F) :
    tuning (scanRequest mes s) = tuning s := by
  rw [scanRequest]
  split <;> rfl

variable [DoubleOps F]

lemma tuning_regulate (s : ServoCtx F) : tuning (regulate s).2 = tuning s := by
  rw [regulate]
  split <;> rfl

lemma tuning_serviceBoard (s : ServoCtx F) : tuning (serviceBoard s) = tuning s := by
  rw [serviceBoard]
  dsimp only
  split
  · rw [← tuning_updatePwm s, updateSpeed]
    split
    · exact tuning_regulate _
    · rfl
  · exact tuning_updatePwm s

lemma tuning_serviceMsg (m : AntaresMsg) (s : ServoCtx F) :
    tuning (serviceMsg m s) = tuning s := by
  rw [serviceMsg]
  split_ifs
  · rw [serviceEnable]
    split
    · exact tuning_scanRequest _ _
    · rfl
  · rw [serviceSetpwm]
    split
    · exact tuning_scanRequest _ _
    · rfl
  · rw [serviceSetspeed]
    split <;> rfl
  · rfl

lemma tuning_step {s t : ServoCtx F} {l : Label} (h : step s l = .ok t) :
    tuning t = tuning s := by
  cases l with
  | tick =>
      cases h
      exact tuning_serviceBoard s
  | tach =>
      cases h
      exact tuning_serviceTach _ s
  | post m =>
      cases h
      rfl
  | push evt =>
      cases h
      rfl
  | turn =>
      cases he : s.obj.events with
      | nil =>
          rw [step, serviceFront_nil he] at h
          cases h
          rfl
      | cons e rest =>
          obtain ⟨u, hu, rfl⟩ := serviceFront_ok he h
          cases serviceEvent_serviced hu with
          | msg _ _ _ hu =>
              rw [hu]
              exact tuning_serviceMsg _ s
          | tick _ hu =>
              rw [hu, fsmTick]
              split <;> rfl
          | ignored _ hu => rw [hu]; rfl

/-- The constants of the source. -/
def setTuning : Tuning F where
  iMin := ofInt (-300)
  iMax := ofInt 300
  iGain := ofRat (-0.5)
  pGain := ofRat (-0.2)
  dGain := ofRat 0.1
  servotransfer := ⟨ofRat 19.0818770428, ofRat 1.3861602127, ofRat (-0.0059742764)⟩

lemma boot_tuning (raw : Servo F) (w : World F) : tuning (boot raw w) = setTuning := rfl

/-- **In every state a run can reach the constants are those of the start.** -/
theorem tuning_run (raw : Servo F) (w : World F) {labels : List Label} {s : ServoCtx F}
    (hs : run step (boot raw w) labels = .ok s) : tuning s = setTuning :=
  run_invariant' (I := fun s => tuning s = setTuning) (fun _ _ _ h ht => (tuning_step ht).trans h)
    (boot_tuning raw w) hs

end

/-! ## In exact arithmetic -/

/-- A rational between 0 and 80 converts to a byte that is no more than 80. -/
lemma toUint8_le {q : ℚ} (h0 : 0 ≤ q) (h80 : q ≤ 80) : (DoubleOps.toUint8 q).toNat ≤ 80 := by
  have hfloor0 : 0 ≤ ⌊q⌋ := Int.floor_nonneg.mpr h0
  have hfloor80 : ⌊q⌋ ≤ 80 := by
    have : (⌊q⌋ : ℚ) ≤ 80 := (Int.floor_le q).trans h80
    exact_mod_cast this
  have htrunc : truncate q = ⌊q⌋ := if_neg (not_lt.mpr h0)
  show (uint8 (truncate q)).toNat ≤ 80
  rw [htrunc, toNat_uint8 hfloor0 (by omega)]
  omega

/-- The transfer curve does not go below 0. -/
lemma calculatePWM_nonneg (tf : Svtf ℚ) (gamma : ℚ) : 0 ≤ calculatePWM tf gamma := by
  have hclamp : ∀ q : ℚ, 0 ≤ (if 100 < (if q < 0 then 0 else q) then 100
      else (if q < 0 then 0 else q) : ℚ) := by
    intro q
    split_ifs <;> linarith
  have h := hclamp (gamma * gamma * tf.a2 + gamma * tf.a1 + tf.a0)
  simpa [calculatePWM, DoubleOps.lt, DoubleOps.mul, DoubleOps.add, DoubleOps.ofInt, zero] using h

/-- **What the regulator requests.** -/
theorem regulate_request_le {s : ServoCtx ℚ} (h : DoubleOps.eq s.obj.servoSetpoint zero = false) :
    (regulate s).2.obj.requestPwm0.toNat ≤ 80 := by
  rw [regulate, h]
  simp only [Bool.false_eq_true, if_false]
  have hcurve := calculatePWM_nonneg s.obj.servotransfer
    (updateServo s.obj.svctl (sub s.obj.speed s.obj.servoSetpoint) s.obj.speed).1
  split
  · exact toUint8_le (by norm_num [DoubleOps.ofInt]) (by norm_num [DoubleOps.ofInt])
  · next hle =>
      refine toUint8_le hcurve ?_
      simpa [DoubleOps.lt, DoubleOps.ofInt] using hle

/-- **The integrator is clamped**, whatever it was. -/
theorem updateServo_iState_mem {pid : SPid ℚ} (h : pid.iMin ≤ pid.iMax) (error process : ℚ) :
    (updateServo pid error process).2.iState ∈ Set.Icc pid.iMin pid.iMax := by
  simp only [updateServo, DoubleOps.lt, DoubleOps.add, decide_eq_true_eq]
  split_ifs with hmax hmin
  · exact ⟨h, le_rfl⟩
  · exact ⟨le_rfl, h⟩
  · exact ⟨not_lt.mp hmin, not_lt.mp hmax⟩

/-- **No division by zero**: with checked division the speed has the value it has without. -/
theorem speedOf_checked (tachval : UInt32) :
    speedOf (F := Checked) tachval = some (speedOf (F := ℚ) tachval) := by
  rw [speedOf, speedOf]
  split
  · rfl
  · next h =>
      have hne : tachval.toNat ≠ 0 := fun h0 => h (UInt32.toNat_inj.mp h0)
      simp [DoubleOps.div, DoubleOps.mul, DoubleOps.ofInt, DoubleOps.ofRat, hne]

/-! ## Over every run -/

/-- **The four bounds**, for every run of messages, tachometer interrupts and timer ticks. -/
theorem igbt_protected (raw : Servo ℚ) (w : World ℚ) (labels : List Label) :
    AllStates step (fun s => s.world.duty0.toNat ≤ 80) (boot raw (setServoPWM w)) labels ∧
      (∀ s : ServoCtx ℚ, DoubleOps.eq s.obj.servoSetpoint zero = false →
        (regulate s).2.obj.requestPwm0.toNat ≤ 80) ∧
      AllStates step (fun s => ∀ iState error process : ℚ,
        (updateServo { s.obj.svctl with iState := iState } error process).2.iState
          ∈ Set.Icc s.obj.svctl.iMin s.obj.svctl.iMax) (boot raw (setServoPWM w)) labels ∧
      ∀ tachval : UInt32, speedOf (F := Checked) tachval = some (speedOf (F := ℚ) tachval) := by
  refine ⟨?_, fun _ => regulate_request_le, ?_, speedOf_checked⟩
  · exact allStates_of_invariant (fun _ h => h) (fun _ _ _ h ht => duty_step h ht) labels
      (show (0 : UInt8).toNat ≤ 80 by decide)
  · refine allStates_of_invariant (I := fun s => tuning s = setTuning) (fun s h => ?_)
      (fun _ _ _ h ht => (tuning_step ht).trans h) labels (boot_tuning raw _)
    have hmin : s.obj.svctl.iMin = ofInt (-300) := congrArg Tuning.iMin h
    have hmax : s.obj.svctl.iMax = ofInt 300 := congrArg Tuning.iMax h
    intro iState error process
    have hle : s.obj.svctl.iMin ≤ s.obj.svctl.iMax := by
      rw [hmin, hmax]
      norm_num [DoubleOps.ofInt]
    exact @updateServo_iState_mem { s.obj.svctl with iState := iState } hle error process

end Lgt8.Servo

import Mathlib.Tactic
import Lgt8.Servo.Runs

/-!
# One tick of the servo driver

A tick passes the request on to the channel and then counts.  Once it has counted past the period an
update is `Due` instead: the tachometer cells are added up and cleared, and if the update `Measures`,
that is, unless the sum is zero in manual mode, the speed is computed anew, the regulator runs, and
the telemetry is written.

* `serviceBoard_of_not_due`, `serviceBoard_of_not_measures`, **`serviceBoard_of_measures`** — the
  three ticks there are, each in one equation.
* `serviceBoard_eq` — a tick, whatever the regulator makes of it, and what it leaves in each field.
-/

namespace Lgt8.Servo

open Library DoubleOps

variable {F : Type}

/-- The next tick is an update. -/
def Due (s : ServoCtx F) : Prop := updatetachPeriod < s.obj.updatetachFlag

instance (s : ServoCtx F) : Decidable (Due s) := inferInstanceAs (Decidable (_ < _))

/-- What the five cells add up to. -/
def cellSum (s : ServoCtx F) : UInt32 := s.obj.tachbuffer.foldl (· + ·) 0

/-- A tick without an update. -/
lemma serviceBoard_of_not_due [DoubleOps F] {s : ServoCtx F} (h : ¬ Due s) : serviceBoard s =
    ⟨{ s.obj with presentPwm0 := s.obj.requestPwm0, updatetachFlag := s.obj.updatetachFlag + 1 },
      { s.world with duty0 := (drive s).nextDuty }⟩ := by
  rw [serviceBoard, updatePwm_eq]
  exact if_neg h

variable [DoubleOps F]

/-- An update computes the speed. -/
def Measures (s : ServoCtx F) : Prop := cellSum s ≠ 0 ∨ eq s.obj.servoSetpoint zero = false

instance (s : ServoCtx F) : Decidable (Measures s) := inferInstanceAs (Decidable (_ ∨ _))

/-- The state an update regulates in. -/
def measured (s : ServoCtx F) : ServoCtx F :=
  ⟨{ s.obj with
      presentPwm0 := s.obj.requestPwm0
      tachval := cellSum s
      tachbuffer := Vector.replicate 5 0
      updatetachFlag := 0
      speed := speedOf (cellSum s) },
    { s.world with duty0 := (drive s).nextDuty }⟩

/-- What an update reports of the regulator's output and the state after it. -/
def telemetry (r : F × ServoCtx F) : ServoCtx F :=
  let s := storeMonitorSlot .servoSpeedSlot r.2.obj.speed r.2
  let s := storeMonitorSlot .servoTorqueSlot r.1 s
  { s with obj.updatestatus := true }

omit [DoubleOps F] in
lemma sumTach_eq (s : ServoCtx F) : sumTach (updatePwm s) =
    ⟨{ s.obj with
        presentPwm0 := s.obj.requestPwm0
        tachval := cellSum s
        tachbuffer := Vector.replicate 5 0
        updatetachFlag := 0 },
      { s.world with duty0 := (drive s).nextDuty }⟩ := by
  rw [updatePwm_eq]
  rfl

/-- A tick with an update that finds nothing to measure. -/
lemma serviceBoard_of_not_measures {s : ServoCtx F} (hdue : Due s) (h : ¬ Measures s) :
    serviceBoard s = sumTach (updatePwm s) := by
  have hnot : ¬ ((sumTach (updatePwm s)).obj.tachval ≠ 0 ∨
      eq (sumTach (updatePwm s)).obj.servoSetpoint zero = false) := by
    rw [sumTach_eq]
    exact h
  have hdue' : updatetachPeriod < (updatePwm s).obj.updatetachFlag := by
    rw [updatePwm_eq]
    exact hdue
  rw [serviceBoard, if_pos hdue', updateSpeed, if_neg hnot]

/-- **A tick with an update that measures.** -/
theorem serviceBoard_of_measures {s : ServoCtx F} (hdue : Due s) (h : Measures s) :
    serviceBoard s = telemetry (regulate (measured s)) := by
  have hmeas : (sumTach (updatePwm s)).obj.tachval ≠ 0 ∨
      eq (sumTach (updatePwm s)).obj.servoSetpoint zero = false := by
    rw [sumTach_eq]
    exact h
  have hdue' : updatetachPeriod < (updatePwm s).obj.updatetachFlag := by
    rw [updatePwm_eq]
    exact hdue
  rw [serviceBoard, if_pos hdue', updateSpeed, if_pos hmeas, sumTach_eq]
  rfl

/-! ## What a tick leaves behind -/

/-- The regulator writes its own state and the request. -/
lemma regulate_eq (s : ServoCtx F) :
    ∃ c r, (regulate s).2 = { s with obj.svctl := c, obj.requestPwm0 := r } := by
  rw [regulate]
  split
  · exact ⟨_, _, rfl⟩
  · exact ⟨_, _, rfl⟩

/-- A tick, whatever the regulator makes of it. -/
lemma serviceBoard_eq (s : ServoCtx F) : ∃ c r g, serviceBoard s =
    if ¬ Due s then
      ⟨{ s.obj with presentPwm0 := s.obj.requestPwm0, updatetachFlag := s.obj.updatetachFlag + 1 },
        { s.world with duty0 := (drive s).nextDuty }⟩
    else if ¬ Measures s then sumTach (updatePwm s)
    else telemetry (g, { measured s with obj.svctl := c, obj.requestPwm0 := r }) := by
  by_cases hdue : Due s
  · by_cases hmeas : Measures s
    · obtain ⟨c, r, hreg⟩ := regulate_eq (measured s)
      refine ⟨c, r, (regulate (measured s)).1, ?_⟩
      rw [if_neg (not_not.mpr hdue), if_neg (not_not.mpr hmeas), serviceBoard_of_measures hdue hmeas,
        ← hreg]
    · refine ⟨s.obj.svctl, 0, zero, ?_⟩
      rw [if_neg (not_not.mpr hdue), if_pos hmeas, serviceBoard_of_not_measures hdue hmeas]
  · refine ⟨s.obj.svctl, 0, zero, ?_⟩
    rw [if_pos hdue, serviceBoard_of_not_due hdue]

lemma serviceBoard_tachbuffer (s : ServoCtx F) : (serviceBoard s).obj.tachbuffer
    = if Due s then Vector.replicate 5 0 else s.obj.tachbuffer := by
  obtain ⟨c, r, g, h⟩ := serviceBoard_eq s
  rw [h, sumTach_eq]
  split_ifs <;> rfl

lemma serviceBoard_updatetachFlag (s : ServoCtx F) : (serviceBoard s).obj.updatetachFlag
    = if Due s then 0 else s.obj.updatetachFlag + 1 := by
  obtain ⟨c, r, g, h⟩ := serviceBoard_eq s
  rw [h, sumTach_eq]
  split_ifs <;> rfl

lemma serviceBoard_speed (s : ServoCtx F) : (serviceBoard s).obj.speed
    = if Due s ∧ Measures s then speedOf (cellSum s) else s.obj.speed := by
  obtain ⟨c, r, g, h⟩ := serviceBoard_eq s
  rw [h, sumTach_eq]
  by_cases hdue : Due s
  · by_cases hmeas : Measures s
    · simp only [hdue, hmeas, not_true, if_false, and_self, if_true]
      rfl
    · simp only [hdue, hmeas, not_true, not_false_iff, if_false, if_true, and_false]
  · simp only [hdue, not_false_iff, if_true, false_and, if_false]

/-- The setpoint, the ring index, the last tachometer tick and the tick counter. -/
lemma serviceBoard_kept (s : ServoCtx F) :
    (serviceBoard s).obj.servoSetpoint = s.obj.servoSetpoint ∧
      (serviceBoard s).obj.tachbufferptr = s.obj.tachbufferptr ∧
      (serviceBoard s).obj.lastTach = s.obj.lastTach ∧
      (serviceBoard s).world.bspcounter = s.world.bspcounter := by
  obtain ⟨c, r, g, h⟩ := serviceBoard_eq s
  rw [h, sumTach_eq]
  split_ifs <;> exact ⟨rfl, rfl, rfl, rfl⟩

end Lgt8.Servo

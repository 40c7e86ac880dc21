import Mathlib.Tactic
import Lgt8.Firmware.Wiring
import Lgt8.Servo.Runs

/-!
# The servo drives none of the other outputs

Its pins are the two of the power stage, its flag is `SERVO_ENABLED`, and its slots are the first
two; so a tick, a tachometer interrupt or a command leaves the outputs of the sweep and the monitor
alone (`serviceBoard_offline`, `serviceTach_offline`, `serviceFront_offline`).
-/

namespace Lgt8.Servo

open Library

variable {F : Type} [DoubleOps F]

/-! ## Interrupts -/

lemma updatePwm_offline (s : ServoCtx F) : Offline s.world (updatePwm s).world := by
  rw [updatePwm]
  split
  · exact offline_setPWM 0 _ s
  · exact .refl _

omit [DoubleOps F] in
lemma serviceTach_world (tick : UInt32) (s : ServoCtx F) :
    (serviceTach tick s).world = s.world := by
  rw [serviceTach]
  dsimp only
  split_ifs <;> rfl

lemma regulate_world (s : ServoCtx F) : (regulate s).2.world = s.world := by
  rw [regulate]
  split <;> rfl

lemma updateSpeed_offline (s : ServoCtx F) : Offline s.world (updateSpeed s).world := by
  rw [updateSpeed]
  split
  · let u : ServoCtx F := { sumTach s with obj.speed := speedOf (sumTach s).obj.tachval }
    have hreg : Offline s.world (regulate u).2.world := by
      rw [regulate_world]
      exact .of_eq rfl rfl
    have hspeed := offline_storeMonitorSlot .servoSpeedSlot (regulate u).2.obj.speed (regulate u).2
    exact (hreg.trans hspeed).trans (offline_storeMonitorSlot .servoTorqueSlot (regulate u).1 _)
  · exact .refl _

/-- **A tick.** -/
theorem serviceBoard_offline (s : ServoCtx F) : Offline s.world (serviceBoard s).world := by
  rw [serviceBoard]
  dsimp only
  split
  · exact (updatePwm_offline s).trans (updateSpeed_offline _)
  · exact updatePwm_offline s

/-! ## Commands -/

omit [DoubleOps F] in
lemma scanRequest_world (mes : List UInt8) (s : ServoCtx F) :
    (scanRequest mes s).world = s.world := by
  rw [scanRequest]
  split <;> rfl

lemma drivePower_offline (b : Bool) (s : ServoCtx F) :
    Offline s.world (drivePower b s).world := by
  have hpins : ∀ f : Pins → Pins, (∀ p, (f p).stepEnable = p.stepEnable ∧ (f p).stepDir = p.stepDir ∧
      (f p).vacEnable = p.vacEnable ∧ (f p).wg2Dir = p.wg2Dir) →
      Offline s.world (setPins f s).world := by
    intro f hf
    obtain ⟨h1, h2, h3, h4⟩ := hf s.world.pins
    exact ⟨by simp [sweepWires, setPins, h1, h2], by simp [monitorWires, setPins, h3, h4], .refl⟩
  have hflag : ∀ t : ServoCtx F, Offline t.world (storeMonitorFlag .servoEnabled b t).world :=
    fun t => offline_storeMonitorFlag (by decide) b t
  cases b with
  | false =>
      exact (hpins (fun p => { p with servoClk := false, servoState := false })
        fun _ => ⟨rfl, rfl, rfl, rfl⟩).trans (hflag _)
  | true =>
      exact (hpins (fun p => { p with servoState := true })
        fun _ => ⟨rfl, rfl, rfl, rfl⟩).trans (hflag _)

lemma serviceMsg_offline (m : AntaresMsg) (s : ServoCtx F) :
    Offline s.world (serviceMsg m s).world := by
  rw [serviceMsg]
  split_ifs
  · rw [serviceEnable]
    dsimp only
    split
    · exact ((drivePower_offline true _).after (by rw [scanRequest_world]; rfl)
        (by rw [scanRequest_world]; rfl)).trans (.of_eq rfl rfl)
    · exact ((drivePower_offline false _).after rfl rfl).trans (.of_eq rfl rfl)
  · rw [serviceSetpwm]
    dsimp only
    split
    · exact .of_eq (by rw [logMessage, scanRequest_world]) (by rw [logMessage, scanRequest_world])
    · exact .of_eq rfl rfl
  · rw [serviceSetspeed]
    split
    · exact .of_eq rfl rfl
    · exact ((offline_storeMonitorSlot .servoSpeedSlot _ _).after rfl rfl).trans
        ((offline_storeMonitorSlot .servoTorqueSlot _ _).trans (.of_eq rfl rfl))
  · exact .of_eq rfl rfl

/-- **A turn of `serviceEvents`.** -/
theorem serviceFront_offline {s t : ServoCtx F} (h : serviceFront s = .ok t) :
    Offline s.world t.world := by
  cases he : s.obj.events with
  | nil =>
      rw [serviceFront_nil he] at h
      cases h
      exact .refl _
  | cons e rest =>
      obtain ⟨u, hu, rfl⟩ := serviceFront_ok he h
      cases serviceEvent_serviced hu with
      | msg _ _ _ hu =>
          rw [hu]
          exact (serviceMsg_offline _ s).trans (.of_eq rfl rfl)
      | tick _ hu =>
          rw [hu, fsmTick]
          split <;> exact .refl _
      | ignored _ hu =>
          rw [hu]
          exact .refl _

/-! ## Start -/

lemma boot_offline (raw : Servo F) (w : World F) : Offline w (boot raw w).world :=
  ⟨rfl, rfl, .refl⟩

end Lgt8.Servo

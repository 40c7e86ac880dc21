import Mathlib.Tactic
import Lgt8.Servo.Interlock

/-!
# Which requests saturate

`SERVO_SETPWM` reads an `int` into the one byte of `request_pwm0`, and `setPWM` caps that byte at 80.
So a request is reduced modulo 256 before it is capped.  And a request that equals what the channel
was last given is not passed on at all: at boot that is said to be one percent, and the channel is
off.

* `Tracked`, `tracked_run` — the duty cycle is the last one given, capped, except at boot.
* **`setpwm_saturates_iff`** — the requests the next tick drives as `min (max v 0) 80`;
  `setpwm_256_stops` is one it does not.
-/

namespace Lgt8

open Library

namespace Drive

variable {F : Type}

/-- Nothing has been given to the channel since boot. -/
def Undriven (d : Drive F) : Prop := d.present = 1 ∧ d.duty = 0

instance (d : Drive F) : Decidable (Undriven d) := inferInstanceAs (Decidable (_ ∧ _))

def Tracked (d : Drive F) : Prop := d.duty = capped d.present ∨ Undriven d

lemma Tracked.ticked [DoubleOps F] {d : Drive F} (h : Tracked d) (r : UInt8) :
    Tracked (d.ticked r) := by
  rw [Tracked, Undriven, Drive.ticked, nextDuty]
  dsimp only
  by_cases hp : d.request = d.present
  · rw [if_pos hp, hp]
    exact h
  · rw [if_neg hp]
    exact Or.inl rfl

lemma Tracked.obey [DoubleOps F] {d : Drive F} (h : Tracked d) (m : AntaresMsg) (n : ℤ) :
    Tracked (d.obey m n) := by
  rw [Tracked, Undriven, obey_present, obey_duty]
  exact h

lemma toNat_capped (v : UInt8) : (capped v).toNat = min v.toNat 80 := by
  rw [capped]
  split
  · next h =>
      have : 80 < v.toNat := h
      rw [min_eq_right this.le]
      rfl
  · next h =>
      have : ¬ 80 < v.toNat := h
      rw [min_eq_left (not_lt.mp this)]

/-- The requests that saturate as they are meant to. -/
def Saturates (d : Drive F) (v : ℤ) : Prop :=
  (0 ≤ v ∧ v ≤ 255 ∧ ¬ (v = 1 ∧ Undriven d)) ∨
  (256 ≤ v ∧ 80 ≤ v % 256) ∨
  (v < 0 ∧ (v % 256 = 0 ∨ (v % 256 = 1 ∧ Undriven d)))

/-- The duty cycle the next tick drives for the request `v`. -/
lemma nextDuty_request {d : Drive F} (h : Tracked d) (v : ℤ) (x : F) :
    (({ d with request := uint8 v, setpoint := x } : Drive F).nextDuty.toNat : ℤ)
      = if v % 256 = 1 ∧ Undriven d then 0 else min (v % 256) 80 := by
  have hv := toNat_uint8_emod v
  have hone : v % 256 = 1 ↔ uint8 v = 1 := by
    rw [← hv, ← UInt8.toNat_inj]
    exact Nat.cast_eq_one
  rw [nextDuty]
  dsimp only
  by_cases hp : uint8 v = d.present
  · rw [if_pos hp]
    rcases h with hd | hu
    · have hdriven : ¬ Undriven d := by
        rintro ⟨h1, h0⟩
        rw [hd, h1] at h0
        exact absurd h0 (by decide)
      rw [if_neg fun hc => hdriven hc.2, hd, ← hp, toNat_capped]
      push_cast
      rw [hv]
    · rw [if_pos ⟨hone.mpr (hp.trans hu.1), hu⟩, hu.2]
      rfl
  · have hnot : ¬ (v % 256 = 1 ∧ Undriven d) :=
      fun hc => hp ((hone.mp hc.1).trans hc.2.1.symm)
    rw [if_neg hp, if_neg hnot, toNat_capped]
    push_cast
    rw [hv]

/-- **What the next tick makes of the request `v`.** -/
theorem nextDuty_saturates_iff {d : Drive F} (h : Tracked d) (v : ℤ) (x : F) :
    (({ d with request := uint8 v, setpoint := x } : Drive F).nextDuty.toNat : ℤ)
      = min (max v 0) 80 ↔ Saturates d v := by
  rw [nextDuty_request h, Saturates]
  by_cases hu : Undriven d
  · simp only [hu, and_true]
    split <;> omega
  · simp only [hu, and_false, if_false, not_false_iff, and_true, or_false]
    omega

end Drive

namespace Servo

open DoubleOps

variable {F : Type} [DoubleOps F]

/-- **In every state a run can reach, the duty cycle is the last one given, capped**, or nothing has
been given since boot. -/
theorem tracked_run (raw : Servo F) (w : World F) {labels : List Label} {s : ServoCtx F}
    (hs : run step (boot raw (setServoPWM w)) labels = .ok s) : (drive s).Tracked := by
  refine run_invariant' (I := fun s => (drive s).Tracked) (fun s l t hI h => ?_)
    (Or.inr ⟨rfl, rfl⟩) hs
  rcases step_drive h with ⟨_, r, hr⟩ | ⟨m, _, hm⟩ | ⟨_, hn⟩
  · exact hr ▸ hI.ticked r
  · exact hm ▸ hI.obey m _
  · exact hn ▸ hI

/-- **When a request saturates.**  In a state a run can reach, with a `SERVO_SETPWM` of the number `v`
about to be serviced, the next tick drives `min (max v 0) 80` precisely if `v` is a byte (but for a
1 that is the first request since boot), or above it with a low byte of at least 80, or negative with
a low byte of 0 (or, since boot, 1). -/
theorem setpwm_saturates_iff (raw : Servo F) (w : World F) {labels : List Label} {s t : ServoCtx F}
    (hs : run step (boot raw (setServoPWM w)) labels = .ok s) {m : AntaresMsg}
    (hm : frontMsg s = some m) (hcmd : m.cmd = Comands.servoSetpwm.code) (harg : m.arg = 1) {v : ℤ}
    (htext : sscanfInts 1 m.data = [v]) (ht : serviceFront s = .ok t) :
    ((pitTick t).world.duty0.toNat : ℤ) = min (max v 0) 80 ↔
      (0 ≤ v ∧ v ≤ 255 ∧ ¬ (v = 1 ∧ s.obj.presentPwm0 = 1 ∧ s.world.duty0 = 0)) ∨
      (256 ≤ v ∧ 80 ≤ v % 256) ∨
      (v < 0 ∧ (v % 256 = 0 ∨ (v % 256 = 1 ∧ s.obj.presentPwm0 = 1 ∧ s.world.duty0 = 0))) := by
  have hdrive : drive t = { drive s with request := uint8 v, setpoint := zero } := by
    rcases serviceFront_drive ht with ⟨hn, _⟩ | ⟨m', hm', hd⟩
    · rw [hm] at hn
      cases hn
    · rw [hm] at hm'
      cases hm'
      rw [hd, Drive.obey, if_neg (by rw [hcmd]; decide), if_pos hcmd, if_pos harg, Drive.scanned,
        htext]
      rfl
  rw [pitTick_duty, hdrive]
  exact Drive.nextDuty_saturates_iff (tracked_run raw w hs) v zero

/-- Fifty percent, requested after the boot. -/
def requested50 : List Label := [.turn, .post setpwm50]

theorem setpwm_saturates_iff_50 :
    ∃ s t : ServoCtx ℚ, run step (boot blank (setServoPWM .blank)) requested50 = .ok s ∧
      serviceFront s = .ok t ∧
      (((pitTick t).world.duty0.toNat : ℤ) = min (max 50 0) 80 ↔
        ((0 : ℤ) ≤ 50 ∧ (50 : ℤ) ≤ 255 ∧
          ¬ ((50 : ℤ) = 1 ∧ s.obj.presentPwm0 = 1 ∧ s.world.duty0 = 0)) ∨
        ((256 : ℤ) ≤ 50 ∧ (80 : ℤ) ≤ 50 % 256) ∨
        ((50 : ℤ) < 0 ∧ ((50 : ℤ) % 256 = 0 ∨
          ((50 : ℤ) % 256 = 1 ∧ s.obj.presentPwm0 = 1 ∧ s.world.duty0 = 0)))) :=
  ⟨_, _, rfl, rfl, setpwm_saturates_iff blank .blank
    (show run step (boot blank (setServoPWM .blank)) requested50 = .ok _ from rfl) (m := setpwm50)
    rfl (by decide) (by decide) (by decide) rfl⟩

/-- `SERVO_SETPWM` of 256 percent. -/
def setpwm256 : AntaresMsg := .compose Comands.servoSetpwm.code 1 3 "256"

/-- It is driven as zero. -/
theorem setpwm_256_stops :
    ∃ s t : ServoCtx ℚ, run step (boot blank (setServoPWM .blank)) [.turn, .post setpwm256] = .ok s ∧
      frontMsg s = some setpwm256 ∧ setpwm256.cmd = Comands.servoSetpwm.code ∧ setpwm256.arg = 1 ∧
      sscanfInts 1 setpwm256.data = [256] ∧ serviceFront s = .ok t ∧
      ((pitTick t).world.duty0.toNat : ℤ) ≠ min (max 256 0) 80 :=
  ⟨_, _, rfl, rfl, by decide, by decide, by decide, rfl, by decide⟩

end Servo

end Lgt8

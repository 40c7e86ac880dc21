import Mathlib.Tactic
import Lgt8.Servo.Model

/-!
# What the servo driver is to the motor

Of all the driver keeps, four values decide what the plate motor does: the request, what the
channel was last given, the duty cycle on it, and the setpoint.  `Drive` is a machine of these four
alone.  It ticks (`Drive.ticked`), leaving open only what a running regulator requests next, and it
obeys a message (`Drive.obey`); everything else the driver does leaves it alone.

* **`drive_serviceBoard`**, **`drive_serviceMsg`** — the driver's tick and its servicing of a
  message, seen through `drive`, are the machine's.
* `drive_serviceTach`, `drive_fsmTick` — the others are no step of it.
-/

namespace Lgt8

open Library

structure Drive (F : Type) where
  present : UInt8
  request : UInt8
  duty : UInt8
  setpoint : F

namespace Drive

section

variable {F : Type}

/-- The duty cycle `setPWM` gives channel 0. -/
def capped (v : UInt8) : UInt8 := if 80 < v then 80 else v

/-- The duty cycle after the next tick. -/
def nextDuty (d : Drive F) : UInt8 := if d.request = d.present then d.duty else capped d.request

/-- A channel last given zero is off. -/
def Faithful (d : Drive F) : Prop := d.present = 0 → d.duty = 0

lemma capped_ne_zero {v : UInt8} (h : v ≠ 0) : capped v ≠ 0 := by
  rw [capped]
  split
  · decide
  · exact h

/-- The next tick turns the motor off if zero is requested, or if the channel is off and is not
given anything new. -/
lemma nextDuty_eq_zero_iff {d : Drive F} (hf : Faithful d) :
    d.nextDuty = 0 ↔ d.request = 0 ∨ (d.request = d.present ∧ d.duty = 0) := by
  rw [nextDuty]
  by_cases hp : d.request = d.present
  · rw [if_pos hp]
    exact ⟨fun h => Or.inr ⟨hp, h⟩, fun h => h.elim (fun h0 => hf (hp ▸ h0)) And.right⟩
  · rw [if_neg hp]
    refine ⟨fun h => Or.inl ?_, fun h => h.elim (fun h0 => ?_) fun hn => absurd hn.1 hp⟩
    · by_contra h0
      exact capped_ne_zero h0 h
    · rw [h0]
      rfl

end

variable {F : Type} [DoubleOps F]

open DoubleOps

/-- No speed is asked for. -/
def Manual (d : Drive F) : Prop := eq d.setpoint zero = true

/-- A tick.  `r` is what a running regulator requests. -/
def ticked (r : UInt8) (d : Drive F) : Drive F where
  present := d.request
  request := if eq d.setpoint zero then d.request else r
  duty := d.nextDuty
  setpoint := d.setpoint

/-- The request after `sscanf` read the text of `m`. -/
def scanned (m : AntaresMsg) (request : UInt8) : UInt8 :=
  ((sscanfInts 1 m.data).head?.map uint8).getD request

/-- The setpoint a `SERVO_SETSPEED` start asks for; without a number in the text it is `junk`. -/
def askedSpeed (m : AntaresMsg) (junk : ℤ) : ℤ := (sscanfInts 1 m.data).getD 0 junk

/-- A message is serviced. -/
def obey (m : AntaresMsg) (junk : ℤ) (d : Drive F) : Drive F :=
  if m.cmd = Comands.servoEnable.code then
    if m.arg = 1 then { d with request := scanned m d.request }
    else { d with request := 0, setpoint := zero }
  else if m.cmd = Comands.servoSetpwm.code then
    { d with request := if m.arg = 1 then scanned m d.request else 0, setpoint := zero }
  else if m.cmd = Comands.servoSetspeed.code then
    { d with setpoint := if m.arg = 1 then ofInt (askedSpeed m junk) else zero }
  else d

/-- A manual drive requests what it requested. -/
lemma ticked_request {d : Drive F} (h : d.Manual) (r : UInt8) :
    (d.ticked r).request = d.request := if_pos h

lemma Faithful.ticked {d : Drive F} (h : Faithful d) (r : UInt8) : Faithful (d.ticked r) :=
  fun h0 => (nextDuty_eq_zero_iff h).mpr (Or.inl h0)

lemma obey_present (m : AntaresMsg) (n : ℤ) (d : Drive F) : (d.obey m n).present = d.present := by
  rw [obey]
  split_ifs <;> rfl

lemma obey_duty (m : AntaresMsg) (n : ℤ) (d : Drive F) : (d.obey m n).duty = d.duty := by
  rw [obey]
  split_ifs <;> rfl

lemma Faithful.obey {d : Drive F} (h : Faithful d) (m : AntaresMsg) (n : ℤ) :
    Faithful (d.obey m n) := by
  rw [Faithful, obey_present, obey_duty]
  exact h

end Drive

namespace Servo

variable {F : Type}

open DoubleOps

def drive (s : ServoCtx F) : Drive F :=
  ⟨s.obj.presentPwm0, s.obj.requestPwm0, s.world.duty0, s.obj.servoSetpoint⟩

/-! ## What the regulator has no part in -/

lemma updatePwm_eq (s : ServoCtx F) : updatePwm s =
    ⟨{ s.obj with presentPwm0 := s.obj.requestPwm0 },
      { s.world with duty0 := (drive s).nextDuty }⟩ := by
  rw [updatePwm, Drive.nextDuty]
  split
  · case isTrue h =>
      have hne : (drive s).request ≠ (drive s).present := h
      rw [if_neg hne]
      rfl
  · case isFalse h =>
      have heq : s.obj.requestPwm0 = s.obj.presentPwm0 := not_not.mp h
      have heq' : (drive s).request = (drive s).present := heq
      rw [if_pos heq', heq]
      rfl

lemma drive_updatePwm (s : ServoCtx F) :
    drive (updatePwm s) = { drive s with
      present := (drive s).request, duty := (drive s).nextDuty } := by
  rw [updatePwm_eq]
  rfl

lemma drive_serviceTach (tick : UInt32) (s : ServoCtx F) :
    drive (serviceTach tick s) = drive s := by
  rw [serviceTach]
  dsimp only
  split_ifs <;> rfl

lemma drive_fsmTick (s : ServoCtx F) : drive (fsmTick s) = drive s := by
  rw [fsmTick]
  split <;> rfl

lemma drive_drivePower (b : Bool) (s : ServoCtx F) : drive (drivePower b s) = drive s := by
  cases b <;> rfl

lemma drive_scanRequest (m : AntaresMsg) (s : ServoCtx F) :
    drive (scanRequest m.data s)
      = { drive s with request := Drive.scanned m (drive s).request } := by
  rw [scanRequest, Drive.scanned]
  split
  · case h_1 h => simp [drive, h]
  · case h_2 h => simp [drive, h]

variable [DoubleOps F]

/-! ## The tick -/

/-- A running regulator writes the request, and a manual drive is left alone. -/
lemma drive_regulate (s : ServoCtx F) : ∃ r, drive (regulate s).2 = { drive s with
    request := if eq (drive s).setpoint zero then (drive s).request else r } := by
  rw [regulate]
  split
  · case isTrue h => exact ⟨0, by simp [drive, h]⟩
  · case isFalse h => exact ⟨_, by simp [drive, h]; rfl⟩

lemma drive_updateSpeed (s : ServoCtx F) : ∃ r, drive (updateSpeed s) = { drive s with
    request := if eq (drive s).setpoint zero then (drive s).request else r } := by
  rw [updateSpeed]
  split
  · exact drive_regulate _
  · refine ⟨(drive s).request, ?_⟩
    rw [ite_self]
    rfl

/-- **A tick of the driver is a tick of the drive.** -/
theorem drive_serviceBoard (s : ServoCtx F) : ∃ r, drive (serviceBoard s) = (drive s).ticked r := by
  have hp := drive_updatePwm s
  rw [serviceBoard]
  split
  · obtain ⟨r, hr⟩ := drive_updateSpeed (updatePwm s)
    exact ⟨r, by rw [hr, hp]; rfl⟩
  · refine ⟨(drive s).request, ?_⟩
    have h : drive { updatePwm s with
        obj.updatetachFlag := (updatePwm s).obj.updatetachFlag + 1 } = drive (updatePwm s) := rfl
    rw [h, hp, Drive.ticked, ite_self]

/-! ## A message -/

lemma drive_serviceEnable (m : AntaresMsg) (s : ServoCtx F) :
    drive (serviceEnable m.arg m.data s) =
      if m.arg = 1 then { drive s with request := Drive.scanned m (drive s).request }
      else { drive s with request := 0, setpoint := zero } := by
  rw [serviceEnable]
  split
  · exact (drive_drivePower _ _).trans (drive_scanRequest m _)
  · exact drive_drivePower _ _

lemma drive_serviceSetpwm (m : AntaresMsg) (s : ServoCtx F) :
    drive (serviceSetpwm m.arg m.data s) = { drive s with
      request := if m.arg = 1 then Drive.scanned m (drive s).request else 0
      setpoint := zero } := by
  rw [serviceSetpwm]
  split
  · exact drive_scanRequest m _
  · rfl

lemma drive_serviceSetspeed (m : AntaresMsg) (s : ServoCtx F) :
    drive (serviceSetspeed m.arg m.data s) = { drive s with
      setpoint := if m.arg = 1 then ofInt (Drive.askedSpeed m (int32 (s.world.stack 0)))
        else zero } := by
  rw [serviceSetspeed]
  split <;> rfl

/-- **Servicing a message is obeying it.** -/
theorem drive_serviceMsg (m : AntaresMsg) (s : ServoCtx F) :
    drive (serviceMsg m s) = (drive s).obey m (int32 (s.world.stack 0)) := by
  rw [serviceMsg, Drive.obey]
  by_cases he : m.cmd = Comands.servoEnable.code
  · rw [if_pos he, if_pos he]
    exact drive_serviceEnable m s
  rw [if_neg he, if_neg he]
  by_cases hp : m.cmd = Comands.servoSetpwm.code
  · rw [if_pos hp, if_pos hp]
    exact drive_serviceSetpwm m s
  rw [if_neg hp, if_neg hp]
  by_cases hs : m.cmd = Comands.servoSetspeed.code
  · rw [if_pos hs, if_pos hs]
    exact drive_serviceSetspeed m s
  · rw [if_neg hs, if_neg hs]
    rfl

end Servo

end Lgt8

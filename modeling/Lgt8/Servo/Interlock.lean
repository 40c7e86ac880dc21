import Mathlib.Tactic
import Lgt8.Servo.Runs

/-!
# Does the motor stay off?

`SERVO_ENABLE` with an argument other than 1 sets `enable_servo` to false, clears the request and
the setpoint, and so turns the motor off at the next tick.  But nothing ever reads `enable_servo`:
a later `SERVO_SETPWM` or `SERVO_SETSPEED` is carried out all the same.

* **`disabled_duty_zero`** — the motor stays off after a disable in every run in which no message
  asks a disabled drive for anything but zero; `setpwm_drives_disabled` is a run with one that does.
* **`stop_keeps_duty_zero_iff`** — which stop commands stop the motor for good: `SERVO_ENABLE` and
  `SERVO_SETPWM` always, `SERVO_SETSPEED` only when no request was left behind;
  `setspeed_stop_keeps_driving` is the run in which one was.
-/

namespace Lgt8.Servo

open Library DoubleOps

variable {F : Type}

/-! ## After a disable -/

/-- Whether the last `SERVO_ENABLE` serviced asked for the drive to be off. -/
def noteDisabled (s : ServoCtx F) (l : Label) (disabled : Bool) : Bool :=
  match servicedMsg s l with
  | some m => if m.cmd = Comands.servoEnable.code then decide (m.arg ≠ 1) else disabled
  | none => disabled

section

variable {s : ServoCtx F} {l : Label} {m : AntaresMsg} {b : Bool}

lemma noteDisabled_none (h : servicedMsg s l = none) : noteDisabled s l b = b := by
  rw [noteDisabled, h]

lemma noteDisabled_enable (h : servicedMsg s l = some m)
    (he : m.cmd = Comands.servoEnable.code) : noteDisabled s l b = decide (m.arg ≠ 1) := by
  rw [noteDisabled, h]
  exact if_pos he

lemma noteDisabled_of_ne (h : servicedMsg s l = some m)
    (he : m.cmd ≠ Comands.servoEnable.code) : noteDisabled s l b = b := by
  rw [noteDisabled, h]
  exact if_neg he

end

variable [DoubleOps F]

/-- A run beside that observer. -/
abbrev watched : ServoCtx F × Bool → Label → Except Fault (ServoCtx F × Bool) :=
  observed step noteDisabled

/-- A message asks for nothing but zero: the number `SERVO_SETPWM` stores has a zero low byte, and
the setpoint of `SERVO_SETSPEED` is zero. -/
def AsksZero (m : AntaresMsg) (n : ℤ) : Prop :=
  m.arg = 1 →
    (m.cmd = Comands.servoSetpwm.code → ∀ v ∈ (sscanfInts 1 m.data).head?, uint8 v = 0) ∧
    (m.cmd = Comands.servoSetspeed.code → Drive.askedSpeed m n = 0)

/-- While the drive is disabled, no message serviced asks for anything but zero. -/
def Heeded (p : ServoCtx F × Bool) (l : Label) : Prop :=
  p.2 = true → ∀ m, servicedMsg p.1 l = some m → AsksZero m (junk p.1)

/-- The drive is off and stays off as long as nobody asks otherwise. -/
structure Off (d : Drive F) : Prop where
  request : d.request = 0
  manual : d.Manual

lemma Off.ticked {d : Drive F} (h : Off d) (r : UInt8) : Off (d.ticked r) where
  request := (Drive.ticked_request h.manual r).trans h.request
  manual := h.manual

lemma scanned_zero {m : AntaresMsg} (h : ∀ v ∈ (sscanfInts 1 m.data).head?, uint8 v = 0) :
    Drive.scanned m 0 = 0 := by
  rw [Drive.scanned]
  cases hv : (sscanfInts 1 m.data).head? with
  | none => rfl
  | some v => exact h v hv

/-- A message that asks for nothing but zero leaves the drive off, unless it enables it. -/
lemma Off.obey {d : Drive F} (h : Off d) {m : AntaresMsg} {n : ℤ} (hm : AsksZero m n)
    (he : m.cmd ≠ Comands.servoEnable.code) : Off (d.obey m n) := by
  rw [Drive.obey, if_neg he]
  by_cases hp : m.cmd = Comands.servoSetpwm.code
  · rw [if_pos hp]
    refine ⟨?_, eq_zero_zero⟩
    dsimp only
    split
    · case isTrue ha =>
        rw [h.request]
        exact scanned_zero ((hm ha).1 hp)
    · rfl
  rw [if_neg hp]
  by_cases hs : m.cmd = Comands.servoSetspeed.code
  · rw [if_pos hs]
    refine ⟨h.request, ?_⟩
    rw [Drive.Manual]
    dsimp only
    split
    · case isTrue ha =>
        rw [(hm ha).2 hs]
        exact eq_zero_zero
    · exact eq_zero_zero
  · rw [if_neg hs]
    exact h

/-- A disable turns the drive off. -/
lemma obey_disable {m : AntaresMsg} (he : m.cmd = Comands.servoEnable.code) (ha : m.arg ≠ 1)
    (n : ℤ) (d : Drive F) : Off (d.obey m n) := by
  rw [Drive.obey, if_pos he, if_neg ha]
  exact ⟨rfl, eq_zero_zero⟩

/-- What holds along a run that heeds the disable. -/
structure Interlocked (p : ServoCtx F × Bool) : Prop where
  faithful : (drive p.1).Faithful
  off : p.2 = true → Off (drive p.1)

lemma interlocked_step {p q : ServoCtx F × Bool} {l : Label} (hp : Interlocked p)
    (hC : Heeded p l) (h : watched p l = .ok q) : Interlocked q := by
  obtain ⟨hstep, hnote⟩ := observed_ok.mp h
  refine ⟨faithful_step hp.faithful hstep, fun hq => ?_⟩
  rw [hq] at hnote
  rcases step_drive hstep with ⟨hn, r, hr⟩ | ⟨m, hm, hd⟩ | ⟨hn, hd⟩
  · rw [noteDisabled_none hn] at hnote
    rw [hr]
    exact (hp.off hnote.symm).ticked r
  · rw [hd]
    by_cases he : m.cmd = Comands.servoEnable.code
    · rw [noteDisabled_enable hm he] at hnote
      exact obey_disable he (of_decide_eq_true hnote.symm) _ _
    · rw [noteDisabled_of_ne hm he] at hnote
      exact (hp.off hnote.symm).obey (hC hnote.symm m hm) he
  · rw [noteDisabled_none hn] at hnote
    rw [hd]
    exact hp.off hnote.symm

/-- **The motor stays off after a disable**, at the end of every tick of every run — commands,
tachometer pulses and ticks in any order — in which no message asks a disabled drive for anything
but zero. -/
theorem disabled_duty_zero (raw : Servo F) (w : World F) {labels : List Label}
    {s : ServoCtx F} (hC : AllSteps watched Heeded (boot raw w, false) labels)
    (hs : run watched (boot raw w, false) labels = .ok (s, true)) :
    (pitTick s).world.duty0 = 0 := by
  have hinit : Interlocked (boot raw w, false) :=
    ⟨faithful_run raw w (run_nil _), nofun⟩
  have hI := run_invariant (fun _ _ _ hp hC h => interlocked_step hp hC h) hinit hC hs
  rw [pitTick_duty]
  exact (Drive.nextDuty_eq_zero_iff hI.faithful).mpr (Or.inl (hI.off rfl).request)

/-- `SERVO_ENABLE` off. -/
def disable : AntaresMsg := .compose Comands.servoEnable.code 0 3 ""

/-- `SERVO_SETSPEED` with a setpoint of zero. -/
def setspeed0 : AntaresMsg := .compose Comands.servoSetspeed.code 1 3 "0"

/-- A disable, and a setpoint of zero while the drive is disabled. -/
theorem disabled_duty_zero_setspeed :
    ∃ s, run watched (boot blank .blank, false)
        [.turn, .post disable, .turn, .post setspeed0, .turn] = .ok (s, true) ∧
      (pitTick s).world.duty0 = 0 := by
  refine ⟨_, rfl, @disabled_duty_zero _ _ blank .blank
    [.turn, .post disable, .turn, .post setspeed0, .turn] _ ?_ rfl⟩
  refine .cons rfl nofun (.cons rfl nofun (.cons rfl nofun (.cons rfl nofun (.cons rfl ?_ trivial))))
  intro _ m hm _
  cases hm
  exact ⟨fun h => absurd h (by decide), fun _ => by decide⟩

/-- `SERVO_SETPWM` of fifty percent. -/
def setpwm50 : AntaresMsg := .compose Comands.servoSetpwm.code 1 3 "50"

/-- A disabled drive is given fifty percent, and drives the motor with it. -/
theorem setpwm_drives_disabled :
    ∃ s, run watched (boot blank .blank, false)
        [.turn, .post disable, .turn, .post setpwm50, .turn] = .ok (s, true) ∧
      (pitTick s).world.duty0 = 50 := ⟨_, rfl, rfl⟩

/-! ## After a stop command -/

/-- The three stop commands. -/
def Stops (m : AntaresMsg) : Prop :=
  m.arg ≠ 1 ∧ (m.cmd = Comands.servoEnable.code ∨ m.cmd = Comands.servoSetpwm.code ∨
    m.cmd = Comands.servoSetspeed.code)

/-- The next tick turns the motor off, and so does every later one. -/
structure Stopped (d : Drive F) : Prop where
  manual : d.Manual
  duty : d.nextDuty = 0

lemma Stopped.ticked {d : Drive F} (h : Stopped d) (r : UInt8) : Stopped (d.ticked r) where
  manual := h.manual
  duty := by
    have hreq : (d.ticked r).request = (d.ticked r).present := Drive.ticked_request h.manual r
    rw [Drive.nextDuty, if_pos hreq]
    exact h.duty

/-- What the stop commands leave of a drive: two of them clear the request. -/
lemma obey_stop {m : AntaresMsg} (h : Stops m) (n : ℤ) (d : Drive F) :
    d.obey m n = { d with
      request := if m.cmd = Comands.servoSetspeed.code then d.request else 0, setpoint := zero } := by
  obtain ⟨ha, he | hp | hs⟩ := h
  · rw [Drive.obey, if_pos he, if_neg ha, if_neg (by rw [he]; decide)]
  · rw [Drive.obey, if_neg (by rw [hp]; decide), if_pos hp, if_neg ha,
      if_neg (by rw [hp]; decide)]
  · rw [Drive.obey, if_neg (by rw [hs]; decide), if_neg (by rw [hs]; decide), if_pos hs,
      if_neg ha, if_pos hs]

/-- A stop command stops the drive unless it is `SERVO_SETSPEED` and leaves a request behind. -/
lemma stopped_obey_iff {m : AntaresMsg} (h : Stops m) (n : ℤ) {d : Drive F} (hf : d.Faithful) :
    Stopped (d.obey m n) ↔ (m.cmd = Comands.servoSetspeed.code →
      d.request = 0 ∨ (d.request = d.present ∧ d.duty = 0)) := by
  have hmanual : (d.obey m n).Manual := by
    rw [obey_stop h]
    exact eq_zero_zero
  have hstopped : Stopped (d.obey m n) ↔ (d.obey m n).nextDuty = 0 :=
    ⟨fun hs => hs.duty, fun hd => ⟨hmanual, hd⟩⟩
  rw [hstopped, Drive.nextDuty_eq_zero_iff (hf.obey m n), obey_stop h]
  dsimp only
  split
  · case isTrue hs => exact ⟨fun hd _ => hd, fun hd => hd hs⟩
  · case isFalse hs => exact ⟨fun _ hn => absurd hn hs, fun _ => Or.inl rfl⟩

/-- Without a command, a stopped drive stays stopped. -/
lemma stopped_run {t u : ServoCtx F} {later : List Label} (h : Stopped (drive t))
    (hC : AllSteps step (fun s l => servicedMsg s l = none) t later)
    (hu : run step t later = .ok u) : Stopped (drive u) := by
  refine run_invariant (I := fun s => Stopped (drive s)) (fun s l t hs hl ht => ?_) h hC hu
  rcases step_drive ht with ⟨_, r, hr⟩ | ⟨m, hm, _⟩ | ⟨_, hd⟩
  · exact hr ▸ hs.ticked r
  · rw [hl] at hm
    cases hm
  · exact hd ▸ hs

/-- **When a stop command stops the motor for good.**  In a state a run can reach, a stop command
about to be serviced keeps the duty cycle at zero at the end of every tick until the next command
precisely if it is not `SERVO_SETSPEED`, or the request is zero, or the channel is off and the
request is what it was last given. -/
theorem stop_keeps_duty_zero_iff (raw : Servo F) (w : World F) {labels : List Label}
    {s t : ServoCtx F} (hs : run step (boot raw w) labels = .ok s) {m : AntaresMsg}
    (hm : frontMsg s = some m) (hstop : Stops m) (ht : serviceFront s = .ok t) :
    (∀ later u, AllSteps step (fun s l => servicedMsg s l = none) t later →
        run step t later = .ok u → (pitTick u).world.duty0 = 0) ↔
      (m.cmd = Comands.servoSetspeed.code → s.obj.requestPwm0 = 0 ∨
        (s.obj.requestPwm0 = s.obj.presentPwm0 ∧ s.world.duty0 = 0)) := by
  have hdrive : drive t = (drive s).obey m (junk s) := by
    rcases serviceFront_drive ht with ⟨hn, _⟩ | ⟨m', hm', hd⟩
    · rw [hm] at hn
      cases hn
    · rw [hm] at hm'
      cases hm'
      exact hd
  have hiff := stopped_obey_iff hstop (junk s) (faithful_run raw w hs)
  rw [← hdrive] at hiff
  refine Iff.trans ?_ hiff
  constructor
  · intro h
    refine ⟨?_, ?_⟩
    · rw [hdrive, obey_stop hstop]
      exact eq_zero_zero
    · rw [← pitTick_duty]
      exact h [] t trivial rfl
  · intro h later u hC hu
    rw [pitTick_duty]
    exact (stopped_run h hC hu).duty

/-- `SERVO_SETSPEED` stop. -/
def setspeedStop : AntaresMsg := .compose Comands.servoSetspeed.code 0 3 ""

/-- Fifty percent, a tick, and the stop command queued. -/
def driven : List Label := [.turn, .post setpwm50, .turn, .tick, .post setspeedStop]

theorem stop_keeps_duty_zero_iff_driven :
    ∃ s t, run step (boot blank .blank) driven = .ok s ∧ serviceFront s = .ok t ∧
      ((∀ later u, AllSteps step (fun s l => servicedMsg s l = none) t later →
        run step t later = .ok u → (pitTick u).world.duty0 = 0) ↔
      (setspeedStop.cmd = Comands.servoSetspeed.code → s.obj.requestPwm0 = 0 ∨
        (s.obj.requestPwm0 = s.obj.presentPwm0 ∧ s.world.duty0 = 0))) :=
  ⟨_, _, rfl, rfl, stop_keeps_duty_zero_iff blank .blank
    (show run step (boot blank .blank) driven = .ok _ from rfl) (m := setspeedStop)
    rfl ⟨by decide, Or.inr (Or.inr rfl)⟩ rfl⟩

/-- The motor goes on turning at fifty percent after the stop. -/
theorem setspeed_stop_keeps_driving :
    ∃ s t, run step (boot blank .blank) driven = .ok s ∧ frontMsg s = some setspeedStop ∧
      Stops setspeedStop ∧ serviceFront s = .ok t ∧ (pitTick t).world.duty0 = 50 :=
  ⟨_, _, rfl, rfl, ⟨by decide, Or.inr (Or.inr rfl)⟩, rfl, rfl⟩

end Lgt8.Servo

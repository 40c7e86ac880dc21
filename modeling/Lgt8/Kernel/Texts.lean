import Mathlib.Tactic
import Lgt8.Monitor.Passes
import Lgt8.Servo.Passes
import Lgt8.Sweep.Passes
import Lgt8.Sweep.Transitions

/-!
# What the drivers say

A handler formats its texts into the log one behind the other, and nothing else in the firmware
moves the log's pointer forward.  For each driver there is a table of the texts a turn of its loop
says, read off the event at the front of its queue and the state before; the log after the turn is
the log before it with these texts behind.

* `Log.say`, `Log.size` — texts in a row, and the bytes they take.
* `Sweep.texts`, `Servo.texts`, `Monitor.texts`, and **`Sweep.serviceFront_texts`** and its relatives.
-/

namespace Lgt8

open Library

namespace Log

/-- The texts `ts`, one behind the other. -/
def say (ts : List String) (l : Log) : Log := ts.foldl (fun l t => l.logMessage levelInfo t) l

/-- The bytes the texts take, their NULs apart. -/
def size (ts : List String) : ℕ := (ts.map fun t => (ascii t).length).sum

/-- Messages at the firmware's level are taken. -/
structure Taking (l : Log) : Prop where
  loglevel : levelInfo ≤ l.loglevel
  logEnabled : l.logEnabled = true

lemma Taking.logMessage {l : Log} (h : l.Taking) (text : String) :
    (l.logMessage levelInfo text).Taking ∧
      (l.logMessage levelInfo text).logbufferptr = l.logbufferptr + (ascii text).length := by
  rw [Log.logMessage, if_pos ⟨h.loglevel, h.logEnabled⟩]
  exact ⟨⟨h.loglevel, h.logEnabled⟩, rfl⟩

/-- **Texts move the pointer by their size.** -/
theorem Taking.say {l : Log} (h : l.Taking) (ts : List String) :
    (l.say ts).Taking ∧ (l.say ts).logbufferptr = l.logbufferptr + size ts := by
  induction ts generalizing l with
  | nil => exact ⟨h, rfl⟩
  | cons t ts ih =>
      obtain ⟨htaking, hptr⟩ := h.logMessage t
      obtain ⟨hrest, hsum⟩ := ih htaking
      refine ⟨hrest, hsum.trans ?_⟩
      rw [hptr, size, size, List.map_cons, List.sum_cons, Nat.add_assoc]

lemma Taking.printLog {l : Log} (h : l.Taking) :
    l.printLog.Taking ∧ l.printLog.logbufferptr = 0 := by
  rw [Log.printLog]
  split
  · exact ⟨⟨h.loglevel, h.logEnabled⟩, rfl⟩
  · next h0 => exact ⟨h, Nat.eq_zero_of_not_pos h0⟩

end Log

/-! ## The sweep -/

namespace Sweep

variable {F : Type}

/-- What a move says: it enables the driver, unless the carriage is there already. -/
def moveTexts (target : ℤ) (sw : Sweep) : List String :=
  if int32 (target - sw.sweeppos) ≠ 0 then ["Sweep enable on\r\n"] else []

/-- What the `Entry` actions say. -/
def entryTexts (sw : Sweep) : Adm → List String
  | .setParked => ["Parked found @ " ++ fmtP sw.sweepmapptr ++ "\r\n"]
  | .searchOut => ["Sweep enable on\r\n"]
  | .searchIn => ["Sweep enable on\r\n"]
  | _ => []

/-- Neither tap is closed. -/
def atPark (t : Taps) : Bool := !t.intap && !t.outtap

/-- The state a `Park` in `Idle` enters. -/
def parkTarget (taps : ℕ → Taps) : Adm :=
  if atPark (taps 0) then .setParked else if (taps 1).intap then .searchOut else .searchIn

/-- The state a `JobDone` enters, if it enters one. -/
def jobDoneTarget (taps : ℕ → Taps) : Adm → Option Adm
  | .searchOut =>
      if atPark (taps 0) then some .setParked
      else if (taps 1).intap then some .searchOut else none
  | .searchIn =>
      if atPark (taps 0) then some .setParked
      else if (taps 1).outtap then some .searchIn else none
  | _ => none

/-- What a command other than `SWEEP_PARK` says. -/
def cmdTexts (m : AntaresMsg) (s : SweepCtx F) : List String :=
  if m.cmd = Comands.sweepGoto.code then
    ("Sweep goto : " ++ fmtD (gotoTarget m s) ++ " / " ++ fmtD (gotoSpeed m s) ++ "\r\n")
      :: moveTexts (gotoTarget m s) s.obj
  else if m.cmd = Comands.sweepScan.code then
    [if m.arg = 1 then
        "Sweep scan : " ++ fmtD (scanIn m s) ++ " / " ++ fmtD (scanOut m s) ++ " / "
          ++ fmtD (scanning m s).sweepjobSpeed ++ "\r\n"
      else "Sweep scan was aborted\r\n"]
  else if m.cmd = Comands.sweepEnable.code then
    [if m.arg = 1 then "Sweep enable on\r\n" else "Sweep enable off\r\n"]
  else if m.cmd = Comands.sweepDir.code then
    ["Sweep dir set to : " ++ fmtD (if m.arg = 1 then 1 else 0) ++ "\r\n"]
  else if m.cmd = Comands.sweepPulse.code then
    ["Sweep Pulse Burst requested : " ++ fmtD (gotoTarget m s) ++ "  / " ++ fmtD (gotoSpeed m s)
      ++ "\r\n"]
  else
    ["Received Unknown Sweep Packet : " ++ fmtD m.cmd.toNat ++ " " ++ fmtD m.arg.toNat ++ "\r\n"]

def msgTexts (m : AntaresMsg) (s : SweepCtx F) : List String :=
  if m.cmd = Comands.sweepPark.code then
    "Sweep Park requested\r\n" :: entryTexts s.obj (parkTarget s.world.taps)
  else cmdTexts m s

/-- What an event that announces no message says. -/
def ownTexts (e : Event) (s : SweepCtx F) : List String :=
  if e.evtype = SigTypes.sweepJobdoneSig.bits then
    match jobDoneTarget s.world.taps s.obj.fsm with
    | some st => entryTexts s.obj st
    | none => []
  else if e.evtype = SigTypes.sweepSweepjobSig.bits ∧ s.obj.sweepjobEnabled then
    moveTexts (if s.obj.sweepjobOutdir then s.obj.sweepjobOut else s.obj.sweepjobIn) s.obj
  else []

/-- **What the next turn says.** -/
def texts (s : SweepCtx F) : List String :=
  match s.obj.events with
  | [] => []
  | e :: _ =>
      match frontMsg s with
      | some m => msgTexts m s
      | none => ownTexts e s

/-! The log after each routine. -/

lemma setEnable_texts (b : Bool) (s : SweepCtx F) : (setEnable b s).world.log
    = s.world.log.say [if b then "Sweep enable on\r\n" else "Sweep enable off\r\n"] := by
  cases b <;> rfl

lemma setOutDir_log (b : Bool) (s : SweepCtx F) : (setOutDir b s).world.log = s.world.log := by
  cases b <;> rfl

lemma serviceDir_texts (b : Bool) (s : SweepCtx F) :
    (logMessage ("Sweep dir set to : " ++ fmtD (if (setOutDir b s).obj.outdir then 1 else 0)
        ++ "\r\n") (setOutDir b s)).world.log
      = s.world.log.say ["Sweep dir set to : " ++ fmtD (if b then 1 else 0) ++ "\r\n"] := by
  cases b <;> rfl

lemma slideLoop_log (v : UInt8) (n : ℕ) (tptr : ℤ) (s : SweepCtx F) :
    (slideLoop v n tptr s).world.log = s.world.log := by
  induction n generalizing tptr s with
  | zero => rfl
  | succ n ih => exact ih _ _

lemma slide_texts (step speed : ℤ) (s : SweepCtx F) :
    (slide step speed s).world.log = s.world.log.say ["Sweep enable on\r\n"] := by
  rw [slide, setEnable_texts, slideLoop_log, if_pos rfl]
  split <;> rw [setOutDir_log]

lemma goto_texts (target speed : ℤ) (s : SweepCtx F) :
    (goto target speed s).world.log = s.world.log.say (moveTexts target s.obj) := by
  rw [goto, moveTexts]
  split
  · exact slide_texts _ _ _
  · rfl

lemma sweepJob_texts (s : SweepCtx F) : (sweepJob s).world.log = s.world.log.say
    (if s.obj.sweepjobEnabled then
      moveTexts (if s.obj.sweepjobOutdir then s.obj.sweepjobOut else s.obj.sweepjobIn) s.obj
    else []) := by
  rw [sweepJob]
  split
  · dsimp only
    split
    · exact goto_texts _ _ _
    · exact goto_texts _ _ _
  · rfl

lemma enterState_texts (st : Adm) (s : SweepCtx F) :
    (enterState st s).world.log = s.world.log.say (entryTexts s.obj st) := by
  cases st with
  | coldStart => rfl
  | idle => rfl
  | setParked => rfl
  | searchOut => exact slide_texts 1 4 _
  | searchIn => exact slide_texts (-1) 4 _

lemma fsmTick_texts {s t : SweepCtx F} (h : fsmTick s = .ok t) : t.world.log = s.world.log := by
  rw [fsmTick] at h
  cases hst : s.obj.fsm <;> rw [hst] at h <;> cases h <;> rfl

lemma fsmPark_texts {s t : SweepCtx F} (h : fsmPark s = .ok t) :
    t.world.log = s.world.log.say (entryTexts s.obj (parkTarget s.world.taps)) := by
  have hpark : (isParked s).1 = atPark (s.world.taps 0) := rfl
  rw [fsmPark] at h
  split at h
  · dsimp only at h
    rw [isInside_fst, isOutside_fst, hpark] at h
    rw [parkTarget]
    split_ifs at h ⊢ <;> cases h <;> exact enterState_texts _ _
  · cases h

lemma fsmJobDone_texts {s t : SweepCtx F} (h : fsmJobDone s = .ok t) :
    t.world.log = s.world.log.say
      (match jobDoneTarget s.world.taps s.obj.fsm with
        | some st => entryTexts s.obj st
        | none => []) := by
  have hpark : (isParked s).1 = atPark (s.world.taps 0) := rfl
  have hout : (isOutside (isParked s).2).1 = (s.world.taps 1).outtap := rfl
  rw [fsmJobDone] at h
  split at h
  · next hst =>
      dsimp only at h
      rw [isInside_fst, hpark] at h
      rw [hst, jobDoneTarget]
      split_ifs at h ⊢ <;> cases h
      · exact enterState_texts _ _
      · exact enterState_texts _ _
      · rfl
  · next hst =>
      dsimp only at h
      rw [hout, hpark] at h
      rw [hst, jobDoneTarget]
      split_ifs at h ⊢ <;> cases h
      · exact enterState_texts _ _
      · exact enterState_texts _ _
      · rfl
  · next hso hsi =>
      cases h
      cases hst : s.obj.fsm with
      | searchOut => exact absurd hst hso
      | searchIn => exact absurd hst hsi
      | coldStart => rfl
      | idle => rfl
      | setParked => rfl

lemma serviceGoto_texts (m : AntaresMsg) (s : SweepCtx F) :
    (serviceGoto m.data s).world.log = s.world.log.say
      (("Sweep goto : " ++ fmtD (gotoTarget m s) ++ " / " ++ fmtD (gotoSpeed m s) ++ "\r\n")
        :: moveTexts (gotoTarget m s) s.obj) :=
  goto_texts _ _ _

lemma serviceCmd_texts (m : AntaresMsg) (s : SweepCtx F) :
    (serviceCmd m s).world.log = s.world.log.say (cmdTexts m s) := by
  rw [serviceCmd, cmdTexts]
  split_ifs with hg hs ha he hb hd hb hp
  · exact serviceGoto_texts m s
  · rw [serviceScan, if_pos ha]
    rfl
  · rw [serviceScan, if_neg ha]
    rfl
  · rw [setEnable_texts, if_pos (decide_eq_true hb)]
  · rw [setEnable_texts, if_neg (by simpa using hb)]
  · refine (serviceDir_texts _ s).trans ?_
    rw [if_pos (decide_eq_true hb)]
  · refine (serviceDir_texts _ s).trans ?_
    rw [if_neg (by simpa using hb)]
  · rfl
  · rfl

lemma serviceMsg_texts {m : AntaresMsg} {s t : SweepCtx F} (h : serviceMsg m s = .ok t) :
    t.world.log = s.world.log.say (msgTexts m s) := by
  rw [serviceMsg] at h
  rw [msgTexts]
  split_ifs at h ⊢
  · exact fsmPark_texts h
  · cases h
    exact serviceCmd_texts m s

/-- An event that announces no message. -/
lemma serviceEvent_texts {e : Event} (he : e.evtype ≠ SigTypes.sweepEthSig.bits) {s t : SweepCtx F}
    (h : serviceEvent e s = .ok t) : t.world.log = s.world.log.say (ownTexts e s) := by
  rw [serviceEvent, if_neg he] at h
  rw [ownTexts]
  by_cases hj : e.evtype = SigTypes.sweepJobdoneSig.bits
  · rw [if_neg (by rw [hj]; decide), if_pos hj] at h
    rw [if_pos hj]
    exact fsmJobDone_texts h
  · rw [if_neg hj] at h ⊢
    by_cases hs : e.evtype = SigTypes.sweepSweepjobSig.bits
    · rw [if_neg (by rw [hs]; decide), if_neg (by rw [hs]; decide), if_pos hs] at h
      cases h
      simp only [hs, true_and]
      exact sweepJob_texts s
    · rw [if_neg hs] at h
      rw [if_neg fun hn => hs hn.1]
      split_ifs at h
      · exact fsmTick_texts h
      · exact fsmTick_texts h
      · cases h
        rfl

/-- **What a turn of the sweep says.** -/
theorem serviceFront_texts {s t : SweepCtx F} (h : serviceFront s = .ok t) :
    t.world.log = s.world.log.say (texts s) := by
  cases he : s.obj.events with
  | nil =>
      rw [serviceFront_nil he] at h
      cases h
      rw [texts, he]
      rfl
  | cons e rest =>
      obtain ⟨u, hu, rfl⟩ := serviceFront_ok he h
      show u.world.log = _
      rw [texts, he]
      dsimp only
      by_cases heth : e.evtype = SigTypes.sweepEthSig.bits
      · rcases serviceEvent_eth he heth with ⟨m, a, hm, hev⟩ | ⟨-, hev⟩
        · rw [hu] at hev
          cases hv : serviceMsg m s with
          | error x => rw [hv] at hev; cases hev
          | ok v =>
              rw [hv] at hev
              obtain rfl : u = deleteMsg a v := Except.ok.inj hev
              have htexts : v.world.log = s.world.log.say (msgTexts m s) := serviceMsg_texts hv
              rw [hm]
              exact htexts
        · rw [hu] at hev
          cases hev
      · rw [frontMsg_of_ne he heth]
        dsimp only
        exact serviceEvent_texts heth hu

/-! The timer interrupt says nothing. -/

lemma setPulse_log (b : Bool) (s : SweepCtx F) : (setPulse b s).world.log = s.world.log := by
  cases b <;> rfl

lemma nextCell_log (s : SweepCtx F) : (nextCell s).world.log = s.world.log := by
  rw [nextCell]
  split <;> rfl

lemma latchGap_log (s : SweepCtx F) : (latchGap s).world.log = s.world.log := by
  rw [latchGap]
  split
  · exact setOutDir_log _ _
  · rfl

lemma dropPulse_log (s : SweepCtx F) : (dropPulse s).world.log = s.world.log :=
  setPulse_log _ _

lemma raisePulse_log (s : SweepCtx F) : (raisePulse s).world.log = s.world.log :=
  (nextCell_log _).trans (setPulse_log _ _)

lemma restTick_log (s : SweepCtx F) : (restTick s).world.log = s.world.log := by
  rw [restTick]
  split
  · exact setPulse_log true s
  · exact setPulse_log true s

lemma serviceBoard_log (s : SweepCtx F) : (serviceBoard s).world.log = s.world.log := by
  have hlatch : (latchGap (touch s.obj.sweepmapptr s)).world.log = s.world.log := latchGap_log _
  simp only [serviceBoard]
  split_ifs
  · exact (dropPulse_log _).trans hlatch
  · exact (raisePulse_log _).trans hlatch
  · exact hlatch
  · exact restTick_log _
  · rfl

end Sweep

/-! ## The servo -/

namespace Servo

variable {F : Type}

/-- The request `sscanf` leaves. -/
def scannedRequest (m : AntaresMsg) (s : ServoCtx F) : UInt8 :=
  match sscanfInts 1 m.data with
  | [] => s.obj.requestPwm0
  | v :: _ => uint8 v

/-- What a message says. -/
def msgTexts (m : AntaresMsg) (s : ServoCtx F) : List String :=
  if m.cmd = Comands.servoEnable.code then
    ["Servo enabled seto to : " ++ fmtD (if m.arg = 1 then 1 else 0) ++ " \r\n"]
  else if m.cmd = Comands.servoSetpwm.code then
    [if m.arg = 1 then "Servo PWM set to : " ++ fmtD (scannedRequest m s).toNat ++ " \r\n"
      else "Servo PWM was reseted \r\n"]
  else if m.cmd = Comands.servoSetspeed.code then
    [if m.arg = 1 then
        "Servo Setpoint set to : " ++ fmtD ((sscanfInts 1 m.data).getD 0 (junk s)) ++ "\r\n"
      else "Servo Setpoint was reseted \r\n"]
  else
    ["Received unknown SERVO Packet : " ++ fmtD m.cmd.toNat ++ ", " ++ fmtD m.arg.toNat ++ "\r\n"]

/-- **What the next turn says**: only messages say something. -/
def texts (s : ServoCtx F) : List String :=
  match frontMsg s with
  | some m => msgTexts m s
  | none => []

lemma scannedRequest_eq (v : F) (m : AntaresMsg) (s : ServoCtx F) :
    (scanRequest m.data { s with obj.servoSetpoint := v }).obj.requestPwm0
      = scannedRequest m s := by
  rw [scanRequest, scannedRequest]
  cases sscanfInts 1 m.data <;> rfl

lemma scanRequest_kept (mes : List UInt8) (s : ServoCtx F) :
    (scanRequest mes s).world = s.world ∧
      (scanRequest mes s).obj.enableServo = s.obj.enableServo := by
  rw [scanRequest]
  split <;> exact ⟨rfl, rfl⟩

lemma drivePower_kept (b : Bool) (s : ServoCtx F) :
    (drivePower b s).world.log = s.world.log ∧
      (drivePower b s).obj.enableServo = s.obj.enableServo := by
  cases b <;> exact ⟨rfl, rfl⟩

/-- A text formatted in a state that has said nothing yet. -/
lemma logMessage_texts {text : String} {s t : ServoCtx F} (h : t.world.log = s.world.log) :
    (logMessage text t).world.log = s.world.log.say [text] := by
  rw [← h]
  rfl

variable [DoubleOps F]

lemma serviceEnable_texts (m : AntaresMsg) (s : ServoCtx F) :
    (serviceEnable m.arg m.data s).world.log = s.world.log.say
      ["Servo enabled seto to : " ++ fmtD (if m.arg = 1 then 1 else 0) ++ " \r\n"] := by
  rw [serviceEnable]
  by_cases ha : m.arg = 1
  · rw [if_pos ha, if_pos ha]
    let u : ServoCtx F := { clearTachBuffer { s with obj.enableServo := true } with
      obj.svctl.dState := DoubleOps.zero, obj.svctl.iState := DoubleOps.zero }
    obtain ⟨hlog, henable⟩ := drivePower_kept true (scanRequest m.data u)
    obtain ⟨hworld, hkept⟩ := scanRequest_kept m.data u
    have htrue : (drivePower true (scanRequest m.data u)).obj.enableServo = true :=
      henable.trans hkept
    show (logMessage ("Servo enabled seto to : "
      ++ fmtD (if (drivePower true (scanRequest m.data u)).obj.enableServo then 1 else 0)
      ++ " \r\n") (drivePower true (scanRequest m.data u))).world.log = _
    rw [if_pos htrue]
    exact logMessage_texts (hlog.trans (congrArg World.log hworld))
  · rw [if_neg ha, if_neg ha]
    rfl

lemma serviceSetpwm_texts (m : AntaresMsg) (s : ServoCtx F) :
    (serviceSetpwm m.arg m.data s).world.log = s.world.log.say
      [if m.arg = 1 then "Servo PWM set to : " ++ fmtD (scannedRequest m s).toNat ++ " \r\n"
        else "Servo PWM was reseted \r\n"] := by
  rw [serviceSetpwm]
  by_cases ha : m.arg = 1
  · rw [if_pos ha, if_pos ha, ← scannedRequest_eq DoubleOps.zero m s]
    exact logMessage_texts (congrArg World.log (scanRequest_kept m.data _).1)
  · rw [if_neg ha, if_neg ha]
    rfl

lemma serviceSetspeed_texts (m : AntaresMsg) (s : ServoCtx F) :
    (serviceSetspeed m.arg m.data s).world.log = s.world.log.say
      [if m.arg = 1 then
          "Servo Setpoint set to : " ++ fmtD ((sscanfInts 1 m.data).getD 0 (junk s)) ++ "\r\n"
        else "Servo Setpoint was reseted \r\n"] := by
  rw [serviceSetspeed]
  by_cases ha : m.arg = 1
  · rw [if_pos ha, if_pos ha]
    rfl
  · rw [if_neg ha, if_neg ha]
    rfl

lemma serviceMsg_texts (m : AntaresMsg) (s : ServoCtx F) :
    (serviceMsg m s).world.log = s.world.log.say (msgTexts m s) := by
  rw [serviceMsg, msgTexts]
  by_cases he : m.cmd = Comands.servoEnable.code
  · rw [if_pos he, if_pos he]
    exact serviceEnable_texts m s
  · rw [if_neg he, if_neg he]
    by_cases hp : m.cmd = Comands.servoSetpwm.code
    · rw [if_pos hp, if_pos hp]
      exact serviceSetpwm_texts m s
    · rw [if_neg hp, if_neg hp]
      by_cases hs : m.cmd = Comands.servoSetspeed.code
      · rw [if_pos hs, if_pos hs]
        exact serviceSetspeed_texts m s
      · rw [if_neg hs, if_neg hs]
        rfl

/-- **What a turn of the servo says.** -/
theorem serviceFront_texts {s t : ServoCtx F} (h : serviceFront s = .ok t) :
    t.world.log = s.world.log.say (texts s) := by
  cases he : s.obj.events with
  | nil =>
      rw [serviceFront_nil he] at h
      cases h
      rw [texts, frontMsg, he, announced_nil]
      rfl
  | cons e rest =>
      obtain ⟨u, hu, rfl⟩ := serviceFront_ok he h
      show u.world.log = _
      cases serviceEvent_serviced hu with
      | @msg a m hty ha live hu =>
          rw [texts, frontMsg, he, announced_cons hty ha, live, hu]
          exact serviceMsg_texts m s
      | tick hty hu =>
          rw [texts, frontMsg, he, announced_of_ne hty, hu, fsmTick]
          cases s.obj.fsm <;> rfl
      | ignored hty hu =>
          rw [texts, frontMsg, he, announced_of_ne hty, hu]
          rfl

end Servo

/-! ## The monitor -/

namespace Monitor

variable {F : Type}

/-- The message the next turn services, if it services one. -/
def frontMsg (s : MonitorCtx F) : Option AntaresMsg :=
  announced .monitorEthSig s.obj.events s.world.heap

/-- The speed `sscanf` leaves. -/
def scannedVel (m : AntaresMsg) (s : MonitorCtx F) : UInt8 :=
  match sscanfInts 1 m.data with
  | [] => s.obj.wg20pwm
  | v :: _ => uint8 v

/-- What a message says. -/
def msgTexts (m : AntaresMsg) (s : MonitorCtx F) : List String :=
  if m.cmd = Comands.monSetvac.code then
    [if m.arg = 1 then "Vaccum activated\r\n" else "Vaccum deactivated\r\n"]
  else if m.cmd = Comands.monSetdrum.code then
    [if m.arg = 1 then "Drum activated\r\n" else "Drum deactivated\r\n"]
  else if m.cmd = Comands.wg20Setdir.code then
    ["WG20 dir set to : " ++ fmtD m.arg.toNat ++ "\r\n"]
  else if m.cmd = Comands.wg20Setvel.code then
    ["WG20 Vel set to  " ++ fmtD (scannedVel m s).toNat ++ " / "
      ++ fmtD (if m.arg = 0 then 0 else 1) ++ "\r\n"]
  else if m.cmd = Comands.monReset.code then ["monitor reset received\r\n"]
  else
    ["Received unknown Monitor Packet : " ++ fmtD m.cmd.toNat ++ ", " ++ fmtD m.arg.toNat
      ++ "\r\n"]

/-- **What the next turn says**: only messages say something. -/
def texts (s : MonitorCtx F) : List String :=
  match frontMsg s with
  | some m => msgTexts m s
  | none => []

variable [DoubleOps F]

/-- The state `WG20_SETVEL` is reported in. -/
def velSet (cw : Bool) (m : AntaresMsg) (s : MonitorCtx F) : MonitorCtx F :=
  setWG20Vel (scanVel m.data (setWg20Cw cw s))

lemma velSet_eq (cw : Bool) (m : AntaresMsg) (s : MonitorCtx F) :
    (velSet cw m s).world.log = s.world.log ∧ (velSet cw m s).obj.wg20pwm = scannedVel m s ∧
      (velSet cw m s).obj.wg20Cw = cw := by
  rw [velSet, scanVel, scannedVel]
  cases sscanfInts 1 m.data <;> cases cw <;> exact ⟨rfl, rfl, rfl⟩

lemma velSet_texts (cw : Bool) (m : AntaresMsg) (s : MonitorCtx F) :
    (logMessage ("WG20 Vel set to  " ++ fmtD (velSet cw m s).obj.wg20pwm.toNat ++ " / "
        ++ fmtD (if (velSet cw m s).obj.wg20Cw then 1 else 0) ++ "\r\n") (velSet cw m s)).world.log
      = s.world.log.say ["WG20 Vel set to  " ++ fmtD (scannedVel m s).toNat ++ " / "
        ++ fmtD (if cw then 1 else 0) ++ "\r\n"] := by
  obtain ⟨hlog, hpwm, hcw⟩ := velSet_eq cw m s
  simp only [hpwm, hcw]
  rw [← hlog]
  rfl

lemma serviceMsg_texts (m : AntaresMsg) (s : MonitorCtx F) :
    (serviceMsg m s).world.log = s.world.log.say (msgTexts m s) := by
  rw [serviceMsg, msgTexts]
  by_cases hv : m.cmd = Comands.monSetvac.code
  · rw [if_pos hv, if_pos hv]
    split <;> rfl
  · rw [if_neg hv, if_neg hv]
    by_cases hd : m.cmd = Comands.monSetdrum.code
    · rw [if_pos hd, if_pos hd]
      split <;> rfl
    · rw [if_neg hd, if_neg hd]
      by_cases hr : m.cmd = Comands.wg20Setdir.code
      · rw [if_pos hr, if_pos hr]
        split <;> rfl
      · rw [if_neg hr, if_neg hr]
        by_cases hl : m.cmd = Comands.wg20Setvel.code
        · rw [if_pos hl, if_pos hl]
          by_cases ha : m.arg = 0
          · rw [if_pos ha, if_pos ha]
            exact velSet_texts false m s
          · rw [if_neg ha, if_neg ha]
            exact velSet_texts true m s
        · rw [if_neg hl, if_neg hl]
          split <;> rfl

/-- **What a turn of the monitor says.** -/
theorem serviceFront_texts {s t : MonitorCtx F} (h : serviceFront s = .ok t) :
    t.world.log = s.world.log.say (texts s) := by
  cases he : s.obj.events with
  | nil =>
      rw [serviceFront, he] at h
      cases h
      rw [texts, frontMsg, he, announced_nil]
      rfl
  | cons e rest =>
      rw [serviceFront, he] at h
      rw [texts, frontMsg, he]
      cases hu : serviceEvent e s with
      | error x => simp only [hu] at h; cases h
      | ok u =>
          simp only [hu] at h
          cases h
          show u.world.log = _
          rw [serviceEvent] at hu
          split_ifs at hu with hr hty
          · cases hu
            rw [announced_of_ne (by rw [hr]; decide)]
            rfl
          · split at hu
            · next a ha =>
                split at hu
                · next m live =>
                    cases hu
                    rw [announced_cons hty ha, live]
                    exact serviceMsg_texts m s
                · cases hu
            · cases hu
          · cases hu
            rw [announced_of_ne hty]
            rfl

end Monitor

end Lgt8

import Mathlib.Tactic
import Lgt8.Library.Runs
import Lgt8.Firmware.World
import Lgt8.Firmware.Sscanf

/-!
# The servo driver (`Servo/Servo.cpp`, `Servo/servo_sm.cpp`)

The plate motor turns at the duty cycle of PWM channel 0.  `serviceBoard`, called by the timer
interrupt, copies `requestPwm0` to the channel whenever it differs from `presentPwm0`, and every
`updatetachPeriod` ticks it computes the speed from the tachometer and, unless the setpoint is
zero, the next request from the speed error.  Commands write the request or the setpoint.

Two stores of the source reach past the object they are meant for, and the model follows them:
`sscanf` with `%d` stores four bytes at the one-byte `request_pwm0` (`scanRequest`), and the ring
index of the tachometer runs to 5, one past the buffer (`serviceTach`).
-/

namespace Lgt8

open Library

/-- States of the generated machine (`map ServoAdm` of `servo.sm`). -/
inductive ServoAdm
  | coldStart | idle
  deriving DecidableEq, Repr

/-- The regulator (`SPid`). -/
structure SPid (F : Type) where
  dState : F
  iState : F
  iMax : F
  iMin : F
  iGain : F
  pGain : F
  dGain : F

/-- The polynomial from regulator output to duty cycle (`Svtf`). -/
structure Svtf (F : Type) where
  a0 : F
  a1 : F
  a2 : F

/-- The `Servo` object. -/
structure Servo (F : Type) where
  fsm : ServoAdm
  events : List Event
  enableServo : Bool
  presentPwm0 : UInt8
  requestPwm0 : UInt8
  lastTach : UInt32
  thisTach : UInt32
  tachbuffer : Vector UInt32 5
  tachbufferptr : UInt8
  updatetachFlag : UInt32
  tachval : UInt32
  speed : F
  tachTheta : UInt8
  servoSetpoint : F
  updatestatus : Bool
  svctl : SPid F
  servotransfer : Svtf F
  /-- Never written: what the memory held. -/
  sweepmapptr : ℤ

abbrev ServoCtx (F : Type) := Ctx (Servo F) F

/-- `UPDATETACH_PERIOD`. -/
def updatetachPeriod : UInt32 := 2000

namespace Servo

variable {F : Type} [DoubleOps F]

open DoubleOps

/-! ## Regulator -/

/-- `updateServo`: the regulator's output and its next state. -/
def updateServo (pid : SPid F) (error process : F) : F × SPid F :=
  let pTerm := mul pid.pGain error
  let iState := add pid.iState error
  let iState :=
    if lt pid.iMax iState then pid.iMax
    else if lt iState pid.iMin then pid.iMin
    else iState
  let iTerm := mul pid.iGain iState
  let dTerm := mul pid.dGain (sub process pid.dState)
  (sub (add pTerm iTerm) dTerm, { pid with iState := iState, dState := process })

def calculatePWM (tf : Svtf F) (gamma : F) : F :=
  let temp := mul gamma gamma
  let temp := mul temp tf.a2
  let temp := add temp (mul gamma tf.a1)
  let temp := add temp tf.a0
  let temp := if lt temp zero then zero else temp
  if lt (ofInt 100) temp then ofInt 100 else temp

/-- Revolutions per minute from the ticks five tachometer periods took. -/
def speedOf (tachval : UInt32) : F :=
  if tachval = 0 then zero
  else
    let speed1 := div (ofRat 1) (ofInt tachval.toNat)
    let speed2 := div speed1 (ofRat 32)
    mul speed2 (ofRat 300000)

/-! ## The timer interrupt -/

/-- A request that differs from what the channel was last given is passed on. -/
def updatePwm (s : ServoCtx F) : ServoCtx F :=
  if s.obj.requestPwm0 ≠ s.obj.presentPwm0 then
    let s := setPWM 0 s.obj.requestPwm0 s
    { s with obj.presentPwm0 := s.obj.requestPwm0 }
  else s

/-- Add up the tachometer periods and clear them. -/
def sumTach (s : ServoCtx F) : ServoCtx F :=
  { s with
    obj.tachval := s.obj.tachbuffer.foldl (· + ·) 0
    obj.tachbuffer := Vector.replicate 5 0
    obj.updatetachFlag := 0 }

/-- The next request of a running regulator, and its output.  A setpoint of zero is manual mode:
the request stays what it was. -/
def regulate (s : ServoCtx F) : F × ServoCtx F :=
  if eq s.obj.servoSetpoint zero then (zero, s)
  else
    let (gamma, svctl) :=
      updateServo s.obj.svctl (sub s.obj.speed s.obj.servoSetpoint) s.obj.speed
    let requestpwm := calculatePWM s.obj.servotransfer gamma
    let requestpwm := if lt (ofInt 80) requestpwm then ofInt 80 else requestpwm
    (gamma, { s with obj.svctl := svctl, obj.requestPwm0 := toUint8 requestpwm })

def updateSpeed (s : ServoCtx F) : ServoCtx F :=
  let s := sumTach s
  if s.obj.tachval ≠ 0 ∨ eq s.obj.servoSetpoint zero = false then
    let s := { s with obj.speed := speedOf s.obj.tachval }
    let (gamma, s) := regulate s
    let s := storeMonitorSlot .servoSpeedSlot s.obj.speed s
    let s := storeMonitorSlot .servoTorqueSlot gamma s
    { s with obj.updatestatus := true }
  else s

def serviceBoard (s : ServoCtx F) : ServoCtx F :=
  let s := updatePwm s
  if updatetachPeriod < s.obj.updatetachFlag then updateSpeed s
  else { s with obj.updatetachFlag := s.obj.updatetachFlag + 1 }

/-! ## The tachometer interrupt -/

/-- The ring index is compared before it is incremented, so it runs from 0 to 5; the word behind
the five cells is the index itself. -/
def serviceTach (tick : UInt32) (s : ServoCtx F) : ServoCtx F :=
  let thisTach := tick - s.obj.lastTach
  let thisTach := if 2000 < thisTach then 0 else thisTach
  let ptr := if 4 < s.obj.tachbufferptr then 0 else s.obj.tachbufferptr + 1
  let theta := if 160 < s.obj.tachTheta then 0 else s.obj.tachTheta
  let s := { s with
    obj.thisTach := thisTach
    obj.lastTach := tick
    obj.tachbufferptr := ptr
    obj.tachTheta := theta + 1 }
  if h : ptr.toNat < 5 then
    { s with obj.tachbuffer := s.obj.tachbuffer.set ptr.toNat thisTach h }
  else { s with obj.tachbufferptr := thisTach.toUInt8 }

/-! ## Core routines -/

def clearTachBuffer (s : ServoCtx F) : ServoCtx F :=
  { s with
    obj.lastTach := getTick s
    obj.thisTach := 0
    obj.tachbufferptr := 0
    obj.updatetachFlag := 0
    obj.tachTheta := 0
    obj.speed := zero
    obj.tachval := 0
    obj.tachbuffer := Vector.replicate 5 0 }

/-- `setServoPID`.  The profile is ignored. -/
def setServoPID (s : ServoCtx F) : ServoCtx F :=
  { s with
    obj.svctl.pGain := ofRat (-0.2)
    obj.svctl.iGain := ofRat (-0.5)
    obj.svctl.dGain := ofRat 0.1
    obj.svctl.iMax := ofInt 300
    obj.svctl.iMin := ofInt (-300)
    obj.servoSetpoint := zero }

def setServoTransfer (s : ServoCtx F) : ServoCtx F :=
  { s with obj.servotransfer := ⟨ofRat 19.0818770428, ofRat 1.3861602127, ofRat (-0.0059742764)⟩ }

/-- `EnableServo`: the pins of the power stage.  Both are active low. -/
def drivePower (enable : Bool) (s : ServoCtx F) : ServoCtx F :=
  let s :=
    if enable then setPins (fun p => { p with servoState := true }) s
    else setPins (fun p => { p with servoClk := false, servoState := false }) s
  storeMonitorFlag .servoEnabled enable s

/-- `sscanf(mes, "%d", &request_pwm0)`.  Four bytes are stored: the request, a byte of padding, and
the low half of `last_tach`.  Without a number in the text nothing is. -/
def scanRequest (mes : List UInt8) (s : ServoCtx F) : ServoCtx F :=
  match sscanfInts 1 mes with
  | [] => s
  | v :: _ =>
      { s with
        obj.requestPwm0 := uint8 v
        obj.lastTach := UInt32.ofNat
          (s.obj.lastTach.toNat / 65536 * 65536 + (v % 4294967296).toNat / 65536) }

def pushEvent (evt : Event) (s : ServoCtx F) : ServoCtx F :=
  { s with obj.events := s.obj.events ++ [evt] }

def tickCallback (s : ServoCtx F) : ServoCtx F :=
  pushEvent (.of .servoTickSig 1 (.map s.obj.sweepmapptr)) s

/-- `Tick`, defined in both states; the actions on it do nothing. -/
def fsmTick (s : ServoCtx F) : ServoCtx F :=
  match s.obj.fsm with
  | .coldStart => { s with obj.fsm := .idle }
  | .idle => s

/-! ## Servicing a network message -/

/-- The `SERVO_ENABLE` branch. -/
def serviceEnable (arg : UInt8) (mes : List UInt8) (s : ServoCtx F) : ServoCtx F :=
  let s :=
    if arg = 1 then
      let s := { s with obj.enableServo := true }
      let s := clearTachBuffer s
      let s := { s with obj.svctl.dState := zero, obj.svctl.iState := zero }
      let s := scanRequest mes s
      drivePower true s
    else
      let s := { s with
        obj.enableServo := false, obj.requestPwm0 := 0, obj.servoSetpoint := zero }
      drivePower false s
  logMessage ("Servo enabled seto to : " ++ fmtD (if s.obj.enableServo then 1 else 0) ++ " \r\n") s

/-- The `SERVO_SETPWM` branch. -/
def serviceSetpwm (arg : UInt8) (mes : List UInt8) (s : ServoCtx F) : ServoCtx F :=
  let s := { s with obj.servoSetpoint := zero }
  if arg = 1 then
    let s := scanRequest mes s
    logMessage ("Servo PWM set to : " ++ fmtD s.obj.requestPwm0.toNat ++ " \r\n") s
  else
    let s := { s with obj.requestPwm0 := 0 }
    logMessage "Servo PWM was reseted \r\n" s

/-- The `SERVO_SETSPEED` branch. -/
def serviceSetspeed (arg : UInt8) (mes : List UInt8) (s : ServoCtx F) : ServoCtx F :=
  if arg = 1 then
    let (itemp, s) := uninit s
    let itemp := (sscanfInts 1 mes).getD 0 itemp
    let s := { s with obj.servoSetpoint := ofInt itemp }
    logMessage ("Servo Setpoint set to : " ++ fmtD itemp ++ "\r\n") s
  else
    let s := { s with obj.servoSetpoint := zero, obj.speed := zero }
    let s := storeMonitorSlot .servoSpeedSlot zero s
    let s := storeMonitorSlot .servoTorqueSlot zero s
    logMessage "Servo Setpoint was reseted \r\n" s

/-- The body of the `SERVO_ETH_SIG` branch of `serviceEvents`, up to the `delete`. -/
def serviceMsg (m : AntaresMsg) (s : ServoCtx F) : ServoCtx F :=
  if m.cmd = Comands.servoEnable.code then
    serviceEnable m.arg m.data s
  else if m.cmd = Comands.servoSetpwm.code then
    serviceSetpwm m.arg m.data s
  else if m.cmd = Comands.servoSetspeed.code then
    serviceSetspeed m.arg m.data s
  else
    logMessage ("Received unknown SERVO Packet : " ++ fmtD m.cmd.toNat ++ ", "
      ++ fmtD m.arg.toNat ++ "\r\n") s

/-! ## The event loop -/

/-- `delete` of a message object. -/
def deleteMsg (a : ℕ) (s : ServoCtx F) : ServoCtx F :=
  { s with world.heap := s.world.heap.delete a }

/-- The body of the loop of `serviceEvents` on the event at the front, before the `pop`. -/
def serviceEvent (evt : Event) (s : ServoCtx F) : Except Fault (ServoCtx F) :=
  if evt.evtype = SigTypes.servoResetSig.bits then .ok (fsmTick s)
  else if evt.evtype = SigTypes.servoEthSig.bits then
    match evt.payload with
    | .msg a =>
        match s.world.heap.cell a with
        | some ia => .ok (deleteMsg a (serviceMsg ia s))
        | none => .error (.dangling evt.payload)
    | p => .error (.dangling p)
  else if evt.evtype = SigTypes.servoTickSig.bits then .ok (fsmTick s)
  else .ok s

def popEvent (s : ServoCtx F) : ServoCtx F :=
  { s with obj.events := s.obj.events.tail }

/-- One turn of the loop of `serviceEvents`. -/
def serviceFront (s : ServoCtx F) : Except Fault (ServoCtx F) :=
  match s.obj.events with
  | [] => .ok s
  | evt :: _ => serviceEvent evt s >>= fun s => .ok (popEvent s)

/-- `serviceEvents`: turns until the queue is empty.  No event queues another. -/
def serviceEvents (s : ServoCtx F) : Except Fault (ServoCtx F) :=
  drain (fun s => !s.obj.events.isEmpty) serviceFront s.obj.events.length s

/-! ## Start -/

/-- The constructor.  `enable_servo` and the regulator's two states are not written. -/
def construct (s : ServoCtx F) : ServoCtx F :=
  let s := { s with
    obj.fsm := .coldStart
    obj.events := []
    obj.updatestatus := false
    obj.presentPwm0 := 1
    obj.requestPwm0 := 1 }
  let s := clearTachBuffer s
  let s := setServoPID s
  let s := setServoTransfer s
  setPins (fun p => { p with servoState := true, servoClk := false }) s

def start (s : ServoCtx F) : ServoCtx F :=
  let s := tickCallback s
  logMessage "Servo Driver attached to core, we have plate motor services now\r\n" s

/-- The servo driver as the main loop finds it: constructed in memory holding `raw` and started. -/
def boot (raw : Servo F) (w : World F) : ServoCtx F := start (construct ⟨raw, w⟩)

/-- Cleared memory. -/
def blank : Servo ℚ where
  fsm := .coldStart
  events := []
  enableServo := false
  presentPwm0 := 0
  requestPwm0 := 0
  lastTach := 0
  thisTach := 0
  tachbuffer := Vector.replicate 5 0
  tachbufferptr := 0
  updatetachFlag := 0
  tachval := 0
  speed := 0
  tachTheta := 0
  servoSetpoint := 0
  updatestatus := false
  svctl := ⟨0, 0, 0, 0, 0, 0, 0⟩
  servotransfer := ⟨0, 0, 0⟩
  sweepmapptr := 0

end Servo

end Lgt8

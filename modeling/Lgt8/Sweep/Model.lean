import Mathlib.Tactic
import Lgt8.Library.Runs
import Lgt8.Library.Tape
import Lgt8.Firmware.World
import Lgt8.Firmware.Sscanf

/-!
# The sweep driver (`Sweep/sweep.cpp`, `Sweep/sweep_sm.cpp`)

The sweep carriage is a stepper motor on a rail of 4000 steps.  A move is planned by writing the
step delay of every step into `sweepmap`, one cell per position, and `serviceBoard`, called by the
timer interrupt, executes the cell under `sweepmapptr`: it counts the cell down, drops the pulse,
counts down once more, raises the pulse and goes on to the next cell.  A cell that holds 255 means
"nothing to do here": the carriage is at rest.

The file embeds the whole object: the carriage (`serviceBoard`, `slide`, `goto`), the scan job
(`sweepJob`), the parking state machine that the state machine compiler generated (`fsmTick`,
`fsmPark`, `fsmJobDone`), and the event queue (`serviceEvents`).

Two conventions.  The step map is an unbounded array around `sweepmapinit`: an index outside
`0 … 3999` is a cell like any other here, and `touched` records every index the code accesses, so
that staying inside is something to prove.  And a state machine method that the generated code
answers with an exception is a `Fault`.
-/

namespace Lgt8

open Library

/-- States of the generated machine (`map Adm` of `sweep.sm`). -/
inductive Adm
  | coldStart | idle | setParked | searchOut | searchIn
  deriving DecidableEq, Repr

/-- The names the generated code gives the states. -/
def Adm.name : Adm → String
  | .coldStart => "Adm::ColdStart"
  | .idle => "Adm::Idle"
  | .setParked => "Adm::setParked"
  | .searchOut => "Adm::searchOut"
  | .searchIn => "Adm::searchIn"

/-- The `Sweep` object. -/
structure Sweep where
  fsm : Adm
  events : List Event
  sweepmap : ℤ → UInt8
  /-- `sweepmapptr - sweepmapinit`. -/
  sweepmapptr : ℤ
  sweeppos : ℤ
  pulsegap : UInt8
  enable : Bool
  outdir : Bool
  pulse : Bool
  intap : Bool
  outtap : Bool
  parked : Bool
  parkedptr : ℤ
  sweepjobIn : ℤ
  sweepjobOut : ℤ
  sweepjobSpeed : ℤ
  sweepjobOutdir : Bool
  sweepjobEnabled : Bool
  /-- Not in the source: the step map indices `serviceBoard` and `slide` accessed, latest first. -/
  touched : List ℤ

abbrev SweepCtx (F : Type) := Ctx Sweep F

namespace Sweep

variable {F : Type}

/-! ## Memory of the step map -/

/-- `*sweepmapptr`. -/
def current (sw : Sweep) : UInt8 := sw.sweepmap sw.sweepmapptr

/-- An access to index `i`. -/
def touch (i : ℤ) (s : SweepCtx F) : SweepCtx F :=
  { s with obj.touched := i :: s.obj.touched }

/-- `*(sweepmapinit + i) = v`. -/
def writeMap (i : ℤ) (v : UInt8) (s : SweepCtx F) : SweepCtx F :=
  { s with
    obj.sweepmap := Function.update s.obj.sweepmap i v
    obj.touched := i :: s.obj.touched }

/-- `clearMap`: `memset` of the 4000 cells. -/
def clearMap (s : SweepCtx F) : SweepCtx F :=
  { s with obj.sweepmap := fun i => if 0 ≤ i ∧ i < 4000 then 255 else s.obj.sweepmap i }

/-! ## Setters -/

def setEnable (set : Bool) (s : SweepCtx F) : SweepCtx F :=
  let s := { s with obj.enable := set }
  let s :=
    if !s.obj.enable then
      logMessage "Sweep enable off\r\n" (setPins (fun p => { p with stepEnable := false }) s)
    else
      logMessage "Sweep enable on\r\n" (setPins (fun p => { p with stepEnable := true }) s)
  storeMonitorFlag .sweepEnabled s.obj.enable s

def setOutDir (set : Bool) (s : SweepCtx F) : SweepCtx F :=
  let s := { s with obj.outdir := set }
  let s :=
    if s.obj.outdir then setPins (fun p => { p with stepDir := true }) s
    else setPins (fun p => { p with stepDir := false }) s
  storeMonitorFlag .sweepOutdir s.obj.outdir s

def setPulse (high : Bool) (s : SweepCtx F) : SweepCtx F :=
  let s := { s with obj.pulse := high }
  if s.obj.pulse then setPins (fun p => { p with stepPulse := false }) s
  else setPins (fun p => { p with stepPulse := true }) s

/-! ## Sensors -/

/-- `setFlag32` of a pin level, and `setFlagB`: set or clear the masked bits of `mon`. -/
def setFlag (mon mask : UInt8) (value : Bool) : UInt8 :=
  if value then mon ||| mask else mon &&& ~~~mask

def readSensors (s : SweepCtx F) : SweepCtx F :=
  let (taps, s) := readTaps s
  let mon : UInt8 := 0
  let s := { s with obj.intap := taps.intap }
  let mon := setFlag mon 0x02 s.obj.intap
  let s := { s with obj.outtap := taps.outtap }
  let mon := setFlag mon 0x04 s.obj.outtap
  let tparked := !s.obj.intap && !s.obj.outtap
  let s := { s with
    obj.parkedptr := if !s.obj.parked && tparked then s.obj.sweepmapptr else s.obj.parkedptr }
  let s := { s with obj.parked := tparked }
  let mon := setFlag mon 0x01 s.obj.enable
  -- the flag parameter is a `bool`: any bit of `mon` makes it true
  storeMonitorFlag .sweepOuter (mon != 0) s

def isParked (s : SweepCtx F) : Bool × SweepCtx F :=
  let s := readSensors s
  (s.obj.parked, s)

def isInside (s : SweepCtx F) : Bool × SweepCtx F :=
  let s := readSensors s
  (s.obj.intap, s)

def isOutside (s : SweepCtx F) : Bool × SweepCtx F :=
  let s := readSensors s
  (s.obj.outtap, s)

/-! ## The timer interrupt -/

def pushEvent (evt : Event) (s : SweepCtx F) : SweepCtx F :=
  { s with obj.events := s.obj.events ++ [evt] }

/-- The carriage moves to the next cell in the current direction. -/
def nextCell (s : SweepCtx F) : SweepCtx F :=
  if s.obj.outdir then
    { s with obj.sweepmapptr := s.obj.sweepmapptr + 1, obj.sweeppos := s.obj.sweeppos - 1 }
  else
    { s with obj.sweepmapptr := s.obj.sweepmapptr - 1, obj.sweeppos := s.obj.sweeppos + 1 }

/-- The first tick of a step latches the delay the map asks for. -/
def latchGap (s : SweepCtx F) : SweepCtx F :=
  if s.obj.pulsegap = 0 then
    let s := { s with obj.pulsegap := s.obj.current }
    setOutDir s.obj.outdir s
  else s

/-- Half of the step is done: drop the pulse level and count the delay down once more. -/
def dropPulse (s : SweepCtx F) : SweepCtx F :=
  let s := writeMap s.obj.sweepmapptr s.obj.pulsegap s
  setPulse false s

/-- The step is done: raise the pulse level, clear the cell and go to the next one. -/
def raisePulse (s : SweepCtx F) : SweepCtx F :=
  let s := setPulse true s
  let s := { s with obj.pulsegap := 0 }
  let s := writeMap s.obj.sweepmapptr 255 s
  nextCell s

/-- A tick with nothing to do under the pointer; a running scan job asks for its next leg. -/
def restTick (s : SweepCtx F) : SweepCtx F :=
  let s := setPulse true s
  let s := { s with obj.pulsegap := 0 }
  let s := readSensors s
  if s.obj.sweepjobEnabled then
    pushEvent (.of .sweepSweepjobSig 1 (.map s.obj.sweepmapptr)) s
  else s

def serviceBoard (s : SweepCtx F) : SweepCtx F :=
  if s.obj.enable then
    -- every access of this tick is to the cell under the pointer, before it moves
    let s := touch s.obj.sweepmapptr s
    if s.obj.current ≠ 255 then
      let s := latchGap s
      if s.obj.current = 0 then
        readSensors (if s.obj.pulse then dropPulse s else raisePulse s)
      else
        let temp := s.obj.current
        writeMap s.obj.sweepmapptr (temp - 1) s
    else restTick s
  else readSensors s

/-! ## Core routines -/

def park (s : SweepCtx F) : SweepCtx F :=
  let s := logMessage ("Parked found @ " ++ fmtP s.obj.sweepmapptr ++ "\r\n") s
  let s := clearMap s
  { s with obj.sweepmapptr := 2000, obj.sweeppos := 2000 }

/-- The loop of `Slide`: write `speed` into `n` cells from `tptr` on, in the current direction. -/
def slideLoop (speed : UInt8) : ℕ → ℤ → SweepCtx F → SweepCtx F
  | 0, _, s => s
  | n + 1, tptr, s =>
      let s := writeMap tptr speed s
      slideLoop speed n (if s.obj.outdir then tptr + 1 else tptr - 1) s

def slide (step speed : ℤ) (s : SweepCtx F) : SweepCtx F :=
  let astep := int32 |step|
  let tptr := s.obj.sweepmapptr
  let s := if 0 < step then setOutDir false s else setOutDir true s
  let s := slideLoop (uint8 speed) astep.toNat tptr s
  setEnable true s

def goto (step speed : ℤ) (s : SweepCtx F) : SweepCtx F :=
  let dif1 := int32 (step - s.obj.sweeppos)
  if dif1 ≠ 0 then slide dif1 speed s else s

def sweepJob (s : SweepCtx F) : SweepCtx F :=
  if s.obj.sweepjobEnabled then
    let s :=
      if s.obj.sweepjobOutdir then goto s.obj.sweepjobOut s.obj.sweepjobSpeed s
      else goto s.obj.sweepjobIn s.obj.sweepjobSpeed s
    { s with obj.sweepjobOutdir := !s.obj.sweepjobOutdir }
  else s

/-- `PulseBurst`: ten thousand toggles of the pulse pin. -/
def pulseBurst (s : SweepCtx F) : SweepCtx F :=
  setPins (fun p => (fun q : Pins => { q with stepPulse := !q.stepPulse })^[10000] p) s

def tickCallback (s : SweepCtx F) : SweepCtx F :=
  pushEvent (.of .sweepTickSig 1 (.map s.obj.sweepmapptr)) s

/-! ## The parking state machine -/

/-- The `Entry` actions. -/
def entry : Adm → SweepCtx F → SweepCtx F
  | .coldStart, s => tickCallback s
  | .idle, s => s
  | .setParked, s => tickCallback (park s)
  | .searchOut, s => slide 1 4 s
  | .searchIn, s => slide (-1) 4 s

/-- `setState` followed by the new state's `Entry`. -/
def enterState (st : Adm) (s : SweepCtx F) : SweepCtx F :=
  entry st { s with obj.fsm := st }

def fsmTick (s : SweepCtx F) : Except Fault (SweepCtx F) :=
  match s.obj.fsm with
  | .coldStart => .ok (enterState .idle s)
  | .idle => .ok s
  | .setParked => .ok (enterState .idle s)
  | .searchOut => .error (.transitionUndefined Adm.searchOut.name)
  | .searchIn => .error (.transitionUndefined Adm.searchIn.name)

def fsmPark (s : SweepCtx F) : Except Fault (SweepCtx F) :=
  match s.obj.fsm with
  | .idle =>
      let (parked, s) := isParked s
      if parked then .ok (enterState .setParked s)
      else
        let (inside, s) := isInside s
        if inside then .ok (enterState .searchOut s)
        else
          let (outside, s) := isOutside s
          if outside then .ok (enterState .searchIn s)
          else .error (.transitionUndefined Adm.idle.name)
  | st => .error (.transitionUndefined st.name)

def fsmJobDone (s : SweepCtx F) : Except Fault (SweepCtx F) :=
  match s.obj.fsm with
  | .searchOut =>
      let (parked, s) := isParked s
      if parked then .ok (enterState .setParked s)
      else
        let (inside, s) := isInside s
        if inside then .ok (enterState .searchOut s) else .ok s
  | .searchIn =>
      let (parked, s) := isParked s
      if parked then .ok (enterState .setParked s)
      else
        let (outside, s) := isOutside s
        if outside then .ok (enterState .searchIn s) else .ok s
  -- `Adm_Default::JobDone`
  | _ => .ok s

/-! ## Servicing a network message -/

/-- The `SWEEP_GOTO` branch. -/
def serviceGoto (mes : List UInt8) (s : SweepCtx F) : SweepCtx F :=
  let (stpPos, s) := uninit s
  let (stpVel, s) := uninit s
  let args := sscanfInts 2 mes
  let stpPos := args.getD 0 stpPos
  let stpVel := args.getD 1 stpVel
  let s := logMessage ("Sweep goto : " ++ fmtD stpPos ++ " / " ++ fmtD stpVel ++ "\r\n") s
  goto stpPos stpVel s

/-- The `SWEEP_SCAN` branch. -/
def serviceScan (arg : UInt8) (mes : List UInt8) (s : SweepCtx F) : SweepCtx F :=
  if arg = 1 then
    let (jobin, s) := uninit s
    let (jobout, s) := uninit s
    let args := sscanfInts 3 mes
    let jobin := args.getD 0 jobin
    let jobout := args.getD 1 jobout
    let s := { s with
      obj.sweepjobSpeed := args.getD 2 s.obj.sweepjobSpeed
      obj.sweepjobOut := int32 (jobout * 40)
      obj.sweepjobIn := int32 (jobin * 40)
      obj.sweepjobOutdir := true
      obj.sweepjobEnabled := true }
    let s := logMessage ("Sweep scan : " ++ fmtD s.obj.sweepjobIn ++ " / "
      ++ fmtD s.obj.sweepjobOut ++ " / " ++ fmtD s.obj.sweepjobSpeed ++ "\r\n") s
    pushEvent (.of .sweepSweepjobSig 1 (.map s.obj.sweepmapptr)) s
  else
    let s := logMessage "Sweep scan was aborted\r\n" s
    { s with obj.sweepjobEnabled := false }

/-- The `SWEEP_PULSE` branch. -/
def servicePulse (mes : List UInt8) (s : SweepCtx F) : SweepCtx F :=
  let (bpulses, s) := uninit s
  let (bperiod, s) := uninit s
  let args := sscanfInts 2 mes
  let s := logMessage ("Sweep Pulse Burst requested : " ++ fmtD (args.getD 0 bpulses) ++ "  / "
    ++ fmtD (args.getD 1 bperiod) ++ "\r\n") s
  pulseBurst s

/-- The commands other than `SWEEP_PARK`; none of them reaches the state machine. -/
def serviceCmd (m : AntaresMsg) (s : SweepCtx F) : SweepCtx F :=
  if m.cmd = Comands.sweepGoto.code then
    serviceGoto m.data s
  else if m.cmd = Comands.sweepScan.code then
    serviceScan m.arg m.data s
  else if m.cmd = Comands.sweepEnable.code then
    setEnable (m.arg = 1) s
  else if m.cmd = Comands.sweepDir.code then
    let s := setOutDir (m.arg = 1) s
    logMessage ("Sweep dir set to : " ++ fmtD (if s.obj.outdir then 1 else 0) ++ "\r\n") s
  else if m.cmd = Comands.sweepPulse.code then
    servicePulse m.data s
  else
    logMessage ("Received Unknown Sweep Packet : " ++ fmtD m.cmd.toNat ++ " "
      ++ fmtD m.arg.toNat ++ "\r\n") s

/-- The body of the `SWEEP_ETH_SIG` branch of `serviceEvents`, up to the `delete`. -/
def serviceMsg (m : AntaresMsg) (s : SweepCtx F) : Except Fault (SweepCtx F) :=
  if m.cmd = Comands.sweepPark.code then
    fsmPark (logMessage "Sweep Park requested\r\n" s)
  else .ok (serviceCmd m s)

/-! ## The event loop -/

/-- `delete` of a message object. -/
def deleteMsg (a : ℕ) (s : SweepCtx F) : SweepCtx F :=
  { s with world.heap := s.world.heap.delete a }

/-- The body of the loop of `serviceEvents` on the event at the front, before the `pop`. -/
def serviceEvent (evt : Event) (s : SweepCtx F) : Except Fault (SweepCtx F) :=
  if evt.evtype = SigTypes.sweepResetSig.bits then fsmTick s
  else if evt.evtype = SigTypes.sweepEthSig.bits then
    match evt.payload with
    | .msg a =>
        match s.world.heap.cell a with
        | some ia => serviceMsg ia s >>= fun s => .ok (deleteMsg a s)
        | none => .error (.dangling evt.payload)
    | p => .error (.dangling p)
  else if evt.evtype = SigTypes.sweepJobdoneSig.bits then fsmJobDone s
  else if evt.evtype = SigTypes.sweepTickSig.bits then fsmTick s
  else if evt.evtype = SigTypes.sweepSweepjobSig.bits then .ok (sweepJob s)
  else .ok s

def popEvent (s : SweepCtx F) : SweepCtx F :=
  { s with obj.events := s.obj.events.tail }

/-- One turn of the loop of `serviceEvents`. -/
def serviceFront (s : SweepCtx F) : Except Fault (SweepCtx F) :=
  match s.obj.events with
  | [] => .ok s
  | evt :: _ => serviceEvent evt s >>= fun s => .ok (popEvent s)

/-- How many turns an event can cause: a command may queue one event, and no other event queues
one that queues another. -/
def eventWeight (evt : Event) : ℕ :=
  if evt.evtype = SigTypes.sweepEthSig.bits ∨ evt.evtype = SigTypes.sweepJobdoneSig.bits
  then 2 else 1

def queueWeight (s : SweepCtx F) : ℕ := (s.obj.events.map eventWeight).sum

/-- `serviceEvents`: turns until the queue is empty. -/
def serviceEvents (s : SweepCtx F) : Except Fault (SweepCtx F) :=
  drain (fun s => !s.obj.events.isEmpty) serviceFront (queueWeight s) s

/-! ## Start -/

/-- The constructor: the generated machine in its start state and an empty queue; the other
fields keep what the memory held. -/
def construct (raw : Sweep) : Sweep :=
  { raw with fsm := .coldStart, events := [], touched := [] }

def start (s : SweepCtx F) : SweepCtx F :=
  let s := readSensors s
  let s := clearMap s
  let s := { s with obj.sweepmapptr := 2000, obj.sweeppos := 2000 }
  let s := setEnable false s
  let s := setOutDir false s
  let s := setPulse true s
  let s := { s with obj.pulsegap := 0, obj.sweepjobEnabled := false }
  let s := entry s.obj.fsm s
  logMessage "Sweep Driver attached to core, we have step motor services now\r\n" s

/-- Cleared memory. -/
def blank : Sweep where
  fsm := .coldStart
  events := []
  sweepmap _ := 0
  sweepmapptr := 0
  sweeppos := 0
  pulsegap := 0
  enable := false
  outdir := false
  pulse := false
  intap := false
  outtap := false
  parked := false
  parkedptr := 0
  sweepjobIn := 0
  sweepjobOut := 0
  sweepjobSpeed := 0
  sweepjobOutdir := false
  sweepjobEnabled := false
  touched := []

/-- The sweep driver as the main loop finds it: constructed in memory holding `raw` and started. -/
def boot (raw : Sweep) (w : World F) : SweepCtx F := start ⟨construct raw, w⟩

end Sweep

end Lgt8

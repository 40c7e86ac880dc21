import Mathlib.Tactic
import Lgt8.Sweep.Model
import Lgt8.Servo.Model
import Lgt8.Monitor.Model

/-!
# The kernel (`source/main.cpp`)

The three drivers, the post office between them, the gate the network hands its messages to, and
the main loop.

A message from the network enters at `ethergate`, which copies it into a new heap object and posts
an event for it.  `verifymail` moves every posted event to the queues of its subscribers, and each
driver services and deletes the messages in its own queue; messages for the kernel itself end in
`mainevents`, which `control` takes one from in each idle turn.

`KernelCtx F` is the globals of `main.cpp` together with the world; a driver's method acts on it
through `withSweep` and its relatives.
-/

namespace Lgt8

open Library

/-- States of the main loop (`CTRLSTATES`). -/
inductive CtrlStates
  | init | idle | alarm | sendu | recvu
  deriving DecidableEq, Repr

/-- The number of an enumerator, which `PIT_SLOWTICK_HANDLER` puts in an event. -/
def CtrlStates.code : CtrlStates → UInt8
  | .init => 0
  | .idle => 1
  | .alarm => 2
  | .sendu => 3
  | .recvu => 4

/-- The globals of `main.cpp`. -/
structure Kernel (F : Type) where
  sweep : Sweep
  servo : Servo F
  monitor : Monitor
  subscriptions : List (BitVec 32)
  postoffice : List Event
  mainevents : List Event
  eventTemp : Event
  /-- Answers waiting for a callback.  Nothing in the firmware queues one, so the objects are kept
  here and not in the heap. -/
  messageOut : List AntaresMsg
  ctrlState : CtrlStates
  alarms : Vector UInt32 4
  reload : Vector UInt32 4
  adcConversionDoneFlag : Bool
  adcConversionValue : UInt32

abbrev KernelCtx (F : Type) := Ctx (Kernel F) F

namespace Kernel

variable {F : Type}

/-! ## The drivers -/

def withSweep (f : SweepCtx F → SweepCtx F) (s : KernelCtx F) : KernelCtx F :=
  let t := f ⟨s.obj.sweep, s.world⟩
  ⟨{ s.obj with sweep := t.obj }, t.world⟩

def withServo (f : ServoCtx F → ServoCtx F) (s : KernelCtx F) : KernelCtx F :=
  let t := f ⟨s.obj.servo, s.world⟩
  ⟨{ s.obj with servo := t.obj }, t.world⟩

def withMonitor (f : MonitorCtx F → MonitorCtx F) (s : KernelCtx F) : KernelCtx F :=
  let t := f ⟨s.obj.monitor, s.world⟩
  ⟨{ s.obj with monitor := t.obj }, t.world⟩

/-- `sweep->serviceEvents()`. -/
def sweepPass (s : KernelCtx F) : Except Fault (KernelCtx F) :=
  (Sweep.serviceEvents ⟨s.obj.sweep, s.world⟩).map fun t =>
    ⟨{ s.obj with sweep := t.obj }, t.world⟩

/-- `servo->serviceEvents()`. -/
def servoPass [DoubleOps F] (s : KernelCtx F) : Except Fault (KernelCtx F) :=
  (Servo.serviceEvents ⟨s.obj.servo, s.world⟩).map fun t =>
    ⟨{ s.obj with servo := t.obj }, t.world⟩

/-- `monitor->serviceEvents()`. -/
def monitorPass [DoubleOps F] (s : KernelCtx F) : Except Fault (KernelCtx F) :=
  (Monitor.serviceEvents ⟨s.obj.monitor, s.world⟩).map fun t =>
    ⟨{ s.obj with monitor := t.obj }, t.world⟩

/-! ## The post office -/

def publish (evt : Event) (s : KernelCtx F) : KernelCtx F :=
  { s with obj.postoffice := s.obj.postoffice ++ [evt] }

/-- A subscription is an object's bit and a signal in one `int`. -/
def subscription (object : ObjTypes) (signal : BitVec 32) : BitVec 32 := object.bits ||| signal

def subscribe (object : ObjTypes) (signal : BitVec 32) (s : KernelCtx F) : KernelCtx F :=
  { s with obj.subscriptions := s.obj.subscriptions ++ [subscription object signal] }

/-- The body of the inner loop of `verifymail`: one event, one subscription. -/
def deliver (evt : Event) (s : KernelCtx F) (sub : BitVec 32) : KernelCtx F :=
  let subs := sub &&& 0x0000ffff#32
  let addr := sub &&& 0xffff0000#32
  if subs = evt.evtype then
    let s :=
      if addr = ObjTypes.main.bits then { s with obj.mainevents := s.obj.mainevents ++ [evt] }
      else s
    let s := if addr = ObjTypes.sweep.bits then withSweep (Sweep.pushEvent evt) s else s
    let s := if addr = ObjTypes.servo.bits then withServo (Servo.pushEvent evt) s else s
    if addr = ObjTypes.monitor.bits then withMonitor (Monitor.pushEvent evt) s else s
  else s

/-- One turn of the loop of `verifymail`. -/
def mailTurn (s : KernelCtx F) : KernelCtx F :=
  match s.obj.postoffice with
  | [] => s
  | evt :: _ =>
      let s := s.obj.subscriptions.foldl (deliver evt) s
      { s with obj.postoffice := s.obj.postoffice.tail }

/-- A turn of the loop of `verifymail`, and what interrupts post behind it: the first of the
arrivals. -/
def mailNext (p : KernelCtx F × List (List Event)) : KernelCtx F × List (List Event) :=
  ((p.2.headD []).foldl (fun s evt => publish evt s) (mailTurn p.1), p.2.tail)

/-- `verifymail`, with the arrivals it did not live to see. -/
def verifymail (arrivals : List (List Event)) (s : KernelCtx F) :
    Except Fault (KernelCtx F × List (List Event)) :=
  drain (fun p => !p.1.obj.postoffice.isEmpty) (fun p => .ok (mailNext p))
    (s.obj.postoffice.length + arrivals.flatten.length) (s, arrivals)

/-! ## The data gate -/

/-- The signal a message for `dest` is posted under. -/
def destSig (dest : UInt8) : Option SigTypes :=
  if dest = 1 then some .ctrlEthSig
  else if dest = 2 then some .sweepEthSig
  else if dest = 3 then some .servoEthSig
  else if dest = 4 then some .monitorEthSig
  else none

/-- The answer to a callback request when no message waits: the status stream, or word that it has
not changed. -/
def statusReply (st : Status F) (inmessage : AntaresMsg) : AntaresMsg :=
  if st.statusUpdated then
    let inmessage := inmessage.poke 5 [Comands.cmdStatusupdate.code]
    let inmessage := inmessage.poke 12 ((List.range 150).map st.statusStream)
    inmessage.poke 1 [127]
  else
    let inmessage := inmessage.poke 5 [Comands.cmdStatuskeep.code]
    inmessage.poke 1 [0]

/-- `ethergate`: what it makes of the message buffer, and of the kernel. -/
def ethergate (inmessage : AntaresMsg) (s : KernelCtx F) : AntaresMsg × KernelCtx F :=
  if inmessage.cmd = Comands.callbackReq.code then
    match s.obj.messageOut with
    | dispach :: rest =>
        (inmessage.poke 0 (dispach.bytes.take 64), { s with obj.messageOut := rest })
    | [] => (statusReply s.world.status inmessage, s)
  else
    let dispach := s.world.heap.next
    let s := { s with world.heap := s.world.heap.alloc inmessage }
    match destSig inmessage.dest with
    | some sig => (inmessage, publish (.of sig 1 (.msg dispach)) s)
    | none => (inmessage, s)

/-! ## Interrupts -/

/-- One turn of the loop over the alarms in `PIT_SLOWTICK_HANDLER`. -/
def alarmTurn (s : KernelCtx F) (i : Fin 4) : KernelCtx F :=
  if s.obj.alarms[i] < s.world.bspcounter then
    let s := publish (.of .alarmSig CtrlStates.alarm.code .null) s
    let next := if s.obj.reload[i] ≠ 0 then s.world.bspcounter + s.obj.reload[i] else 0xffffffff
    { s with obj.alarms := s.obj.alarms.set i next }
  else s

/-- `PIT_SLOWTICK_HANDLER`. -/
def pit [DoubleOps F] (s : KernelCtx F) : KernelCtx F :=
  let s := withSweep Sweep.serviceBoard s
  let s := withServo Servo.serviceBoard s
  let s := { s with world.bspcounter := s.world.bspcounter + 1 }
  (List.finRange 4).foldl alarmTurn s

/-- `BOARD_TACH_IRQ_HANDLER`. -/
def tach (s : KernelCtx F) : KernelCtx F :=
  withServo (Servo.serviceTach s.world.bspcounter) s

/-- `DEMO_ADC16_IRQ_HANDLER_FUNC`, with the value converted. -/
def adc (value : UInt32) (s : KernelCtx F) : KernelCtx F :=
  { s with obj.adcConversionDoneFlag := true, obj.adcConversionValue := value }

/-! ## The main loop -/

def setAlarm (index : Fin 4) (interval rld : UInt32) (s : KernelCtx F) : KernelCtx F :=
  { s with
    obj.alarms := s.obj.alarms.set index (s.world.bspcounter + interval)
    obj.reload := s.obj.reload.set index rld }

/-- The `IDLE` case: take an event, if there is one, into `event_temp`. -/
def takeEvent (s : KernelCtx F) : KernelCtx F :=
  match s.obj.mainevents with
  | [] => s
  | evt :: rest =>
      let s := { s with obj.eventTemp := evt }
      let s :=
        if evt.evtype = SigTypes.alarmSig.bits then { s with obj.ctrlState := .alarm }
        else if evt.evtype = SigTypes.ctrlEthSig.bits then { s with obj.ctrlState := .recvu }
        else s
      { s with obj.mainevents := rest }

/-- The `switch` at the end of the main loop.  The message of a control event is not looked at. -/
def control [DoubleOps F] (s : KernelCtx F) : KernelCtx F :=
  match s.obj.ctrlState with
  | .init => { setAlarm 0 100 100 s with obj.ctrlState := .idle }
  | .idle =>
      let s := takeEvent s
      { s with world.log := s.world.log.printLog }
  | .alarm =>
      let s :=
        if s.obj.adcConversionDoneFlag then
          storeMonitorSlot .cvexSlot (DoubleOps.ofInt s.obj.adcConversionValue.toNat)
            { s with obj.adcConversionDoneFlag := false }
        else s
      { s with obj.ctrlState := .idle }
  | .recvu =>
      { s with
        world.log := s.world.log.logStringnl "Received CTRL ETH Packet"
        obj.ctrlState := .idle }
  | .sendu => s

/-! ## Start -/

/-- The subscriptions of `main`, in order. -/
def bootSubscriptions : List (ObjTypes × BitVec 32) :=
  [(.main, SigTypes.ctrlEthSig.bits), (.main, SigTypes.alarmSig.bits),
    (.sweep, SigTypes.sweepEthSig.bits), (.servo, SigTypes.servoEthSig.bits),
    (.monitor, SigTypes.monitorEthSig.bits)]

/-- `main` up to its loop, in memory holding `raw`: the globals with a constructor are as that
leaves them.  The set-up of the peripherals is not modelled. -/
def boot [DoubleOps F] (raw : Kernel F) (w : World F) : KernelCtx F :=
  let s : KernelCtx F :=
    ⟨{ raw with
        subscriptions := []
        postoffice := []
        mainevents := []
        eventTemp := ⟨0, 0, .null⟩
        messageOut := []
        ctrlState := .init
        alarms := Vector.replicate 4 0xffffffff
        reload := Vector.replicate 4 0
        adcConversionDoneFlag := true },
      { w with
        duty0 := 0
        duty1 := 0
        status := w.status.initStatus
        log := ⟨4, true, w.log.logbuffer, 0⟩
        heap := .empty
        bspcounter := 0 }⟩
  let s := bootSubscriptions.foldl (fun s p => subscribe p.1 p.2 s) s
  let s := logMessage ("\r\n\r\nAntares-LGT8 V-1.6.0 [NB Version 3] Kernel Booting"
    ++ " - Hardware is OK \r\n") s
  let s := withSweep (fun c => Sweep.boot c.obj c.world) s
  let s := withServo (fun c => Servo.boot c.obj c.world) s
  let s := withMonitor (fun c => Monitor.boot c.obj c.world) s
  let s := logMessage ("Antares-LGT8 - Sensors and Services are UP, loading comms and"
    ++ " management...\r\n") s
  logMessage "Good, we are on businnes :-) -> State Machine is ready to go \r\n" s

/-- Cleared memory. -/
def blank : Kernel ℚ where
  sweep := Sweep.blank
  servo := Servo.blank
  monitor := Monitor.blank
  subscriptions := []
  postoffice := []
  mainevents := []
  eventTemp := ⟨0, 0, .null⟩
  messageOut := []
  ctrlState := .init
  alarms := Vector.replicate 4 0
  reload := Vector.replicate 4 0
  adcConversionDoneFlag := false
  adcConversionValue := 0

end Kernel

end Lgt8

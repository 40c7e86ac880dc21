import Mathlib.Tactic
import Lgt8.Firmware.Antares
import Lgt8.Firmware.Log
import Lgt8.Firmware.Status

/-!
# What lies outside a module object

The `Sweep`, `Servo` and `Monitor` objects act on the board and on the globals of `main.cpp`.
`World F` collects that common part: the output pins, the two PWM channels, the status stream, the
log, the message heap and the tick counter — and the two things the code reads without anyone in
the firmware having written them:

* `taps` — what the next reads of the two tap switches will return;
* `stack` — what the next uninitialised locals happen to hold.

Both are streams that a read consumes, so a statement for every `World` is a statement for every
value the switches and the stack can show, at each read.

`Ctx Obj F` is one module object together with the world; every method of a module is a function
on it.
-/

namespace Lgt8

open Library

/-- Levels of the output pins the firmware drives (`true` is high). -/
structure Pins where
  stepEnable : Bool
  stepPulse : Bool
  stepDir : Bool
  drumEnable : Bool
  vacEnable : Bool
  wg2Dir : Bool
  servoClk : Bool
  servoState : Bool
  deriving DecidableEq, Repr

/-- The two tap switches, as one `GPIO_ReadPinInput` of each returns them. -/
structure Taps where
  intap : Bool
  outtap : Bool
  deriving DecidableEq, Repr

structure World (F : Type) where
  pins : Pins
  /-- Duty cycle of FTM2 channel 0, the plate motor, in percent. -/
  duty0 : UInt8
  /-- Duty cycle of FTM2 channel 1. -/
  duty1 : UInt8
  status : Status F
  log : Log
  heap : Heap
  bspcounter : UInt32
  taps : ℕ → Taps
  stack : ℕ → ℤ

/-- A board just switched on: memory cleared, pins low, taps open. -/
def World.blank : World ℚ where
  pins := ⟨false, false, false, false, false, false, false, false⟩
  duty0 := 0
  duty1 := 0
  status := ⟨fun _ => 0, fun _ => false, fun _ => 0, false⟩
  log := ⟨levelInfo, true, fun _ => 0, 0⟩
  heap := .empty
  bspcounter := 0
  taps _ := ⟨false, false⟩
  stack _ := 0

/-- What ends a `serviceEvents` pass early. -/
inductive Fault
  /-- `TransitionUndefinedException`, with the name of the state that raised it. -/
  | transitionUndefined (state : String)
  /-- A message event whose payload is no live message object. -/
  | dangling (payload : Payload)
  deriving DecidableEq, Repr

/-- The fault is an undefined transition, and not a message that is gone. -/
def Fault.Undefined : Fault → Prop
  | .transitionUndefined _ => True
  | .dangling _ => False

/-- A module object and the world it acts on. -/
structure Ctx (Obj F : Type) where
  obj : Obj
  world : World F

variable {Obj F : Type}

/-! ## The board (`board/board.c`) -/

/-- `setPWM`.  Channel 0 drives the plate motor's IGBT and is capped at 80 percent. -/
def setPWM (channel value : UInt8) (s : Ctx Obj F) : Ctx Obj F :=
  if channel = 0 then
    let value := if 80 < value then 80 else value
    { s with world.duty0 := value }
  else if channel = 1 then { s with world.duty1 := value }
  else s

/-- `InitBSP`, as far as the output pins go: every one is configured high. -/
def initBSP (w : World F) : World F :=
  { w with pins := ⟨true, true, true, true, true, true, true, true⟩ }

/-- `setServoPWM`, as far as the duty cycles go: both channels start at 0. -/
def setServoPWM (w : World F) : World F := { w with duty0 := 0, duty1 := 0 }

/-- Drive the output pins. -/
def setPins (f : Pins → Pins) (s : Ctx Obj F) : Ctx Obj F :=
  { s with world.pins := f s.world.pins }

/-! ## The globals of `source/main.cpp` -/

def logMessage (text : String) (s : Ctx Obj F) : Ctx Obj F :=
  { s with world.log := s.world.log.logMessage levelInfo text }

def storeMonitorFlag (slot : StFlags) (flag : Bool) (s : Ctx Obj F) : Ctx Obj F :=
  { s with world.status := s.world.status.storeMonitorFlag slot.index flag }

def storeMonitorSlot [DoubleOps F] (slot : StVals) (value : F) (s : Ctx Obj F) : Ctx Obj F :=
  { s with world.status := s.world.status.storeMonitorSlot slot.index value }

/-- `getTick`. -/
def getTick (s : Ctx Obj F) : UInt32 := s.world.bspcounter

/-! ## Inputs nobody wrote -/

/-- The value an uninitialised `int` local starts with. -/
def uninit (s : Ctx Obj F) : ℤ × Ctx Obj F :=
  (int32 (s.world.stack 0), { s with world.stack := fun n => s.world.stack (n + 1) })

/-- One read of both tap switches. -/
def readTaps (s : Ctx Obj F) : Taps × Ctx Obj F :=
  (s.world.taps 0, { s with world.taps := fun n => s.world.taps (n + 1) })

/-! ## What these leave alone -/

@[simp] lemma setPWM_obj (c v : UInt8) (s : Ctx Obj F) : (setPWM c v s).obj = s.obj := by
  simp only [setPWM]
  split_ifs <;> rfl

@[simp] lemma setPins_obj (f : Pins → Pins) (s : Ctx Obj F) : (setPins f s).obj = s.obj := rfl

@[simp] lemma logMessage_obj (t : String) (s : Ctx Obj F) : (logMessage t s).obj = s.obj := rfl

@[simp] lemma storeMonitorFlag_obj (k : StFlags) (b : Bool) (s : Ctx Obj F) :
    (storeMonitorFlag k b s).obj = s.obj := rfl

@[simp] lemma storeMonitorSlot_obj [DoubleOps F] (k : StVals) (v : F) (s : Ctx Obj F) :
    (storeMonitorSlot k v s).obj = s.obj := rfl

@[simp] lemma uninit_obj (s : Ctx Obj F) : (uninit s).2.obj = s.obj := rfl

@[simp] lemma readTaps_obj (s : Ctx Obj F) : (readTaps s).2.obj = s.obj := rfl

@[simp] lemma setPWM_heap (c v : UInt8) (s : Ctx Obj F) :
    (setPWM c v s).world.heap = s.world.heap := by
  simp only [setPWM]
  split_ifs <;> rfl

@[simp] lemma setPins_heap (f : Pins → Pins) (s : Ctx Obj F) :
    (setPins f s).world.heap = s.world.heap := rfl

@[simp] lemma logMessage_heap (t : String) (s : Ctx Obj F) :
    (logMessage t s).world.heap = s.world.heap := rfl

@[simp] lemma storeMonitorFlag_heap (k : StFlags) (b : Bool) (s : Ctx Obj F) :
    (storeMonitorFlag k b s).world.heap = s.world.heap := rfl

@[simp] lemma storeMonitorSlot_heap [DoubleOps F] (k : StVals) (v : F) (s : Ctx Obj F) :
    (storeMonitorSlot k v s).world.heap = s.world.heap := rfl

@[simp] lemma uninit_heap (s : Ctx Obj F) : (uninit s).2.world.heap = s.world.heap := rfl

@[simp] lemma readTaps_heap (s : Ctx Obj F) : (readTaps s).2.world.heap = s.world.heap := rfl

end Lgt8

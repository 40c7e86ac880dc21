import Mathlib.Tactic
import Lgt8.Firmware.Double

/-!
# The status stream (`storeMonitorSlot`, `storeMonitorFlag` in `source/main.cpp`)

The telemetry a client polls is a text kept up to date in place: ten values of eleven bytes each,
then one `0`/`1` character per flag, separated by commas.  `statusvals` and `statusflags` remember
the last stored value, and a store of an unchanged value writes nothing.
-/

namespace Lgt8

/-- Slots of the ten monitored values (`enum STVALS`). -/
inductive StVals
  | servoSpeedSlot | servoTorqueSlot | cvexSlot | wg2SpeedSlot
  deriving DecidableEq, Repr

def StVals.index : StVals → ℕ
  | .servoSpeedSlot => 0
  | .servoTorqueSlot => 1
  | .cvexSlot => 4
  | .wg2SpeedSlot => 6

/-- Slots of the status flags (`enum STFLAGS`). -/
inductive StFlags
  | sweepInner | sweepOuter | sweepParkflag | sweepEnabled | sweepOutdir
  | servoEnabled | servoFault | wG20Enabled | wg20Dir | wg20Present
  | drumEnabled | vacEnabled | dropSensor
  deriving DecidableEq, Repr

def StFlags.index : StFlags → ℕ
  | .sweepInner => 0
  | .sweepOuter => 1
  | .sweepParkflag => 2
  | .sweepEnabled => 3
  | .sweepOutdir => 4
  | .servoEnabled => 5
  | .servoFault => 6
  | .wG20Enabled => 7
  | .wg20Dir => 8
  | .wg20Present => 9
  | .drumEnabled => 10
  | .vacEnabled => 11
  | .dropSensor => 12

lemma StVals.index_lt (k : StVals) : k.index < 10 := by
  cases k <;> decide

lemma StFlags.index_lt (k : StFlags) : k.index < 13 := by
  cases k <;> decide

/-- Offsets of the flags in the stream. -/
def statusflagsPtr : List ℕ := [110, 112, 114, 116, 118, 120, 122, 124, 126, 128, 130, 132, 134]

structure Status (F : Type) where
  statusvals : ℕ → F
  statusflags : ℕ → Bool
  statusStream : ℕ → UInt8
  statusUpdated : Bool

namespace Status

variable {F : Type}

/-- `memcpy` of `src` to the stream at `ptr`. -/
def write (st : Status F) (ptr : ℕ) (src : List UInt8) : Status F :=
  { st with statusStream := fun i =>
      if ptr ≤ i ∧ i < ptr + src.length then src.getD (i - ptr) 0 else st.statusStream i }

/-- `storeMonitorSlot`.  The text is formatted into a buffer and eleven bytes of it, the comma
included, are copied, whatever its length. -/
def storeMonitorSlot [DoubleOps F] (slot : ℕ) (value : F) (st : Status F) : Status F :=
  if DoubleOps.eq (st.statusvals slot) value then st
  else
    let st := { st with statusvals := Function.update st.statusvals slot value }
    let slotptr := slot * 10 + slot
    let buf := DoubleOps.sprintfE value ++ [44, 0]
    let st := st.write slotptr ((List.range 11).map fun i => buf.getD i 0)
    { st with statusUpdated := true }

/-- `storeMonitorFlag`.  The last flag the source knew of, slot 11, ends the text. -/
def storeMonitorFlag (slot : ℕ) (flag : Bool) (st : Status F) : Status F :=
  if st.statusflags slot = flag then st
  else
    let st := { st with statusflags := Function.update st.statusflags slot flag }
    let idx := statusflagsPtr.getD slot 0
    let st := st.write idx [if flag then 49 else 48]
    let st := st.write (idx + 1) [if slot = 11 then 0 else 44]
    { st with statusUpdated := true }

/-- `initStatus`: every slot and every flag but the last is overwritten and then stored, so that
the whole stream is written. -/
def initStatus [DoubleOps F] (st : Status F) : Status F :=
  let slot (st : Status F) (i : ℕ) : Status F :=
    { st with statusvals := Function.update st.statusvals i (DoubleOps.ofInt (-100000)) }
      |>.storeMonitorSlot i
        (DoubleOps.add (DoubleOps.mul (DoubleOps.ofInt i) (DoubleOps.ofInt 80))
          (DoubleOps.ofInt (i / 3 : ℕ)))
  let flag (st : Status F) (j : ℕ) : Status F :=
    { st with statusflags := Function.update st.statusflags j false }
      |>.storeMonitorFlag j true
  (List.range 12).foldl flag ((List.range 10).foldl slot st)

end Status

end Lgt8

import Mathlib.Tactic
import Lgt8.Library.Runs
import Lgt8.Firmware.World
import Lgt8.Firmware.Sscanf

/-!
# The monitor driver (`Monitor/Monitor.cpp`)

The vacuum, the drum and the second motor (`WG20`).  The driver has no state machine and does
nothing on a timer tick; it only carries out commands.

`sscanf` with `%d` stores four bytes at the one-byte `wg20pwm`, which is the last field of the
object: the other three land behind it and are not modelled.
-/

namespace Lgt8

open Library

/-- The `Monitor` object. -/
structure Monitor where
  events : List Event
  wg20Cw : Bool
  drum : Bool
  vaccum : Bool
  wg20pwm : UInt8

abbrev MonitorCtx (F : Type) := Ctx Monitor F

namespace Monitor

variable {F : Type}

/-! ## Setters -/

/-- The pin is toggled, whatever the drum was. -/
def setDrum (drum : Bool) (s : MonitorCtx F) : MonitorCtx F :=
  let s := { s with obj.drum := drum }
  let s := setPins (fun p => { p with drumEnable := !p.drumEnable }) s
  storeMonitorFlag .drumEnabled drum s

def setVaccum (vaccum : Bool) (s : MonitorCtx F) : MonitorCtx F :=
  let s := { s with obj.vaccum := vaccum }
  let s :=
    if vaccum then setPins (fun p => { p with vacEnable := false }) s
    else setPins (fun p => { p with vacEnable := true }) s
  storeMonitorFlag .vacEnabled vaccum s

def setWg20Cw (wg20Cw : Bool) (s : MonitorCtx F) : MonitorCtx F :=
  let s := { s with obj.wg20Cw := wg20Cw }
  let s :=
    if wg20Cw then setPins (fun p => { p with wg2Dir := false }) s
    else setPins (fun p => { p with wg2Dir := true }) s
  storeMonitorFlag .wg20Dir s.obj.wg20Cw s

/-- `sscanf(mes, "%d", &wg20pwm)`. -/
def scanVel (mes : List UInt8) (s : MonitorCtx F) : MonitorCtx F :=
  match sscanfInts 1 mes with
  | [] => s
  | v :: _ => { s with obj.wg20pwm := uint8 v }

variable [DoubleOps F]

def setWG20Vel (s : MonitorCtx F) : MonitorCtx F :=
  let s := setPWM 1 s.obj.wg20pwm s
  storeMonitorSlot .wg2SpeedSlot (DoubleOps.ofInt s.obj.wg20pwm.toNat) s

/-! ## Servicing a network message -/

/-- The body of the `MONITOR_ETH_SIG` branch of `serviceEvents`, up to the `delete`. -/
def serviceMsg (m : AntaresMsg) (s : MonitorCtx F) : MonitorCtx F :=
  if m.cmd = Comands.monSetvac.code then
    if m.arg = 1 then logMessage "Vaccum activated\r\n" (setVaccum true s)
    else logMessage "Vaccum deactivated\r\n" (setVaccum false s)
  else if m.cmd = Comands.monSetdrum.code then
    if m.arg = 1 then logMessage "Drum activated\r\n" (setDrum true s)
    else logMessage "Drum deactivated\r\n" (setDrum false s)
  else if m.cmd = Comands.wg20Setdir.code then
    let s := if m.arg = 1 then setWg20Cw true s else setWg20Cw false s
    logMessage ("WG20 dir set to : " ++ fmtD m.arg.toNat ++ "\r\n") s
  else if m.cmd = Comands.wg20Setvel.code then
    let s := if m.arg = 0 then setWg20Cw false s else setWg20Cw true s
    let s := scanVel m.data s
    let s := setWG20Vel s
    logMessage ("WG20 Vel set to  " ++ fmtD s.obj.wg20pwm.toNat ++ " / "
      ++ fmtD (if s.obj.wg20Cw then 1 else 0) ++ "\r\n") s
  else if m.cmd = Comands.monReset.code then
    let s := logMessage "monitor reset received\r\n" s
    let s := setDrum false s
    let s := setVaccum true s
    let s := setWg20Cw true s
    setPWM 1 0 s
  else
    logMessage ("Received unknown Monitor Packet : " ++ fmtD m.cmd.toNat ++ ", "
      ++ fmtD m.arg.toNat ++ "\r\n") s

/-! ## The event loop -/

def pushEvent (evt : Event) (s : MonitorCtx F) : MonitorCtx F :=
  { s with obj.events := s.obj.events ++ [evt] }

/-- `delete` of a message object. -/
def deleteMsg (a : ℕ) (s : MonitorCtx F) : MonitorCtx F :=
  { s with world.heap := s.world.heap.delete a }

/-- The body of the loop of `serviceEvents` on the event at the front, before the `pop`. -/
def serviceEvent (evt : Event) (s : MonitorCtx F) : Except Fault (MonitorCtx F) :=
  if evt.evtype = SigTypes.monitorResetSig.bits then .ok s
  else if evt.evtype = SigTypes.monitorEthSig.bits then
    match evt.payload with
    | .msg a =>
        match s.world.heap.cell a with
        | some ia => .ok (deleteMsg a (serviceMsg ia s))
        | none => .error (.dangling evt.payload)
    | p => .error (.dangling p)
  else .ok s

def popEvent (s : MonitorCtx F) : MonitorCtx F :=
  { s with obj.events := s.obj.events.tail }

/-- One turn of the loop of `serviceEvents`. -/
def serviceFront (s : MonitorCtx F) : Except Fault (MonitorCtx F) :=
  match s.obj.events with
  | [] => .ok s
  | evt :: _ => serviceEvent evt s >>= fun s => .ok (popEvent s)

/-- `serviceEvents`: turns until the queue is empty.  No event queues another. -/
def serviceEvents (s : MonitorCtx F) : Except Fault (MonitorCtx F) :=
  drain (fun s => !s.obj.events.isEmpty) serviceFront s.obj.events.length s

/-! ## Start -/

def start (s : MonitorCtx F) : MonitorCtx F :=
  let s := setDrum false s
  let s := setVaccum true s
  let s := setWg20Cw true s
  let s := { s with obj.wg20pwm := 0 }
  let s := setWG20Vel s
  logMessage "Monitor Driver attached to core, we have LVDT and auxiliar services now\r\n" s

/-- The monitor driver as the main loop finds it.  The constructor writes nothing but the queue. -/
def boot (raw : Monitor) (w : World F) : MonitorCtx F := start ⟨{ raw with events := [] }, w⟩

/-- Cleared memory. -/
def blank : Monitor where
  events := []
  wg20Cw := false
  drum := false
  vaccum := false
  wg20pwm := 0

end Monitor

end Lgt8

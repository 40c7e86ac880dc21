import Mathlib.Tactic
import Lgt8.Firmware.Wiring
import Lgt8.Monitor.Passes

/-!
# The monitor keeps its outputs in step

The vacuum's and the second motor's setter write the variable, the pin and the status flag together;
the drum's writes the variable and the flag together, and toggles the pin.

* `Wired` — what an operation may do to the outputs: keep the monitor's in step with its variables,
  leave the sweep's alone, and write the status stream only through the store functions.
* **`serviceFront_wired`** — a turn of `serviceEvents`, whatever the event.
-/

namespace Lgt8.Monitor

open Library

variable {F : Type}

/-- The outputs as the variables have them.  `VAC_ENABLE_ON` and `WG2DIR_ON` clear their pins. -/
def wires (mo : Monitor) : Bool × Bool × Bool × Bool × Bool :=
  (!mo.vaccum, !mo.wg20Cw, mo.vaccum, mo.wg20Cw, mo.drum)

variable [DoubleOps F]

/-- From `s` to `t` the monitor's outputs stay in step and the sweep's are left alone. -/
structure Wired (s t : MonitorCtx F) : Prop where
  monitor : monitorWires s.world = wires s.obj → monitorWires t.world = wires t.obj
  sweep : sweepWires t.world = sweepWires s.world
  status : Status.Stores s.world.status t.world.status

lemma Wired.refl (s : MonitorCtx F) : Wired s s := ⟨id, rfl, .refl⟩

lemma Wired.trans {s t u : MonitorCtx F} (h : Wired s t) (h' : Wired t u) : Wired s u :=
  ⟨h'.monitor ∘ h.monitor, h'.sweep.trans h.sweep, h.status.trans h'.status⟩

/-- Neither an output nor one of the variables behind them has changed. -/
lemma Wired.offline {s t : MonitorCtx F} (h : Offline s.world t.world)
    (hw : wires t.obj = wires s.obj) : Wired s t :=
  ⟨fun hs => by rw [h.monitor, hs, hw], h.sweep, h.status⟩

/-! ## The setters -/

lemma setDrum_wired (b : Bool) (s : MonitorCtx F) : Wired s (setDrum b s) := by
  refine ⟨fun h => ?_, ?_, Status.Stores.refl.flag (StFlags.index_lt _) _⟩
  · simp only [monitorWires, wires, Prod.mk.injEq, StFlags.index] at h ⊢
    obtain ⟨hvac, hdir, hvacf, hdirf, _⟩ := h
    simp [setDrum, setPins, StFlags.index, hvac, hdir, hvacf, hdirf]
  · simp [setDrum, sweepWires, setPins, StFlags.index]

lemma setVaccum_wired (b : Bool) (s : MonitorCtx F) : Wired s (setVaccum b s) := by
  refine ⟨fun h => ?_, ?_, ?_⟩
  · simp only [monitorWires, wires, Prod.mk.injEq, StFlags.index] at h ⊢
    obtain ⟨_, hdir, _, hdirf, hdrum⟩ := h
    cases b <;> simp [setVaccum, setPins, StFlags.index, hdir, hdirf, hdrum]
  · cases b <;> simp [setVaccum, sweepWires, setPins, StFlags.index]
  · cases b <;> exact Status.Stores.refl.flag (StFlags.index_lt _) _

lemma setWg20Cw_wired (b : Bool) (s : MonitorCtx F) : Wired s (setWg20Cw b s) := by
  refine ⟨fun h => ?_, ?_, ?_⟩
  · simp only [monitorWires, wires, Prod.mk.injEq, StFlags.index] at h ⊢
    obtain ⟨hvac, _, hvacf, _, hdrum⟩ := h
    cases b <;> simp [setWg20Cw, setPins, StFlags.index, hvac, hvacf, hdrum]
  · cases b <;> simp [setWg20Cw, sweepWires, setPins, StFlags.index]
  · cases b <;> exact Status.Stores.refl.flag (StFlags.index_lt _) _

lemma logMessage_wired (text : String) (s : MonitorCtx F) : Wired s (logMessage text s) :=
  .offline (.of_eq rfl rfl) rfl

lemma setPWM_wired (c v : UInt8) (s : MonitorCtx F) : Wired s (setPWM c v s) :=
  .offline (offline_setPWM c v s) (by rw [setPWM_obj])

lemma scanVel_wired (mes : List UInt8) (s : MonitorCtx F) : Wired s (scanVel mes s) := by
  rw [scanVel]
  split <;> exact .offline (.refl _) rfl

lemma setWG20Vel_wired (s : MonitorCtx F) : Wired s (setWG20Vel s) :=
  (setPWM_wired 1 s.obj.wg20pwm s).trans
    (.offline (offline_storeMonitorSlot .wg2SpeedSlot _ _) rfl)

/-! ## Commands and turns -/

lemma serviceMsg_wired (m : AntaresMsg) (s : MonitorCtx F) : Wired s (serviceMsg m s) := by
  rw [serviceMsg]
  split_ifs
  · exact (setVaccum_wired _ _).trans (logMessage_wired _ _)
  · exact (setVaccum_wired _ _).trans (logMessage_wired _ _)
  · exact (setDrum_wired _ _).trans (logMessage_wired _ _)
  · exact (setDrum_wired _ _).trans (logMessage_wired _ _)
  · exact (setWg20Cw_wired _ _).trans (logMessage_wired _ _)
  · exact (setWg20Cw_wired _ _).trans (logMessage_wired _ _)
  · exact (((setWg20Cw_wired _ _).trans (scanVel_wired _ _)).trans (setWG20Vel_wired _)).trans
      (logMessage_wired _ _)
  · exact (((setWg20Cw_wired _ _).trans (scanVel_wired _ _)).trans (setWG20Vel_wired _)).trans
      (logMessage_wired _ _)
  · exact ((((logMessage_wired _ _).trans (setDrum_wired _ _)).trans (setVaccum_wired _ _)).trans
      (setWg20Cw_wired _ _)).trans (setPWM_wired _ _ _)
  · exact logMessage_wired _ _

lemma serviceEvent_wired {e : Event} {s t : MonitorCtx F} (h : serviceEvent e s = .ok t) :
    Wired s t := by
  rw [serviceEvent] at h
  split_ifs at h
  · cases h
    exact .refl s
  · split at h
    · split at h
      · cases h
        exact (serviceMsg_wired _ s).trans (.offline (.of_eq rfl rfl) rfl)
      · cases h
    · cases h
  · cases h
    exact .refl s

/-- **A turn of `serviceEvents`**, whatever the event. -/
theorem serviceFront_wired {s t : MonitorCtx F} (h : serviceFront s = .ok t) : Wired s t := by
  rw [serviceFront] at h
  split at h
  · cases h
    exact .refl s
  · next e rest he =>
      cases hu : serviceEvent e s with
      | error x => rw [hu] at h; cases h
      | ok u =>
          rw [hu] at h
          cases h
          exact (serviceEvent_wired hu).trans (.offline (.refl _) rfl)

/-! ## Start -/

/-- After `start` the outputs are in step, whatever they were. -/
theorem boot_wired (raw : Monitor) (w : World F) :
    monitorWires (boot raw w).world = wires (boot raw w).obj ∧
      sweepWires (boot raw w).world = sweepWires w ∧
      Status.Stores w.status (boot raw w).world.status := by
  let v : MonitorCtx F := ⟨{ raw with events := [] }, w⟩
  let u : MonitorCtx F := setWg20Cw true (setVaccum true (setDrum false v))
  have hu : monitorWires u.world = wires u.obj := by
    simp [u, setDrum, setVaccum, setWg20Cw, setPins, monitorWires, wires, StFlags.index]
  have hpre : Wired v u :=
    ((setDrum_wired false v).trans (setVaccum_wired true _)).trans (setWg20Cw_wired true _)
  have hzero : Wired u { u with obj.wg20pwm := 0 } := .offline (.refl _) rfl
  have hpost : Wired u (boot raw w) :=
    (hzero.trans (setWG20Vel_wired _)).trans (logMessage_wired _ _)
  exact ⟨hpost.monitor hu, hpost.sweep.trans hpre.sweep, hpre.status.trans hpost.status⟩

end Lgt8.Monitor

import Mathlib.Tactic
import Lgt8.Firmware.Wiring
import Lgt8.Sweep.Passes

/-!
# The sweep keeps its outputs in step

`setEnable` and `setOutDir` write the variable, the pin and the status flag together, and they are
the only operations that write any of the three.

* `Wired` — what an operation may do to the outputs: keep the sweep's in step with its variables,
  leave the monitor's alone, and write the status stream only through the store functions.
* **`serviceBoard_wired`**, **`serviceFront_wired`** — the timer interrupt, and a turn of
  `serviceEvents` whatever the event.
-/

namespace Lgt8.Sweep

open Library

variable {F : Type}

/-- The outputs as the variables have them. -/
def wires (sw : Sweep) : Bool × Bool × Bool × Bool := (sw.enable, sw.outdir, sw.enable, sw.outdir)

variable [DoubleOps F]

/-- From `s` to `t` the sweep's outputs stay in step and the monitor's are left alone. -/
structure Wired (s t : SweepCtx F) : Prop where
  sweep : sweepWires s.world = wires s.obj → sweepWires t.world = wires t.obj
  monitor : monitorWires t.world = monitorWires s.world
  status : Status.Stores s.world.status t.world.status

lemma Wired.refl (s : SweepCtx F) : Wired s s := ⟨id, rfl, .refl⟩

lemma Wired.trans {s t u : SweepCtx F} (h : Wired s t) (h' : Wired t u) : Wired s u :=
  ⟨h'.sweep ∘ h.sweep, h'.monitor.trans h.monitor, h.status.trans h'.status⟩

/-- Neither an output nor one of the two variables has changed. -/
lemma Wired.offline {s t : SweepCtx F} (h : Offline s.world t.world)
    (he : t.obj.enable = s.obj.enable) (ho : t.obj.outdir = s.obj.outdir) : Wired s t := by
  refine ⟨fun hs => ?_, h.monitor, h.status⟩
  rw [h.sweep, hs, wires, wires, he, ho]

/-- An operation after something that touched neither an output nor one of the two variables. -/
lemma Wired.after {s t u : SweepCtx F} (h : Wired t u) (hp : t.world.pins = s.world.pins)
    (hs : t.world.status = s.world.status) (he : t.obj.enable = s.obj.enable)
    (ho : t.obj.outdir = s.obj.outdir) : Wired s u :=
  (Wired.offline (.of_eq hp hs) he ho).trans h

/-! ## The setters -/

lemma setEnable_wired (b : Bool) (s : SweepCtx F) : Wired s (setEnable b s) := by
  refine ⟨fun h => ?_, ?_, ?_⟩
  · simp only [sweepWires, wires, Prod.mk.injEq, StFlags.index] at h ⊢
    obtain ⟨_, hdir, _, hflag⟩ := h
    cases b <;> simp [setEnable, setPins, logMessage, StFlags.index, hdir, hflag]
  · cases b <;> simp [setEnable, monitorWires, setPins, logMessage, StFlags.index]
  · cases b <;> exact Status.Stores.refl.flag (StFlags.index_lt _) _

lemma setOutDir_wired (b : Bool) (s : SweepCtx F) : Wired s (setOutDir b s) := by
  refine ⟨fun h => ?_, ?_, ?_⟩
  · simp only [sweepWires, wires, Prod.mk.injEq, StFlags.index] at h ⊢
    obtain ⟨henable, _, hflag, _⟩ := h
    cases b <;> simp [setOutDir, setPins, StFlags.index, henable, hflag]
  · cases b <;> simp [setOutDir, monitorWires, setPins, StFlags.index]
  · cases b <;> exact Status.Stores.refl.flag (StFlags.index_lt _) _

lemma setPulse_wired (b : Bool) (s : SweepCtx F) : Wired s (setPulse b s) := by
  cases b <;> exact ⟨id, rfl, .refl⟩

/-- The one flag the sensors write belongs to neither. -/
lemma readSensors_wired (s : SweepCtx F) : Wired s (readSensors s) := by
  dsimp only [readSensors, readTaps]
  exact .offline ((offline_storeMonitorFlag (k := .sweepOuter) (by decide) _ _).after rfl rfl) rfl rfl

/-! ## The timer interrupt -/

lemma nextCell_wired (s : SweepCtx F) : Wired s (nextCell s) := by
  rw [nextCell]
  split <;> exact .offline (.refl _) rfl rfl

lemma latchGap_wired (s : SweepCtx F) : Wired s (latchGap s) := by
  rw [latchGap]
  split
  · exact (setOutDir_wired _ _).after rfl rfl rfl rfl
  · exact .refl s

lemma dropPulse_wired (s : SweepCtx F) : Wired s (dropPulse s) := by
  rw [dropPulse]
  exact (setPulse_wired _ _).after rfl rfl rfl rfl

lemma raisePulse_wired (s : SweepCtx F) : Wired s (raisePulse s) := by
  rw [raisePulse]
  exact (setPulse_wired true s).trans ((nextCell_wired _).after rfl rfl rfl rfl)

lemma restTick_wired (s : SweepCtx F) : Wired s (restTick s) := by
  have hrest : Wired s (readSensors { setPulse true s with obj.pulsegap := 0 }) :=
    (setPulse_wired true s).trans ((readSensors_wired _).after rfl rfl rfl rfl)
  rw [restTick]
  dsimp only
  split
  · exact hrest.trans (.offline (.refl _) rfl rfl)
  · exact hrest

/-- **The timer interrupt.** -/
theorem serviceBoard_wired (s : SweepCtx F) : Wired s (serviceBoard s) := by
  have htouch : Wired s (touch s.obj.sweepmapptr s) := .offline (.refl _) rfl rfl
  rw [serviceBoard]
  split
  · dsimp only
    split_ifs
    · exact ((htouch.trans (latchGap_wired _)).trans (dropPulse_wired _)).trans (readSensors_wired _)
    · exact ((htouch.trans (latchGap_wired _)).trans (raisePulse_wired _)).trans
        (readSensors_wired _)
    · exact (htouch.trans (latchGap_wired _)).trans (.offline (.refl _) rfl rfl)
    · exact htouch.trans (restTick_wired _)
  · exact readSensors_wired s

/-! ## Moves -/

lemma slideLoop_wired (speed : UInt8) :
    ∀ (n : ℕ) (tptr : ℤ) (s : SweepCtx F), Wired s (slideLoop speed n tptr s)
  | 0, _, s => .refl s
  | n + 1, _, _ => (slideLoop_wired speed n _ _).after rfl rfl rfl rfl

lemma slide_wired (step speed : ℤ) (s : SweepCtx F) : Wired s (slide step speed s) := by
  rw [slide]
  split <;>
    exact ((setOutDir_wired _ s).trans (slideLoop_wired _ _ _ _)).trans (setEnable_wired _ _)

lemma goto_wired (step speed : ℤ) (s : SweepCtx F) : Wired s (goto step speed s) := by
  rw [goto]
  split
  · exact slide_wired _ _ s
  · exact .refl s

lemma sweepJob_wired (s : SweepCtx F) : Wired s (sweepJob s) := by
  rw [sweepJob]
  split
  · dsimp only
    split <;> exact (goto_wired _ _ s).trans (.offline (.refl _) rfl rfl)
  · exact .refl s

/-! ## The state machine -/

lemma enterState_wired (st : Adm) (s : SweepCtx F) : Wired s (enterState st s) := by
  have hfsm : Wired s { s with obj.fsm := st } := .offline (.refl _) rfl rfl
  cases st with
  | coldStart => exact hfsm.trans (.offline (.refl _) rfl rfl)
  | idle => exact hfsm
  | setParked => exact hfsm.trans (.offline (.of_eq rfl rfl) rfl rfl)
  | searchOut => exact hfsm.trans (slide_wired _ _ _)
  | searchIn => exact hfsm.trans (slide_wired _ _ _)

/-! ## Commands and turns -/

lemma serviceGoto_wired (mes : List UInt8) (s : SweepCtx F) : Wired s (serviceGoto mes s) := by
  rw [serviceGoto]
  exact (goto_wired _ _ _).after rfl rfl rfl rfl

lemma serviceScan_wired (arg : UInt8) (mes : List UInt8) (s : SweepCtx F) :
    Wired s (serviceScan arg mes s) := by
  rw [serviceScan]
  split <;> exact .offline (.of_eq rfl rfl) rfl rfl

/-- Toggling the pulse pin toggles no other. -/
lemma togglePulse_eq (n : ℕ) (p : Pins) : ∃ b,
    (fun q : Pins => { q with stepPulse := !q.stepPulse })^[n] p = { p with stepPulse := b } := by
  induction n generalizing p with
  | zero => exact ⟨p.stepPulse, rfl⟩
  | succ n ih =>
      rw [Function.iterate_succ_apply]
      exact ih _

omit [DoubleOps F] in
lemma pulseBurst_eq (s : SweepCtx F) :
    ∃ b, pulseBurst s = setPins (fun p => { p with stepPulse := b }) s := by
  obtain ⟨b, hb⟩ := togglePulse_eq 10000 s.world.pins
  refine ⟨b, ?_⟩
  rw [pulseBurst, setPins, hb]
  rfl

lemma pulseBurst_wired (s : SweepCtx F) : Wired s (pulseBurst s) := by
  obtain ⟨b, hb⟩ := pulseBurst_eq s
  rw [hb]
  exact ⟨id, rfl, .refl⟩

lemma serviceCmd_wired (m : AntaresMsg) (s : SweepCtx F) : Wired s (serviceCmd m s) := by
  rw [serviceCmd]
  split_ifs
  · exact serviceGoto_wired _ s
  · exact serviceScan_wired _ _ s
  · exact setEnable_wired _ s
  · exact (setOutDir_wired _ s).trans (.offline (.of_eq rfl rfl) rfl rfl)
  · exact (pulseBurst_wired _).after rfl rfl rfl rfl
  · exact .offline (.of_eq rfl rfl) rfl rfl

/-- **A turn of `serviceEvents`**, whatever the event. -/
theorem serviceFront_wired {s t : SweepCtx F} (h : serviceFront s = .ok t) : Wired s t := by
  have hparts : Contains (Wired (F := F)) :=
    { refl := .refl
      trans := .trans
      sense := readSensors_wired
      enter := enterState_wired
      log := fun _ _ => .offline (.of_eq rfl rfl) rfl rfl
      cmd := serviceCmd_wired
      job := sweepJob_wired
      delete := fun _ _ => .offline (.of_eq rfl rfl) rfl rfl
      pop := fun _ => .offline (.refl _) rfl rfl }
  exact hparts.front h

/-! ## Start -/

/-- After `start` the outputs are in step, whatever they were. -/
theorem boot_wired (raw : Sweep) (w : World F) :
    sweepWires (boot raw w).world = wires (boot raw w).obj ∧
      monitorWires (boot raw w).world = monitorWires w ∧
      Status.Stores w.status (boot raw w).world.status := by
  let v : SweepCtx F :=
    { clearMap (readSensors ⟨construct raw, w⟩) with obj.sweepmapptr := 2000, obj.sweeppos := 2000 }
  let u : SweepCtx F := setOutDir false (setEnable false v)
  have hu : sweepWires u.world = wires u.obj := by
    simp [u, setEnable, setOutDir, setPins, logMessage, sweepWires, wires, StFlags.index]
  have hpre : Wired ⟨construct raw, w⟩ u :=
    (readSensors_wired _).trans (((setEnable_wired false v).trans
      (setOutDir_wired false _)).after rfl rfl rfl rfl)
  have hpost : Wired u (boot raw w) :=
    (setPulse_wired true u).trans (.offline (.of_eq rfl rfl) rfl rfl)
  exact ⟨hpost.sweep hu, hpost.monitor.trans hpre.monitor, hpre.status.trans hpost.status⟩

end Lgt8.Sweep

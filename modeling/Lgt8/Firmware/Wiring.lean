import Mathlib.Tactic
import Lgt8.Firmware.Stream
import Lgt8.Firmware.World

/-!
# Who drives which output

Of the outputs the sweep drives two pins and two status flags, the monitor two pins and three status
flags, and nothing else in the firmware drives any of these.  `sweepWires` and `monitorWires` read
them off the world; a statement that something leaves them alone is an equation between two
readings.

The status stream is only written through the two store functions, so what one part of the firmware
does to it is `Status.Stores`, and the layout survives whatever happens (`Status.Stores.flagAt`).
-/

namespace Lgt8

variable {Obj F : Type}

/-- The pins the sweep drives, and its status flags. -/
def sweepWires (w : World F) : Bool × Bool × Bool × Bool :=
  (w.pins.stepEnable, w.pins.stepDir, w.status.statusflags StFlags.sweepEnabled.index,
    w.status.statusflags StFlags.sweepOutdir.index)

/-- The pins the monitor drives, but for the drum's, and its status flags. -/
def monitorWires (w : World F) : Bool × Bool × Bool × Bool × Bool :=
  (w.pins.vacEnable, w.pins.wg2Dir, w.status.statusflags StFlags.vacEnabled.index,
    w.status.statusflags StFlags.wg20Dir.index, w.status.statusflags StFlags.drumEnabled.index)

lemma sweepWires_congr {w w' : World F} (hp : w'.pins = w.pins) (hs : w'.status = w.status) :
    sweepWires w' = sweepWires w := by
  rw [sweepWires, hp, hs, sweepWires]

lemma monitorWires_congr {w w' : World F} (hp : w'.pins = w.pins) (hs : w'.status = w.status) :
    monitorWires w' = monitorWires w := by
  rw [monitorWires, hp, hs, monitorWires]

@[simp] lemma storeMonitorFlag_statusflags (k : StFlags) (b : Bool) (s : Ctx Obj F) :
    (storeMonitorFlag k b s).world.status.statusflags
      = Function.update s.world.status.statusflags k.index b :=
  Status.storeMonitorFlag_statusflags _ _ _

@[simp] lemma storeMonitorFlag_pins (k : StFlags) (b : Bool) (s : Ctx Obj F) :
    (storeMonitorFlag k b s).world.pins = s.world.pins := rfl

@[simp] lemma setPWM_pins (c v : UInt8) (s : Ctx Obj F) :
    (setPWM c v s).world.pins = s.world.pins := by
  simp only [setPWM]
  split_ifs <;> rfl

@[simp] lemma setPWM_status (c v : UInt8) (s : Ctx Obj F) :
    (setPWM c v s).world.status = s.world.status := by
  simp only [setPWM]
  split_ifs <;> rfl

/-! ## Steps that leave both alone -/

/-- From `w` to `w'` no wire of the sweep or the monitor has changed. -/
structure Offline [DoubleOps F] (w w' : World F) : Prop where
  sweep : sweepWires w' = sweepWires w
  monitor : monitorWires w' = monitorWires w
  status : Status.Stores w.status w'.status

variable [DoubleOps F]

lemma Offline.refl (w : World F) : Offline w w := ⟨rfl, rfl, .refl⟩

lemma Offline.trans {w w' w'' : World F} (h : Offline w w') (h' : Offline w' w'') :
    Offline w w'' :=
  ⟨h'.sweep.trans h.sweep, h'.monitor.trans h.monitor, h.status.trans h'.status⟩

/-- Neither the pins nor the status have changed. -/
lemma Offline.of_eq {w w' : World F} (hp : w'.pins = w.pins) (hs : w'.status = w.status) :
    Offline w w' :=
  ⟨sweepWires_congr hp hs, monitorWires_congr hp hs, by rw [hs]; exact .refl⟩

/-- A step after something that touched neither the pins nor the status. -/
lemma Offline.after {w w' w'' : World F} (h : Offline w' w'') (hp : w'.pins = w.pins)
    (hs : w'.status = w.status) : Offline w w'' :=
  (Offline.of_eq hp hs).trans h

lemma offline_setPWM (c v : UInt8) (s : Ctx Obj F) : Offline s.world (setPWM c v s).world :=
  .of_eq (setPWM_pins c v s) (setPWM_status c v s)

/-- A store in any of the ten slots. -/
lemma offline_storeSlot (w : World F) {i : ℕ} (hi : i < 10) (v : F) :
    Offline w { w with status := w.status.storeMonitorSlot i v } := by
  refine ⟨?_, ?_, Status.Stores.refl.slot hi v⟩
  · rw [sweepWires, Status.storeMonitorSlot_statusflags]
    rfl
  · rw [monitorWires, Status.storeMonitorSlot_statusflags]
    rfl

lemma offline_storeMonitorSlot (k : StVals) (v : F) (s : Ctx Obj F) :
    Offline s.world (storeMonitorSlot k v s).world := offline_storeSlot s.world k.index_lt v

/-- The flags that are neither the sweep's nor the monitor's. -/
lemma offline_storeMonitorFlag {k : StFlags} (hk : k.index < 3 ∨ 5 ≤ k.index ∧ k.index < 8)
    (b : Bool) (s : Ctx Obj F) : Offline s.world (storeMonitorFlag k b s).world := by
  have hne : ∀ l : StFlags, l.index = 3 ∨ l.index = 4 ∨ 8 ≤ l.index → l.index ≠ k.index := by
    intro l hl
    omega
  refine ⟨?_, ?_, Status.Stores.refl.flag k.index_lt b⟩
  · rw [sweepWires, storeMonitorFlag_statusflags, Function.update_of_ne (hne .sweepEnabled (by decide)),
      Function.update_of_ne (hne .sweepOutdir (by decide))]
    rfl
  · rw [monitorWires, storeMonitorFlag_statusflags, Function.update_of_ne (hne .vacEnabled (by decide)),
      Function.update_of_ne (hne .wg20Dir (by decide)),
      Function.update_of_ne (hne .drumEnabled (by decide))]
    rfl

end Lgt8

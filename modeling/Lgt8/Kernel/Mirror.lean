import Mathlib.Tactic
import Lgt8.Kernel.Ownership
import Lgt8.Monitor.Wiring
import Lgt8.Servo.Wiring
import Lgt8.Sweep.Wiring

/-!
# Four copies of an actuator's state

What an actuator does is kept four times: in a variable of its driver, on a pin, in `statusflags`
and as a character of the status stream.  The drivers' setters write the four together, and nothing
else in the system writes any of them; so they agree in every state, whatever the order of commands,
turns, passes, interrupts and stores (**`actuators_mirrored`**).
-/

namespace Lgt8.Kernel

open Library

variable {F : Type} [DoubleOps F]

/-! ## Everything that can happen -/

/-- A step of the whole system, a single turn of one driver's `serviceEvents`, an event pushed to
the sweep's queue, or a store in any slot. -/
inductive Act (F : Type)
  | kernel (l : Label)
  | sweepTurn
  | servoTurn
  | monitorTurn
  | sweepPush (e : Event)
  | slot (i : Fin 10) (v : F)

def act (s : KernelCtx F) : Act F → Except Fault (KernelCtx F)
  | .kernel l => step s l
  | .sweepTurn => (Sweep.serviceFront ⟨s.obj.sweep, s.world⟩).map fun t =>
      ⟨{ s.obj with sweep := t.obj }, t.world⟩
  | .servoTurn => (Servo.serviceFront ⟨s.obj.servo, s.world⟩).map fun t =>
      ⟨{ s.obj with servo := t.obj }, t.world⟩
  | .monitorTurn => (Monitor.serviceFront ⟨s.obj.monitor, s.world⟩).map fun t =>
      ⟨{ s.obj with monitor := t.obj }, t.world⟩
  | .sweepPush e => .ok (withSweep (Sweep.pushEvent e) s)
  | .slot i v => .ok { s with world.status := s.world.status.storeMonitorSlot i v }

/-! ## What agrees -/

/-- The status flag `k` is `b`, and so is its character. -/
def Shows (st : Status F) (k : StFlags) (b : Bool) : Prop :=
  st.statusflags k.index = b ∧
    st.statusStream (statusflagsPtr.getD k.index 0) = if b then 49 else 48

/-- Each variable agrees with its pin, its status flag and its character.  `STEP_ENABLE_OFF` and
`STEP_DIR_OFF` set their pins, `VAC_ENABLE_ON` and `WG2DIR_ON` clear theirs. -/
structure ActuatorMirror (s : KernelCtx F) : Prop where
  enable_pin : s.world.pins.stepEnable = s.obj.sweep.enable
  enable_shown : Shows s.world.status .sweepEnabled s.obj.sweep.enable
  outdir_pin : s.world.pins.stepDir = s.obj.sweep.outdir
  outdir_shown : Shows s.world.status .sweepOutdir s.obj.sweep.outdir
  vaccum_pin : s.world.pins.vacEnable = !s.obj.monitor.vaccum
  vaccum_shown : Shows s.world.status .vacEnabled s.obj.monitor.vaccum
  wg20Cw_pin : s.world.pins.wg2Dir = !s.obj.monitor.wg20Cw
  wg20Cw_shown : Shows s.world.status .wg20Dir s.obj.monitor.wg20Cw
  drum_shown : Shows s.world.status .drumEnabled s.obj.monitor.drum

/-- The outputs of both drivers are in step, and the stream shows its flags. -/
structure InStep (s : KernelCtx F) : Prop where
  sweep : sweepWires s.world = Sweep.wires s.obj.sweep
  monitor : monitorWires s.world = Monitor.wires s.obj.monitor
  shown : ∀ j < 12, Status.FlagAt j s.world.status

omit [DoubleOps F] in
lemma shows_of_flagAt {st : Status F} {k : StFlags} {b : Bool} (hk : k.index < 12)
    (h : Status.FlagAt k.index st) (hb : st.statusflags k.index = b) : Shows st k b := by
  refine ⟨hb, ?_⟩
  rw [Status.statusflagsPtr_eq (by omega), h.1, hb]

omit [DoubleOps F] in
lemma InStep.mirror {s : KernelCtx F} (h : InStep s) : ActuatorMirror s := by
  have hsweep := h.sweep
  have hmonitor := h.monitor
  simp only [sweepWires, Sweep.wires, Prod.mk.injEq] at hsweep
  simp only [monitorWires, Monitor.wires, Prod.mk.injEq] at hmonitor
  obtain ⟨henable, houtdir, henablef, houtdirf⟩ := hsweep
  obtain ⟨hvac, hdir, hvacf, hdirf, hdrumf⟩ := hmonitor
  exact
    { enable_pin := henable
      enable_shown := shows_of_flagAt (by decide) (h.shown 3 (by decide)) henablef
      outdir_pin := houtdir
      outdir_shown := shows_of_flagAt (by decide) (h.shown 4 (by decide)) houtdirf
      vaccum_pin := hvac
      vaccum_shown := shows_of_flagAt (by decide) (h.shown 11 (by decide)) hvacf
      wg20Cw_pin := hdir
      wg20Cw_shown := shows_of_flagAt (by decide) (h.shown 8 (by decide)) hdirf
      drum_shown := shows_of_flagAt (by decide) (h.shown 10 (by decide)) hdrumf }

/-! ## What keeps it -/

/-- Something that touches neither the outputs nor the variables behind them. -/
lemma InStep.offline {s t : KernelCtx F} (h : InStep s) (ho : Offline s.world t.world)
    (hs : Sweep.wires t.obj.sweep = Sweep.wires s.obj.sweep)
    (hm : Monitor.wires t.obj.monitor = Monitor.wires s.obj.monitor) : InStep t :=
  ⟨by rw [ho.sweep, h.sweep, hs], by rw [ho.monitor, h.monitor, hm],
    fun j hj => ho.status.flagAt (h.shown j hj)⟩

lemma InStep.sweepMoved {s : KernelCtx F} (h : InStep s) {c : SweepCtx F}
    (hc : Sweep.Wired ⟨s.obj.sweep, s.world⟩ c) : InStep ⟨{ s.obj with sweep := c.obj }, c.world⟩ :=
  ⟨hc.sweep h.sweep, hc.monitor.trans h.monitor, fun j hj => hc.status.flagAt (h.shown j hj)⟩

lemma InStep.servoMoved {s : KernelCtx F} (h : InStep s) {c : ServoCtx F}
    (hc : Offline s.world c.world) : InStep ⟨{ s.obj with servo := c.obj }, c.world⟩ :=
  h.offline hc rfl rfl

lemma InStep.monitorMoved {s : KernelCtx F} (h : InStep s) {c : MonitorCtx F}
    (hc : Monitor.Wired ⟨s.obj.monitor, s.world⟩ c) :
    InStep ⟨{ s.obj with monitor := c.obj }, c.world⟩ :=
  ⟨hc.sweep.trans h.sweep, hc.monitor h.monitor, fun j hj => hc.status.flagAt (h.shown j hj)⟩

/-! ## The post office and the gate -/

omit [DoubleOps F] in
lemma inStep_mailTurn {s : KernelCtx F} (h : InStep s) : InStep (mailTurn s) := by
  have hdeliver : ∀ (evt : Event) (s : KernelCtx F) (sub : BitVec 32), InStep s →
      InStep (deliver evt s sub) := by
    intro evt s sub h
    rw [deliver]
    dsimp only
    split_ifs <;> exact ⟨h.sweep, h.monitor, h.shown⟩
  rw [mailTurn]
  split
  · exact h
  · next evt _ _ =>
      have hall := List.foldlRecOn s.obj.subscriptions (deliver evt) h
        fun t ht sub _ => hdeliver evt t sub ht
      exact ⟨hall.sweep, hall.monitor, hall.shown⟩

omit [DoubleOps F] in
lemma inStep_verifymail {s : KernelCtx F} (h : InStep s) :
    Yields (fun p => InStep p.1) (fun _ => True) (verifymail [] s) := by
  refine drain_yields (fun p hp _ => ?_) h
  have hpublish : ∀ (evts : List Event) (t : KernelCtx F), InStep t →
      InStep (evts.foldl (fun s evt => publish evt s) t) := by
    intro evts t ht
    rw [publish_all]
    exact ⟨ht.sweep, ht.monitor, ht.shown⟩
  exact hpublish _ _ (inStep_mailTurn hp)

omit [DoubleOps F] in
lemma inStep_gate {s : KernelCtx F} (h : InStep s) (m : AntaresMsg) :
    InStep (ethergate m s).2 := by
  rw [ethergate]
  split
  · split <;> exact ⟨h.sweep, h.monitor, h.shown⟩
  · dsimp only
    split <;> exact ⟨h.sweep, h.monitor, h.shown⟩

/-! ## Passes -/

lemma inStep_sweepPass {s : KernelCtx F} (h : InStep s) :
    Yields InStep (fun _ => True) (sweepPass s) := by
  refine Yields.map (drain_yields (I := Sweep.Wired ⟨s.obj.sweep, s.world⟩) (fun c hc _ => ?_)
    (.refl _)) fun c hc => h.sweepMoved hc
  cases hu : Sweep.serviceFront c with
  | error x => trivial
  | ok u => exact hc.trans (Sweep.serviceFront_wired hu)

lemma inStep_servoPass {s : KernelCtx F} (h : InStep s) :
    Yields InStep (fun _ => True) (servoPass s) := by
  refine Yields.map (drain_yields (I := fun c => Offline s.world c.world) (fun c hc _ => ?_)
    (.refl _)) fun c hc => h.servoMoved hc
  cases hu : Servo.serviceFront c with
  | error x => trivial
  | ok u => exact hc.trans (Servo.serviceFront_offline hu)

lemma inStep_monitorPass {s : KernelCtx F} (h : InStep s) :
    Yields InStep (fun _ => True) (monitorPass s) := by
  refine Yields.map (drain_yields (I := Monitor.Wired ⟨s.obj.monitor, s.world⟩) (fun c hc _ => ?_)
    (.refl _)) fun c hc => h.monitorMoved hc
  cases hu : Monitor.serviceFront c with
  | error x => trivial
  | ok u => exact hc.trans (Monitor.serviceFront_wired hu)

/-! ## Interrupts and the main loop -/

lemma inStep_pit {s : KernelCtx F} (h : InStep s) : InStep (pit s) := by
  have halarm : ∀ (t : KernelCtx F) (i : Fin 4), InStep t → InStep (alarmTurn t i) := by
    intro t i ht
    rw [alarmTurn]
    split <;> exact ⟨ht.sweep, ht.monitor, ht.shown⟩
  let u := withSweep Sweep.serviceBoard s
  have hsweep : InStep u := h.sweepMoved (Sweep.serviceBoard_wired _)
  have hservo : InStep (withServo Servo.serviceBoard u) :=
    hsweep.servoMoved (Servo.serviceBoard_offline ⟨u.obj.servo, u.world⟩)
  rw [pit]
  exact List.foldlRecOn _ alarmTurn ⟨hservo.sweep, hservo.monitor, hservo.shown⟩
    fun t ht i _ => halarm t i ht

lemma inStep_tach {s : KernelCtx F} (h : InStep s) : InStep (tach s) := by
  refine h.servoMoved (c := Servo.serviceTach s.world.bspcounter ⟨s.obj.servo, s.world⟩) ?_
  rw [Servo.serviceTach_world]
  exact .refl _

lemma inStep_control {s : KernelCtx F} (h : InStep s) : InStep (control s) := by
  rw [control]
  split
  · exact ⟨h.sweep, h.monitor, h.shown⟩
  · have htake : InStep (takeEvent s) := by
      rw [takeEvent]
      split
      · exact h
      · dsimp only
        split_ifs <;> exact ⟨h.sweep, h.monitor, h.shown⟩
    exact ⟨htake.sweep, htake.monitor, htake.shown⟩
  · dsimp only
    split
    · exact h.offline (offline_storeMonitorSlot .cvexSlot _ _) rfl rfl
    · exact ⟨h.sweep, h.monitor, h.shown⟩
  · exact ⟨h.sweep, h.monitor, h.shown⟩
  · exact h

/-- Every step of the system. -/
lemma inStep_step {s t : KernelCtx F} {l : Label} (h : InStep s) (ht : step s l = .ok t) :
    InStep t := by
  cases l with
  | gate m => cases ht; exact inStep_gate h m
  | mail =>
      obtain ⟨p, hp, rfl⟩ := ok_of_map ht
      exact (inStep_verifymail h).ok hp
  | sweepPass => exact (inStep_sweepPass h).ok ht
  | servoPass => exact (inStep_servoPass h).ok ht
  | monitorPass => exact (inStep_monitorPass h).ok ht
  | control => cases ht; exact inStep_control h
  | pit =>
      have heq : pit s = t := Except.ok.inj ht
      rw [← heq]
      exact inStep_pit h
  | tach => cases ht; exact inStep_tach h
  | adc value => cases ht; exact ⟨h.sweep, h.monitor, h.shown⟩

/-- **Everything that can happen keeps the outputs in step.** -/
theorem inStep_act {s t : KernelCtx F} {a : Act F} (h : InStep s) (ht : act s a = .ok t) :
    InStep t := by
  cases a with
  | kernel l => exact inStep_step h ht
  | sweepTurn =>
      obtain ⟨c, hc, rfl⟩ := ok_of_map ht
      exact h.sweepMoved (Sweep.serviceFront_wired hc)
  | servoTurn =>
      obtain ⟨c, hc, rfl⟩ := ok_of_map ht
      exact h.servoMoved (Servo.serviceFront_offline hc)
  | monitorTurn =>
      obtain ⟨c, hc, rfl⟩ := ok_of_map ht
      exact h.monitorMoved (Monitor.serviceFront_wired hc)
  | sweepPush e => cases ht; exact ⟨h.sweep, h.monitor, h.shown⟩
  | slot i v =>
      cases ht
      exact h.offline (offline_storeSlot _ i.isLt v) rfl rfl

/-! ## From the start on -/

omit [DoubleOps F] in
/-- Each driver is started in the world the one before it left. -/
lemma withDrivers (f : SweepCtx F → SweepCtx F) (g : ServoCtx F → ServoCtx F)
    (h : MonitorCtx F → MonitorCtx F) (up ready : String) (s : KernelCtx F) :
    (logMessage ready (logMessage up (withMonitor h (withServo g (withSweep f s))))).obj.sweep
        = (f ⟨s.obj.sweep, s.world⟩).obj ∧
      (logMessage ready (logMessage up (withMonitor h (withServo g (withSweep f s))))).obj.monitor
        = (h ⟨s.obj.monitor, (g ⟨s.obj.servo, (f ⟨s.obj.sweep, s.world⟩).world⟩).world⟩).obj ∧
      (logMessage ready (logMessage up (withMonitor h (withServo g (withSweep f s))))).world.pins
        = (h ⟨s.obj.monitor, (g ⟨s.obj.servo, (f ⟨s.obj.sweep, s.world⟩).world⟩).world⟩).world.pins ∧
      (logMessage ready (logMessage up (withMonitor h (withServo g (withSweep f s))))).world.status
        = (h ⟨s.obj.monitor,
            (g ⟨s.obj.servo, (f ⟨s.obj.sweep, s.world⟩).world⟩).world⟩).world.status :=
  ⟨rfl, rfl, rfl, rfl⟩

/-- The drivers are started one after the other, in a world whose status stream is new. -/
lemma boot_eq (raw : Kernel F) (w : World F) : ∃ w₁ : World F,
    ((boot raw w).obj.sweep = (Sweep.boot raw.sweep w₁).obj ∧
      (boot raw w).obj.monitor = (Monitor.boot raw.monitor
        (Servo.boot raw.servo (Sweep.boot raw.sweep w₁).world).world).obj ∧
      (boot raw w).world.pins = (Monitor.boot raw.monitor
        (Servo.boot raw.servo (Sweep.boot raw.sweep w₁).world).world).world.pins ∧
      (boot raw w).world.status = (Monitor.boot raw.monitor
        (Servo.boot raw.servo (Sweep.boot raw.sweep w₁).world).world).world.status) ∧
    w₁.status = w.status.initStatus := by
  rw [boot]
  exact ⟨_, withDrivers (fun c => Sweep.boot c.obj c.world) (fun c => Servo.boot c.obj c.world)
    (fun c => Monitor.boot c.obj c.world) _ _ _, rfl⟩

/-- What the start of the drivers leaves: each in step, and the stream as `initStatus` made it but
for stores. -/
lemma boot_started (raw : Kernel F) (w : World F) :
    sweepWires (boot raw w).world = Sweep.wires (boot raw w).obj.sweep ∧
      monitorWires (boot raw w).world = Monitor.wires (boot raw w).obj.monitor ∧
      Status.Stores w.status.initStatus (boot raw w).world.status := by
  obtain ⟨w₁, ⟨hsw, hmo, hpins, hstatus⟩, hst⟩ := boot_eq raw w
  obtain ⟨hsweep, -, hs1⟩ := Sweep.boot_wired raw.sweep w₁
  have hservo := Servo.boot_offline raw.servo (Sweep.boot raw.sweep w₁).world
  obtain ⟨hmonitor, hside, hs3⟩ := Monitor.boot_wired raw.monitor
    (Servo.boot raw.servo (Sweep.boot raw.sweep w₁).world).world
  refine ⟨?_, ?_, ?_⟩
  · rw [sweepWires_congr hpins hstatus, hside, hservo.sweep, hsweep, hsw]
  · rw [monitorWires_congr hpins hstatus, hmonitor, hmo]
  · rw [hstatus, ← hst]
    exact (hs1.trans hservo.status).trans hs3

lemma boot_inStep (raw : Kernel F) (w : World F) : InStep (boot raw w) := by
  obtain ⟨hsweep, hmonitor, hstatus⟩ := boot_started raw w
  exact ⟨hsweep, hmonitor, fun j hj => hstatus.flagAt (Status.initStatus_flagAt _ hj).1⟩

/-- **The four copies of an actuator's state agree in every state of every run** from the start of
the drivers on, and the three of the drum. -/
theorem actuators_mirrored (raw : Kernel F) (w : World F) (acts : List (Act F)) :
    AllStates act ActuatorMirror (boot raw w) acts :=
  allStates_of_invariant (fun _ h => h.mirror) (fun _ _ _ h ht => inStep_act h ht) acts
    (boot_inStep raw w)

end Lgt8.Kernel

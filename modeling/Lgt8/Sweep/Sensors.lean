import Mathlib.Tactic
import Lgt8.Sweep.Wiring

/-!
# What the sensors tell

`readSensors` packs both taps and the enable bit into a mask and stores the mask in one flag, where
it becomes a `bool`: `SWEEP_OUTER` says that some bit is set.  Nothing ever stores `SWEEP_INNER` and
`SWEEP_PARKFLAG`, which `initStatus` has left at true.

* `readSensors_flag` — the flags after a reading.
* `Sensing` — the states in which the sensors are read from one state to a later one, one for each
  time the taps are (`Sensing.taps`).
* **`sensors_untold`** — no reading of a run is told by its three flags.
-/

namespace Lgt8.Sweep

open Library

variable {F : Type}

def flag (k : StFlags) (s : SweepCtx F) : Bool := s.world.status.statusflags k.index

lemma stFlags_index_inj {j k : StFlags} : j.index = k.index ↔ j = k := by
  constructor
  · cases j <;> cases k <;> first | (intro; rfl) | (intro h; exact absurd h (by decide))
  · rintro rfl
    rfl

lemma flag_storeMonitorFlag (j k : StFlags) (b : Bool) (s : SweepCtx F) :
    flag k (storeMonitorFlag j b s) = if k = j then b else flag k s := by
  rw [flag, storeMonitorFlag_statusflags, Function.update_apply]
  simp only [stFlags_index_inj, flag]

/-! ## One reading -/

/-- The mask is not zero if any of its bits is set. -/
lemma setFlag_ne_zero (intap outtap enable : Bool) :
    (setFlag (setFlag (setFlag 0 0x02 intap) 0x04 outtap) 0x01 enable != 0)
      = (intap || outtap || enable) := by
  cases intap <;> cases outtap <;> cases enable <;> decide

/-- **The flags after a reading.**  `SWEEP_OUTER` says whether a tap is closed or the motor enabled;
the others are as they were. -/
theorem readSensors_flag (s : SweepCtx F) (k : StFlags) :
    flag k (readSensors s) = if k = .sweepOuter
      then (s.world.taps 0).intap || (s.world.taps 0).outtap || s.obj.enable else flag k s := by
  rw [readSensors, readTaps]
  dsimp only
  rw [flag_storeMonitorFlag, setFlag_ne_zero]
  rfl

/-- The flags of `t` tell what was just read in `s`, and all others are as they were. -/
def Told (s t : SweepCtx F) : Prop :=
  flag .sweepInner t = (s.world.taps 0).intap ∧
  flag .sweepOuter t = (s.world.taps 0).outtap ∧
  flag .sweepParkflag t = (!(s.world.taps 0).intap && !(s.world.taps 0).outtap) ∧
  ∀ k : StFlags, k ∉ [StFlags.sweepInner, .sweepOuter, .sweepParkflag] → flag k t = flag k s

/-- The two flags nobody stores. -/
def Stuck (s : SweepCtx F) : Prop := flag .sweepInner s = true ∧ flag .sweepParkflag s = true

lemma Stuck.readSensors {s : SweepCtx F} (h : Stuck s) : Stuck (readSensors s) := by
  rw [Stuck, readSensors_flag, readSensors_flag]
  exact h

/-- They say that the inner tap is closed and that both are open. -/
lemma Stuck.untold {s : SweepCtx F} (h : Stuck s) : ¬ Told s (Sweep.readSensors s) := by
  rintro ⟨hinner, -, hparked, -⟩
  rw [h.readSensors.1] at hinner
  rw [h.readSensors.2, ← hinner] at hparked
  cases hparked

/-! ## The readings of a run -/

/-- Nothing is read, and no flag stored but those of the two setters. -/
structure Silent (s t : SweepCtx F) : Prop where
  taps : t.world.taps = s.world.taps
  flags : ∀ k : StFlags, k ≠ .sweepEnabled → k ≠ .sweepOutdir → flag k t = flag k s

lemma Silent.refl (s : SweepCtx F) : Silent s s := ⟨rfl, fun _ _ _ => rfl⟩

lemma Silent.trans {s t u : SweepCtx F} (h : Silent s t) (h' : Silent t u) : Silent s u :=
  ⟨h'.taps.trans h.taps, fun k he ho => (h'.flags k he ho).trans (h.flags k he ho)⟩

lemma Silent.of_eq {s t : SweepCtx F} (ht : t.world.taps = s.world.taps)
    (hs : t.world.status = s.world.status) : Silent s t :=
  ⟨ht, fun k _ _ => by rw [flag, flag, hs]⟩

/-- An operation after something that touched neither the taps nor the status. -/
lemma Silent.after {s t u : SweepCtx F} (h : Silent t u) (ht : t.world.taps = s.world.taps)
    (hs : t.world.status = s.world.status) : Silent s u :=
  (Silent.of_eq ht hs).trans h

/-- From `s` to `t` the sensors are read in the states `rs`, in that order. -/
inductive Sensing : SweepCtx F → List (SweepCtx F) → SweepCtx F → Prop
  | silent {s t : SweepCtx F} (h : Silent s t) : Sensing s [] t
  | read (s : SweepCtx F) : Sensing s [s] (readSensors s)
  | trans {s t u : SweepCtx F} {rs qs : List (SweepCtx F)} (h : Sensing s rs t)
      (h' : Sensing t qs u) : Sensing s (rs ++ qs) u

lemma readSensors_taps (s : SweepCtx F) (n : ℕ) :
    (readSensors s).world.taps n = s.world.taps (n + 1) := by
  rw [readSensors, readTaps]
  rfl

/-- The taps are read in these states and in no others. -/
theorem Sensing.taps {s t : SweepCtx F} {rs : List (SweepCtx F)} (h : Sensing s rs t) (n : ℕ) :
    t.world.taps n = s.world.taps (n + rs.length) := by
  induction h generalizing n with
  | silent h => rw [h.taps]; rfl
  | read s => rw [readSensors_taps]; rfl
  | trans _ _ ih ih' => rw [ih', ih, List.length_append, Nat.add_assoc, Nat.add_comm (List.length _)]

/-- Nothing unsticks the flags on the way. -/
lemma Sensing.stuck {s t : SweepCtx F} {rs : List (SweepCtx F)} (h : Sensing s rs t)
    (hs : Stuck s) : (∀ r ∈ rs, Stuck r) ∧ Stuck t := by
  induction h with
  | silent h =>
      refine ⟨fun r hr => absurd hr List.not_mem_nil, ?_⟩
      rw [Stuck, h.flags .sweepInner (by decide) (by decide),
        h.flags .sweepParkflag (by decide) (by decide)]
      exact hs
  | read s =>
      refine ⟨fun r hr => ?_, hs.readSensors⟩
      rw [List.mem_singleton.mp hr]
      exact hs
  | trans _ _ ih ih' =>
      obtain ⟨hrs, ht⟩ := ih hs
      obtain ⟨hqs, hu⟩ := ih' ht
      exact ⟨fun r hr => (List.mem_append.mp hr).elim (hrs r) (hqs r), hu⟩

/-- There are such states. -/
def Senses (s t : SweepCtx F) : Prop := ∃ rs, Sensing s rs t

lemma Silent.senses {s t : SweepCtx F} (h : Silent s t) : Senses s t := ⟨[], .silent h⟩

lemma Senses.trans {s t u : SweepCtx F} (h : Senses s t) (h' : Senses t u) : Senses s u := by
  obtain ⟨rs, h⟩ := h
  obtain ⟨qs, h'⟩ := h'
  exact ⟨rs ++ qs, h.trans h'⟩

lemma Senses.of_eq {s t : SweepCtx F} (ht : t.world.taps = s.world.taps)
    (hs : t.world.status = s.world.status) : Senses s t := (Silent.of_eq ht hs).senses

/-- A step after something that touched neither the taps nor the status. -/
lemma Senses.after {s t u : SweepCtx F} (h : Senses t u) (ht : t.world.taps = s.world.taps)
    (hs : t.world.status = s.world.status) : Senses s u :=
  (Senses.of_eq ht hs).trans h

lemma readSensors_senses (s : SweepCtx F) : Senses s (readSensors s) := ⟨[s], .read s⟩

/-! ## The parts -/

lemma setEnable_silent (b : Bool) (s : SweepCtx F) : Silent s (setEnable b s) := by
  refine ⟨by cases b <;> rfl, fun k he _ => ?_⟩
  rw [setEnable]
  dsimp only
  rw [flag_storeMonitorFlag, if_neg he]
  cases b <;> rfl

lemma setOutDir_silent (b : Bool) (s : SweepCtx F) : Silent s (setOutDir b s) := by
  refine ⟨by cases b <;> rfl, fun k _ ho => ?_⟩
  rw [setOutDir]
  dsimp only
  rw [flag_storeMonitorFlag, if_neg ho]
  cases b <;> rfl

lemma setPulse_silent (b : Bool) (s : SweepCtx F) : Silent s (setPulse b s) := by
  cases b <;> exact .of_eq rfl rfl

lemma nextCell_silent (s : SweepCtx F) : Silent s (nextCell s) := by
  rw [nextCell]
  split <;> exact .of_eq rfl rfl

lemma latchGap_silent (s : SweepCtx F) : Silent s (latchGap s) := by
  rw [latchGap]
  split
  · exact (setOutDir_silent _ _).after rfl rfl
  · exact .refl s

lemma dropPulse_silent (s : SweepCtx F) : Silent s (dropPulse s) := by
  rw [dropPulse]
  exact (setPulse_silent false _).after rfl rfl

lemma raisePulse_silent (s : SweepCtx F) : Silent s (raisePulse s) := by
  rw [raisePulse]
  exact (setPulse_silent true s).trans ((nextCell_silent _).after rfl rfl)

lemma restTick_senses (s : SweepCtx F) : Senses s (restTick s) := by
  have hrest : Senses s (readSensors { setPulse true s with obj.pulsegap := 0 }) :=
    (setPulse_silent true s).senses.trans ((readSensors_senses _).after rfl rfl)
  rw [restTick]
  dsimp only
  split
  · exact hrest.trans (.of_eq rfl rfl)
  · exact hrest

lemma serviceBoard_senses (s : SweepCtx F) : Senses s (serviceBoard s) := by
  have htouch : Silent s (touch s.obj.sweepmapptr s) := .of_eq rfl rfl
  rw [serviceBoard]
  split
  · dsimp only
    split_ifs
    · exact ((htouch.trans (latchGap_silent _)).trans (dropPulse_silent _)).senses.trans
        (readSensors_senses _)
    · exact ((htouch.trans (latchGap_silent _)).trans (raisePulse_silent _)).senses.trans
        (readSensors_senses _)
    · exact (htouch.trans (latchGap_silent _)).senses.trans (.of_eq rfl rfl)
    · exact htouch.senses.trans (restTick_senses _)
  · exact readSensors_senses s

lemma slideLoop_silent (speed : UInt8) :
    ∀ (n : ℕ) (tptr : ℤ) (s : SweepCtx F), Silent s (slideLoop speed n tptr s)
  | 0, _, s => .refl s
  | n + 1, _, _ => (slideLoop_silent speed n _ _).after rfl rfl

lemma slide_silent (step speed : ℤ) (s : SweepCtx F) : Silent s (slide step speed s) := by
  rw [slide]
  split <;>
    exact ((setOutDir_silent _ s).trans (slideLoop_silent _ _ _ _)).trans (setEnable_silent _ _)

lemma goto_silent (step speed : ℤ) (s : SweepCtx F) : Silent s (goto step speed s) := by
  rw [goto]
  split
  · exact slide_silent _ _ s
  · exact .refl s

lemma sweepJob_silent (s : SweepCtx F) : Silent s (sweepJob s) := by
  rw [sweepJob]
  split
  · dsimp only
    split <;> exact (goto_silent _ _ s).trans (.of_eq rfl rfl)
  · exact .refl s

lemma enterState_silent (st : Adm) (s : SweepCtx F) : Silent s (enterState st s) := by
  have hfsm : Silent s { s with obj.fsm := st } := .of_eq rfl rfl
  cases st with
  | coldStart => exact hfsm.trans (.of_eq rfl rfl)
  | idle => exact hfsm
  | setParked => exact hfsm.trans (.of_eq rfl rfl)
  | searchOut => exact hfsm.trans (slide_silent _ _ _)
  | searchIn => exact hfsm.trans (slide_silent _ _ _)

lemma pulseBurst_silent (s : SweepCtx F) : Silent s (pulseBurst s) := by
  obtain ⟨b, hb⟩ := pulseBurst_eq s
  rw [hb]
  exact .of_eq rfl rfl

lemma serviceCmd_silent (m : AntaresMsg) (s : SweepCtx F) : Silent s (serviceCmd m s) := by
  rw [serviceCmd]
  split_ifs
  · rw [serviceGoto]
    exact (goto_silent _ _ _).after rfl rfl
  · rw [serviceScan]
    split <;> exact .of_eq rfl rfl
  · exact setEnable_silent _ s
  · exact (setOutDir_silent _ s).trans (.of_eq rfl rfl)
  · rw [servicePulse]
    exact (pulseBurst_silent _).after rfl rfl
  · exact .of_eq rfl rfl

/-- **The readings of a turn**, whatever the event. -/
theorem serviceFront_senses {s t : SweepCtx F} (h : serviceFront s = .ok t) : Senses s t := by
  have hparts : Contains (Senses (F := F)) :=
    { refl := fun s => (Silent.refl s).senses
      trans := .trans
      sense := readSensors_senses
      enter := fun st s => (enterState_silent st s).senses
      log := fun _ _ => .of_eq rfl rfl
      cmd := fun m s => (serviceCmd_silent m s).senses
      job := fun s => (sweepJob_silent s).senses
      delete := fun _ _ => .of_eq rfl rfl
      pop := fun _ => .of_eq rfl rfl }
  exact hparts.front h

lemma step_senses {s t : SweepCtx F} {l : Label} (h : step s l = .ok t) : Senses s t := by
  cases l with
  | tick =>
      cases h
      exact serviceBoard_senses s
  | post m =>
      cases h
      exact .of_eq rfl rfl
  | push evt =>
      cases h
      exact .of_eq rfl rfl
  | turn => exact serviceFront_senses h

/-- The sensors are read in `start`, once. -/
lemma boot_senses (raw : Sweep) (w : World F) : Senses ⟨construct raw, w⟩ (boot raw w) := by
  let v : SweepCtx F :=
    { clearMap (readSensors ⟨construct raw, w⟩) with obj.sweepmapptr := 2000, obj.sweeppos := 2000 }
  have hread : Senses ⟨construct raw, w⟩ v :=
    (readSensors_senses _).trans (.of_eq rfl rfl)
  have hset : Silent v (setPulse true (setOutDir false (setEnable false v))) :=
    ((setEnable_silent false v).trans (setOutDir_silent false _)).trans (setPulse_silent true _)
  exact (hread.trans hset.senses).trans (.of_eq rfl rfl)

/-! ## From `initStatus` on -/

variable [DoubleOps F]

/-- The world with the status as `initStatus` leaves it. -/
def initialised (w : World F) : World F := { w with status := w.status.initStatus }

lemma initialised_stuck (sw : Sweep) (w : World F) : Stuck (⟨sw, initialised w⟩ : SweepCtx F) :=
  ⟨(Status.initStatus_flagAt w.status (by decide)).2,
    (Status.initStatus_flagAt w.status (by decide)).2⟩

/-- **No reading is told.**  In a run from `initStatus` and `Sweep::start`, with any commands, any
other events and any readings of the taps: of the states in which the sensors have been read on the
way to a state, and of that state itself, there is none after whose reading the flags tell what was
read.  A reading alters no flag but `SWEEP_OUTER`. -/
theorem sensors_untold (raw : Sweep) (w : World F) (labels : List Label) :
    AllStates step (fun t => ∃ rs, Sensing ⟨construct raw, initialised w⟩ rs t ∧
      ∀ s ∈ rs ++ [t], ¬ Told s (readSensors s) ∧
        ∀ k, k ≠ .sweepOuter → flag k (readSensors s) = flag k s)
      (boot raw (initialised w)) labels := by
  refine allStates_of_invariant (I := Senses ⟨construct raw, initialised w⟩) ?_
    (fun _ _ _ hs ht => hs.trans (step_senses ht)) labels (boot_senses raw (initialised w))
  rintro t ⟨rs, h⟩
  refine ⟨rs, h, fun s hs => ⟨?_, fun k hk => by rw [readSensors_flag, if_neg hk]⟩⟩
  obtain ⟨hrs, ht⟩ := h.stuck (initialised_stuck _ w)
  rcases List.mem_append.mp hs with hs | hs
  · exact (hrs s hs).untold
  · rw [List.mem_singleton.mp hs]
    exact ht.untold

/-- Both taps open, as at power-up: `SWEEP_INNER` says that the inner one is closed. -/
theorem inner_flag_stuck :
    let s := boot blank (initialised .blank)
    (s.world.taps 0).intap = false ∧ flag .sweepInner (readSensors s) = true ∧
      ¬ Told s (readSensors s) := by
  intro s
  have hstuck : Stuck s := by
    obtain ⟨rs, h⟩ := boot_senses blank (initialised .blank)
    exact (h.stuck (initialised_stuck _ _)).2
  exact ⟨rfl, hstuck.readSensors.1, hstuck.untold⟩

end Lgt8.Sweep

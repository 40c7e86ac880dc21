import Mathlib.Tactic
import Lgt8.Sweep.Model

/-!
# What each operation does to the object

Every later result about the sweep rests on this file and none unfolds `serviceBoard` or `slide`
again.  For each operation there is one lemma about the object it leaves behind:

* the setters and `readSensors` change the fields they name (`setOutDir_obj`, `readSensors_sensed`, …);
* **`serviceBoard_ticked`** — the five things a tick can do;
* **`slide_obj`**, `goto_obj`, `sweepJob_obj` — a move is a repainted stretch of the map, a
  direction and the enable flag.
-/

namespace Lgt8.Sweep

open Library

variable {F : Type}

/-! ## The object after each primitive -/

@[simp] lemma touch_obj (i : ℤ) (s : SweepCtx F) :
    (touch i s).obj = { s.obj with touched := i :: s.obj.touched } := rfl

@[simp] lemma writeMap_obj (i : ℤ) (v : UInt8) (s : SweepCtx F) :
    (writeMap i v s).obj = { s.obj with
      sweepmap := Function.update s.obj.sweepmap i v, touched := i :: s.obj.touched } := rfl

@[simp] lemma clearMap_obj (s : SweepCtx F) :
    (clearMap s).obj = { s.obj with
      sweepmap := fun i => if 0 ≤ i ∧ i < 4000 then 255 else s.obj.sweepmap i } := rfl

@[simp] lemma setEnable_obj (b : Bool) (s : SweepCtx F) :
    (setEnable b s).obj = { s.obj with enable := b } := by
  cases b <;> rfl

@[simp] lemma setOutDir_obj (b : Bool) (s : SweepCtx F) :
    (setOutDir b s).obj = { s.obj with outdir := b } := by
  cases b <;> rfl

@[simp] lemma setPulse_obj (b : Bool) (s : SweepCtx F) :
    (setPulse b s).obj = { s.obj with pulse := b } := by
  cases b <;> rfl

@[simp] lemma pushEvent_obj (e : Event) (s : SweepCtx F) :
    (pushEvent e s).obj = { s.obj with events := s.obj.events ++ [e] } := rfl

@[simp] lemma tickCallback_obj (s : SweepCtx F) :
    (tickCallback s).obj = { s.obj with
      events := s.obj.events ++ [.of .sweepTickSig 1 (.map s.obj.sweepmapptr)] } := rfl

@[simp] lemma popEvent_obj (s : SweepCtx F) :
    (popEvent s).obj = { s.obj with events := s.obj.events.tail } := rfl

@[simp] lemma deleteMsg_obj (a : ℕ) (s : SweepCtx F) : (deleteMsg a s).obj = s.obj := rfl

@[simp] lemma pulseBurst_obj (s : SweepCtx F) : (pulseBurst s).obj = s.obj := by
  rw [pulseBurst, setPins_obj]

/-- The two objects agree on the carriage: map, position, direction, pulse and scan job. -/
structure SameCarriage (sw sw' : Sweep) : Prop where
  sweepmap : sw'.sweepmap = sw.sweepmap
  sweepmapptr : sw'.sweepmapptr = sw.sweepmapptr
  sweeppos : sw'.sweeppos = sw.sweeppos
  pulsegap : sw'.pulsegap = sw.pulsegap
  enable : sw'.enable = sw.enable
  outdir : sw'.outdir = sw.outdir
  pulse : sw'.pulse = sw.pulse
  sweepjobIn : sw'.sweepjobIn = sw.sweepjobIn
  sweepjobOut : sw'.sweepjobOut = sw.sweepjobOut
  sweepjobSpeed : sw'.sweepjobSpeed = sw.sweepjobSpeed
  sweepjobOutdir : sw'.sweepjobOutdir = sw.sweepjobOutdir
  sweepjobEnabled : sw'.sweepjobEnabled = sw.sweepjobEnabled
  touched : sw'.touched = sw.touched

/-- `sw'` is `sw` but for the sensor readings. -/
structure Sensed (sw sw' : Sweep) : Prop extends SameCarriage sw sw' where
  fsm : sw'.fsm = sw.fsm
  events : sw'.events = sw.events

lemma SameCarriage.refl (sw : Sweep) : SameCarriage sw sw := by
  constructor <;> rfl

lemma readSensors_sensed (s : SweepCtx F) : Sensed s.obj (readSensors s).obj := by
  refine ⟨?_, rfl, rfl⟩
  constructor <;> rfl

/-! ## The heap under each primitive -/

@[simp] lemma touch_heap (i : ℤ) (s : SweepCtx F) :
    (touch i s).world.heap = s.world.heap := rfl

@[simp] lemma writeMap_heap (i : ℤ) (v : UInt8) (s : SweepCtx F) :
    (writeMap i v s).world.heap = s.world.heap := rfl

@[simp] lemma clearMap_heap (s : SweepCtx F) : (clearMap s).world.heap = s.world.heap := rfl

@[simp] lemma popEvent_heap (s : SweepCtx F) : (popEvent s).world.heap = s.world.heap := rfl

@[simp] lemma deleteMsg_heap (a : ℕ) (s : SweepCtx F) :
    (deleteMsg a s).world.heap = s.world.heap.delete a := rfl

@[simp] lemma setEnable_heap (b : Bool) (s : SweepCtx F) :
    (setEnable b s).world.heap = s.world.heap := by
  cases b <;> rfl

@[simp] lemma setOutDir_heap (b : Bool) (s : SweepCtx F) :
    (setOutDir b s).world.heap = s.world.heap := by
  cases b <;> rfl

@[simp] lemma setPulse_heap (b : Bool) (s : SweepCtx F) :
    (setPulse b s).world.heap = s.world.heap := by
  cases b <;> rfl

@[simp] lemma pushEvent_heap (e : Event) (s : SweepCtx F) :
    (pushEvent e s).world.heap = s.world.heap := rfl

@[simp] lemma pulseBurst_heap (s : SweepCtx F) :
    (pulseBurst s).world.heap = s.world.heap := by
  rw [pulseBurst, setPins_heap]

@[simp] lemma readSensors_heap (s : SweepCtx F) :
    (readSensors s).world.heap = s.world.heap := rfl

@[simp] lemma nextCell_heap (s : SweepCtx F) : (nextCell s).world.heap = s.world.heap := by
  rw [nextCell]
  split <;> rfl

@[simp] lemma latchGap_heap (s : SweepCtx F) : (latchGap s).world.heap = s.world.heap := by
  rw [latchGap]
  split
  · simp
  · rfl

@[simp] lemma restTick_heap (s : SweepCtx F) : (restTick s).world.heap = s.world.heap := by
  rw [restTick]
  dsimp only
  split <;> simp

@[simp] lemma serviceBoard_heap (s : SweepCtx F) :
    (serviceBoard s).world.heap = s.world.heap := by
  simp only [serviceBoard, dropPulse, raisePulse]
  split_ifs <;> simp

/-! ## The timer interrupt -/

/-- The direction a pointer moves in, as an increment. -/
def stride (outdir : Bool) : ℤ := if outdir then 1 else -1

lemma stride_cases (b : Bool) : stride b = 1 ∨ stride b = -1 := by
  cases b
  · exact Or.inr rfl
  · exact Or.inl rfl

/-- The delay a tick counts down to: latched from the map when a step begins. -/
def latched (sw : Sweep) : UInt8 := if sw.pulsegap = 0 then sw.current else sw.pulsegap

/-- A tick at rest: pulse high, and with a scan job running one more job event. -/
def rested (sw : Sweep) : Sweep :=
  { sw with
    pulse := true
    pulsegap := 0
    events := sw.events ++
      if sw.sweepjobEnabled then [.of .sweepSweepjobSig 1 (.map sw.sweepmapptr)] else []
    touched := sw.sweepmapptr :: sw.touched }

/-- A tick that counted the cell down. -/
def counted (sw : Sweep) : Sweep :=
  { sw with
    pulsegap := sw.latched
    sweepmap := Function.update sw.sweepmap sw.sweepmapptr (sw.current - 1)
    touched := sw.sweepmapptr :: sw.sweepmapptr :: sw.touched }

/-- A tick in the middle of a step: pulse low, and the delay starts again. -/
def dropped (sw : Sweep) : Sweep :=
  { sw with
    pulsegap := sw.latched
    sweepmap := Function.update sw.sweepmap sw.sweepmapptr sw.latched
    pulse := false
    touched := sw.sweepmapptr :: sw.sweepmapptr :: sw.touched }

/-- A tick at the end of a step: pulse high, the cell cleared, the carriage one cell on. -/
def raised (sw : Sweep) : Sweep :=
  { sw with
    pulsegap := 0
    sweepmap := Function.update sw.sweepmap sw.sweepmapptr 255
    pulse := true
    sweepmapptr := sw.sweepmapptr + stride sw.outdir
    sweeppos := sw.sweeppos - stride sw.outdir
    touched := sw.sweepmapptr :: sw.sweepmapptr :: sw.touched }

lemma latchGap_obj (s : SweepCtx F) :
    (latchGap s).obj = { s.obj with pulsegap := s.obj.latched } := by
  rw [latchGap, latched]
  split
  · simp
  · rfl

lemma nextCell_obj (s : SweepCtx F) :
    (nextCell s).obj = { s.obj with
      sweepmapptr := s.obj.sweepmapptr + stride s.obj.outdir
      sweeppos := s.obj.sweeppos - stride s.obj.outdir } := by
  rw [nextCell, stride]
  cases s.obj.outdir
  · simp [sub_eq_add_neg]
  · simp

lemma restTick_sensed (s : SweepCtx F) :
    Sensed (s.obj.rested) (restTick (touch s.obj.sweepmapptr s)).obj := by
  have hj : (readSensors { setPulse true (touch s.obj.sweepmapptr s) with
      obj.pulsegap := 0 }).obj.sweepjobEnabled = s.obj.sweepjobEnabled := rfl
  rw [restTick, rested]
  dsimp only
  rw [hj]
  split
  · refine ⟨?_, rfl, rfl⟩
    constructor <;> rfl
  · refine ⟨?_, rfl, (List.append_nil _).symm⟩
    constructor <;> rfl

lemma latchGap_touch_obj (s : SweepCtx F) : (latchGap (touch s.obj.sweepmapptr s)).obj
    = { s.obj with pulsegap := s.obj.latched, touched := s.obj.sweepmapptr :: s.obj.touched } := by
  rw [latchGap_obj]
  rfl

lemma dropPulse_obj (s : SweepCtx F) :
    (dropPulse (latchGap (touch s.obj.sweepmapptr s))).obj = s.obj.dropped := by
  rw [dropPulse, setPulse_obj, writeMap_obj, latchGap_touch_obj]
  rfl

lemma raisePulse_obj (s : SweepCtx F) :
    (raisePulse (latchGap (touch s.obj.sweepmapptr s))).obj = s.obj.raised := by
  rw [raisePulse, nextCell_obj, writeMap_obj]
  dsimp only
  rw [setPulse_obj, latchGap_touch_obj]
  rfl

/-- The five things a tick can do. -/
inductive Ticked (sw sw' : Sweep) : Prop
  | off (he : sw.enable = false) (h : Sensed sw sw')
  | rest (he : sw.enable = true) (hc : sw.current = 255) (h : Sensed sw.rested sw')
  | count (he : sw.enable = true) (hc : sw.current ≠ 255) (h0 : sw.current ≠ 0)
      (h : sw' = sw.counted)
  | drop (he : sw.enable = true) (h0 : sw.current = 0) (hp : sw.pulse = true)
      (h : Sensed sw.dropped sw')
  | raise (he : sw.enable = true) (h0 : sw.current = 0) (hp : sw.pulse = false)
      (h : Sensed sw.raised sw')

/-- **What a tick does.** -/
theorem serviceBoard_ticked (s : SweepCtx F) : Ticked s.obj (serviceBoard s).obj := by
  cases he : s.obj.enable with
  | false =>
      refine .off he ?_
      simp only [serviceBoard, he]
      exact readSensors_sensed s
  | true =>
      have hcur : (latchGap (touch s.obj.sweepmapptr s)).obj.current = s.obj.current := by
        rw [latchGap_touch_obj]
        rfl
      have hpulse : (latchGap (touch s.obj.sweepmapptr s)).obj.pulse = s.obj.pulse := by
        rw [latchGap_touch_obj]
      by_cases h255 : s.obj.current = 255
      · have h : serviceBoard s = restTick (touch s.obj.sweepmapptr s) := by
          simp only [serviceBoard, he, if_true]
          exact if_neg (not_not.mpr h255)
        exact .rest he h255 (h ▸ restTick_sensed s)
      · have h : serviceBoard s =
            let t := latchGap (touch s.obj.sweepmapptr s)
            if t.obj.current = 0 then
              readSensors (if t.obj.pulse then dropPulse t else raisePulse t)
            else writeMap t.obj.sweepmapptr (t.obj.current - 1) t := by
          simp only [serviceBoard, he, if_true]
          exact if_pos h255
        dsimp only at h
        rw [hcur, hpulse] at h
        by_cases h0 : s.obj.current = 0
        · rw [if_pos h0] at h
          cases hp : s.obj.pulse with
          | true =>
              rw [hp, if_pos rfl] at h
              exact .drop he h0 hp (by rw [h, ← dropPulse_obj]; exact readSensors_sensed _)
          | false =>
              rw [hp, if_neg (by decide)] at h
              exact .raise he h0 hp (by rw [h, ← raisePulse_obj]; exact readSensors_sensed _)
        · rw [if_neg h0] at h
          refine .count he h255 h0 ?_
          rw [h, writeMap_obj, latchGap_touch_obj]
          rfl

namespace Ticked

variable {sw sw' : Sweep}

/-- A tick leaves the state machine alone. -/
lemma fsm (h : Ticked sw sw') : sw'.fsm = sw.fsm := by
  cases h with
  | off _ h => exact h.fsm
  | rest _ _ h => exact h.fsm
  | count _ _ _ h => rw [h]; rfl
  | drop _ _ _ h => exact h.fsm
  | raise _ _ _ h => exact h.fsm

/-- A tick queues at most one job event. -/
lemma events (h : Ticked sw sw') : sw'.events = sw.events ∨
    sw'.events = sw.events ++ [.of .sweepSweepjobSig 1 (.map sw.sweepmapptr)] := by
  cases h with
  | off _ h => exact Or.inl h.events
  | rest _ _ h =>
      rw [h.events, rested]
      cases sw.sweepjobEnabled
      · exact Or.inl (List.append_nil _)
      · exact Or.inr rfl
  | count _ _ _ h => exact Or.inl (by rw [h]; rfl)
  | drop _ _ _ h => exact Or.inl h.events
  | raise _ _ _ h => exact Or.inl h.events

/-- Without a scan job a tick queues nothing. -/
lemma events_of_nojob (h : Ticked sw sw') (hj : sw.sweepjobEnabled = false) :
    sw'.events = sw.events := by
  cases h with
  | off _ h => exact h.events
  | rest _ _ h =>
      rw [h.events, rested, hj]
      exact List.append_nil _
  | count _ _ _ h => rw [h]; rfl
  | drop _ _ _ h => exact h.events
  | raise _ _ _ h => exact h.events

/-- What the queue holds after a tick. -/
lemma mem_events (h : Ticked sw sw') {e : Event} (he : e ∈ sw'.events) :
    e ∈ sw.events ∨ e = .of .sweepSweepjobSig 1 (.map sw.sweepmapptr) := by
  rcases h.events with hev | hev <;> rw [hev] at he
  · exact Or.inl he
  · exact (List.mem_append.mp he).imp id List.mem_singleton.mp

/-- The pointer and the position move together. -/
lemma coupled (h : Ticked sw sw') : sw'.sweepmapptr + sw'.sweeppos = sw.sweepmapptr + sw.sweeppos := by
  cases h with
  | off _ h => rw [h.sweepmapptr, h.sweeppos]
  | rest _ _ h => rw [h.sweepmapptr, h.sweeppos]; rfl
  | count _ _ _ h => rw [h]; rfl
  | drop _ _ _ h => rw [h.sweepmapptr, h.sweeppos]; rfl
  | raise _ _ _ h =>
      rw [h.sweepmapptr, h.sweeppos, raised]
      dsimp only
      ring

/-- A tick of an enabled driver accesses the cell under the pointer, and nothing else. -/
lemma touched (h : Ticked sw sw') {i : ℤ} (hi : i ∈ sw'.touched) :
    (sw.enable = true ∧ i = sw.sweepmapptr) ∨ i ∈ sw.touched := by
  cases h with
  | off _ h => exact Or.inr (h.touched ▸ hi)
  | rest he _ h => simpa [h.touched, rested, he] using hi
  | count he _ _ h => simpa [h, counted, he] using hi
  | drop he _ _ h => simpa [h.touched, dropped, he] using hi
  | raise he _ _ h => simpa [h.touched, raised, he] using hi

end Ticked

/-- The two objects agree on the scan job. -/
structure SameJob (sw sw' : Sweep) : Prop where
  sweepjobIn : sw'.sweepjobIn = sw.sweepjobIn
  sweepjobOut : sw'.sweepjobOut = sw.sweepjobOut
  sweepjobSpeed : sw'.sweepjobSpeed = sw.sweepjobSpeed
  sweepjobOutdir : sw'.sweepjobOutdir = sw.sweepjobOutdir
  sweepjobEnabled : sw'.sweepjobEnabled = sw.sweepjobEnabled

lemma SameCarriage.sameJob {sw sw' : Sweep} (h : SameCarriage sw sw') : SameJob sw sw' :=
  ⟨h.sweepjobIn, h.sweepjobOut, h.sweepjobSpeed, h.sweepjobOutdir, h.sweepjobEnabled⟩

lemma SameJob.after {sw sw' sw'' : Sweep} (h' : SameJob sw' sw'') (h : SameJob sw sw') :
    SameJob sw sw'' :=
  ⟨h'.sweepjobIn.trans h.sweepjobIn, h'.sweepjobOut.trans h.sweepjobOut,
    h'.sweepjobSpeed.trans h.sweepjobSpeed, h'.sweepjobOutdir.trans h.sweepjobOutdir,
    h'.sweepjobEnabled.trans h.sweepjobEnabled⟩

/-- A tick leaves the job alone. -/
lemma Ticked.sameJob {sw sw' : Sweep} (h : Ticked sw sw') : SameJob sw sw' := by
  cases h with
  | off _ h => exact h.sameJob
  | rest _ _ h => exact h.sameJob.after ⟨rfl, rfl, rfl, rfl, rfl⟩
  | count _ _ _ h => rw [h]; exact ⟨rfl, rfl, rfl, rfl, rfl⟩
  | drop _ _ _ h => exact h.sameJob.after ⟨rfl, rfl, rfl, rfl, rfl⟩
  | raise _ _ _ h => exact h.sameJob.after ⟨rfl, rfl, rfl, rfl, rfl⟩

/-! ## Moves -/

lemma slideLoop_obj (v : UInt8) : ∀ (n : ℕ) (p : ℤ) (s : SweepCtx F),
    (slideLoop v n p s).obj = { s.obj with
      sweepmap := paint (stride s.obj.outdir) v n p s.obj.sweepmap
      touched := (walk (stride s.obj.outdir) n p).reverse ++ s.obj.touched }
  | 0, _, _ => rfl
  | n + 1, p, s => by
      have hp : (if (writeMap p v s).obj.outdir then p + 1 else p - 1)
          = p + stride s.obj.outdir := by
        rw [writeMap_obj]
        cases s.obj.outdir <;> rfl
      rw [slideLoop, hp, slideLoop_obj v n]
      simp [paint, walk]

lemma slideLoop_heap (v : UInt8) : ∀ (n : ℕ) (p : ℤ) (s : SweepCtx F),
    (slideLoop v n p s).world.heap = s.world.heap
  | 0, _, _ => rfl
  | n + 1, p, s => by
      rw [slideLoop, slideLoop_heap v n]
      rfl

/-- How many cells `Slide` writes for a step count. -/
def slideCells (step : ℤ) : ℕ := (int32 |step|).toNat

/-- The object after `Slide`. -/
def slid (step speed : ℤ) (sw : Sweep) : Sweep :=
  { sw with
    outdir := !decide (0 < step)
    enable := true
    sweepmap := paint (stride (!decide (0 < step))) (uint8 speed) (slideCells step)
      sw.sweepmapptr sw.sweepmap
    touched := (walk (stride (!decide (0 < step))) (slideCells step) sw.sweepmapptr).reverse
      ++ sw.touched }

/-- The object after `Goto`. -/
def gone (step speed : ℤ) (sw : Sweep) : Sweep :=
  if int32 (step - sw.sweeppos) ≠ 0 then sw.slid (int32 (step - sw.sweeppos)) speed else sw

/-- The object after `SweepJob`. -/
def jobbed (sw : Sweep) : Sweep :=
  if sw.sweepjobEnabled then
    { sw.gone (if sw.sweepjobOutdir then sw.sweepjobOut else sw.sweepjobIn) sw.sweepjobSpeed with
      sweepjobOutdir := !sw.sweepjobOutdir }
  else sw

/-- **What `Slide` does**: the direction, the stretch of cells, the enable flag. -/
theorem slide_obj (step speed : ℤ) (s : SweepCtx F) :
    (slide step speed s).obj = s.obj.slid step speed := by
  rw [slide, setEnable_obj, slideLoop_obj, slid]
  by_cases h : 0 < step <;> simp [h, slideCells]

lemma goto_obj (step speed : ℤ) (s : SweepCtx F) :
    (goto step speed s).obj = s.obj.gone step speed := by
  simp only [goto, gone]
  split
  · exact slide_obj _ speed s
  · rfl

/-! `Goto` leaves everything but the plan alone. -/

section

variable (step speed : ℤ) (sw : Sweep)

@[simp] lemma gone_fsm : (sw.gone step speed).fsm = sw.fsm := by
  rw [gone]
  split <;> rfl

@[simp] lemma gone_events : (sw.gone step speed).events = sw.events := by
  rw [gone]
  split <;> rfl

@[simp] lemma gone_sweepmapptr : (sw.gone step speed).sweepmapptr = sw.sweepmapptr := by
  rw [gone]
  split <;> rfl

@[simp] lemma gone_sweeppos : (sw.gone step speed).sweeppos = sw.sweeppos := by
  rw [gone]
  split <;> rfl

@[simp] lemma gone_pulsegap : (sw.gone step speed).pulsegap = sw.pulsegap := by
  rw [gone]
  split <;> rfl

@[simp] lemma gone_pulse : (sw.gone step speed).pulse = sw.pulse := by
  rw [gone]
  split <;> rfl

@[simp] lemma gone_sweepjobIn : (sw.gone step speed).sweepjobIn = sw.sweepjobIn := by
  rw [gone]
  split <;> rfl

@[simp] lemma gone_sweepjobOut : (sw.gone step speed).sweepjobOut = sw.sweepjobOut := by
  rw [gone]
  split <;> rfl

@[simp] lemma gone_sweepjobSpeed : (sw.gone step speed).sweepjobSpeed = sw.sweepjobSpeed := by
  rw [gone]
  split <;> rfl

@[simp] lemma gone_sweepjobOutdir : (sw.gone step speed).sweepjobOutdir = sw.sweepjobOutdir := by
  rw [gone]
  split <;> rfl

@[simp] lemma gone_sweepjobEnabled :
    (sw.gone step speed).sweepjobEnabled = sw.sweepjobEnabled := by
  rw [gone]
  split <;> rfl

end

@[simp] lemma jobbed_events (sw : Sweep) : sw.jobbed.events = sw.events := by
  rw [jobbed]
  split
  · exact gone_events _ _ _
  · rfl

@[simp] lemma jobbed_fsm (sw : Sweep) : sw.jobbed.fsm = sw.fsm := by
  rw [jobbed]
  split
  · exact gone_fsm _ _ _
  · rfl

@[simp] lemma jobbed_sweeppos (sw : Sweep) : sw.jobbed.sweeppos = sw.sweeppos := by
  rw [jobbed]
  split
  · exact gone_sweeppos _ _ _
  · rfl

/-- A job event only ever toggles the leg. -/
lemma jobbed_job (sw : Sweep) :
    sw.jobbed.sweepjobIn = sw.sweepjobIn ∧ sw.jobbed.sweepjobOut = sw.sweepjobOut ∧
    sw.jobbed.sweepjobEnabled = sw.sweepjobEnabled := by
  rw [jobbed]
  split
  · exact ⟨gone_sweepjobIn _ _ _, gone_sweepjobOut _ _ _, gone_sweepjobEnabled _ _ _⟩
  · exact ⟨rfl, rfl, rfl⟩

lemma sweepJob_obj (s : SweepCtx F) : (sweepJob s).obj = s.obj.jobbed := by
  simp only [sweepJob, jobbed]
  cases he : s.obj.sweepjobEnabled with
  | false => rfl
  | true => cases h : s.obj.sweepjobOutdir <;> simp [goto_obj, h]

@[simp] lemma slide_heap (step speed : ℤ) (s : SweepCtx F) :
    (slide step speed s).world.heap = s.world.heap := by
  rw [slide, setEnable_heap, slideLoop_heap]
  split <;> simp

@[simp] lemma goto_heap (step speed : ℤ) (s : SweepCtx F) :
    (goto step speed s).world.heap = s.world.heap := by
  rw [goto]
  split <;> simp

@[simp] lemma sweepJob_heap (s : SweepCtx F) :
    (sweepJob s).world.heap = s.world.heap := by
  rw [sweepJob]
  split_ifs <;> simp

/-- A move accesses every cell it plans. -/
lemma gone_touches (sw : Sweep) (target speed : ℤ) {k : ℕ}
    (hk : k < slideCells (int32 (target - sw.sweeppos))) :
    sw.sweepmapptr + k * stride (!decide (0 < int32 (target - sw.sweeppos)))
      ∈ (sw.gone target speed).touched := by
  have hne : int32 (target - sw.sweeppos) ≠ 0 := by
    intro h0
    rw [h0] at hk
    exact absurd hk (Nat.not_lt_zero k)
  rw [gone, if_pos hne]
  exact List.mem_append_left _ (List.mem_reverse.mpr (mem_walk.mpr ⟨k, hk, rfl⟩))

/-- A step count that is no more than an `int` can hold is written in full. -/
lemma slideCells_of_range (step : ℤ) (hlo : -2147483648 < step) (hhi : step < 2147483648) :
    slideCells step = step.natAbs := by
  have := abs_nonneg step
  rw [slideCells, int32_of_range (by omega) (abs_lt.mpr ⟨by omega, hhi⟩), Int.abs_eq_natAbs,
    Int.toNat_natCast]

/-- A positive step count goes to higher positions, so to lower cells. -/
lemma stride_of_step (step : ℤ) :
    (0 < step ∧ stride (!decide (0 < step)) = -1) ∨
    (step ≤ 0 ∧ stride (!decide (0 < step)) = 1) := by
  by_cases h : 0 < step
  · exact Or.inl ⟨h, by rw [stride, if_neg (by simp [h])]⟩
  · exact Or.inr ⟨by omega, by rw [stride, if_pos (by simp [h])]⟩

/-- All the cells of a move in one place: they lie between the pointer and the end. -/
lemma natAbs_mul_stride (step : ℤ) :
    (step.natAbs : ℤ) * stride (!decide (0 < step)) = -step := by
  rcases stride_of_step step with ⟨h, hs⟩ | ⟨h, hs⟩ <;> rw [hs] <;> omega

end Lgt8.Sweep

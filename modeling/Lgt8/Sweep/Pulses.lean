import Mathlib.Tactic
import Lgt8.Sweep.Containment

/-!
# The position counts the step pulses

A step of the motor is a pulse: `setPulse` takes the line from high to low and back.  The line is
raised in two branches of `serviceBoard`, at the end of a step, where the carriage goes on to the
next cell, and at rest, where it stays.  `Pulses` is an observer that counts the rising edges by
the direction they were issued with.

* `Pulses.after` — what the observer counts; only a tick can raise the line.
* **`pulses_counted_iff`** — along every command stream that stays in the step map the position
  counts the pulses exactly if no tick finds a carriage at rest with the pulse still low.
* `goto_255_loses_pulse` — a move at speed 255, planned in the middle of a step, leads to such a
  tick, and **`finished_of_movesOn`** — nothing else does.
-/

namespace Lgt8.Sweep

open Library

variable {F : Type}

/-! ## The observer -/

/-- The step pulses completed so far: with `outdir` false, which takes the position up, and with
`outdir` true, which takes it down. -/
structure Pulses where
  up : ℕ
  down : ℕ
  deriving DecidableEq

namespace Pulses

/-- No pulse yet. -/
def none : Pulses := ⟨0, 0⟩

/-- Between the two objects the line went from low to high, or it did not. -/
def after (sw sw' : Sweep) (n : Pulses) : Pulses :=
  if sw.pulse = false ∧ sw'.pulse = true then
    if sw.outdir then { n with down := n.down + 1 } else { n with up := n.up + 1 }
  else n

lemma after_of_pulse {sw sw' : Sweep} (h : sw'.pulse = sw.pulse) (n : Pulses) :
    n.after sw sw' = n := by
  rw [after, h]
  refine if_neg fun hp => ?_
  rw [hp.1] at hp
  exact absurd hp.2 (by decide)

lemma after_of_low {sw sw' : Sweep} (h : sw'.pulse = false) (n : Pulses) :
    n.after sw sw' = n := by
  rw [after, h]
  exact if_neg fun hp => absurd hp.2 (by decide)

/-- The net number of pulses, as steps of the position. -/
def net (n : Pulses) : ℤ := n.up - n.down

/-- A completed pulse is one step against the stride of the pointer. -/
lemma net_after_edge {sw sw' : Sweep} (hlow : sw.pulse = false) (hhigh : sw'.pulse = true)
    (n : Pulses) : (n.after sw sw').net = n.net - stride sw.outdir := by
  rw [after, if_pos ⟨hlow, hhigh⟩, stride, net, net]
  cases sw.outdir
  · simp only [Bool.false_eq_true, if_false]
    push_cast
    ring
  · simp only [if_true]
    push_cast
    ring

end Pulses

/-- The observer counts the pulse of a step that completed one. -/
def notePulse (s : SweepCtx F) (l : Label) (n : Pulses) : Pulses :=
  match step s l with
  | .ok t => n.after s.obj t.obj
  | .error _ => n

lemma notePulse_ok {s t : SweepCtx F} {l : Label} (h : step s l = .ok t) (n : Pulses) :
    notePulse s l n = n.after s.obj t.obj := by
  rw [notePulse, h]

/-! ## What moves the pulse line -/

/-- The carriage neither moved nor pulsed. -/
structure Still (sw sw' : Sweep) : Prop where
  pulse : sw'.pulse = sw.pulse
  sweeppos : sw'.sweeppos = sw.sweeppos

lemma SameCarriage.still {sw sw' : Sweep} (h : SameCarriage sw sw') : Still sw sw' :=
  ⟨h.pulse, h.sweeppos⟩

lemma Still.trans {sw sw' sw'' : Sweep} (h : Still sw sw') (h' : Still sw' sw'') : Still sw sw'' :=
  ⟨h'.pulse.trans h.pulse, h'.sweeppos.trans h.sweeppos⟩

lemma gone_still (step speed : ℤ) (sw : Sweep) : Still sw (sw.gone step speed) :=
  ⟨gone_pulse _ _ _, gone_sweeppos _ _ _⟩

lemma jobbed_still (sw : Sweep) : Still sw sw.jobbed := by
  rw [jobbed]
  split
  · exact ⟨gone_pulse _ _ _, gone_sweeppos _ _ _⟩
  · exact ⟨rfl, rfl⟩

lemma Commanded.still {m : AntaresMsg} {s : SweepCtx F} {sw : Sweep} (h : Commanded m s sw) :
    Still s.obj sw := by
  cases h with
  | goto => exact gone_still _ _ _
  | scanStart => exact ⟨rfl, rfl⟩
  | scanAbort => exact ⟨rfl, rfl⟩
  | enable => exact ⟨rfl, rfl⟩
  | dir => exact ⟨rfl, rfl⟩
  | other => exact ⟨rfl, rfl⟩

/-- A turn of the event loop plans moves; it makes none. -/
lemma Turned.still {P : AntaresMsg → Prop} {s t : SweepCtx F} (h : Turned P s t) :
    Still s.obj t.obj := by
  cases h with
  | quiet _ h => exact h.still
  | job _ _ h => exact (jobbed_still _).trans h.still
  | msg _ _ _ _ hc h => exact hc.still.trans h.still

/-! ## Position and pulses -/

/-- The steps of a stream of moves, scans, enables and turns of the direction. -/
def StreamLabel : Label → Prop
  | .tick => True
  | .post m => Streamed m
  | .push _ => False
  | .turn => True

/-- A carriage at rest, as a tick finds it, has finished its last pulse. -/
def Finished (s : SweepCtx F) : Label → Prop
  | .tick => ¬ (s.obj.enable = true ∧ s.obj.current = 255 ∧ s.obj.pulse = false)
  | _ => True

instance (s : SweepCtx F) : ∀ l, Decidable (Finished s l)
  | .tick => inferInstanceAs (Decidable (¬ _))
  | .post _ => inferInstanceAs (Decidable True)
  | .push _ => inferInstanceAs (Decidable True)
  | .turn => inferInstanceAs (Decidable True)

/-- The position is off the middle by the net number of pulses. -/
def Counted (p : SweepCtx F × Pulses) : Prop := p.1.obj.sweeppos - 2000 = p.2.net

/-- What holds along a stream whose pulses were all counted. -/
structure Tallied (p : SweepCtx F × Pulses) : Prop where
  calm : Calm Streamed p.1
  counted : Counted p

lemma Still.counted {s t : SweepCtx F} (h : Still s.obj t.obj) {n : Pulses}
    (hn : Counted (s, n)) : Counted (t, n.after s.obj t.obj) := by
  rw [Counted, Pulses.after_of_pulse h.pulse, h.sweeppos]
  exact hn

/-- **A tick counts every pulse but one**: the one it completes at rest. -/
theorem counted_tick_iff {s : SweepCtx F} {n : Pulses} (hn : Counted (s, n)) :
    Counted (serviceBoard s, n.after s.obj (serviceBoard s).obj) ↔ Finished s .tick := by
  rw [Finished]
  have hnet : s.obj.sweeppos - 2000 = n.net := hn
  cases serviceBoard_ticked s with
  | off he h =>
      refine iff_of_true (h.still.counted hn) fun hbad => ?_
      rw [he] at hbad
      exact absurd hbad.1 (by decide)
  | rest he hc h =>
      cases hp : s.obj.pulse with
      | true =>
          refine iff_of_true (Still.counted ⟨h.pulse.trans hp.symm, h.sweeppos⟩ hn) ?_
          exact fun hbad => absurd hbad.2.2 (by decide)
      | false =>
          -- the line is raised, and the carriage stays where it is
          refine iff_of_false (fun hcount => ?_) (fun hfin => hfin ⟨he, hc, rfl⟩)
          have hpos : (serviceBoard s).obj.sweeppos = s.obj.sweeppos := h.sweeppos
          rw [Counted, Pulses.net_after_edge hp h.pulse, hpos] at hcount
          rcases stride_cases s.obj.outdir with hs | hs <;> rw [hs] at hcount <;> omega
  | count _ hc _ h =>
      refine iff_of_true (Still.counted ⟨by rw [h]; rfl, by rw [h]; rfl⟩ hn) ?_
      exact fun hbad => hc hbad.2.1
  | drop _ h0 _ h =>
      refine iff_of_true ?_ fun hbad => ne_max_of_eq_zero h0 hbad.2.1
      have hpos : (serviceBoard s).obj.sweeppos = s.obj.sweeppos := h.sweeppos
      rw [Counted, Pulses.after_of_low h.pulse, hpos]
      exact hn
  | raise _ h0 hp h =>
      refine iff_of_true ?_ fun hbad => ne_max_of_eq_zero h0 hbad.2.1
      have hpos : (serviceBoard s).obj.sweeppos = s.obj.sweeppos - stride s.obj.outdir := h.sweeppos
      rw [Counted, Pulses.net_after_edge hp h.pulse, hpos]
      omega

lemma tallied_step {p q : SweepCtx F × Pulses} {l : Label} (hl : StreamLabel l) (hp : Tallied p)
    (hC : Finished p.1 l) (h : observed step notePulse p l = .ok q) : Tallied q := by
  obtain ⟨s, n⟩ := p
  obtain ⟨t, k⟩ := q
  obtain ⟨hstep, hnote⟩ := observed_ok.mp h
  dsimp only at hstep hnote
  rw [notePulse_ok hstep] at hnote
  subst hnote
  cases l with
  | tick =>
      cases hstep
      exact ⟨serviceBoard_calm hp.calm, (counted_tick_iff hp.counted).mpr hC⟩
  | post m =>
      cases hstep
      exact ⟨post_calm hp.calm hl, Still.counted ⟨rfl, rfl⟩ hp.counted⟩
  | push e => exact hl.elim
  | turn =>
      obtain ⟨hcalm, hturned⟩ := calm_turn_ok streamed_not_park hp.calm hstep
      exact ⟨hcalm, hturned.still.counted hp.counted⟩

lemma boot_tallied (raw : Sweep) (w : World F) : Tallied (boot raw w, Pulses.none) :=
  ⟨boot_calm _ raw w, rfl⟩

lemma InMap.streamLabel {s : SweepCtx F} {l : Label} (h : InMap s l) : StreamLabel l := by
  cases l with
  | tick => trivial
  | post m => exact h
  | push e => exact h
  | turn => trivial

/-- **Position equals pulses issued**, in every state of every command stream that accesses the step
map in bounds, exactly if every tick that finds the carriage at rest finds the last pulse
finished. -/
theorem pulses_counted_iff (raw : Sweep) (w : World F) {labels : List Label}
    (h : AllSteps step InMap (boot raw w) labels) :
    AllStates (observed step notePulse) Counted (boot raw w, Pulses.none) labels ↔
      AllSteps step Finished (boot raw w) labels := by
  refine Iff.trans (allStates_iff_allSteps_of (I := Tallied) (L := fun p => InMap p.1)
    (C := fun p => Finished p.1) (fun _ hp => hp.counted)
    (fun p l q hl hp hC hq => tallied_step hl.streamLabel hp hC hq) ?_ (allSteps_observed.mpr h)
    (boot_tallied raw w)) allSteps_observed
  rintro ⟨s, n⟩ l _ hp hC
  cases l with
  | tick =>
      refine ⟨(serviceBoard s, n.after s.obj (serviceBoard s).obj), rfl, fun hcount => ?_⟩
      exact hC ((counted_tick_iff hp.counted).mp hcount)
  | post m => exact absurd trivial hC
  | push e => exact absurd trivial hC
  | turn => exact absurd trivial hC

/-- `SWEEP_GOTO "2001 0"`, one step at full speed, and the same move at speed 255. -/
def goto2001 : AntaresMsg := .compose Comands.sweepGoto.code 0 2 "2001 0"

def goto2001At255 : AntaresMsg := .compose Comands.sweepGoto.code 0 2 "2001 255"

/-- One step, ticked to its middle. -/
def halfStep : List Label := [.post goto2001, .turn, .turn, .tick]

/-- In the whole step and a tick at rest behind it every pulse is counted. -/
theorem pulses_counted_iff_step :
    (AllStates (observed step notePulse) Counted (boot blank .blank, Pulses.none)
        (halfStep ++ [.tick, .tick]) ↔
      AllSteps step Finished (boot blank .blank) (halfStep ++ [.tick, .tick])) ∧
    AllSteps step Finished (boot blank .blank) (halfStep ++ [.tick, .tick]) :=
  ⟨pulses_counted_iff blank .blank (by decide +kernel), by decide +kernel⟩

/-- **The lost pulse**: a move at speed 255, serviced in the middle of a step, leaves the carriage
at rest with the pulse low, and the next tick completes the pulse without a step. -/
theorem goto_255_loses_pulse :
    AllSteps step InMap (boot blank .blank) (halfStep ++ [.post goto2001At255, .turn, .tick]) ∧
    ∃ t, run (observed step notePulse) (boot blank .blank, Pulses.none)
        (halfStep ++ [.post goto2001At255, .turn, .tick]) = .ok t ∧
      t.1.obj.sweeppos = 2000 ∧ t.2 = ⟨1, 0⟩ ∧ ¬ Counted t := by
  refine ⟨by decide +kernel, _, rfl, rfl, rfl, ?_⟩
  rw [Counted]
  decide

/-! ## Only a speed of 255 loses a pulse -/

/-- In the middle of a step the cell under the pointer holds a delay. -/
structure Whole (sw : Sweep) : Prop where
  gap : sw.pulsegap ≠ 255
  low : sw.pulse = false → sw.current ≠ 255

namespace Whole

variable {sw sw' : Sweep}

lemma of_sameCarriage (hs : SameCarriage sw sw') (h : Whole sw) : Whole sw' where
  gap := hs.pulsegap ▸ h.gap
  low hp := by
    rw [hs.current]
    exact h.low (hs.pulse ▸ hp)

lemma tick {s : SweepCtx F} (h : Whole s.obj) : Whole (serviceBoard s).obj := by
  have ht := serviceBoard_ticked s
  refine ⟨ht.gap h.gap, fun hp => ?_⟩
  cases ht with
  | off _ hs => exact (h.of_sameCarriage hs.toSameCarriage).low hp
  | rest _ _ hs =>
      rw [hs.pulse] at hp
      cases hp
  | count _ hc h0 hs =>
      have hcur : s.obj.counted.current = s.obj.current - 1 := Function.update_self _ _ _
      rw [hs, hcur]
      exact pred_ne_max h0
  | drop _ h0 _ hs =>
      have hcur : s.obj.dropped.current = s.obj.latched := Function.update_self _ _ _
      rw [hs.current, hcur]
      exact latched_ne (ne_max_of_eq_zero h0) h.gap
  | raise _ _ _ hs =>
      rw [hs.pulse] at hp
      cases hp

/-- A move planned in the middle of a step keeps it whole, at any speed but 255. -/
lemma gone (h : Whole sw) (step : ℤ) {speed : ℤ} (hv : sw.pulse = false → uint8 speed ≠ 255) :
    Whole (sw.gone step speed) where
  gap := by
    rw [gone_pulsegap]
    exact h.gap
  low hp := by
    rw [gone_pulse] at hp
    have hlow := h.low hp
    rw [Sweep.gone]
    split
    · show paint _ _ _ _ _ _ ≠ (255 : UInt8)
      rw [paint_apply]
      split
      · exact hv hp
      · exact hlow
    · exact hlow

lemma jobbed (h : Whole sw) (hv : sw.pulse = false → uint8 sw.sweepjobSpeed ≠ 255) :
    Whole sw.jobbed := by
  rw [Sweep.jobbed]
  split
  · have hg := h.gone (if sw.sweepjobOutdir then sw.sweepjobOut else sw.sweepjobIn) hv
    exact ⟨hg.gap, hg.low⟩
  · exact h

lemma commanded {m : AntaresMsg} {s : SweepCtx F} (h : Whole s.obj)
    (hv : m.cmd = Comands.sweepGoto.code → s.obj.pulse = false → uint8 (gotoSpeed m s) ≠ 255)
    (hc : Commanded m s sw) : Whole sw := by
  cases hc with
  | goto hg => exact h.gone _ (hv hg)
  | scanStart => exact ⟨h.gap, h.low⟩
  | scanAbort => exact ⟨h.gap, h.low⟩
  | enable => exact ⟨h.gap, h.low⟩
  | dir => exact ⟨h.gap, h.low⟩
  | other => exact h

end Whole

/-- The speed of a move serviced in the middle of a step is not 255 modulo 256. -/
def MovesOn (s : SweepCtx F) (m : AntaresMsg) : Prop :=
  m.cmd = Comands.sweepGoto.code → s.obj.pulse = false → uint8 (gotoSpeed m s) ≠ 255

/-- So for the leg of a scan job. -/
def JobMovesOn (s : SweepCtx F) : Prop :=
  s.obj.pulse = false → uint8 s.obj.sweepjobSpeed ≠ 255

/-- **Only moves at speed 255, planned in the middle of a step, lose pulses.** -/
theorem finished_of_movesOn (raw : Sweep) (w : World F) {labels : List Label}
    (h : AllSteps step (Fed Streamed MovesOn JobMovesOn) (boot raw w) labels) :
    AllSteps step Finished (boot raw w) labels := by
  refine calm_allSteps (I := Whole) streamed_not_park Whole.of_sameCarriage (fun _ => Whole.tick)
    (fun s hj hs => hs.jobbed hj) (fun s m sw _ hv hc hs => hs.commanded hv hc) (fun s l hs _ => ?_)
    (boot_calm _ raw w) (Whole.of_sameCarriage (boot_obj raw w) ⟨zero_ne_max, nofun⟩) h
  cases l with
  | tick => exact fun hbad => hs.low hbad.2.2 hbad.2.1
  | post m => trivial
  | push e => trivial
  | turn => trivial

end Lgt8.Sweep

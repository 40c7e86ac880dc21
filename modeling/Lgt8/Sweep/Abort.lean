import Mathlib.Tactic
import Lgt8.Sweep.Scan

/-!
# Is an aborted scan over?

`SWEEP_SCAN` with an argument other than 1 clears `sweepjobEnabled` and nothing else: the leg under
way stays in the map, and job events that earlier ticks queued stay in the queue.  They find the job
cleared when their turn comes, and nothing but a new command sets it again.

* `Aborted` — the job is cleared, and no `SWEEP_JOBDONE_SIG` waits, which alone could start a move
  without a command.  Nothing in the firmware raises that signal.
* `Idles` — a step that turns no direction, wakes no cell at rest and queues no job event.
* **`abort_final`** — after an abort every step of every run without a motion command is such a step.
-/

namespace Lgt8.Sweep

open Library

variable {F : Type}

/-- The job events of a queue. -/
def jobEvents (es : List Event) : List Event :=
  es.filter fun e => e.evtype = SigTypes.sweepSweepjobSig.bits

/-- What a step leaves of the queue it finds: a turn takes the event at the front. -/
def remaining : Label → List Event → List Event
  | .turn, es => es.tail
  | _, es => es

structure Idles (l : Label) (s t : SweepCtx F) : Prop where
  outdir : t.obj.outdir = s.obj.outdir
  rest : ∀ i, s.obj.sweepmap i = 255 → t.obj.sweepmap i = 255
  jobs : jobEvents t.obj.events = jobEvents (remaining l s.obj.events)

/-- The commands that move the carriage or turn it. -/
def IsMotion (m : AntaresMsg) : Prop :=
  m.cmd = Comands.sweepGoto.code ∨ m.cmd = Comands.sweepScan.code ∨
    m.cmd = Comands.sweepPark.code ∨ m.cmd = Comands.sweepDir.code

/-- No `SWEEP_JOBDONE_SIG` is raised. -/
def RaisesNoDone : Label → Prop
  | .push evt => evt.evtype ≠ SigTypes.sweepJobdoneSig.bits
  | _ => True

/-- Ticks and turns that service no motion command; whatever is pushed meanwhile is neither a job
event nor the end of a job. -/
def WithoutMotion (s : SweepCtx F) : Label → Prop
  | .push evt => evt.evtype ≠ SigTypes.sweepJobdoneSig.bits ∧
      evt.evtype ≠ SigTypes.sweepSweepjobSig.bits
  | .turn => ∀ m, frontMsg s = some m → ¬ IsMotion m
  | _ => True

/-! ## No end of a job waits -/

/-- No `SWEEP_JOBDONE_SIG` waits. -/
def NoDone (s : SweepCtx F) : Prop :=
  ∀ e ∈ s.obj.events, e.evtype ≠ SigTypes.sweepJobdoneSig.bits

lemma own_ne_done {e : Event} (h : Own e) : e.evtype ≠ SigTypes.sweepJobdoneSig.bits := by
  obtain ⟨i, rfl | rfl⟩ := h <;> simp

lemma NoDone.extended {s t : SweepCtx F} (h : NoDone s)
    (hq : Extended s.obj.events t.obj.events) : NoDone t := by
  intro e he
  rcases hq with hq | ⟨o, ho, hq⟩ <;> rw [hq] at he
  · exact h e he
  · rcases List.mem_append.mp he with he | he
    · exact h e he
    · rw [List.mem_singleton.mp he]
      exact own_ne_done ho

lemma NoDone.popEvent {s : SweepCtx F} (h : NoDone s) : NoDone (popEvent s) :=
  fun e he => h e (List.mem_of_mem_tail he)

lemma NoDone.turn {s t : SweepCtx F} (h : NoDone s) (ht : serviceFront s = .ok t) : NoDone t := by
  cases he : s.obj.events with
  | nil =>
      rw [serviceFront_nil he] at ht
      cases ht
      exact h
  | cons e rest =>
      obtain ⟨u, hu, rfl⟩ := serviceFront_ok he ht
      cases (serviceEvent_serviced hu).1 with
      | msg _ _ _ hq _ => exact (h.extended hq).popEvent
      | jobdone _ hq _ => exact (h.extended hq).popEvent
      | own _ _ hq _ => exact (h.extended (Or.inl hq)).popEvent

lemma NoDone.step {s t : SweepCtx F} {l : Label} (h : NoDone s) (hl : RaisesNoDone l)
    (ht : step s l = .ok t) : NoDone t := by
  cases l with
  | tick =>
      cases ht
      intro e he
      rcases (serviceBoard_ticked s).mem_events he with hold | rfl
      · exact h e hold
      · simp
  | post m =>
      cases ht
      intro e he
      rcases List.mem_append.mp he with he | he
      · exact h e he
      · rw [List.mem_singleton.mp he]
        simp
  | push evt =>
      cases ht
      intro e he
      rcases List.mem_append.mp he with he | he
      · exact h e he
      · rw [List.mem_singleton.mp he]
        exact hl
  | turn => exact h.turn ht

/-- **Where nobody raises a `SWEEP_JOBDONE_SIG`, none waits.** -/
theorem noDone_run (raw : Sweep) (w : World F) {labels : List Label}
    (h : ∀ l ∈ labels, RaisesNoDone l) {s : SweepCtx F}
    (hs : run step (boot raw w) labels = .ok s) : NoDone s := by
  refine run_invariant (I := NoDone) (C := fun _ l => RaisesNoDone l)
    (fun _ _ _ hI hl ht => hI.step hl ht) ?_ (allSteps_of_forall_mem h) hs
  intro e he
  have hboot : (boot raw w).obj.events = [.of .sweepTickSig 1 (.map 2000)] := rfl
  rw [hboot] at he
  rw [List.mem_singleton.mp he]
  decide

/-! ## A cleared job -/

/-- The direction, the cells at rest and the job, before and after. -/
structure Stays (sw sw' : Sweep) : Prop where
  outdir : sw'.outdir = sw.outdir
  rest : ∀ i, sw.sweepmap i = 255 → sw'.sweepmap i = 255
  sweepjobEnabled : sw'.sweepjobEnabled = sw.sweepjobEnabled

lemma SameCarriage.stays {sw sw' : Sweep} (h : SameCarriage sw sw') : Stays sw sw' :=
  ⟨h.outdir, fun i hi => by rw [h.sweepmap, hi], h.sweepjobEnabled⟩

lemma Stays.after {sw sw' sw'' : Sweep} (h' : SameCarriage sw' sw'') (h : Stays sw sw') :
    Stays sw sw'' :=
  ⟨h'.outdir.trans h.outdir, fun i hi => by rw [h'.sweepmap, h.rest i hi],
    h'.sweepjobEnabled.trans h.sweepjobEnabled⟩

/-- Writing the cell under the pointer wakes no cell at rest if that cell is pending. -/
lemma update_rest {sw : Sweep} (hc : sw.current ≠ 255) (v : UInt8) {i : ℤ}
    (hi : sw.sweepmap i = 255) : Function.update sw.sweepmap sw.sweepmapptr v i = 255 := by
  have hne : i ≠ sw.sweepmapptr := by
    rintro rfl
    exact hc hi
  rw [Function.update_of_ne hne, hi]

/-- **A tick** only ever writes the cell under the pointer, and only if it is pending. -/
lemma Ticked.stays {sw sw' : Sweep} (h : Ticked sw sw') : Stays sw sw' := by
  cases h with
  | off _ hs => exact hs.stays
  | rest _ _ hs => exact .after hs.toSameCarriage ⟨rfl, fun _ hi => hi, rfl⟩
  | count _ hc _ hs =>
      subst hs
      exact ⟨rfl, fun _ hi => update_rest hc _ hi, rfl⟩
  | drop _ h0 _ hs =>
      exact .after hs.toSameCarriage
        ⟨rfl, fun _ hi => update_rest (ne_max_of_eq_zero h0) _ hi, rfl⟩
  | raise _ h0 _ hs =>
      exact .after hs.toSameCarriage
        ⟨rfl, fun _ hi => update_rest (ne_max_of_eq_zero h0) _ hi, rfl⟩

lemma fsmTick_stays {s t : SweepCtx F} (h : fsmTick s = .ok t) : Stays s.obj t.obj := by
  rw [fsmTick] at h
  split at h <;> cases h <;> exact ⟨rfl, fun _ hi => hi, rfl⟩

/-- A command that is no motion command leaves the three alone, and queues nothing. -/
lemma Commanded.stays {m : AntaresMsg} {s : SweepCtx F} {sw : Sweep} (h : Commanded m s sw)
    (hm : ¬ IsMotion m) : Stays s.obj sw ∧ sw.events = s.obj.events := by
  rw [IsMotion, not_or, not_or, not_or] at hm
  obtain ⟨hgoto, hscan, -, hdir⟩ := hm
  cases h with
  | goto hc => exact absurd hc hgoto
  | scanStart hc => exact absurd hc hscan
  | scanAbort hc => exact absurd hc hscan
  | enable => exact ⟨⟨rfl, fun _ hi => hi, rfl⟩, rfl⟩
  | dir hc => exact absurd hc hdir
  | other => exact ⟨⟨rfl, fun _ hi => hi, rfl⟩, rfl⟩

structure Aborted (s : SweepCtx F) : Prop where
  sweepjobEnabled : s.obj.sweepjobEnabled = false
  nodone : NoDone s

/-- A job event whose job is cleared does nothing. -/
lemma Aborted.sweepJob {s : SweepCtx F} (h : Aborted s) : Sweep.sweepJob s = s := by
  rw [Sweep.sweepJob, h.sweepjobEnabled]
  rfl

/-- **Servicing an event without motion** after an abort. -/
lemma Aborted.serviceEvent {s t : SweepCtx F} {e : Event} {rest : List Event} (h : Aborted s)
    (he : s.obj.events = e :: rest) (hm : ∀ m, frontMsg s = some m → ¬ IsMotion m)
    (ht : serviceEvent e s = .ok t) : Stays s.obj t.obj ∧ t.obj.events = s.obj.events := by
  have hnd : e.evtype ≠ SigTypes.sweepJobdoneSig.bits :=
    h.nodone e (by rw [he]; exact List.mem_cons_self)
  rw [Sweep.serviceEvent] at ht
  split_ifs at ht with hr hty hj
  · exact ⟨fsmTick_stays ht, (fsmTick_undisturbed ht).2⟩
  · split at ht
    · next a ha =>
        split at ht
        · next m live =>
            have hmot := hm m (by rw [frontMsg, he, announced_cons hty ha, live])
            have hpark : m.cmd ≠ Comands.sweepPark.code :=
              fun hc => hmot (Or.inr (Or.inr (Or.inl hc)))
            rw [serviceMsg, if_neg hpark] at ht
            cases ht
            exact (serviceCmd_commanded m s).stays hmot
        · cases ht
    · cases ht
  · exact ⟨fsmTick_stays ht, (fsmTick_undisturbed ht).2⟩
  · cases ht
    rw [h.sweepJob]
    exact ⟨(SameCarriage.refl _).stays, rfl⟩
  · cases ht
    exact ⟨(SameCarriage.refl _).stays, rfl⟩

/-- **A step without motion** after an abort. -/
theorem Aborted.step {s t : SweepCtx F} {l : Label} (h : Aborted s) (hl : WithoutMotion s l)
    (ht : step s l = .ok t) : Aborted t ∧ Idles l s t := by
  have hraise : RaisesNoDone l := by
    cases l with
    | push evt => exact hl.1
    | tick => trivial
    | post m => trivial
    | turn => trivial
  have hnodone := h.nodone.step hraise ht
  cases l with
  | tick =>
      cases ht
      have htick := serviceBoard_ticked s
      have hstays := htick.stays
      exact ⟨⟨hstays.sweepjobEnabled.trans h.sweepjobEnabled, hnodone⟩, hstays.outdir, hstays.rest,
        by rw [htick.events_of_nojob h.sweepjobEnabled]; rfl⟩
  | post m =>
      cases ht
      refine ⟨⟨h.sweepjobEnabled, hnodone⟩, rfl, fun _ hi => hi, ?_⟩
      rw [jobEvents, post, pushEvent_obj, List.filter_append, List.filter_cons_of_neg (by simp)]
      exact List.append_nil _
  | push evt =>
      cases ht
      refine ⟨⟨h.sweepjobEnabled, hnodone⟩, rfl, fun _ hi => hi, ?_⟩
      rw [jobEvents, pushEvent_obj, List.filter_append,
        List.filter_cons_of_neg (by simpa using hl.2)]
      exact List.append_nil _
  | turn =>
      cases he : s.obj.events with
      | nil =>
          have heq := (serviceFront_nil he).symm.trans ht
          cases heq
          exact ⟨h, rfl, fun _ hi => hi, by rw [remaining, he]; rfl⟩
      | cons e rest =>
          obtain ⟨u, hu, rfl⟩ := serviceFront_ok he ht
          obtain ⟨hstays, hev⟩ := h.serviceEvent he hl hu
          exact ⟨⟨hstays.sweepjobEnabled.trans h.sweepjobEnabled, hnodone⟩, hstays.outdir,
            hstays.rest, by rw [popEvent_obj, hev]; rfl⟩

/-- The turn that services the abort. -/
lemma aborted_of_turn {s t : SweepCtx F} (h : NoDone s) {m : AntaresMsg}
    (hm : frontMsg s = some m) (hcmd : m.cmd = Comands.sweepScan.code) (harg : m.arg ≠ 1)
    (ht : serviceFront s = .ok t) : Aborted t := by
  refine ⟨?_, h.turn ht⟩
  obtain ⟨e, rest, a, he, hty, ha, live⟩ := announced_some hm
  obtain ⟨u, hu, rfl⟩ := serviceFront_ok he ht
  have hpark : m.cmd ≠ Comands.sweepPark.code := by rw [hcmd]; decide
  rw [serviceEvent_msg s hty ha live, serviceMsg, if_neg hpark] at hu
  cases hu
  rw [popEvent_obj, deleteMsg_obj, serviceCmd, if_neg (by rw [hcmd]; decide), if_pos hcmd,
    serviceScan, if_neg harg]

/-- **A scan abort is final.**  In every state the driver can reach, whatever waits in its queue
before or behind it, once a `SWEEP_SCAN` abort has been serviced, every step of every continuation
that services no motion command keeps the direction, leaves the cells at rest at rest and queues no
job event.  (A `serviceEvents` pass is a row of turns; here ticks may fall between them.) -/
theorem abort_final (raw : Sweep) (w : World F) {before : List Label}
    (hbefore : ∀ l ∈ before, RaisesNoDone l) {s t : SweepCtx F}
    (hs : run step (boot raw w) before = .ok s) {m : AntaresMsg} (hm : frontMsg s = some m)
    (hcmd : m.cmd = Comands.sweepScan.code) (harg : m.arg ≠ 1) (ht : serviceFront s = .ok t)
    {labels : List Label} (hC : AllSteps step WithoutMotion t labels) :
    AllSteps step (fun u l => ∀ v, step u l = .ok v → Idles l u v) t labels :=
  allSteps_of_invariant (I := Aborted) (fun _ _ hI hl _ hv => (hI.step hl hv).2)
    (fun _ _ _ hI hl hv => (hI.step hl hv).1)
    (aborted_of_turn (noDone_run raw w hbefore hs) hm hcmd harg ht) hC

/-- `SWEEP_SCAN` abort. -/
def scanAbort : AntaresMsg := .compose Comands.sweepScan.code 0 2 ""

/-- A scan is started while its abort waits behind the start: the first job event comes third. -/
def abortQueued : List Label := [.post scan75, .post scanAbort, .turn, .turn]

lemma abortQueued_noDone : ∀ l ∈ abortQueued, RaisesNoDone l := by
  simp [abortQueued, RaisesNoDone]

theorem abort_final_scan75 :
    ∃ s t : SweepCtx ℚ, run step (boot blank .blank) abortQueued = .ok s ∧
      s.obj.sweepjobEnabled = true ∧ serviceFront s = .ok t ∧ jobEvents t.obj.events ≠ [] ∧
      AllSteps step (fun u l => ∀ v, step u l = .ok v → Idles l u v) t [.tick, .turn, .tick] := by
  refine ⟨_, _, rfl, rfl, rfl, by decide, ?_⟩
  refine abort_final blank .blank abortQueued_noDone rfl (m := scanAbort) rfl
    (by decide) (by decide) rfl ?_
  exact .cons rfl trivial (.cons rfl nofun (.cons rfl trivial trivial))

end Lgt8.Sweep

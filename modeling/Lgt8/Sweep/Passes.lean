import Mathlib.Tactic
import Lgt8.Firmware.Custody
import Lgt8.Sweep.Runs

/-!
# A pass empties the queue

Servicing an event may queue another one behind it, so that a pass ends at all is something to
prove.  `serviceEvent_serviced` says what servicing an event does to the queue, the heap and the
position; from it, the position is that of the pointer in every run (**`coupled_run`**), and every
turn lowers `queueWeight` (`serviceFront_weight`).  Hence the fuel the model gives a pass is
enough, and a pass that does not fault leaves an empty queue (**`serviceEvents_empties`**).  A
pass is a row of turns (`serviceEvents_turns`), and each turn clears the front of the queue of the
message it announces (**`clears`**).  A relation that contains the parts of the handlers contains
their turns (**`Contains.front`**).
-/

namespace Lgt8.Sweep

open Library

variable {F : Type}

/-- The queue `es'` is `es`, possibly with one event of the driver's own behind it. -/
def Extended (es es' : List Event) : Prop := es' = es ∨ ∃ e, Own e ∧ es' = es ++ [e]

lemma Extended.refl (es : List Event) : Extended es es := Or.inl rfl

/-- From `s` to `t` no message object is touched, at most one event is queued, and the pointer and
the position still count the same rail. -/
structure Undisturbed (s t : SweepCtx F) : Prop where
  queue : Extended s.obj.events t.obj.events
  heap : t.world.heap = s.world.heap
  coupled : s.obj.sweepmapptr = 4000 - s.obj.sweeppos → t.obj.sweepmapptr = 4000 - t.obj.sweeppos

lemma Undisturbed.refl (s : SweepCtx F) : Undisturbed s s := ⟨.refl _, rfl, id⟩

/-- The sensors are read before, any number of times. -/
inductive ReadsTo : SweepCtx F → SweepCtx F → Prop
  | refl (s : SweepCtx F) : ReadsTo s s
  | sense {s u : SweepCtx F} (h : ReadsTo (readSensors s) u) : ReadsTo s u

/-- Reading the sensors first disturbs nothing. -/
lemma ReadsTo.undisturbed {s u t : SweepCtx F} (hu : ReadsTo s u) (h : Undisturbed u t) :
    Undisturbed s t := by
  induction hu with
  | refl s => exact h
  | sense _ ih => exact ⟨(ih h).queue, (ih h).heap, (ih h).coupled⟩

/-! ## The state machine -/

lemma enterState_undisturbed (st : Adm) (s : SweepCtx F) : Undisturbed s (enterState st s) := by
  cases st with
  | coldStart => exact ⟨Or.inr ⟨_, ⟨s.obj.sweepmapptr, Or.inl rfl⟩, rfl⟩, rfl, id⟩
  | idle => exact ⟨.refl _, rfl, id⟩
  | setParked => exact ⟨Or.inr ⟨_, ⟨2000, Or.inl rfl⟩, rfl⟩, rfl, fun _ => rfl⟩
  | searchOut =>
      rw [enterState, entry]
      exact ⟨Or.inl (by rw [slide_obj]; rfl), slide_heap _ _ _, fun h => by rw [slide_obj]; exact h⟩
  | searchIn =>
      rw [enterState, entry]
      exact ⟨Or.inl (by rw [slide_obj]; rfl), slide_heap _ _ _, fun h => by rw [slide_obj]; exact h⟩

lemma fsmTick_undisturbed {s t : SweepCtx F} (h : fsmTick s = .ok t) :
    Undisturbed s t ∧ t.obj.events = s.obj.events := by
  rw [fsmTick] at h
  cases hst : s.obj.fsm <;> rw [hst] at h <;> cases h <;> exact ⟨⟨.refl _, rfl, id⟩, rfl⟩

/-- A parking command that does not fault reads the sensors and enters a state. -/
lemma fsmPark_entered {s t : SweepCtx F} (h : fsmPark s = .ok t) :
    ∃ u st, ReadsTo s u ∧ t = enterState st u := by
  rw [fsmPark] at h
  split at h
  · dsimp only at h
    split_ifs at h <;> cases h
    · exact ⟨_, _, .sense (.refl _), rfl⟩
    · exact ⟨_, _, .sense (.sense (.refl _)), rfl⟩
    · exact ⟨_, _, .sense (.sense (.sense (.refl _))), rfl⟩
  · cases h

/-- The end of a move does too, or reads them at most. -/
lemma fsmJobDone_entered {s t : SweepCtx F} (h : fsmJobDone s = .ok t) :
    ∃ u, ReadsTo s u ∧ (t = u ∨ ∃ st, t = enterState st u) := by
  rw [fsmJobDone] at h
  split at h
  · dsimp only at h
    split_ifs at h <;> cases h
    · exact ⟨_, .sense (.refl _), Or.inr ⟨_, rfl⟩⟩
    · exact ⟨_, .sense (.sense (.refl _)), Or.inr ⟨_, rfl⟩⟩
    · exact ⟨_, .sense (.sense (.refl _)), Or.inl rfl⟩
  · dsimp only at h
    split_ifs at h <;> cases h
    · exact ⟨_, .sense (.refl _), Or.inr ⟨_, rfl⟩⟩
    · exact ⟨_, .sense (.sense (.refl _)), Or.inr ⟨_, rfl⟩⟩
    · exact ⟨_, .sense (.sense (.refl _)), Or.inl rfl⟩
  · cases h
    exact ⟨s, .refl s, Or.inl rfl⟩

lemma fsmPark_undisturbed {s t : SweepCtx F} (h : fsmPark s = .ok t) : Undisturbed s t := by
  obtain ⟨u, st, hu, rfl⟩ := fsmPark_entered h
  exact hu.undisturbed (enterState_undisturbed st u)

lemma fsmJobDone_undisturbed {s t : SweepCtx F} (h : fsmJobDone s = .ok t) : Undisturbed s t := by
  obtain ⟨u, hu, rfl | ⟨st, rfl⟩⟩ := fsmJobDone_entered h
  · exact hu.undisturbed (.refl _)
  · exact hu.undisturbed (enterState_undisturbed st u)

lemma Commanded.coupled {m : AntaresMsg} {s : SweepCtx F} {sw : Sweep} (h : Commanded m s sw)
    (hc : s.obj.sweepmapptr = 4000 - s.obj.sweeppos) : sw.sweepmapptr = 4000 - sw.sweeppos := by
  cases h with
  | goto => rw [gone_sweepmapptr, gone_sweeppos, hc]
  | scanStart => exact hc
  | scanAbort => exact hc
  | enable => exact hc
  | dir => exact hc
  | other => exact hc

lemma serviceMsg_undisturbed {m : AntaresMsg} {s t : SweepCtx F} (h : serviceMsg m s = .ok t) :
    Undisturbed s t := by
  rw [serviceMsg] at h
  split at h
  · have hp := fsmPark_undisturbed h
    exact ⟨hp.queue, hp.heap, hp.coupled⟩
  · cases h
    have hc := serviceCmd_commanded m s
    refine ⟨?_, serviceCmd_heap m s, hc.coupled⟩
    rcases hc.events with he | he
    · exact Or.inl he
    · exact Or.inr ⟨_, ⟨_, Or.inr rfl⟩, he⟩

lemma jobbed_coupled {sw : Sweep} (h : sw.sweepmapptr = 4000 - sw.sweeppos) :
    sw.jobbed.sweepmapptr = 4000 - sw.jobbed.sweeppos := by
  rw [jobbed]
  split
  · show (gone _ _ sw).sweepmapptr = 4000 - (gone _ _ sw).sweeppos
    rw [gone_sweepmapptr, gone_sweeppos, h]
  · exact h

/-! ## An event -/

/-- What servicing an event does to the queue and to the message objects. -/
inductive Serviced (e : Event) (s t : SweepCtx F) : Prop
  | msg {a : ℕ} (he : e.evtype = SigTypes.sweepEthSig.bits) (ha : e.payload = .msg a)
      (live : s.world.heap.cell a ≠ none) (hq : Extended s.obj.events t.obj.events)
      (hh : t.world.heap = s.world.heap.delete a)
  | jobdone (he : e.evtype = SigTypes.sweepJobdoneSig.bits)
      (hq : Extended s.obj.events t.obj.events) (hh : t.world.heap = s.world.heap)
  | own (he : e.evtype ≠ SigTypes.sweepEthSig.bits) (hj : e.evtype ≠ SigTypes.sweepJobdoneSig.bits)
      (hq : t.obj.events = s.obj.events) (hh : t.world.heap = s.world.heap)

/-- **What servicing an event does**, whatever the event. -/
theorem serviceEvent_serviced {e : Event} {s t : SweepCtx F} (h : serviceEvent e s = .ok t) :
    Serviced e s t ∧ (s.obj.sweepmapptr = 4000 - s.obj.sweeppos →
      t.obj.sweepmapptr = 4000 - t.obj.sweeppos) := by
  rw [serviceEvent] at h
  split_ifs at h with hr he hj ht hs
  · obtain ⟨hu, hq⟩ := fsmTick_undisturbed h
    exact ⟨.own (by rw [hr]; decide) (by rw [hr]; decide) hq hu.heap, hu.coupled⟩
  · split at h
    · next a ha =>
        split at h
        · next m live =>
            cases hm : serviceMsg m s with
            | error x => rw [hm] at h; cases h
            | ok u =>
                rw [hm] at h
                cases h
                have hu := serviceMsg_undisturbed hm
                exact ⟨.msg he ha (by rw [live]; simp) hu.queue
                  (by rw [deleteMsg_heap, hu.heap]), hu.coupled⟩
        · cases h
    · cases h
  · have hu := fsmJobDone_undisturbed h
    exact ⟨.jobdone hj hu.queue hu.heap, hu.coupled⟩
  · obtain ⟨hu, hq⟩ := fsmTick_undisturbed h
    exact ⟨.own he hj hq hu.heap, hu.coupled⟩
  · cases h
    refine ⟨.own he hj (by rw [sweepJob_obj, jobbed_events]) (sweepJob_heap s), ?_⟩
    rw [sweepJob_obj]
    exact jobbed_coupled
  · cases h
    exact ⟨.own he hj rfl rfl, id⟩

lemma serviceFront_ok {s t : SweepCtx F} {e : Event} {rest : List Event}
    (hs : s.obj.events = e :: rest) (h : serviceFront s = .ok t) :
    ∃ u, serviceEvent e s = .ok u ∧ t = popEvent u := by
  rw [serviceFront, hs] at h
  cases hu : serviceEvent e s with
  | error x => simp only [hu] at h; cases h
  | ok u =>
      simp only [hu] at h
      cases h
      exact ⟨u, rfl, rfl⟩

/-- **In every state a run can reach, the pointer and the position count the same rail.** -/
theorem coupled_run (raw : Sweep) (w : World F) {labels : List Label} {s : SweepCtx F}
    (hs : run step (boot raw w) labels = .ok s) :
    s.obj.sweepmapptr = 4000 - s.obj.sweeppos := by
  refine run_invariant' (I := fun s : SweepCtx F => s.obj.sweepmapptr = 4000 - s.obj.sweeppos)
    ?_ rfl hs
  intro s l t hI ht
  cases l with
  | tick =>
      cases ht
      have := (serviceBoard_ticked s).coupled
      omega
  | post m => cases ht; exact hI
  | push e => cases ht; exact hI
  | turn =>
      cases he : s.obj.events with
      | nil =>
          rw [step, serviceFront_nil he] at ht
          cases ht
          exact hI
      | cons e rest =>
          obtain ⟨u, hu, rfl⟩ := serviceFront_ok he ht
          exact (serviceEvent_serviced hu).2 hI

/-! ## The weight of a queue -/

lemma eventWeight_pos (e : Event) : 0 < eventWeight e := by
  rw [eventWeight]
  split <;> decide

lemma eventWeight_own {e : Event} (h : Own e) : eventWeight e = 1 := by
  obtain ⟨i, rfl | rfl⟩ := h
  · rw [eventWeight, if_neg (by simp)]
  · rw [eventWeight, if_neg (by simp)]

/-- **Every turn lowers the weight of the queue.** -/
theorem serviceFront_weight {s t : SweepCtx F} (hs : s.obj.events.isEmpty = false)
    (h : serviceFront s = .ok t) : queueWeight t < queueWeight s := by
  cases he : s.obj.events with
  | nil => rw [he] at hs; cases hs
  | cons e rest =>
      obtain ⟨u, hu, rfl⟩ := serviceFront_ok he h
      have hpos := eventWeight_pos e
      have hext : Extended s.obj.events u.obj.events → eventWeight e = 2 →
          queueWeight (popEvent u) < queueWeight s := by
        rintro (hq | ⟨o, ho, hq⟩) h2
        · simp only [queueWeight, popEvent_obj, hq, he, List.tail_cons, List.map_cons,
            List.sum_cons]
          omega
        · simp only [queueWeight, popEvent_obj, hq, he, List.cons_append, List.tail_cons,
            List.map_cons, List.map_append, List.sum_cons, List.sum_append, List.map_nil,
            List.sum_nil, eventWeight_own ho]
          omega
      cases (serviceEvent_serviced hu).1 with
      | msg hty _ _ hq _ => exact hext hq (by rw [eventWeight, if_pos (Or.inl hty)])
      | jobdone hty hq _ => exact hext hq (by rw [eventWeight, if_pos (Or.inr hty)])
      | own _ _ hq _ =>
          simp only [queueWeight, popEvent_obj, hq, he, List.tail_cons, List.map_cons,
            List.sum_cons]
          omega

lemma queueWeight_zero {s : SweepCtx F} (h : queueWeight s = 0) : s.obj.events = [] := by
  cases he : s.obj.events with
  | nil => rfl
  | cons e rest =>
      have := eventWeight_pos e
      simp only [queueWeight, he, List.map_cons, List.sum_cons] at h
      omega

lemma serviceEvents_nil {s : SweepCtx F} (h : s.obj.events = []) : serviceEvents s = .ok s :=
  drain_of_not_pending (by simp [h]) _

/-- A pass is a turn and the rest of the pass. -/
lemma serviceEvents_cons {s t : SweepCtx F} (hs : s.obj.events ≠ []) (h : serviceFront s = .ok t) :
    serviceEvents s = serviceEvents t := by
  have hp : (!s.obj.events.isEmpty) = true := by simpa using hs
  have hw := serviceFront_weight (by simpa using hs) h
  obtain ⟨n, hn⟩ : ∃ n, queueWeight s = n + 1 := ⟨queueWeight s - 1, by omega⟩
  have hdrain : serviceEvents s
      = drain (fun s => !s.obj.events.isEmpty) serviceFront n t := by
    rw [serviceEvents, hn, drain, hp, if_pos rfl, h]
    rfl
  rw [hdrain]
  exact drain_fuel queueWeight
    (fun s u hp hu => serviceFront_weight (by simpa using hp) hu)
    (fun s h0 => by simp [queueWeight_zero h0]) (by omega) le_rfl

/-- A fault of a turn is a fault of the pass. -/
lemma serviceEvents_error {s : SweepCtx F} {x : Fault} (hs : s.obj.events ≠ [])
    (h : serviceFront s = .error x) : serviceEvents s = .error x := by
  have hp : (!s.obj.events.isEmpty) = true := by simpa using hs
  have hw : queueWeight s ≠ 0 := fun h0 => hs (queueWeight_zero h0)
  obtain ⟨n, hn⟩ := Nat.exists_eq_succ_of_ne_zero hw
  rw [serviceEvents, hn, drain, hp, if_pos rfl, h]
  rfl

/-- **A pass that does not fault leaves an empty queue.** -/
theorem serviceEvents_empties {s t : SweepCtx F} (h : serviceEvents s = .ok t) :
    t.obj.events = [] := by
  have hdone := drain_done queueWeight
    (fun s u hp hu => serviceFront_weight (by simpa using hp) hu)
    (fun s h0 => by simp [queueWeight_zero h0]) le_rfl h
  simpa using hdone

/-- The induction over a pass: what every turn keeps, and none of them faults on, holds when the
queue is empty. -/
theorem serviceEvents_ok {I : SweepCtx F → Prop}
    (hturn : ∀ s, I s → s.obj.events ≠ [] → ∃ t, serviceFront s = .ok t ∧ I t)
    {s : SweepCtx F} (hs : I s) : ∃ t, serviceEvents s = .ok t ∧ I t ∧ t.obj.events = [] := by
  have hstep : ∀ s, I s → (!s.obj.events.isEmpty) = true →
      ∃ t, serviceFront s = .ok t ∧ I t ∧ queueWeight t < queueWeight s := by
    intro s hs hp
    obtain ⟨t, ht, hI⟩ := hturn s hs (by simpa using hp)
    exact ⟨t, ht, hI, serviceFront_weight (by simpa using hp) ht⟩
  obtain ⟨t, ht, hI, hp⟩ := drain_ok hstep (fun s h0 => by simp [queueWeight_zero h0]) hs le_rfl
  exact ⟨t, ht, hI, by simpa using hp⟩

/-- **A pass is a row of turns.** -/
theorem serviceEvents_turns {s t : SweepCtx F} (h : serviceEvents s = .ok t) :
    ∃ n, run step s (List.replicate n .turn) = .ok t := by
  refine drain_row step Label.turn id (I := fun _ => True) (fun s _ => ?_) (fun _ _ _ _ => trivial)
    trivial h
  show serviceFront s = (serviceFront s).map id
  cases serviceFront s <;> rfl

/-! ## What the parts keep -/

/-- A relation between a state and a later one that contains all the parts a turn is made of. -/
structure Contains (R : SweepCtx F → SweepCtx F → Prop) : Prop where
  refl (s : SweepCtx F) : R s s
  trans {s t u : SweepCtx F} : R s t → R t u → R s u
  sense (s : SweepCtx F) : R s (readSensors s)
  enter (st : Adm) (s : SweepCtx F) : R s (enterState st s)
  log (text : String) (s : SweepCtx F) : R s (logMessage text s)
  cmd (m : AntaresMsg) (s : SweepCtx F) : R s (serviceCmd m s)
  job (s : SweepCtx F) : R s (sweepJob s)
  delete (a : ℕ) (s : SweepCtx F) : R s (deleteMsg a s)
  pop (s : SweepCtx F) : R s (popEvent s)

section

variable {R : SweepCtx F → SweepCtx F → Prop} {s t : SweepCtx F}

lemma Contains.tick (h : Contains R) (ht : fsmTick s = .ok t) : R s t := by
  rw [fsmTick] at ht
  split at ht <;> cases ht
  · exact h.enter _ s
  · exact h.refl s
  · exact h.enter _ s

lemma ReadsTo.contained {u : SweepCtx F} (hu : ReadsTo s u) (h : Contains R) : R s u := by
  induction hu with
  | refl s => exact h.refl s
  | sense _ ih => exact h.trans (h.sense _) ih

lemma Contains.park (h : Contains R) (ht : fsmPark s = .ok t) : R s t := by
  obtain ⟨u, st, hu, rfl⟩ := fsmPark_entered ht
  exact h.trans (hu.contained h) (h.enter st u)

lemma Contains.jobDone (h : Contains R) (ht : fsmJobDone s = .ok t) : R s t := by
  obtain ⟨u, hu, rfl | ⟨st, rfl⟩⟩ := fsmJobDone_entered ht
  · exact hu.contained h
  · exact h.trans (hu.contained h) (h.enter st u)

lemma Contains.msg (h : Contains R) {m : AntaresMsg} (ht : serviceMsg m s = .ok t) : R s t := by
  rw [serviceMsg] at ht
  split at ht
  · exact h.trans (h.log _ s) (h.park ht)
  · cases ht
    exact h.cmd m s

lemma Contains.event (h : Contains R) {e : Event} (ht : serviceEvent e s = .ok t) : R s t := by
  rw [serviceEvent] at ht
  split_ifs at ht
  · exact h.tick ht
  · split at ht
    · split at ht
      · next m _ =>
          cases hm : serviceMsg m s with
          | error x => rw [hm] at ht; cases ht
          | ok u =>
              rw [hm] at ht
              obtain rfl := Except.ok.inj ht
              exact h.trans (h.msg hm) (h.delete _ u)
      · cases ht
    · cases ht
  · exact h.jobDone ht
  · exact h.tick ht
  · cases ht
    exact h.job s
  · cases ht
    exact h.refl s

/-- **What contains the parts contains the turns**, whatever the event. -/
theorem Contains.front (h : Contains R) (ht : serviceFront s = .ok t) : R s t := by
  cases he : s.obj.events with
  | nil =>
      rw [serviceFront_nil he] at ht
      cases ht
      exact h.refl s
  | cons e rest =>
      obtain ⟨u, hu, rfl⟩ := serviceFront_ok he ht
      exact h.trans (h.event hu) (h.pop u)

end

/-! ## The message objects -/

/-- What a state machine or message handler raises is an undefined transition. -/
lemma fsmTick_error {s : SweepCtx F} {x : Fault} (h : fsmTick s = .error x) : x.Undefined := by
  rw [fsmTick] at h
  split at h <;> cases h <;> trivial

lemma fsmPark_error {s : SweepCtx F} {x : Fault} (h : fsmPark s = .error x) : x.Undefined := by
  rw [fsmPark] at h
  split at h
  · dsimp only at h
    split_ifs at h
    cases h
    trivial
  · cases h
    trivial

lemma fsmJobDone_error {s : SweepCtx F} {x : Fault} (h : fsmJobDone s = .error x) :
    x.Undefined := by
  rw [fsmJobDone] at h
  split at h
  · dsimp only at h
    split_ifs at h
  · dsimp only at h
    split_ifs at h
  · cases h

lemma serviceMsg_error {m : AntaresMsg} {s : SweepCtx F} {x : Fault}
    (h : serviceMsg m s = .error x) : x.Undefined := by
  rw [serviceMsg] at h
  split at h
  · exact fsmPark_error h
  · cases h

lemma own_not_isEth {e : Event} (h : Own e) : ¬ IsEth e := by
  obtain ⟨i, rfl | rfl⟩ := h <;> simp [IsEth, ethSigs]

lemma Extended.gains {e : Event} {rest es : List Event} (h : Extended (e :: rest) es) :
    Gains rest es.tail := by
  rcases h with rfl | ⟨o, ho, rfl⟩
  · exact .refl rest
  · refine ⟨[o], rfl, fun f hf => ?_⟩
    rw [List.mem_singleton.mp hf]
    exact own_not_isEth ho

/-- What an event that is no message may raise. -/
lemma serviceEvent_error {e : Event} (he : ¬ IsEth e) {s : SweepCtx F} {x : Fault}
    (h : serviceEvent e s = .error x) : x.Undefined := by
  have hne : e.evtype ≠ SigTypes.sweepEthSig.bits := fun hty => he ⟨_, by decide, hty⟩
  rw [serviceEvent, if_neg hne] at h
  split_ifs at h
  · exact fsmTick_error h
  · exact fsmJobDone_error h
  · exact fsmTick_error h

/-- **A turn of the sweep clears the front of its queue**, if it does not fault. -/
theorem clears : Clears .sweepEthSig (fun s : SweepCtx F => s.obj.events)
    (fun s => s.world.heap) serviceFront where
  msg {s n a rest} h live := by
    obtain ⟨m, hm⟩ := Option.ne_none_iff_exists'.mp live
    have hev := serviceEvent_msg (e := .of .sweepEthSig n (.msg a)) s rfl rfl hm
    rw [serviceFront, h]
    dsimp only
    rw [hev]
    cases hs : serviceMsg m s with
    | error x => exact serviceMsg_error hs
    | ok u =>
        have hu := serviceMsg_undisturbed hs
        refine ⟨congrArg (Heap.delete · a) hu.heap, ?_⟩
        have hq := hu.queue
        rw [h] at hq
        exact hq.gains
  own {s e rest} h he := by
    rw [serviceFront, h]
    dsimp only
    cases hs : serviceEvent e s with
    | error x => exact serviceEvent_error he hs
    | ok u =>
        have hq : Extended s.obj.events u.obj.events ∧ u.world.heap = s.world.heap := by
          cases (serviceEvent_serviced hs).1 with
          | msg hty => exact absurd ⟨_, by decide, hty⟩ he
          | jobdone _ hq hh => exact ⟨hq, hh⟩
          | own _ _ hq hh => exact ⟨Or.inl hq, hh⟩
        refine ⟨hq.2, ?_⟩
        have hq := hq.1
        rw [h] at hq
        exact hq.gains

end Lgt8.Sweep

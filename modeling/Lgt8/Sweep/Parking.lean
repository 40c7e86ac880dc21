import Mathlib.Tactic
import Lgt8.Sweep.Scan
import Lgt8.Sweep.Transitions

/-!
# Does parking come to an end?

`Park` takes the machine from `Idle` to `setParked`, which goes back to `Idle` at the tick it queues
for itself, or to one of the two search states, which wait for `JobDone`.  The step engine once
announced the end of a move with `SWEEP_JOBDONE_SIG`; the line that did is commented out, and
nothing else in the firmware raises the signal.  So a search, once started, is never left.

* `Waits` — what parking commands, ticks and turns of the event loop keep: only park messages and
  the machine's own ticks are queued, one tick exactly in the two states that wait for it.
* `Trapped`, `trapped_pass` — a state from which every pass does nothing or faults.
* **`returns_iff_released`** — from a state such a run reaches, some readings of the taps and some
  schedule of ticks and passes lead to `Idle` without an exception exactly if the machine is there
  already, or waits for a tick that is the next event, with at most one command behind it.
-/

namespace Lgt8.Sweep

open Library

variable {F : Type}

/-! ## The question -/

/-- Park commands, ticks, and turns of the event loop. -/
def Parking : Label → Prop
  | .post m => m.cmd = Comands.sweepPark.code
  | .push _ => False
  | _ => True

/-- The state with other readings of the taps to come. -/
def reading (taps : ℕ → Taps) (s : SweepCtx F) : SweepCtx F := { s with world.taps := taps }

/-- Some readings of the taps, and some schedule of ticks and passes, lead to `Idle`. -/
def Returns (s : SweepCtx F) : Prop :=
  ∃ taps slots t, run scheduled (reading taps s) slots = .ok t ∧ t.obj.fsm = .idle

/-- The machine's own tick. -/
def IsTick (e : Event) : Prop := ∃ i : ℤ, e = .of .sweepTickSig 1 (.map i)

/-- The machine is in `Idle`, or its tick comes next and at most one command after it. -/
def Released (s : SweepCtx F) : Prop :=
  s.obj.fsm = .idle ∨
    ¬ Searching s.obj ∧ ∃ e rest, s.obj.events = e :: rest ∧ IsTick e ∧ rest.length ≤ 1

/-! ## The invariant -/

/-- How many ticks a state of the machine has queued and not yet seen. -/
def ticksDue : Adm → ℕ
  | .coldStart => 1
  | .setParked => 1
  | _ => 0

lemma ticksDue_pos {st : Adm} (h : 0 < ticksDue st) :
    ticksDue st = 1 ∧ (st = .coldStart ∨ st = .setParked) := by
  cases st <;> simp_all [ticksDue]

/-- The ticks in a queue. -/
def tickCount (es : List Event) : ℕ :=
  es.countP fun e => e.evtype = SigTypes.sweepTickSig.bits

structure Waits (s : SweepCtx F) : Prop where
  mail : Mail .sweepEthSig IsTick (fun m => m.cmd = Comands.sweepPark.code) s.obj.events
    s.world.heap
  ticks : tickCount s.obj.events = ticksDue s.obj.fsm
  nojob : s.obj.sweepjobEnabled = false

lemma isTick_payload (e : Event) (h : IsTick e) (a : ℕ) : e.payload ≠ .msg a := by
  obtain ⟨_, rfl⟩ := h
  rintro ⟨⟩

lemma tickCount_tick (i : ℤ) (es : List Event) :
    tickCount (.of .sweepTickSig 1 (.map i) :: es) = tickCount es + 1 := by
  rw [tickCount, List.countP_cons_of_pos (by simp)]
  rfl

lemma tickCount_msg (n : UInt8) (a : ℕ) (es : List Event) :
    tickCount (.of .sweepEthSig n (.msg a) :: es) = tickCount es := by
  rw [tickCount, List.countP_cons_of_neg (by simp)]
  rfl

lemma tickCount_append (es fs : List Event) :
    tickCount (es ++ fs) = tickCount es + tickCount fs := List.countP_append

lemma Waits.tick {s : SweepCtx F} (h : Waits s) : Waits (serviceBoard s) := by
  have ht := serviceBoard_ticked s
  have hev := ht.events_of_nojob h.nojob
  refine ⟨?_, ?_, ht.sameJob.sweepjobEnabled.trans h.nojob⟩
  · rw [hev, serviceBoard_heap]
    exact h.mail
  · rw [hev, ht.fsm]
    exact h.ticks

lemma Waits.post {s : SweepCtx F} (h : Waits s) {m : AntaresMsg}
    (hm : m.cmd = Comands.sweepPark.code) : Waits (post m s) where
  mail := h.mail.post isTick_payload hm 1
  ticks := by
    have hev : (Sweep.post m s).obj.events
        = s.obj.events ++ [.of .sweepEthSig 1 (.msg s.world.heap.next)] := rfl
    rw [hev, tickCount_append, tickCount_msg]
    exact h.ticks
  nojob := h.nojob

lemma Waits.reading {s : SweepCtx F} (h : Waits s) (taps : ℕ → Taps) :
    Waits (reading taps s) := ⟨h.mail, h.ticks, h.nojob⟩

/-- The start leaves the machine waiting for its first tick. -/
lemma boot_waits (raw : Sweep) (w : World F) : Waits (boot raw w) :=
  ⟨Mail.nil.push isTick_payload ⟨2000, rfl⟩, rfl, rfl⟩

/-! ## Turns -/

/-- **What a parking command that does not fault does**: it parks and queues a tick, or starts a
search. -/
lemma fsmPark_ok {s t : SweepCtx F} (h : fsmPark s = .ok t) :
    s.obj.fsm = .idle ∧ t.world.heap = s.world.heap ∧
      t.obj.sweepjobEnabled = s.obj.sweepjobEnabled ∧
      ((t.obj.fsm = .setParked ∧
          t.obj.events = s.obj.events ++ [.of .sweepTickSig 1 (.map 2000)]) ∨
        (Searching t.obj ∧ t.obj.events = s.obj.events)) := by
  rw [fsmPark] at h
  split at h
  · case h_1 hidle =>
      dsimp only at h
      split_ifs at h <;> cases h
      · exact ⟨hidle, rfl, rfl, Or.inl ⟨rfl, rfl⟩⟩
      · refine ⟨hidle, ?_, ?_, Or.inr ⟨Or.inl ?_, ?_⟩⟩
        · rw [enterState, entry, slide_heap]
          rfl
        all_goals
          rw [enterState, entry, slide_obj]
          rfl
      · refine ⟨hidle, ?_, ?_, Or.inr ⟨Or.inr ?_, ?_⟩⟩
        · rw [enterState, entry, slide_heap]
          rfl
        all_goals
          rw [enterState, entry, slide_obj]
          rfl
  · cases h

/-- The events a queue of this kind begins with. -/
lemma Waits.front {s : SweepCtx F} (h : Waits s) {e : Event} {rest : List Event}
    (he : s.obj.events = e :: rest) :
    (IsTick e ∧ (s.obj.fsm = .coldStart ∨ s.obj.fsm = .setParked) ∧ tickCount rest = 0) ∨
    ∃ n a m, e = .of .sweepEthSig n (.msg a) ∧ s.world.heap.cell a = some m ∧
      m.cmd = Comands.sweepPark.code := by
  have hletter := h.mail.letters e (by rw [he]; exact List.mem_cons_self)
  have hticks := h.ticks
  rw [he] at hticks
  cases hletter with
  | own htick =>
      refine Or.inl ⟨htick, ?_⟩
      obtain ⟨i, rfl⟩ := htick
      rw [tickCount_tick] at hticks
      obtain ⟨h1, hfsm⟩ := ticksDue_pos (by omega : 0 < ticksDue s.obj.fsm)
      exact ⟨hfsm, by omega⟩
  | @msg n a m live hm => exact Or.inr ⟨n, a, m, rfl, live, hm⟩

/-- The tick a state waits for brings the machine to `Idle`. -/
lemma serviceFront_of_tick {s : SweepCtx F} {e : Event} {rest : List Event}
    (he : s.obj.events = e :: rest) (htick : IsTick e)
    (hfsm : s.obj.fsm = .coldStart ∨ s.obj.fsm = .setParked) :
    serviceFront s = .ok (popEvent { s with obj.fsm := .idle }) := by
  obtain ⟨i, rfl⟩ := htick
  refine serviceFront_cons he ?_
  rw [serviceEvent_tick s rfl, fsmTick]
  rcases hfsm with hf | hf <;> rw [hf] <;> rfl

/-- A command at the front is a `Park`, and the end of its message. -/
lemma serviceFront_of_park {s : SweepCtx F} {n : UInt8} {a : ℕ} {m : AntaresMsg}
    {rest : List Event} (he : s.obj.events = .of .sweepEthSig n (.msg a) :: rest)
    (live : s.world.heap.cell a = some m) (hm : m.cmd = Comands.sweepPark.code) :
    serviceFront s = (fsmPark (logMessage "Sweep Park requested\r\n" s)).map
      fun t => popEvent (deleteMsg a t) := by
  rw [serviceFront, he]
  dsimp only
  rw [serviceEvent_msg s rfl rfl live, serviceMsg, if_pos hm]
  cases fsmPark (logMessage "Sweep Park requested\r\n" s) <;> rfl

/-- Such a turn, if it does not fault. -/
lemma serviceFront_park_ok {s t : SweepCtx F} {n : UInt8} {a : ℕ} {m : AntaresMsg}
    {rest : List Event} (he : s.obj.events = .of .sweepEthSig n (.msg a) :: rest)
    (live : s.world.heap.cell a = some m) (hm : m.cmd = Comands.sweepPark.code)
    (ht : serviceFront s = .ok t) :
    ∃ u, fsmPark (logMessage "Sweep Park requested\r\n" s) = .ok u ∧
      t = popEvent (deleteMsg a u) :=
  ok_of_map ((serviceFront_of_park he live hm).symm.trans ht)

/-- **A turn keeps the invariant.** -/
lemma Waits.turn {s t : SweepCtx F} (h : Waits s) (ht : serviceFront s = .ok t) : Waits t := by
  cases he : s.obj.events with
  | nil =>
      rw [serviceFront_nil he] at ht
      cases ht
      exact h
  | cons e rest =>
      rcases h.front he with ⟨htick, hfsm, hrest⟩ | ⟨n, a, m, rfl, live, hm⟩
      · rw [serviceFront_of_tick he htick hfsm] at ht
        cases ht
        have hev : (popEvent { s with obj.fsm := .idle }).obj.events = rest :=
          congrArg List.tail he
        exact ⟨by rw [hev]; exact (he ▸ h.mail).tail, by rw [hev]; exact hrest, h.nojob⟩
      · obtain ⟨u, hp, rfl⟩ := serviceFront_park_ok he live hm ht
        obtain ⟨hidle, hheap, hjob, hnext⟩ := fsmPark_ok hp
        have hmail := (he ▸ h.mail).tail_delete rfl
        have hticks := h.ticks
        rw [he, tickCount_msg, show s.obj.fsm = .idle from hidle] at hticks
        have hheap' : (popEvent (deleteMsg a u)).world.heap = s.world.heap.delete a :=
          congrArg (Heap.delete · a) hheap
        refine ⟨?_, ?_, hjob.trans h.nojob⟩
        · rw [hheap', popEvent_obj, deleteMsg_obj]
          rcases hnext with ⟨-, hev⟩ | ⟨-, hev⟩ <;> rw [hev, logMessage_obj, he]
          · exact hmail.push isTick_payload ⟨2000, rfl⟩
          · exact hmail
        · rw [popEvent_obj, deleteMsg_obj]
          rcases hnext with ⟨hfsm, hev⟩ | ⟨hfsm, hev⟩
          · simp only [hfsm, hev, logMessage_obj, he, List.cons_append, List.tail_cons,
              tickCount_append, hticks]
            rfl
          · simp only [hev, logMessage_obj, he, List.tail_cons, hticks]
            rcases hfsm with hf | hf <;> rw [hf] <;> rfl

/-! ## The trap -/

/-- A park that is requested outside `Idle` is the end of the pass. -/
lemma serviceEvents_of_park {s : SweepCtx F} (h : Waits s) {e : Event} {rest : List Event}
    (he : s.obj.events = e :: rest) (hne : ¬ IsTick e) (hfsm : s.obj.fsm ≠ .idle) :
    ∃ x, serviceEvents s = .error x := by
  rcases h.front he with ⟨htick, -, -⟩ | ⟨n, a, m, rfl, live, hm⟩
  · exact absurd htick hne
  · have hfront := serviceFront_of_park he live hm
    rw [fsmPark_of_ne_idle (s := logMessage _ s) hfsm] at hfront
    exact ⟨_, serviceEvents_error (by rw [he]; exact List.cons_ne_nil _ _) hfront⟩

lemma not_isTick_of_count {e : Event} {es : List Event} (h : tickCount (e :: es) = 0) :
    ¬ IsTick e := by
  rintro ⟨i, rfl⟩
  rw [tickCount_tick] at h
  omega

/-- Two commands in a row, in `Idle`: the first leaves it. -/
lemma serviceEvents_of_two_parks {s : SweepCtx F} (h : Waits s) (hidle : s.obj.fsm = .idle)
    {e f : Event} {rest : List Event} (he : s.obj.events = e :: f :: rest) :
    ∃ x, serviceEvents s = .error x := by
  have hticks := h.ticks
  rw [hidle, he] at hticks
  have hpark := not_isTick_of_count hticks
  rcases h.front he with ⟨htick, -, -⟩ | ⟨n, a, m, rfl, live, hm⟩
  · exact absurd htick hpark
  · rw [tickCount_msg] at hticks
    have hne : s.obj.events ≠ [] := by rw [he]; exact List.cons_ne_nil _ _
    cases hfront : serviceFront s with
    | error x => exact ⟨x, serviceEvents_error hne hfront⟩
    | ok t =>
        rw [serviceEvents_cons hne hfront]
        have ht := h.turn hfront
        obtain ⟨u, hp, rfl⟩ := serviceFront_park_ok he live hm hfront
        obtain ⟨-, -, -, hnext⟩ := fsmPark_ok hp
        have hleft : u.obj.fsm ≠ .idle := by
          rcases hnext with ⟨hf, -⟩ | ⟨hf | hf, -⟩ <;> rw [hf] <;> decide
        rcases hnext with ⟨-, hev⟩ | ⟨-, hev⟩
        · exact serviceEvents_of_park ht (congrArg List.tail
            (hev.trans (congrArg (· ++ _) he))) (not_isTick_of_count hticks) hleft
        · exact serviceEvents_of_park ht (congrArg List.tail (hev.trans he))
            (not_isTick_of_count hticks) hleft

/-- The machine is where it will stay. -/
structure Trapped (s : SweepCtx F) : Prop where
  waits : Waits s
  stuck : ¬ Released s

lemma Trapped.reading {s : SweepCtx F} (h : Trapped s) (taps : ℕ → Taps) :
    Trapped (reading taps s) := ⟨h.waits.reading taps, h.stuck⟩

lemma Trapped.tick {s : SweepCtx F} (h : Trapped s) : Trapped (serviceBoard s) := by
  have ht := serviceBoard_ticked s
  refine ⟨h.waits.tick, fun hr => h.stuck ?_⟩
  rwa [Released, Searching, ht.fsm, ht.events_of_nojob h.waits.nojob] at hr

/-- **A pass from a trapped state** does nothing, or faults. -/
theorem trapped_pass {s t : SweepCtx F} (h : Trapped s) (ht : serviceEvents s = .ok t) : t = s := by
  cases he : s.obj.events with
  | nil =>
      rw [serviceEvents_nil he] at ht
      exact (Except.ok.inj ht).symm
  | cons e rest =>
      exfalso
      have hidle : s.obj.fsm ≠ .idle := fun hi => h.stuck (Or.inl hi)
      rcases h.waits.front he with ⟨htick, hfsm, hrest⟩ | ⟨n, a, m, rfl, -, -⟩
      · -- the tick is the event it waits for, and two commands are queued behind
        have hsearch : ¬ Searching s.obj := by
          rintro (hs | hs) <;> rcases hfsm with hf | hf <;> rw [hs] at hf <;> cases hf
        have hlong : ¬ rest.length ≤ 1 := fun hl =>
          h.stuck (Or.inr ⟨hsearch, e, rest, he, htick, hl⟩)
        obtain ⟨p, q, rest, rfl⟩ : ∃ p q r, rest = p :: q :: r := by
          match rest, hlong with
          | [], hl => exact absurd (Nat.zero_le 1) hl
          | [p], hl => exact absurd le_rfl hl
          | p :: q :: r, _ => exact ⟨p, q, r, rfl⟩
        have hfront := serviceFront_of_tick he htick hfsm
        obtain ⟨x, hx⟩ := serviceEvents_of_two_parks (h.waits.turn hfront) rfl
          (congrArg List.tail he)
        rw [serviceEvents_cons (by rw [he]; exact List.cons_ne_nil _ _) hfront, hx] at ht
        cases ht
      · obtain ⟨x, hx⟩ := serviceEvents_of_park h.waits he (by rintro ⟨i, hi⟩; cases hi) hidle
        rw [hx] at ht
        cases ht

/-- **No schedule leads out of it.** -/
theorem Trapped.not_returns {s : SweepCtx F} (h : Trapped s) : ¬ Returns s := by
  rintro ⟨taps, slots, t, hrun, hidle⟩
  have ht : Trapped t := by
    refine run_invariant' (I := Trapped) ?_ (h.reading taps) hrun
    intro s l t hs hst
    cases l with
    | tick =>
        cases hst
        exact hs.tick
    | pass =>
        rw [trapped_pass hs hst]
        exact hs
  exact ht.stuck (Or.inl hidle)

/-! ## The way back -/

/-- The tick a state waits for, alone in the queue. -/
lemma serviceEvents_of_tick {s : SweepCtx F} {e : Event} (he : s.obj.events = [e])
    (htick : IsTick e) (hfsm : s.obj.fsm = .coldStart ∨ s.obj.fsm = .setParked) :
    ∃ t, serviceEvents s = .ok t ∧ t.obj.fsm = .idle := by
  refine ⟨popEvent { s with obj.fsm := .idle }, ?_, rfl⟩
  rw [serviceEvents_cons (by rw [he]; exact List.cons_ne_nil _ _)
    (serviceFront_of_tick he htick hfsm)]
  exact serviceEvents_nil (congrArg List.tail he)

/-- With both taps open the carriage is parked, and `Park` says so. -/
lemma fsmPark_parked {s : SweepCtx F} (hidle : s.obj.fsm = .idle)
    (htaps : s.world.taps 0 = ⟨false, false⟩) :
    ∃ t, fsmPark s = .ok t ∧ t.obj.fsm = .setParked := by
  have hparked : (isParked s).1 = true := (isParked_fst s).mpr (by rw [htaps]; exact ⟨rfl, rfl⟩)
  refine ⟨enterState .setParked (isParked s).2, ?_, rfl⟩
  rw [fsmPark, hidle]
  exact if_pos hparked

/-- A single command, in `Idle` and with the taps open. -/
lemma serviceEvents_of_one_park {s : SweepCtx F} (h : Waits s) (hidle : s.obj.fsm = .idle)
    (htaps : s.world.taps 0 = ⟨false, false⟩) {e : Event} (he : s.obj.events = [e]) :
    ∃ t, serviceEvents s = .ok t ∧ t.obj.fsm = .idle := by
  rcases h.front he with ⟨-, hf | hf, -⟩ | ⟨n, a, m, rfl, live, hm⟩
  · rw [hidle] at hf
    cases hf
  · rw [hidle] at hf
    cases hf
  · obtain ⟨u, hu, hparked⟩ :=
      fsmPark_parked (s := logMessage "Sweep Park requested\r\n" s) hidle htaps
    obtain ⟨-, -, -, hnext⟩ := fsmPark_ok hu
    have hev : u.obj.events = s.obj.events ++ [.of .sweepTickSig 1 (.map 2000)] := by
      rcases hnext with ⟨-, hev⟩ | ⟨hf | hf, -⟩
      · exact hev
      · rw [hparked] at hf
        cases hf
      · rw [hparked] at hf
        cases hf
    have hfront := serviceFront_of_park he live hm
    rw [hu] at hfront
    have hqueue : (popEvent (deleteMsg a u)).obj.events = [.of .sweepTickSig 1 (.map 2000)] := by
      rw [popEvent_obj, deleteMsg_obj, hev, he]
      rfl
    rw [serviceEvents_cons (by rw [he]; exact List.cons_ne_nil _ _) hfront]
    exact serviceEvents_of_tick hqueue ⟨2000, rfl⟩ (Or.inr hparked)

/-- One pass is enough. -/
theorem Released.returns {s : SweepCtx F} (hr : Released s) (h : Waits s) : Returns s := by
  rcases hr with hidle | ⟨-, e, rest, he, htick, hlen⟩
  · exact ⟨s.world.taps, [], s, rfl, hidle⟩
  · generalize hu : Sweep.reading (fun _ => ⟨false, false⟩) s = u
    have hw : Waits u := hu ▸ h.reading _
    have hev : u.obj.events = e :: rest := hu ▸ he
    have hfsm : u.obj.fsm = .coldStart ∨ u.obj.fsm = .setParked := by
      rcases hw.front hev with ⟨-, hf, -⟩ | ⟨n, a, m, rfl, -, -⟩
      · exact hf
      · obtain ⟨i, hi⟩ := htick
        cases hi
    obtain ⟨t, ht, hidle⟩ : ∃ t, serviceEvents u = .ok t ∧ t.obj.fsm = .idle := by
      rcases rest with - | ⟨p, rest⟩
      · exact serviceEvents_of_tick hev htick hfsm
      · have hfront := serviceFront_of_tick hev htick hfsm
        rw [serviceEvents_cons (by rw [hev]; exact List.cons_ne_nil _ _) hfront]
        refine serviceEvents_of_one_park (hw.turn hfront) rfl (hu ▸ rfl) (e := p) ?_
        rw [List.length_cons] at hlen
        rw [List.eq_nil_of_length_eq_zero (by omega : rest.length = 0)] at hev
        exact congrArg List.tail hev
    refine ⟨fun _ => ⟨false, false⟩, [.pass], t, ?_, hidle⟩
    rw [hu, run_cons_of_ok (t := t) ht, run_nil]

/-! ## Runs -/

/-- What parking runs keep. -/
lemma waits_run (raw : Sweep) (w : World F) {labels : List Label} (hp : ∀ l ∈ labels, Parking l)
    {s : SweepCtx F} (hs : run step (boot raw w) labels = .ok s) : Waits s := by
  refine run_invariant (I := Waits) (C := fun _ l => Parking l) ?_ (boot_waits raw w)
    (allSteps_of_forall_mem hp) hs
  intro s l t h hC ht
  cases l with
  | tick =>
      cases ht
      exact h.tick
  | post m =>
      cases ht
      exact h.post hC
  | push e => exact hC.elim
  | turn => exact h.turn ht

/-- **Parking comes to an end exactly if it is `Released`**: in every state that park commands,
ticks and turns of the event loop lead to, `Idle` can be reached without an exception by ticks and
passes, under readings of the taps chosen for the purpose, precisely if the machine is in `Idle`, or
in neither search state with its tick next in the queue and no more than one command behind it. -/
theorem returns_iff_released (raw : Sweep) (w : World F) {labels : List Label}
    (hp : ∀ l ∈ labels, Parking l) {s : SweepCtx F}
    (hs : run step (boot raw w) labels = .ok s) : Returns s ↔ Released s := by
  have hw := waits_run raw w hp hs
  constructor
  · intro hret
    by_contra hstuck
    exact Trapped.not_returns ⟨hw, hstuck⟩ hret
  · exact fun hr => hr.returns hw

/-- A board whose inner tap is closed. -/
def insideBoard : World ℚ := { World.blank with taps := fun _ => ⟨true, false⟩ }

/-- One command after the start, on that board. -/
def parkInside : List Label := [.turn, .post park0, .turn]

lemma parkInside_parking : ∀ l ∈ parkInside, Parking l := by
  simp [parkInside, Parking, park0, AntaresMsg.compose]
  decide

theorem returns_iff_released_inside :
    ∃ s, run step (boot blank insideBoard) parkInside = .ok s ∧ (Returns s ↔ Released s) :=
  ⟨_, rfl, returns_iff_released blank insideBoard parkInside_parking rfl⟩

/-- The search goes one step out, and then waits for ever. -/
theorem park_inside_trapped :
    ∃ s, run step (boot blank insideBoard) parkInside = .ok s ∧ s.obj.fsm = .searchOut ∧
      ¬ Returns s := by
  refine ⟨_, rfl, rfl, Trapped.not_returns ⟨waits_run blank insideBoard parkInside_parking rfl, ?_⟩⟩
  rintro (hidle | ⟨hsearch, -⟩)
  · cases hidle
  · exact hsearch (Or.inl rfl)

end Lgt8.Sweep

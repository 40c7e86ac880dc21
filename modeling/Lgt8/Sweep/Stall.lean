import Mathlib.Tactic
import Lgt8.Sweep.Scan

/-!
# Does a scan get going?

A running job is kept alive by the ticks: at rest each of them queues a job event, as long as the
driver is enabled.  Only `Slide` enables it, and a `Goto` to where the carriage stands does not get
as far as `Slide`.

* `Going` — the carriage moves, or a job event waits, or the next tick queues one.
* `WillGo`, `willGo_turn` — whether the job events of the pass that services the start will have
  enabled the driver, and that no turn changes the answer.
* **`scan_going_iff`** — a scan that is started gets going, and keeps going under every schedule,
  exactly if the driver is enabled, or the carriage is not where the first leg ends, or an older job
  event waits behind the start; `stalled_scan` is one that never moves.
-/

namespace Lgt8.Sweep

open Library

variable {F : Type}

def IsJob (e : Event) : Prop := e.evtype = SigTypes.sweepSweepjobSig.bits

instance : DecidablePred IsJob := fun _ => inferInstanceAs (Decidable (_ = _))

/-- The driver is under way. -/
def Going (s : SweepCtx F) : Prop :=
  (s.obj.enable = true ∧ s.obj.current ≠ 255) ∨ (∃ e ∈ s.obj.events, IsJob e) ∨
    (s.obj.enable = true ∧ ∃ e ∈ (serviceBoard s).obj.events, IsJob e)

/-! ## Under way for good -/

/-- An enabled driver with a job, and nothing else to do. -/
structure Alive (s : SweepCtx F) : Prop where
  enable : s.obj.enable = true
  sweepjobEnabled : s.obj.sweepjobEnabled = true
  jobs : ∀ e ∈ s.obj.events, IsJob e

lemma Alive.going {s : SweepCtx F} (h : Alive s) : Going s := by
  by_cases hc : s.obj.current = 255
  · -- the next tick is one at rest
    refine Or.inr (Or.inr ⟨h.enable, ?_⟩)
    cases serviceBoard_ticked s with
    | off hoff _ => rw [h.enable] at hoff; cases hoff
    | rest _ _ hs =>
        rw [hs.events, rested, h.sweepjobEnabled]
        exact ⟨_, List.mem_append_right _ List.mem_cons_self, rfl⟩
    | count _ hn _ _ => exact absurd hc hn
    | drop _ h0 _ _ => exact absurd hc (ne_max_of_eq_zero h0)
    | raise _ h0 _ _ => exact absurd hc (ne_max_of_eq_zero h0)
  · exact Or.inl ⟨h.enable, hc⟩

lemma gone_enable (target speed : ℤ) (sw : Sweep) : (sw.gone target speed).enable
    = (sw.enable || decide (int32 (target - sw.sweeppos) ≠ 0)) := by
  rw [gone]
  split
  · next h =>
      rw [decide_eq_true h, Bool.or_true]
      rfl
  · next h => rw [decide_eq_false h, Bool.or_false]

lemma jobbed_enable {sw : Sweep} (h : sw.sweepjobEnabled = true) : sw.jobbed.enable
    = (sw.enable || decide (int32 ((if sw.sweepjobOutdir then sw.sweepjobOut else sw.sweepjobIn)
        - sw.sweeppos) ≠ 0)) := by
  rw [jobbed, if_pos h]
  exact gone_enable _ _ _

/-- Neither a tick nor a pass ends it. -/
theorem Alive.scheduled {s : SweepCtx F} (h : Alive s) (slot : Slot) :
    ∃ t, scheduled s slot = .ok t ∧ Alive t := by
  cases slot with
  | tick =>
      have ht := serviceBoard_ticked s
      refine ⟨_, rfl, ht.enable.trans h.enable, ht.sameJob.sweepjobEnabled.trans h.sweepjobEnabled,
        fun e he => ?_⟩
      rcases ht.mem_events he with hold | rfl
      · exact h.jobs e hold
      · rfl
  | pass =>
      have hturn : ∀ u : SweepCtx F, Alive u → u.obj.events ≠ [] →
          ∃ t, serviceFront u = .ok t ∧ Alive t := by
        intro u hu hq
        obtain ⟨e, rest, he⟩ := List.exists_cons_of_ne_nil hq
        have hjobs := hu.jobs
        rw [he] at hjobs
        refine ⟨_, serviceFront_cons he (serviceEvent_sweepjob u (hjobs e List.mem_cons_self)), ?_⟩
        have hobj : (popEvent (sweepJob u)).obj = { u.obj.jobbed with events := rest } := by
          rw [popEvent_obj, sweepJob_obj, jobbed_events, he]
          rfl
        refine ⟨?_, ?_, ?_⟩
        · rw [hobj]
          exact (jobbed_enable hu.sweepjobEnabled).trans (by rw [hu.enable, Bool.true_or])
        · rw [hobj]
          exact (jobbed_job u.obj).2.2.trans hu.sweepjobEnabled
        · rw [hobj]
          exact fun f hf => hjobs f (List.mem_cons_of_mem _ hf)
      obtain ⟨t, ht, halive, -⟩ := serviceEvents_ok hturn h
      exact ⟨t, ht, halive⟩

/-! ## The pass that services the start -/

/-- An event of the driver's own that its state machine can take. -/
def Harmless (fsm : Adm) (e : Event) : Prop :=
  IsJob e ∨ (e.evtype = SigTypes.sweepTickSig.bits ∧ fsm ≠ .searchOut ∧ fsm ≠ .searchIn)

/-- A job between `out` and `inn` is set, the carriage stands at `pos`, and only the driver's own
events wait. -/
structure JobSet (out inn pos : ℤ) (sw : Sweep) : Prop where
  sweepjobIn : sw.sweepjobIn = inn
  sweepjobOut : sw.sweepjobOut = out
  sweepjobEnabled : sw.sweepjobEnabled = true
  sweeppos : sw.sweeppos = pos
  harmless : ∀ e ∈ sw.events, Harmless sw.fsm e

/-- Where the next job event sends the carriage. -/
def target (sw : Sweep) : ℤ := if sw.sweepjobOutdir then sw.sweepjobOut else sw.sweepjobIn

def jobsWaiting (sw : Sweep) : ℕ := sw.events.countP fun e => IsJob e

/-- By the end of the pass the driver is enabled: it is already, or the next job event moves the
carriage, or the one after it does. -/
def WillGo (sw : Sweep) : Prop :=
  sw.enable = true ∨ (0 < sw.jobsWaiting ∧ sw.target ≠ sw.sweeppos) ∨ 2 ≤ sw.jobsWaiting

section

variable {out inn pos : ℤ}

lemma not_isJob_tick {e : Event} (h : e.evtype = SigTypes.sweepTickSig.bits) : ¬ IsJob e := by
  rw [IsJob, h]
  decide

/-- A job event, for a carriage that stands on the rail. -/
lemma JobSet.willGo_job {sw : Sweep} (h : JobSet out inn pos sw) (hne : out ≠ inn)
    (hpos : 1 ≤ pos ∧ pos ≤ 4000) (hout : 1 ≤ out ∧ out ≤ 4000) (hinn : 1 ≤ inn ∧ inn ≤ 4000)
    {e : Event} {rest : List Event} (he : sw.events = e :: rest) (hjob : IsJob e) :
    WillGo { sw.jobbed with events := rest } ↔ WillGo sw := by
  have htarget : sw.target = out ∨ sw.target = inn := by
    rw [target, h.sweepjobOut, h.sweepjobIn]
    cases sw.sweepjobOutdir
    · exact Or.inr rfl
    · exact Or.inl rfl
  have hmoves : int32 (sw.target - sw.sweeppos) ≠ 0 ↔ sw.target ≠ sw.sweeppos := by
    have hsp := h.sweeppos
    rw [int32_of_range (by omega) (by omega)]
    omega
  have hcount : sw.jobsWaiting = rest.countP (fun e => IsJob e) + 1 := by
    rw [jobsWaiting, he, List.countP_cons_of_pos (by simpa using hjob)]
  have henable : sw.jobbed.enable = (sw.enable || decide (sw.target ≠ sw.sweeppos)) := by
    rw [jobbed_enable h.sweepjobEnabled, ← decide_eq_decide.mpr hmoves]
    rfl
  have hnext : target { sw.jobbed with events := rest }
      = if sw.sweepjobOutdir then inn else out := by
    rw [target, jobbed, if_pos h.sweepjobEnabled]
    dsimp only
    rw [gone_sweepjobOut, gone_sweepjobIn, h.sweepjobOut, h.sweepjobIn]
    cases sw.sweepjobOutdir <;> rfl
  have hother : sw.target = sw.sweeppos → (if sw.sweepjobOutdir then inn else out) ≠ sw.sweeppos := by
    intro heq
    rw [← heq, target, h.sweepjobOut, h.sweepjobIn]
    cases sw.sweepjobOutdir
    · exact hne
    · exact hne.symm
  have hleft : WillGo { sw.jobbed with events := rest } ↔
      sw.jobbed.enable = true ∨ (0 < rest.countP (fun e => IsJob e) ∧
        target { sw.jobbed with events := rest } ≠ sw.jobbed.sweeppos) ∨
        2 ≤ rest.countP (fun e => IsJob e) := Iff.rfl
  rw [hleft, WillGo, henable, hnext, jobbed_sweeppos, hcount, Bool.or_eq_true, decide_eq_true_eq]
  constructor
  · rintro ((hon | hmove) | ⟨hmore, -⟩ | hmore)
    · exact Or.inl hon
    · exact Or.inr (Or.inl ⟨Nat.succ_pos _, hmove⟩)
    · exact Or.inr (Or.inr (by omega))
    · exact Or.inr (Or.inr (by omega))
  · rintro (hon | ⟨-, hmove⟩ | hmore)
    · exact Or.inl (Or.inl hon)
    · exact Or.inl (Or.inr hmove)
    · by_cases hmove : sw.target = sw.sweeppos
      · exact Or.inr (Or.inl ⟨by omega, hother hmove⟩)
      · exact Or.inl (Or.inr hmove)

/-- **A turn of the pass changes nothing about its outcome.** -/
theorem JobSet.turn {u : SweepCtx F} (h : JobSet out inn pos u.obj) (hne : out ≠ inn)
    (hpos : 1 ≤ pos ∧ pos ≤ 4000) (hout : 1 ≤ out ∧ out ≤ 4000) (hinn : 1 ≤ inn ∧ inn ≤ 4000)
    (hq : u.obj.events ≠ []) : ∃ t, serviceFront u = .ok t ∧ JobSet out inn pos t.obj ∧
      (WillGo t.obj ↔ WillGo u.obj) := by
  obtain ⟨e, rest, he⟩ := List.exists_cons_of_ne_nil hq
  have hharm := h.harmless
  rw [he] at hharm
  rcases hharm e List.mem_cons_self with hjob | ⟨htick, hnotout, hnotin⟩
  · have hobj : (popEvent (sweepJob u)).obj = { u.obj.jobbed with events := rest } := by
      rw [popEvent_obj, sweepJob_obj, jobbed_events, he]
      rfl
    refine ⟨_, serviceFront_cons he (serviceEvent_sweepjob u hjob), ?_, ?_⟩
    · obtain ⟨hin', hout', hen'⟩ := jobbed_job u.obj
      rw [hobj]
      exact ⟨hin'.trans h.sweepjobIn, hout'.trans h.sweepjobOut, hen'.trans h.sweepjobEnabled,
        (jobbed_sweeppos u.obj).trans h.sweeppos, fun f hf => by
          rw [jobbed_fsm]
          exact hharm f (List.mem_cons_of_mem _ hf)⟩
    · rw [hobj]
      exact h.willGo_job hne hpos hout hinn he hjob
  · have hfsm : fsmTick u = .ok { u with obj.fsm := .idle } := by
      cases hf : u.obj.fsm with
      | coldStart => exact fsmTick_calm (Or.inl hf)
      | idle => exact fsmTick_calm (Or.inr hf)
      | setParked => simp [fsmTick, hf, enterState, entry]
      | searchOut => exact absurd hf hnotout
      | searchIn => exact absurd hf hnotin
    refine ⟨_, serviceFront_cons he ((serviceEvent_tick u htick).trans hfsm), ?_, ?_⟩
    · refine ⟨h.sweepjobIn, h.sweepjobOut, h.sweepjobEnabled, h.sweeppos, fun f hf => ?_⟩
      rw [popEvent_obj] at hf ⊢
      dsimp only at hf ⊢
      rw [he] at hf
      rcases hharm f (List.mem_cons_of_mem _ hf) with hjob | ⟨htick, -⟩
      · exact Or.inl hjob
      · exact Or.inr ⟨htick, by decide, by decide⟩
    · have hcount : jobsWaiting (popEvent { u with obj.fsm := .idle }).obj = u.obj.jobsWaiting := by
        rw [popEvent_obj, jobsWaiting, jobsWaiting, he,
          List.countP_cons_of_neg (by simpa using not_isJob_tick htick)]
        rfl
      rw [WillGo, WillGo, hcount]
      rfl

end

section

variable {jobin jobout speed : ℤ} {m : AntaresMsg} {s : SweepCtx F} {a : ℕ} {rest : List Event}

/-- The first turn sets the job up and queues its first event. -/
lemma start_turn (hm : ScanStart jobin jobout speed m)
    (hq : s.obj.events = .of .sweepEthSig 1 (.msg a) :: rest) (hlive : s.world.heap.cell a = some m)
    (hrest : ∀ e ∈ rest, Harmless s.obj.fsm e) :
    ∃ u, serviceFront s = .ok u ∧ JobSet (jobout * 40) (jobin * 40) s.obj.sweeppos u.obj ∧
      (WillGo u.obj ↔ s.obj.enable = true ∨ s.obj.sweeppos ≠ jobout * 40 ∨ ∃ e ∈ rest, IsJob e) := by
  have hout := hm.jobout_rail
  have hin := hm.jobin_rail
  have hpark : m.cmd ≠ Comands.sweepPark.code := by rw [hm.cmd]; decide
  have hmsg : serviceFront s = .ok (popEvent (deleteMsg a (serviceCmd m s))) := by
    refine serviceFront_cons hq ?_
    rw [serviceEvent_msg s rfl rfl hlive, serviceMsg, if_neg hpark]
    rfl
  have hobj : (popEvent (deleteMsg a (serviceCmd m s))).obj = { scanning m s with
      events := rest ++ [.of .sweepSweepjobSig 1 (.map s.obj.sweepmapptr)] } := by
    rw [popEvent_obj, deleteMsg_obj, serviceCmd_scan hm.cmd hm.arg, scanning, hq]
    rfl
  generalize popEvent (deleteMsg a (serviceCmd m s)) = u at hmsg hobj
  have hset : JobSet (jobout * 40) (jobin * 40) s.obj.sweeppos u.obj := by
    rw [hobj]
    refine ⟨?_, ?_, rfl, rfl, fun e he => ?_⟩
    · exact (scanIn_of_text hm.text s).trans (int32_of_range (by omega) (by omega))
    · exact (scanOut_of_text hm.text s).trans (int32_of_range (by omega) (by omega))
    · rcases List.mem_append.mp he with he | he
      · exact hrest e he
      · rw [List.mem_singleton.mp he]
        exact Or.inl rfl
  refine ⟨u, hmsg, hset, ?_⟩
  have hcount : u.obj.jobsWaiting = rest.countP (fun e => IsJob e) + 1 := by
    rw [hobj, jobsWaiting, List.countP_append]
    rfl
  have htarget : u.obj.target = jobout * 40 := by
    rw [target, hset.sweepjobOut, hobj]
    rfl
  have henable : u.obj.enable = s.obj.enable := by rw [hobj]; rfl
  have hmore : 2 ≤ rest.countP (fun e => IsJob e) + 1 ↔ ∃ e ∈ rest, IsJob e := by
    rw [Nat.succ_le_succ_iff, Nat.one_le_iff_ne_zero, ← Nat.pos_iff_ne_zero, List.countP_pos_iff]
    simp only [decide_eq_true_eq]
  rw [WillGo, hcount, htarget, henable, hset.sweeppos, hmore, and_iff_right (Nat.succ_pos _),
    ne_comm]

/-- **The pass that services the start** leaves an empty queue and a job, and the driver enabled or
not. -/
theorem start_pass (hm : ScanStart jobin jobout speed m)
    (hpos : 1 ≤ s.obj.sweeppos ∧ s.obj.sweeppos ≤ 4000)
    (hq : s.obj.events = .of .sweepEthSig 1 (.msg a) :: rest) (hlive : s.world.heap.cell a = some m)
    (hrest : ∀ e ∈ rest, Harmless s.obj.fsm e) :
    ∃ t, serviceEvents s = .ok t ∧ t.obj.events = [] ∧ t.obj.sweepjobEnabled = true ∧
      (t.obj.enable = true ↔ s.obj.enable = true ∨ s.obj.sweeppos ≠ jobout * 40 ∨
        ∃ e ∈ rest, IsJob e) := by
  have hout := hm.jobout_rail
  have hin := hm.jobin_rail
  obtain ⟨u, hmsg, hset, hgo⟩ := start_turn hm hq hlive hrest
  obtain ⟨t, ht, ⟨hjob, hout'⟩, hempty⟩ := serviceEvents_ok
    (I := fun u => JobSet (jobout * 40) (jobin * 40) s.obj.sweeppos u.obj ∧
      (WillGo u.obj ↔ s.obj.enable = true ∨ s.obj.sweeppos ≠ jobout * 40 ∨ ∃ e ∈ rest, IsJob e))
    (fun u hu hne => by
      obtain ⟨t, ht, hset, hsame⟩ := hu.1.turn hm.limits_ne.symm hpos hout hin hne
      exact ⟨t, ht, hset, hsame.trans hu.2⟩) ⟨hset, hgo⟩
  refine ⟨t, ?_, hempty, hjob.sweepjobEnabled, ?_⟩
  · rw [serviceEvents_cons (by rw [hq]; exact List.cons_ne_nil _ _) hmsg, ht]
  · -- nothing waits any more, so the driver is enabled or stays as it is
    rw [← hout', WillGo, jobsWaiting, hempty]
    simp

/-- **When a scan that is started gets going**, to keep going under every schedule of ticks and
passes: the driver is enabled, or the carriage is not where the first leg ends, or a job event of an
older job waits behind the start. -/
theorem scan_going_iff (hm : ScanStart jobin jobout speed m)
    (hpos : 1 ≤ s.obj.sweeppos ∧ s.obj.sweeppos ≤ 4000)
    (hq : s.obj.events = .of .sweepEthSig 1 (.msg a) :: rest) (hlive : s.world.heap.cell a = some m)
    (hrest : ∀ e ∈ rest, Harmless s.obj.fsm e) :
    (∃ t, serviceEvents s = .ok t ∧ ∀ slots, ∃ u, run scheduled t slots = .ok u ∧ Going u) ↔
      s.obj.enable = true ∨ s.obj.sweeppos ≠ jobout * 40 ∨ ∃ e ∈ rest, IsJob e := by
  obtain ⟨t, ht, hempty, hjob, hiff⟩ := start_pass hm hpos hq hlive hrest
  rw [← hiff]
  constructor
  · rintro ⟨t', ht', hall⟩
    obtain rfl : t = t' := Except.ok.inj (ht.symm.trans ht')
    obtain ⟨u, hu, hgoing⟩ := hall []
    cases hu
    rcases hgoing with ⟨hon, -⟩ | ⟨e, he, -⟩ | ⟨hon, -⟩
    · exact hon
    · rw [hempty] at he
      cases he
    · exact hon
  · intro hon
    have halive : Alive t := ⟨hon, hjob, by rw [hempty]; exact nofun⟩
    refine ⟨t, ht, fun slots => ?_⟩
    obtain ⟨u, hu, hu'⟩ := run_ok (C := fun _ _ => True) (fun s slot hs _ => hs.scheduled slot) halive
      (allSteps_of_forall_mem (P := fun _ => True) fun _ _ => trivial)
    exact ⟨u, hu, hu'.going⟩

end

theorem scan_going_iff_scan75 :
    (∃ t, serviceEvents (post scan75 atRest) = .ok t ∧
      ∀ slots, ∃ u, run scheduled t slots = .ok u ∧ Going u) ↔
      (post scan75 atRest).obj.enable = true ∨ (post scan75 atRest).obj.sweeppos ≠ 25 * 40 ∨
        ∃ e ∈ ([] : List Event), IsJob e :=
  scan_going_iff scanStart_scan75 (by decide) (post_events rfl scan75) rfl nofun

/-- The driver disabled, with the carriage where `scan75` goes first. -/
def stopped : SweepCtx ℚ := { atRest with
  obj.enable := false, obj.sweepmapptr := 3000, obj.sweeppos := 1000 }

/-- **A scan that never gets going.** -/
theorem stalled_scan :
    ∃ t, serviceEvents (post scan75 stopped) = .ok t ∧ t.obj.sweepjobEnabled = true ∧ ¬ Going t := by
  obtain ⟨t, ht, hempty, hjob, hiff⟩ := start_pass (s := post scan75 stopped)
    scanStart_scan75 (by decide) (post_events rfl scan75) rfl nofun
  have hoff : ¬ t.obj.enable = true := by
    rw [hiff]
    simp [post, stopped]
  refine ⟨t, ht, hjob, ?_⟩
  rintro (⟨hon, -⟩ | ⟨e, he, -⟩ | ⟨hon, -⟩)
  · exact hoff hon
  · rw [hempty] at he
    cases he
  · exact hoff hon

end Lgt8.Sweep

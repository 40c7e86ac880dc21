import Mathlib.Tactic
import Lgt8.Firmware.Mail
import Lgt8.Sweep.Effects

/-!
# Runs of the sweep driver

The driver sees four kinds of things happen, and `step` is what each does: the timer ticks, a
message is posted to the queue, some other event is pushed, or the main loop services the event at
the front (`turn`).  A `serviceEvents` pass is a row of turns; taking turns one by one lets ticks fall
between them, as they can on the board.

* `serviceCmd_goto`, `serviceCmd_scan_start`, … — the object each command leaves behind.
* `Calm` — the queue in order and the state machine in one of its two quiet states, as it is as
  long as nobody asks for parking.
* **`fed_step`**, `calm_run`, `calm_allSteps` — the induction all results about command streams
  share: a property of the carriage kept by every tick, every job and every command of a stream
  holds all along its runs, which never fault.
-/

namespace Lgt8.Sweep

open Library

variable {F : Type}

/-! ## Steps -/

/-- What can happen to the driver. -/
inductive Label
  | tick
  | post (m : AntaresMsg)
  | push (evt : Event)
  | turn

/-- `ethergate` copies a message into a new object, and the post office hands it on. -/
def post (m : AntaresMsg) (s : SweepCtx F) : SweepCtx F :=
  pushEvent (.of .sweepEthSig 1 (.msg s.world.heap.next))
    { s with world.heap := s.world.heap.alloc m }

def step (s : SweepCtx F) : Label → Except Fault (SweepCtx F)
  | .tick => .ok (serviceBoard s)
  | .post m => .ok (post m s)
  | .push evt => .ok (pushEvent evt s)
  | .turn => serviceFront s

/-! ## The commands -/

/-- The target a `SWEEP_GOTO` moves to: the first number of its text. -/
def gotoTarget (m : AntaresMsg) (s : SweepCtx F) : ℤ :=
  (sscanfInts 2 m.data).getD 0 (int32 (s.world.stack 0))

def gotoSpeed (m : AntaresMsg) (s : SweepCtx F) : ℤ :=
  (sscanfInts 2 m.data).getD 1 (int32 (s.world.stack 1))

/-- The limits a `SWEEP_SCAN` sets, in steps. -/
def scanIn (m : AntaresMsg) (s : SweepCtx F) : ℤ :=
  int32 ((sscanfInts 3 m.data).getD 0 (int32 (s.world.stack 0)) * 40)

def scanOut (m : AntaresMsg) (s : SweepCtx F) : ℤ :=
  int32 ((sscanfInts 3 m.data).getD 1 (int32 (s.world.stack 1)) * 40)

lemma gotoTarget_of_text {m : AntaresMsg} {target : ℤ} {rest : List ℤ}
    (h : sscanfInts 2 m.data = target :: rest) (s : SweepCtx F) : gotoTarget m s = target := by
  simp [gotoTarget, h]

lemma scanIn_of_text {m : AntaresMsg} {jobin jobout : ℤ} {rest : List ℤ}
    (h : sscanfInts 3 m.data = jobin :: jobout :: rest) (s : SweepCtx F) :
    scanIn m s = int32 (jobin * 40) := by
  simp [scanIn, h]

lemma scanOut_of_text {m : AntaresMsg} {jobin jobout : ℤ} {rest : List ℤ}
    (h : sscanfInts 3 m.data = jobin :: jobout :: rest) (s : SweepCtx F) :
    scanOut m s = int32 (jobout * 40) := by
  simp [scanOut, h]

/-- An event of the driver's own. -/
def Own (e : Event) : Prop :=
  ∃ i : ℤ, e = .of .sweepTickSig 1 (.map i) ∨ e = .of .sweepSweepjobSig 1 (.map i)

lemma own_payload (e : Event) (h : Own e) (a : ℕ) : e.payload ≠ .msg a := by
  obtain ⟨_, rfl | rfl⟩ := h <;> exact nofun

/-- The object once a `SWEEP_SCAN` start is serviced: new limits, the job running outward, one job
event queued. -/
def scanning (m : AntaresMsg) (s : SweepCtx F) : Sweep :=
  { s.obj with
    sweepjobSpeed := (sscanfInts 3 m.data).getD 2 s.obj.sweepjobSpeed
    sweepjobOut := scanOut m s
    sweepjobIn := scanIn m s
    sweepjobOutdir := true
    sweepjobEnabled := true
    events := s.obj.events ++ [.of .sweepSweepjobSig 1 (.map s.obj.sweepmapptr)] }

/-- The objects a command can leave behind. -/
inductive Commanded (m : AntaresMsg) (s : SweepCtx F) : Sweep → Prop
  | goto (h : m.cmd = Comands.sweepGoto.code) :
      Commanded m s (s.obj.gone (gotoTarget m s) (gotoSpeed m s))
  | scanStart (h : m.cmd = Comands.sweepScan.code) (ha : m.arg = 1) :
      Commanded m s (scanning m s)
  | scanAbort (h : m.cmd = Comands.sweepScan.code) (ha : m.arg ≠ 1) :
      Commanded m s { s.obj with sweepjobEnabled := false }
  | enable (h : m.cmd = Comands.sweepEnable.code) :
      Commanded m s { s.obj with enable := decide (m.arg = 1) }
  | dir (h : m.cmd = Comands.sweepDir.code) :
      Commanded m s { s.obj with outdir := decide (m.arg = 1) }
  /-- A pulse burst only toggles a pin, and an unknown command is only logged. -/
  | other (hg : m.cmd ≠ Comands.sweepGoto.code) (hs : m.cmd ≠ Comands.sweepScan.code)
      (he : m.cmd ≠ Comands.sweepEnable.code) (hd : m.cmd ≠ Comands.sweepDir.code) :
      Commanded m s s.obj

/-- **What a command does.** -/
theorem serviceCmd_commanded (m : AntaresMsg) (s : SweepCtx F) :
    Commanded m s (serviceCmd m s).obj := by
  rw [serviceCmd]
  split_ifs with hg hs he hd hp
  · rw [serviceGoto, goto_obj]
    exact .goto hg
  · rw [serviceScan]
    by_cases ha : m.arg = 1
    · rw [if_pos ha]
      exact .scanStart hs ha
    · rw [if_neg ha]
      exact .scanAbort hs ha
  · rw [setEnable_obj]
    exact .enable he
  · rw [logMessage_obj, setOutDir_obj]
    exact .dir hd
  · rw [servicePulse, pulseBurst_obj]
    exact .other hg hs he hd
  · rw [logMessage_obj]
    exact .other hg hs he hd

lemma serviceCmd_goto {m : AntaresMsg} (h : m.cmd = Comands.sweepGoto.code) (s : SweepCtx F) :
    (serviceCmd m s).obj = s.obj.gone (gotoTarget m s) (gotoSpeed m s) := by
  rw [serviceCmd, if_pos h, serviceGoto, goto_obj]
  rfl

lemma serviceCmd_scan {m : AntaresMsg} (h : m.cmd = Comands.sweepScan.code) (ha : m.arg = 1)
    (s : SweepCtx F) : (serviceCmd m s).obj = scanning m s := by
  rw [serviceCmd, if_neg (by rw [h]; decide), if_pos h, serviceScan, if_pos ha]
  rfl

lemma serviceCmd_heap (m : AntaresMsg) (s : SweepCtx F) :
    (serviceCmd m s).world.heap = s.world.heap := by
  rw [serviceCmd]
  split_ifs
  · rw [serviceGoto, goto_heap]
    rfl
  · rw [serviceScan]
    split <;> rfl
  · rw [setEnable_heap]
  · rw [logMessage_heap, setOutDir_heap]
  · rw [servicePulse, pulseBurst_heap]
    rfl
  · rfl

/-- A move is all that `SWEEP_GOTO` does. -/
lemma Commanded.eq_gone {m : AntaresMsg} {s : SweepCtx F} {sw : Sweep} (h : Commanded m s sw)
    (hcmd : m.cmd = Comands.sweepGoto.code) :
    sw = s.obj.gone (gotoTarget m s) (gotoSpeed m s) := by
  cases h with
  | goto => rfl
  | scanStart hn => exact absurd (hcmd.symm.trans hn) (by decide)
  | scanAbort hn => exact absurd (hcmd.symm.trans hn) (by decide)
  | enable hn => exact absurd (hcmd.symm.trans hn) (by decide)
  | dir hn => exact absurd (hcmd.symm.trans hn) (by decide)
  | other hn => exact absurd hcmd hn

/-- No command but `SWEEP_PARK` touches the state machine. -/
lemma Commanded.fsm {m : AntaresMsg} {s : SweepCtx F} {sw : Sweep} (h : Commanded m s sw) :
    sw.fsm = s.obj.fsm := by
  cases h with
  | goto => exact gone_fsm _ _ _
  | scanStart => rfl
  | scanAbort => rfl
  | enable => rfl
  | dir => rfl
  | other => rfl

/-- The only event a command queues is the job event of a scan start. -/
lemma Commanded.events {m : AntaresMsg} {s : SweepCtx F} {sw : Sweep} (h : Commanded m s sw) :
    sw.events = s.obj.events ∨
    sw.events = s.obj.events ++ [.of .sweepSweepjobSig 1 (.map s.obj.sweepmapptr)] := by
  cases h with
  | goto => exact Or.inl (gone_events _ _ _)
  | scanStart => exact Or.inr rfl
  | scanAbort => exact Or.inl rfl
  | enable => exact Or.inl rfl
  | dir => exact Or.inl rfl
  | other => exact Or.inl rfl

/-! ## One turn of the event loop -/

section

variable {e : Event} (s : SweepCtx F)

lemma serviceEvent_reset (h : e.evtype = SigTypes.sweepResetSig.bits) :
    serviceEvent e s = fsmTick s := by
  simp [serviceEvent, h]

lemma serviceEvent_tick (h : e.evtype = SigTypes.sweepTickSig.bits) :
    serviceEvent e s = fsmTick s := by
  simp [serviceEvent, h]

lemma serviceEvent_sweepjob (h : e.evtype = SigTypes.sweepSweepjobSig.bits) :
    serviceEvent e s = .ok (sweepJob s) := by
  simp [serviceEvent, h]

lemma serviceEvent_msg (h : e.evtype = SigTypes.sweepEthSig.bits) {a : ℕ}
    (ha : e.payload = .msg a) {m : AntaresMsg} (live : s.world.heap.cell a = some m) :
    serviceEvent e s = serviceMsg m s >>= fun s => .ok (deleteMsg a s) := by
  simp [serviceEvent, h, ha, live]

end

lemma serviceFront_nil {s : SweepCtx F} (h : s.obj.events = []) : serviceFront s = .ok s := by
  rw [serviceFront, h]

lemma serviceFront_cons {s t : SweepCtx F} {e : Event} {rest : List Event}
    (h : s.obj.events = e :: rest) (ht : serviceEvent e s = .ok t) :
    serviceFront s = .ok (popEvent t) := by
  rw [serviceFront, h]
  dsimp only
  rw [ht]
  rfl

/-- The message the next turn services, if it services one. -/
def frontMsg (s : SweepCtx F) : Option AntaresMsg :=
  announced .sweepEthSig s.obj.events s.world.heap

/-- The next turn services a job event. -/
def FrontJob (s : SweepCtx F) : Prop :=
  ∃ e ∈ s.obj.events.head?, e.evtype = SigTypes.sweepSweepjobSig.bits

instance (s : SweepCtx F) : Decidable (FrontJob s) := inferInstanceAs (Decidable (∃ e ∈ _, _))

/-- The queue is in order and holds messages with `P` only, and the state machine is in a state
that handles a tick and starts no search. -/
structure Calm (P : AntaresMsg → Prop) (s : SweepCtx F) : Prop where
  mail : Mail .sweepEthSig Own P s.obj.events s.world.heap
  fsm : s.obj.fsm = .coldStart ∨ s.obj.fsm = .idle

lemma fsmTick_calm {s : SweepCtx F} (h : s.obj.fsm = .coldStart ∨ s.obj.fsm = .idle) :
    fsmTick s = .ok { s with obj.fsm := .idle } := by
  rcases h with h | h
  · simp [fsmTick, h, enterState, entry]
  · simp only [fsmTick, h]
    rw [← h]

/-- What a turn does to the carriage of a calm driver. -/
inductive Turned (P : AntaresMsg → Prop) (s t : SweepCtx F) : Prop
  | quiet (hm : frontMsg s = none) (h : SameCarriage s.obj t.obj)
  | job (hm : frontMsg s = none) (hj : FrontJob s) (h : SameCarriage s.obj.jobbed t.obj)
  | msg (m : AntaresMsg) (sw : Sweep) (hP : P m) (hm : frontMsg s = some m)
      (hc : Commanded m s sw) (h : SameCarriage sw t.obj)

/-- **A turn of a calm driver** does not fault and leaves it calm. -/
theorem calm_turn {P : AntaresMsg → Prop} (hpark : ∀ m, P m → m.cmd ≠ Comands.sweepPark.code)
    {s : SweepCtx F} (h : Calm P s) :
    ∃ t, serviceFront s = .ok t ∧ Calm P t ∧ Turned P s t := by
  cases he : s.obj.events with
  | nil =>
      exact ⟨s, serviceFront_nil he, h, .quiet (by simp [frontMsg, he]) (SameCarriage.refl _)⟩
  | cons e rest =>
      have hmail := he ▸ h.mail
      cases hmail.letters e List.mem_cons_self with
      | own ho =>
          obtain ⟨i, rfl | rfl⟩ := ho
          · refine ⟨_, serviceFront_cons he (by rw [serviceEvent_tick s rfl, fsmTick_calm h.fsm]), ?_, ?_⟩
            · refine ⟨?_, Or.inr rfl⟩
              rw [popEvent_obj, popEvent_heap]
              simpa [he] using hmail.tail
            · exact .quiet (by rw [frontMsg, he, announced_of_ne (by simp)]) (by constructor <;> rfl)
          · refine ⟨_, serviceFront_cons he (serviceEvent_sweepjob s rfl), ?_, ?_⟩
            · refine ⟨?_, by simpa [sweepJob_obj] using h.fsm⟩
              simpa [sweepJob_obj, he] using hmail.tail
            · refine .job (by rw [frontMsg, he, announced_of_ne (by simp)]) ⟨_, by rw [he]; rfl, rfl⟩ ?_
              rw [popEvent_obj, sweepJob_obj]
              constructor <;> rfl
      | @msg n a m live hP =>
          have hm : frontMsg s = some m := by
            rw [frontMsg, he, announced_cons rfl rfl, live]
          have hc := serviceCmd_commanded m s
          refine ⟨_, serviceFront_cons he (by
            rw [serviceEvent_msg s rfl rfl live, serviceMsg, if_neg (hpark m hP)]
            rfl), ⟨?_, ?_⟩, .msg m _ hP hm hc ?_⟩
          · rw [popEvent_obj, popEvent_heap, deleteMsg_obj, deleteMsg_heap, serviceCmd_heap]
            dsimp only
            have hrest := hmail.tail_delete (a := a) rfl
            rcases hc.events with hev | hev <;> rw [hev, he]
            · exact hrest
            · exact hrest.push own_payload ⟨_, Or.inr rfl⟩
          · rw [popEvent_obj, deleteMsg_obj]
            exact hc.fsm ▸ h.fsm
          · rw [popEvent_obj, deleteMsg_obj]
            constructor <;> rfl

lemma calm_turn_ok {P : AntaresMsg → Prop} (hpark : ∀ m, P m → m.cmd ≠ Comands.sweepPark.code)
    {s t : SweepCtx F} (h : Calm P s) (ht : serviceFront s = .ok t) : Calm P t ∧ Turned P s t := by
  obtain ⟨u, hu, hcalm, hturned⟩ := calm_turn hpark h
  obtain rfl : u = t := Except.ok.inj (hu.symm.trans ht)
  exact ⟨hcalm, hturned⟩

/-- A `SWEEP_GOTO` at the front is carried out by the next turn. -/
lemma serviceFront_goto {P : AntaresMsg → Prop}
    (hpark : ∀ m, P m → m.cmd ≠ Comands.sweepPark.code) {s : SweepCtx F} (h : Calm P s)
    {m : AntaresMsg} (hm : frontMsg s = some m) (hcmd : m.cmd = Comands.sweepGoto.code)
    {target speed : ℤ} (htext : sscanfInts 2 m.data = [target, speed]) :
    ∃ t, serviceFront s = .ok t ∧ SameCarriage (s.obj.gone target speed) t.obj := by
  obtain ⟨t, ht, _, hturned⟩ := calm_turn hpark h
  refine ⟨t, ht, ?_⟩
  cases hturned with
  | quiet hn _ => rw [hm] at hn; cases hn
  | job hn _ _ => rw [hm] at hn; cases hn
  | msg m' sw _ hm' hc hsame =>
      rw [hm] at hm'
      cases hm'
      have hspeed : gotoSpeed m s = speed := by simp [gotoSpeed, htext]
      rwa [hc.eq_gone hcmd, gotoTarget_of_text htext, hspeed] at hsame

/-- A message posted to an empty queue is alone in it. -/
lemma post_events {s : SweepCtx F} (h : s.obj.events = []) (m : AntaresMsg) :
    (post m s).obj.events = [.of .sweepEthSig 1 (.msg s.world.heap.next)] := by
  simp [post, h]

/-- And it is the next to be serviced. -/
lemma frontMsg_post {s : SweepCtx F} (h : s.obj.events = []) (m : AntaresMsg) :
    frontMsg (post m s) = some m := by
  rw [frontMsg, post_events h, announced_cons rfl rfl]
  exact Heap.alloc_cell_self _ _

/-! ## Runs of a calm driver -/

/-- What the start leaves behind: a cleared map, the carriage at rest in the middle, and the tick
event of the machine's start state. -/
lemma boot_obj (raw : Sweep) (w : World F) : SameCarriage { raw with
      sweepmap := fun i => if 0 ≤ i ∧ i < 4000 then 255 else raw.sweepmap i
      sweepmapptr := 2000
      sweeppos := 2000
      pulsegap := 0
      enable := false
      outdir := false
      pulse := true
      sweepjobEnabled := false
      touched := [] } (boot raw w).obj := by
  constructor <;> rfl

lemma boot_calm (P : AntaresMsg → Prop) (raw : Sweep) (w : World F) : Calm P (boot raw w) :=
  ⟨Mail.nil.push own_payload ⟨2000, Or.inl rfl⟩, Or.inl rfl⟩

lemma serviceBoard_calm {P : AntaresMsg → Prop} {s : SweepCtx F} (h : Calm P s) :
    Calm P (serviceBoard s) := by
  have hown : Own (.of .sweepSweepjobSig 1 (.map s.obj.sweepmapptr)) := ⟨_, Or.inr rfl⟩
  have ht := serviceBoard_ticked s
  refine ⟨?_, ht.fsm ▸ h.fsm⟩
  rw [serviceBoard_heap]
  rcases ht.events with he | he <;> rw [he]
  · exact h.mail
  · exact h.mail.push own_payload hown

lemma post_calm {P : AntaresMsg → Prop} {s : SweepCtx F} (h : Calm P s) {m : AntaresMsg}
    (hm : P m) : Calm P (post m s) :=
  ⟨h.mail.post own_payload hm 1, h.fsm⟩

/-- The driver when the first command after the start is about to be serviced: the machine's own
tick event came before it. -/
def ready (raw : Sweep) (w : World F) (m : AntaresMsg) : SweepCtx F :=
  popEvent { post m (boot raw w) with obj.fsm := .idle }

/-- The first command after the start. -/
lemma run_boot_cmd (raw : Sweep) (w : World F) {m : AntaresMsg}
    (hm : m.cmd ≠ Comands.sweepPark.code) :
    run step (boot raw w) [.post m, .turn, .turn]
      = .ok (popEvent (deleteMsg w.heap.next (serviceCmd m (ready raw w m)))) := by
  have htick : step (post m (boot raw w)) .turn = .ok (ready raw w m) := rfl
  have hmsg : step (ready raw w m) .turn
      = .ok (popEvent (deleteMsg w.heap.next (serviceCmd m (ready raw w m)))) := by
    have hfront : (ready raw w m).obj.events = [.of .sweepEthSig 1 (.msg w.heap.next)] := rfl
    refine serviceFront_cons hfront ?_
    rw [serviceEvent_msg _ rfl rfl (m := m) (Heap.alloc_cell_self _ _), serviceMsg, if_neg hm]
    rfl
  rw [run_cons_of_ok (t := post m (boot raw w)) rfl, run_cons_of_ok htick, run_cons_of_ok hmsg,
    run_nil]

/-- The steps of a command stream: only messages with `P` are posted, each message meets `G` when
its turn comes, and each job event `J`. -/
def Fed (P : AntaresMsg → Prop) (G : SweepCtx F → AntaresMsg → Prop) (J : SweepCtx F → Prop)
    (s : SweepCtx F) : Label → Prop
  | .tick => True
  | .post m => P m
  | .push _ => False
  | .turn => (∀ m, frontMsg s = some m → G s m) ∧ (FrontJob s → J s)

instance {P : AntaresMsg → Prop} {G : SweepCtx F → AntaresMsg → Prop} {J : SweepCtx F → Prop}
    [∀ m, Decidable (P m)] [∀ s m, Decidable (G s m)] [∀ s, Decidable (J s)] (s : SweepCtx F) :
    ∀ l, Decidable (Fed P G J s l)
  | .tick => inferInstanceAs (Decidable True)
  | .post m => inferInstanceAs (Decidable (P m))
  | .push _ => inferInstanceAs (Decidable False)
  | .turn => inferInstanceAs (Decidable ((∀ m ∈ frontMsg s, G s m) ∧ (FrontJob s → J s)))

section

variable {P : AntaresMsg → Prop} {G : SweepCtx F → AntaresMsg → Prop} {J : SweepCtx F → Prop}
  {I : Sweep → Prop}

/-- **A step of a command stream.**  `I` is a property of the carriage. -/
theorem fed_step (hpark : ∀ m, P m → m.cmd ≠ Comands.sweepPark.code)
    (hframe : ∀ {sw sw'}, SameCarriage sw sw' → I sw → I sw')
    (htick : ∀ s : SweepCtx F, I s.obj → I (serviceBoard s).obj)
    (hjob : ∀ s : SweepCtx F, J s → I s.obj → I s.obj.jobbed)
    (hmsg : ∀ (s : SweepCtx F) m sw, P m → G s m → Commanded m s sw → I s.obj → I sw)
    {s : SweepCtx F} {label : Label} (hs : Calm P s) (hI : I s.obj) (hC : Fed P G J s label) :
    ∃ t, step s label = .ok t ∧ Calm P t ∧ I t.obj := by
  cases label with
  | tick => exact ⟨_, rfl, serviceBoard_calm hs, htick s hI⟩
  | post m => exact ⟨_, rfl, post_calm hs hC, hframe (by constructor <;> rfl) hI⟩
  | push evt => exact hC.elim
  | turn =>
      obtain ⟨t, ht, hcalm, hturned⟩ := calm_turn hpark hs
      refine ⟨t, ht, hcalm, ?_⟩
      cases hturned with
      | quiet _ h => exact hframe h hI
      | job _ hj h => exact hframe h (hjob s (hC.2 hj) hI)
      | msg m sw hP hm hc h => exact hframe h (hmsg s m sw hP (hC.1 m hm) hc hI)

/-- The induction over command streams. -/
theorem calm_run (hpark : ∀ m, P m → m.cmd ≠ Comands.sweepPark.code)
    (hframe : ∀ {sw sw'}, SameCarriage sw sw' → I sw → I sw')
    (htick : ∀ s : SweepCtx F, I s.obj → I (serviceBoard s).obj)
    (hjob : ∀ s : SweepCtx F, J s → I s.obj → I s.obj.jobbed)
    (hmsg : ∀ (s : SweepCtx F) m sw, P m → G s m → Commanded m s sw → I s.obj → I sw)
    {s : SweepCtx F} {labels : List Label} (hs : Calm P s) (hI : I s.obj)
    (hC : AllSteps step (Fed P G J) s labels) :
    ∃ t, run step s labels = .ok t ∧ Calm P t ∧ I t.obj :=
  run_ok (I := fun s => Calm P s ∧ I s.obj)
    (fun _ _ ⟨hs, hI⟩ hC => fed_step hpark hframe htick hjob hmsg hs hI hC) ⟨hs, hI⟩ hC

/-- And of what the steps of a stream meet besides, whatever they are fed with. -/
theorem calm_allSteps {D : SweepCtx F → Label → Prop}
    (hpark : ∀ m, P m → m.cmd ≠ Comands.sweepPark.code)
    (hframe : ∀ {sw sw'}, SameCarriage sw sw' → I sw → I sw')
    (htick : ∀ s : SweepCtx F, I s.obj → I (serviceBoard s).obj)
    (hjob : ∀ s : SweepCtx F, J s → I s.obj → I s.obj.jobbed)
    (hmsg : ∀ (s : SweepCtx F) m sw, P m → G s m → Commanded m s sw → I s.obj → I sw)
    (hD : ∀ s l, I s.obj → Fed P G J s l → D s l) {s : SweepCtx F} {labels : List Label}
    (hs : Calm P s) (hI : I s.obj) (hC : AllSteps step (Fed P G J) s labels) :
    AllSteps step D s labels := by
  refine allSteps_of_invariant (I := fun s => Calm P s ∧ I s.obj)
    (fun s l hs hl => hD s l hs.2 hl) ?_ ⟨hs, hI⟩ hC
  rintro s l t ⟨hs, hI⟩ hl ht
  obtain ⟨u, hu, hcalm, hIu⟩ := fed_step hpark hframe htick hjob hmsg hs hI hl
  obtain rfl : u = t := Except.ok.inj (hu.symm.trans ht)
  exact ⟨hcalm, hIu⟩

end

end Lgt8.Sweep

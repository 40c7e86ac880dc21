import Mathlib.Tactic
import Lgt8.Kernel.Ownership
import Lgt8.Kernel.Texts
import Lgt8.Net.Reclaim
import Lgt8.Servo.Tach

/-!
# Does the log stay in its buffer?

`printLog` runs in `IDLE` turns of the main loop only, and nothing compares the log's pointer with
the 3500 bytes of `logbuffer`.  Between two `IDLE` turns every driver drains its queue, however long
it is, and callbacks of the network, which run in interrupts, may log at any moment.

* `Turn`, `turn` — the smallest steps of the system: a turn of one of its loops, a message through
  the gate, a text of a callback, an interrupt; `run_turns`, `callback_turns` — the passes of the main
  loop and the callbacks are made of them.
* `turn_texts` — what a turn logs is what the tables of texts say.
* **`log_within_iff`** — the pointer stays inside exactly as long as the texts called for since the
  last `IDLE` turn fit; `flood_overruns` is a pass in which they do not.
-/

namespace Lgt8.Kernel

open Library

variable {F : Type}

/-! ## Turns -/

/-- The texts that are not a driver's: of the start, and of the callbacks of the TCP connection. -/
inductive Notice
  | serverUp
  | adcCalibrated
  | adcFailed
  | accepted
  | undocked
  | unknownError
  | docked
  | notDone
  | closingTwice
  | unknownState
  | echoError
  | echoPoll
  | echoClose
  deriving DecidableEq, Repr

def Notice.text : Notice → String
  | .serverUp => "Antares HTTP Server is up @ 192.168.1.110\r\n"
  | .adcCalibrated =>
      "ADC is calibrated, we have analog conversion on channels 0 and 1 @ 16bits/1.8 ms\r\n"
  | .adcFailed => "ADC failed to calibrate, analog conversion disabled\r\n"
  | .accepted => "Someone is trying to talk\r\n"
  | .undocked => "Virna undocked - socket is free and listeneing now \r\n"
  | .unknownError => "---- Recv -- unknown error received -> cleanup\r\n"
  | .docked => "Virna docked on default port (TCP unencripted)\r\n"
  | .notDone => "---- Recv ES_RECEIVED and not done -> pbuf_chain \r\n"
  | .closingTwice => "---- Recv ES_CLOSING -- Remote side closing twice\r\n"
  | .unknownState => "---- Recv unknown state -- trashing data\r\n"
  | .echoError => "Echo error....\r\n"
  | .echoPoll => "Echo pool....\r\n"
  | .echoClose => "Echo close....\r\n"

/-- What can happen next.  A turn of a loop is a step of its own, so that interrupts come between
any two of them. -/
inductive Turn
  | gate (m : AntaresMsg)
  | notice (n : Notice)
  | mail
  | sweep
  | servo
  | monitor
  | control
  | pit
  | tach
  | adc (value : UInt32)

variable [DoubleOps F]

def turn (s : KernelCtx F) : Turn → Except Fault (KernelCtx F)
  | .gate m => .ok (ethergate m s).2
  | .notice n => .ok (logMessage n.text s)
  | .mail => .ok (mailTurn s)
  | .sweep => (Sweep.serviceFront ⟨s.obj.sweep, s.world⟩).map fun t =>
      ⟨{ s.obj with sweep := t.obj }, t.world⟩
  | .servo => (Servo.serviceFront ⟨s.obj.servo, s.world⟩).map fun t =>
      ⟨{ s.obj with servo := t.obj }, t.world⟩
  | .monitor => (Monitor.serviceFront ⟨s.obj.monitor, s.world⟩).map fun t =>
      ⟨{ s.obj with monitor := t.obj }, t.world⟩
  | .control => .ok (control s)
  | .pit => .ok (pit s)
  | .tach => .ok (tach s)
  | .adc value => .ok (adc value s)

/-- The pointer is at a byte of `logbuffer`. -/
def InBuffer (s : KernelCtx F) : Prop := s.world.log.logbufferptr < 3500

/-! ## What a turn says -/

/-- The texts a turn calls for. -/
def texts (s : KernelCtx F) : Turn → List String
  | .notice n => [n.text]
  | .sweep => Sweep.texts ⟨s.obj.sweep, s.world⟩
  | .servo => Servo.texts ⟨s.obj.servo, s.world⟩
  | .monitor => Monitor.texts ⟨s.obj.monitor, s.world⟩
  | _ => []

omit [DoubleOps F] in
lemma ethergate_log (m : AntaresMsg) (s : KernelCtx F) :
    (ethergate m s).2.world.log = s.world.log := by
  rw [ethergate]
  split
  · split <;> rfl
  · dsimp only
    split <;> rfl

omit [DoubleOps F] in
lemma deliver_world (evt : Event) (s : KernelCtx F) (sub : BitVec 32) :
    (deliver evt s sub).world = s.world := by
  rw [deliver]
  dsimp only
  split_ifs <;> rfl

omit [DoubleOps F] in
lemma mailTurn_log (s : KernelCtx F) : (mailTurn s).world.log = s.world.log := by
  rw [mailTurn]
  split
  · rfl
  · next evt _ _ =>
      have hall := List.foldlRecOn (motive := fun t => t.world = s.world) s.obj.subscriptions
        (deliver evt) rfl fun t ht sub _ => (deliver_world evt t sub).trans ht
      exact congrArg World.log hall

omit [DoubleOps F] in
lemma alarmTurn_log (s : KernelCtx F) (i : Fin 4) : (alarmTurn s i).world.log = s.world.log := by
  rw [alarmTurn]
  split <;> rfl

lemma servoBoard_log (s : ServoCtx F) : (Servo.serviceBoard s).world.log = s.world.log := by
  obtain ⟨c, r, g, h⟩ := Servo.serviceBoard_eq s
  rw [h, Servo.sumTach_eq]
  split_ifs <;> rfl

lemma pit_log (s : KernelCtx F) : (pit s).world.log = s.world.log := by
  have hboards : (withServo Servo.serviceBoard (withSweep Sweep.serviceBoard s)).world.log
      = s.world.log := (servoBoard_log _).trans (Sweep.serviceBoard_log _)
  rw [pit]
  exact List.foldlRecOn (motive := fun t : KernelCtx F => t.world.log = s.world.log) _ alarmTurn
    hboards fun t ht i _ => (alarmTurn_log t i).trans ht

omit [DoubleOps F] in
lemma tach_log (s : KernelCtx F) : (tach s).world.log = s.world.log := by
  have hworld := (Servo.tachTick_kept ⟨s.obj.servo, s.world⟩).2.1
  exact congrArg World.log hworld

/-- **What a turn logs is what its texts say**, and nothing but the `switch` of the main loop does
anything else to the log. -/
theorem turn_texts {s t : KernelCtx F} {l : Turn} (hl : l ≠ .control) (h : turn s l = .ok t) :
    t.world.log = s.world.log.say (texts s l) := by
  cases l with
  | gate m =>
      cases h
      exact ethergate_log m s
  | notice n =>
      cases h
      rfl
  | mail =>
      cases h
      exact mailTurn_log s
  | sweep =>
      obtain ⟨c, hc, rfl⟩ := ok_of_map h
      exact Sweep.serviceFront_texts hc
  | servo =>
      obtain ⟨c, hc, rfl⟩ := ok_of_map h
      exact Servo.serviceFront_texts hc
  | monitor =>
      obtain ⟨c, hc, rfl⟩ := ok_of_map h
      exact Monitor.serviceFront_texts hc
  | control => exact absurd rfl hl
  | pit =>
      have hpit : pit s = t := Except.ok.inj h
      exact hpit ▸ pit_log s
  | tach =>
      cases h
      exact tach_log s
  | adc value =>
      cases h
      rfl

/-- The bytes of the texts called for since the last `IDLE` turn.  A turn in `RECVU` logs a line of
its own. -/
def noteText (s : KernelCtx F) : Turn → ℕ → ℕ
  | .control, n =>
      match s.obj.ctrlState with
      | .idle => 0
      | .recvu => n + 26
      | _ => n
  | l, n => n + Log.size (texts s l)

omit [DoubleOps F] in
lemma noteText_of_ne {l : Turn} (hl : l ≠ .control) (s : KernelCtx F) (n : ℕ) :
    noteText s l n = n + Log.size (texts s l) := by
  rw [noteText]
  exact fun h => hl h

/-- The log takes every text, and the pointer is where the observer says. -/
structure Logs (p : KernelCtx F × ℕ) : Prop where
  taking : p.1.world.log.Taking
  pointer : p.1.world.log.logbufferptr = p.2

lemma Logs.control {s : KernelCtx F} {n : ℕ} (h : Logs (s, n)) :
    Logs (control s, noteText s .control n) := by
  obtain ⟨htaking, hptr⟩ := h
  rw [Kernel.control, noteText]
  cases hst : s.obj.ctrlState with
  | init => exact ⟨htaking, hptr⟩
  | idle =>
      have htake : (takeEvent s).world.log = s.world.log := by
        rw [takeEvent]
        split
        · rfl
        · dsimp only
          split_ifs <;> rfl
      obtain ⟨htaking', hptr'⟩ := htaking.printLog
      rw [← htake] at htaking' hptr'
      exact ⟨htaking', hptr'⟩
  | alarm =>
      dsimp only
      split <;> exact ⟨htaking, hptr⟩
  | sendu => exact ⟨htaking, hptr⟩
  | recvu =>
      refine ⟨⟨htaking.loglevel, htaking.logEnabled⟩, ?_⟩
      have hptr' : s.world.log.logbufferptr = n := hptr
      rw [← hptr']
      rfl

lemma Logs.turn {p q : KernelCtx F × ℕ} {l : Turn} (h : Logs p)
    (hq : observed turn noteText p l = .ok q) : Logs q := by
  obtain ⟨s, n⟩ := p
  obtain ⟨t, n'⟩ := q
  obtain ⟨ht, rfl⟩ : Kernel.turn s l = .ok t ∧ n' = noteText s l n := observed_ok.mp hq
  by_cases hl : l = .control
  · subst hl
    cases ht
    exact h.control
  · have htexts := turn_texts hl ht
    obtain ⟨htaking, hptr⟩ := h.taking.say (texts s l)
    rw [noteText_of_ne hl]
    refine ⟨htexts ▸ htaking, ?_⟩
    show t.world.log.logbufferptr = _
    rw [htexts]
    exact hptr.trans (congrArg (· + _) h.pointer)

/-! ## Any run -/

/-- What `main` says before its loop. -/
def bootTexts : List String :=
  ["\r\n\r\nAntares-LGT8 V-1.6.0 [NB Version 3] Kernel Booting" ++ " - Hardware is OK \r\n",
    "Sweep enable off\r\n",
    "Sweep Driver attached to core, we have step motor services now\r\n",
    "Servo Driver attached to core, we have plate motor services now\r\n",
    "Monitor Driver attached to core, we have LVDT and auxiliar services now\r\n",
    "Antares-LGT8 - Sensors and Services are UP, loading comms and" ++ " management...\r\n",
    "Good, we are on businnes :-) -> State Machine is ready to go \r\n"]

lemma boot_texts (raw : Kernel F) (w : World F) :
    (boot raw w).world.log = (⟨4, true, w.log.logbuffer, 0⟩ : Log).say bootTexts := rfl

lemma boot_logs (raw : Kernel F) (w : World F) : Logs (boot raw w, Log.size bootTexts) := by
  have htaking : (⟨4, true, w.log.logbuffer, 0⟩ : Log).Taking := ⟨Nat.le_succ 3, rfl⟩
  obtain ⟨hboot, hptr⟩ := htaking.say bootTexts
  rw [← boot_texts raw w] at hboot hptr
  exact ⟨hboot, hptr.trans (Nat.zero_add _)⟩

/-- **When the log stays in its buffer.**  In any run from the start the pointer is inside in every
state exactly if the texts called for since the last `IDLE` turn fit in every state. -/
theorem log_within_iff (raw : Kernel F) (w : World F) (turns : List Turn) :
    AllStates turn InBuffer (boot raw w) turns ↔
      AllStates (observed turn noteText) (fun p => p.2 < 3500)
        (boot raw w, Log.size bootTexts) turns :=
  allStates_observed_iff (I := Logs) (fun p h => by rw [InBuffer, h.pointer])
    (fun _ _ _ h hq => h.turn hq) (boot_logs raw w)

/-! ## The main loop and the callbacks, turn by turn -/

lemma step_turns {s t : KernelCtx F} {l : Label} (h : step s l = .ok t) :
    ∃ turns, run turn s turns = .ok t := by
  cases l with
  | gate m => exact ⟨[.gate m], h⟩
  | mail =>
      obtain ⟨p, hp, rfl⟩ := ok_of_map h
      obtain ⟨k, hk⟩ := drain_row turn Turn.mail Prod.fst
        (I := fun p : KernelCtx F × List (List Event) => p.2 = [])
        (fun p hnone => by rw [mailNext, hnone]; rfl)
        (fun p q hnone hq => by
          cases hq
          rw [mailNext, hnone]
          rfl) rfl hp
      exact ⟨_, hk⟩
  | sweepPass =>
      obtain ⟨c, hc, rfl⟩ := ok_of_map h
      obtain ⟨k, hk⟩ := drain_row turn Turn.sweep
        (fun c => (⟨{ s.obj with sweep := c.obj }, c.world⟩ : KernelCtx F)) (I := fun _ => True)
        (fun _ _ => rfl) (fun _ _ _ _ => trivial) trivial hc
      exact ⟨_, hk⟩
  | servoPass =>
      obtain ⟨c, hc, rfl⟩ := ok_of_map h
      obtain ⟨k, hk⟩ := drain_row turn Turn.servo
        (fun c => (⟨{ s.obj with servo := c.obj }, c.world⟩ : KernelCtx F)) (I := fun _ => True)
        (fun _ _ => rfl) (fun _ _ _ _ => trivial) trivial hc
      exact ⟨_, hk⟩
  | monitorPass =>
      obtain ⟨c, hc, rfl⟩ := ok_of_map h
      obtain ⟨k, hk⟩ := drain_row turn Turn.monitor
        (fun c => (⟨{ s.obj with monitor := c.obj }, c.world⟩ : KernelCtx F)) (I := fun _ => True)
        (fun _ _ => rfl) (fun _ _ _ _ => trivial) trivial hc
      exact ⟨_, hk⟩
  | control => exact ⟨[.control], h⟩
  | pit => exact ⟨[.pit], h⟩
  | tach => exact ⟨[.tach], h⟩
  | adc value => exact ⟨[.adc value], h⟩

/-- **Every run of the main loop is a run of turns.** -/
theorem run_turns : ∀ {labels : List Label} {s t : KernelCtx F}, run step s labels = .ok t →
    ∃ turns, run turn s turns = .ok t
  | [], _, _, h => ⟨[], h⟩
  | _ :: _, _, _, h => by
      obtain ⟨u, hu, hrest⟩ := run_cons_ok h
      obtain ⟨first, hfirst⟩ := step_turns hu
      obtain ⟨rest, hrest⟩ := run_turns hrest
      exact ⟨first ++ rest, (run_append_of_ok hfirst rest).trans hrest⟩

/-- From one kernel to the other by notices and messages through the gate. -/
def Heard (s t : KernelCtx F) : Prop := ∃ turns, run turn s turns = .ok t

lemma Heard.refl (s : KernelCtx F) : Heard s s := ⟨[], rfl⟩

lemma Heard.notice (n : Notice) (s : KernelCtx F) : Heard s (logMessage n.text s) :=
  ⟨[.notice n], rfl⟩

lemma Heard.trans {s t u : KernelCtx F} (h : Heard s t) (h' : Heard t u) : Heard s u := by
  obtain ⟨ls, hls⟩ := h
  obtain ⟨ls', hls'⟩ := h'
  exact ⟨ls ++ ls', (run_append_of_ok hls ls').trans hls'⟩

omit [DoubleOps F] in
lemma sendLoop_kernel : ∀ (n : ℕ) (c : Conn F), (Conn.sendLoop n c).kernel = c.kernel
  | 0, _ => rfl
  | n + 1, c => by
      rw [Conn.sendLoop]
      split
      · rfl
      · dsimp only
        split
        · split
          · exact sendLoop_kernel n _
          · rfl
          · rfl
        · rfl

lemma heard_echoSend (c : Conn F) : Heard c.kernel (Conn.echoSend c).kernel := by
  rw [Conn.echoSend, sendLoop_kernel]
  exact .refl _

lemma heard_echoClose (c : Conn F) : Heard c.kernel (Conn.echoClose c).kernel :=
  .notice .echoClose c.kernel

lemma heard_gate (c : Conn F) : Heard c.kernel (Conn.gate c).kernel := by
  rw [Conn.gate]
  split
  · exact .refl _
  · exact ⟨[.gate _], rfl⟩

lemma heard_echoRecv (p : List Pbuf) (err : Err) (c : Conn F) :
    Heard c.kernel (Conn.echoRecv p err c).kernel := by
  rw [Conn.echoRecv]
  by_cases hp : p.isEmpty = true
  · let u : Conn F := { Conn.log Notice.undocked.text c with state := .closing }
    have hu : Heard u.kernel (if u.p.isEmpty then Conn.echoClose u else Conn.echoSend u).kernel := by
      split
      · exact heard_echoClose u
      · exact heard_echoSend u
    rw [if_pos hp]
    exact (Heard.notice .undocked c.kernel).trans hu
  · rw [if_neg hp]
    by_cases he : err ≠ .ok
    · rw [if_pos he]
      exact .notice .unknownError c.kernel
    · rw [if_neg he]
      split
      · exact (Heard.notice .docked c.kernel).trans
          (heard_echoSend { Conn.log Notice.docked.text c with state := .received, p := p })
      · split
        · exact (heard_gate { c with p := p }).trans (heard_echoSend _)
        · exact .notice .notDone c.kernel
      · exact .notice .closingTwice c.kernel
      · exact .notice .unknownState c.kernel

/-- What `echo_poll` and `echo_sent` do with what is left to send. -/
lemma heard_resume (c : Conn F) : Heard c.kernel
    (if c.p.isEmpty then if c.state = .closing then Conn.echoClose c else c
      else Conn.echoSend c).kernel := by
  split_ifs
  · exact heard_echoClose c
  · exact .refl _
  · exact heard_echoSend c

/-- **The callbacks of the network are made of turns.** -/
theorem callback_turns {c d : Conn F} {l : Conn.Call} (h : Conn.call c l = .ok d) :
    Heard c.kernel d.kernel := by
  by_cases hclosed : c.closed = true
  · have hsame : Conn.call c l = .ok c := if_pos hclosed
    cases hsame.symm.trans h
    exact .refl _
  · cases l with
    | recv p err =>
        cases (if_neg hclosed : Conn.call c (.recv p err) = _).symm.trans h
        exact heard_echoRecv p err c
    | sent =>
        cases (if_neg hclosed : Conn.call c .sent = _).symm.trans h
        exact heard_resume { c with retries := 0 }
    | poll =>
        cases (if_neg hclosed : Conn.call c .poll = _).symm.trans h
        exact (Heard.notice .echoPoll c.kernel).trans
          (heard_resume (Conn.log Notice.echoPoll.text c))
    | error =>
        cases (if_neg hclosed : Conn.call c .error = _).symm.trans h
        exact .notice .echoError c.kernel

/-! ## A flood -/

/-- A command the monitor does not know. -/
def unknown : AntaresMsg := .compose 99 0 4 ""

/-- A hundred of them in one pass of the main loop, up to the monitor's. -/
def flood : List Label :=
  (List.replicate 100 unknown).map .gate ++ [.mail, .sweepPass, .servoPass, .monitorPass]

/-- The queue announces the unknown commands at `as`, and they are alive. -/
structure Piled (as : List ℕ) (c : MonitorCtx F) : Prop where
  events : c.obj.events = as.map fun a => .of .monitorEthSig 1 (.msg a)
  nodup : as.Nodup
  live : ∀ a ∈ as, c.world.heap.cell a = some unknown

omit [DoubleOps F] in
lemma unknown_texts (c : MonitorCtx F) :
    Monitor.msgTexts unknown c = ["Received unknown Monitor Packet : 99, 0\r\n"] := by
  rw [Monitor.msgTexts, if_neg (by decide), if_neg (by decide), if_neg (by decide),
    if_neg (by decide), if_neg (by decide)]
  rfl

/-- A turn on the first of them. -/
lemma Piled.turn {a : ℕ} {as : List ℕ} {c : MonitorCtx F} (h : Piled (a :: as) c) :
    ∃ d, Monitor.serviceFront c = .ok d ∧ Piled as d ∧
      d.world.log = c.world.log.say ["Received unknown Monitor Packet : 99, 0\r\n"] := by
  have hfront := Monitor.serviceFront_msg h.events (h.live a List.mem_cons_self)
  have haside := Monitor.serviceMsg_aside unknown c
  refine ⟨_, hfront, ⟨?_, h.nodup.of_cons, ?_⟩, ?_⟩
  · exact congrArg List.tail (haside.events.trans h.events)
  · intro b hb
    have hne : b ≠ a := fun hba => (List.nodup_cons.mp h.nodup).1 (hba ▸ hb)
    have hheap : (Monitor.popEvent (Monitor.deleteMsg a (Monitor.serviceMsg unknown c))).world.heap
        = c.world.heap.delete a := congrArg (Heap.delete · a) haside.heap
    rw [hheap, Heap.delete_cell_of_ne _ hne]
    exact h.live b (List.mem_cons_of_mem _ hb)
  · exact (Monitor.serviceMsg_texts unknown c).trans (by rw [unknown_texts])

/-- A pass over all of them. -/
lemma Piled.pass : ∀ {as : List ℕ} {c : MonitorCtx F}, Piled as c →
    ∃ d, drain (fun c : MonitorCtx F => !c.obj.events.isEmpty) Monitor.serviceFront as.length c
        = .ok d ∧
      d.world.log = c.world.log.say
        (List.replicate as.length "Received unknown Monitor Packet : 99, 0\r\n")
  | [], c, _ => ⟨c, rfl, rfl⟩
  | a :: as, c, h => by
      obtain ⟨u, hu, hpiled, hlog⟩ := h.turn
      obtain ⟨d, hd, hrest⟩ := hpiled.pass
      refine ⟨d, ?_, ?_⟩
      · rw [List.length_cons, drain_succ_of_pending (by rw [h.events]; rfl) hu, hd]
      · rw [hrest, hlog, List.length_cons, List.replicate_succ]
        rfl

omit [DoubleOps F] in
lemma gated_log (ms : List AntaresMsg) (s : KernelCtx F) :
    (gated ms s).world.log = s.world.log := by
  induction ms generalizing s with
  | nil => rfl
  | cons m ms ih => exact (ih _).trans (ethergate_log m s)

lemma run_gates (ms : List AntaresMsg) (s : KernelCtx F) :
    run step s (ms.map .gate) = .ok (gated ms s) := by
  induction ms generalizing s with
  | nil => rfl
  | cons m ms ih => exact ih (ethergate m s).2

omit [DoubleOps F] in
lemma verifymail_log {s : KernelCtx F} {arrivals : List (List Event)}
    {p : KernelCtx F × List (List Event)} (h : verifymail arrivals s = .ok p) :
    p.1.world.log = s.world.log := by
  have hall : Yields (fun p => p.1.world.log = s.world.log) (fun _ => True)
      (verifymail arrivals s) := by
    refine drain_yields (fun p hp _ => ?_) rfl
    show (mailNext p).1.world.log = _
    rw [mailNext, publish_all]
    exact (mailTurn_log p.1).trans hp
  exact hall.ok h

/-- The flood at the gate. -/
lemma stored_unknown (next n : ℕ) :
    stored next (List.replicate n unknown) = (List.range' next n).map fun a => (unknown, a) := by
  induction n generalizing next with
  | zero => rfl
  | succ n ih =>
      rw [List.replicate_succ, stored_cons (by decide), ih, List.range'_succ, List.map_cons]

/-- Of it, what is for `dest`. -/
lemma flood_for (dest : UInt8) (next n : ℕ) :
    (stored next (List.replicate n unknown)).filter (fun p => decide (p.1.dest = dest))
      = if dest = 4 then (List.range' next n).map fun a => (unknown, a) else [] := by
  have hdest : unknown.dest = 4 := by decide
  have hall : ∀ p ∈ stored next (List.replicate n unknown), p.1.dest = 4 := by
    rw [stored_unknown]
    intro p hp
    obtain ⟨a, -, rfl⟩ := List.mem_map.mp hp
    exact hdest
  split
  · next h =>
      rw [List.filter_eq_self.mpr fun p hp => decide_eq_true ((hall p hp).trans h.symm),
        stored_unknown]
  · next h =>
      exact List.filter_eq_nil_iff.mpr fun p hp => by simpa [hall p hp] using Ne.symm h

omit [DoubleOps F] in
lemma sweepPass_nil {s : KernelCtx F} (h : s.obj.sweep.events = []) : sweepPass s = .ok s := by
  rw [sweepPass, Sweep.serviceEvents, drain_of_not_pending (by rw [h]; rfl)]
  rfl

lemma servoPass_nil {s : KernelCtx F} (h : s.obj.servo.events = []) : servoPass s = .ok s := by
  rw [servoPass, Servo.serviceEvents, drain_of_not_pending (by rw [h]; rfl)]
  rfl

lemma Piled.monitorPass {as : List ℕ} {s : KernelCtx F} (h : Piled as ⟨s.obj.monitor, s.world⟩) :
    ∃ t, monitorPass s = .ok t ∧ t.world.log = s.world.log.say
      (List.replicate as.length "Received unknown Monitor Packet : 99, 0\r\n") := by
  obtain ⟨d, hd, hlog⟩ := h.pass
  have hlen : s.obj.monitor.events.length = as.length := by
    have := congrArg List.length h.events
    rwa [List.length_map] at this
  refine ⟨⟨{ s.obj with monitor := d.obj }, d.world⟩, ?_, hlog⟩
  rw [Kernel.monitorPass, Monitor.serviceEvents, hlen, hd]
  rfl

/-- A kernel with empty queues, through the flood. -/
lemma flood_run {s : KernelCtx F}
    (hsubs : s.obj.subscriptions = bootSubscriptions.map fun p => subscription p.1 p.2)
    (hpost : s.obj.postoffice = []) (hsweep : s.obj.sweep.events = [])
    (hservo : s.obj.servo.events = []) (hmonitor : s.obj.monitor.events = []) :
    ∃ t, run step s flood = .ok t ∧ t.world.log = s.world.log.say
      (List.replicate 100 "Received unknown Monitor Packet : 99, 0\r\n") := by
  obtain ⟨taken, rest, t, harr, hmail, -, hqueues, hcells⟩ :=
    gate_delivers hsubs (List.replicate 100 unknown) []
  obtain ⟨rfl, rfl⟩ := List.append_eq_nil_iff.mp harr.symm
  have hlog : t.world.log = s.world.log := (verifymail_log hmail).trans (gated_log _ s)
  have hqueue : ∀ r ∈ routes, queue r.2.1 t = queue r.2.1 s
      ++ (if r.1 = 4 then (List.range' s.world.heap.next 100).map fun a => (unknown, a) else []).map
        fun p => .of r.2.2 1 (.msg p.2) := by
    intro r hr
    rw [hqueues r hr, hpost, flood_for]
    simp
  have hnosweep : t.obj.sweep.events = [] := by
    have := hqueue (2, .sweep, .sweepEthSig) (by decide)
    simpa [queue, hsweep] using this
  have hnoservo : t.obj.servo.events = [] := by
    have := hqueue (3, .servo, .servoEthSig) (by decide)
    simpa [queue, hservo] using this
  have hpiled : Piled (List.range' s.world.heap.next 100) ⟨t.obj.monitor, t.world⟩ := by
    refine ⟨?_, List.nodup_range', fun a ha => ?_⟩
    · have := hqueue (4, .monitor, .monitorEthSig) (by decide)
      simpa [queue, hmonitor, Function.comp_def] using this
    · exact hcells (unknown, a) (by rw [stored_unknown]; exact List.mem_map_of_mem ha)
  obtain ⟨u, hu, hulog⟩ := hpiled.monitorPass
  refine ⟨u, ?_, by rw [hulog, hlog, List.length_range']⟩
  have hmail' : step (gated (List.replicate 100 unknown) s) .mail = .ok t := by
    rw [step, hmail]
    rfl
  rw [flood, run_append_of_ok (run_gates _ s), run_cons_of_ok hmail',
    run_cons_of_ok (sweepPass_nil hnosweep), run_cons_of_ok (servoPass_nil hnoservo),
    run_cons_of_ok hu]
  rfl

/-- **A pass that overruns the buffer.**  The main loop has been once round when a hundred unknown
commands come in; the monitor's loop says a line about each, and nothing prints in between. -/
theorem flood_overruns : ∃ s turns, run step (boot blank .blank) (mainLoop [] ++ flood) = .ok s ∧
    run turn (boot blank .blank) turns = .ok s ∧ ¬ InBuffer s := by
  obtain ⟨s, hs, hsubs, hpost, hsweep, hservo, hmonitor, hlevel, henabled⟩ :
      ∃ s, run step (boot blank .blank) (mainLoop []) = .ok s ∧
        s.obj.subscriptions = bootSubscriptions.map (fun p => subscription p.1 p.2) ∧
        s.obj.postoffice = [] ∧ s.obj.sweep.events = [] ∧ s.obj.servo.events = [] ∧
        s.obj.monitor.events = [] ∧ s.world.log.loglevel = 4 ∧ s.world.log.logEnabled = true :=
    ⟨_, rfl, rfl, rfl, rfl, rfl, rfl, rfl, rfl⟩
  obtain ⟨t, ht, hlog⟩ := flood_run hsubs hpost hsweep hservo hmonitor
  have hrun : run step (boot blank .blank) (mainLoop [] ++ flood) = .ok t :=
    (run_append_of_ok hs flood).trans ht
  obtain ⟨turns, hturns⟩ := run_turns hrun
  refine ⟨t, turns, hrun, hturns, ?_⟩
  have htaking : s.world.log.Taking := ⟨by rw [hlevel]; decide, henabled⟩
  have hsize : Log.size (List.replicate 100 "Received unknown Monitor Packet : 99, 0\r\n") = 4100 := by
    rw [Log.size, List.map_replicate, List.sum_replicate]
    rfl
  rw [InBuffer, hlog, (htaking.say _).2, hsize]
  omega

end Lgt8.Kernel

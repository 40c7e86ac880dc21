import Mathlib.Tactic
import Lgt8.Kernel.PostOffice
import Lgt8.Monitor.Passes
import Lgt8.Servo.Passes
import Lgt8.Sweep.Passes

/-!
# Who deletes the messages

`ethergate` makes a message object, the post office hands its event on, and the driver that takes
the event out of its queue deletes the object.  Two ways lead past a `delete`: a message whose
destination has no signal is stored but never posted, and the main loop takes control messages into
`event_temp` and never deletes them, so the next event it takes overwrites the last trace of one.

* `Owned` — every event is in a queue whose owner deletes its message, and the books balance.
* **`messages_owned_iff`** — in a run from the start the message objects alive are in every state
  the ones announced by waiting events, and no driver meets a message that is gone, precisely if
  the run takes neither of the two ways; `nobody_leaks` is a run that takes the first.
-/

namespace Lgt8.Kernel

open Library

variable {F : Type}

/-! ## Steps -/

/-- What can happen to the system. -/
inductive Label
  | gate (m : AntaresMsg)
  | mail
  | sweepPass
  | servoPass
  | monitorPass
  | control
  | pit
  | tach
  | adc (value : UInt32)

def step [DoubleOps F] (s : KernelCtx F) : Label → Except Fault (KernelCtx F)
  | .gate m => .ok (ethergate m s).2
  | .mail => (verifymail [] s).map Prod.fst
  | .sweepPass => sweepPass s
  | .servoPass => servoPass s
  | .monitorPass => monitorPass s
  | .control => .ok (control s)
  | .pit => .ok (pit s)
  | .tach => .ok (tach s)
  | .adc value => .ok (adc value s)

/-- One turn of the main loop, in which `serviceEthernet` brings the messages `inbox`. -/
def mainLoop (inbox : List AntaresMsg) : List Label :=
  inbox.map .gate ++ [.mail, .sweepPass, .servoPass, .monitorPass, .control]

/-! ## Books -/

/-- The message objects announced by the events that wait somewhere. -/
def held (s : KernelCtx F) : List ℕ :=
  letters s.obj.postoffice ++ letters s.obj.mainevents ++ letters [s.obj.eventTemp]
    ++ letters s.obj.sweep.events ++ letters s.obj.servo.events ++ letters s.obj.monitor.events

/-- Every event is in a queue whose owner deletes its message, and the books balance. -/
structure Owned (s : KernelCtx F) : Prop where
  subscriptions : s.obj.subscriptions = bootSubscriptions.map fun p => subscription p.1 p.2
  postoffice : ∀ e ∈ s.obj.postoffice, ∃ sig ∈ ethSigs, Filed sig e
  mainevents : ∀ e ∈ s.obj.mainevents, Filed .ctrlEthSig e
  eventTemp : Filed .ctrlEthSig s.obj.eventTemp
  sweep : ∀ e ∈ s.obj.sweep.events, Filed .sweepEthSig e
  servo : ∀ e ∈ s.obj.servo.events, Filed .servoEthSig e
  monitor : ∀ e ∈ s.obj.monitor.events, Filed .monitorEthSig e
  ledger : Ledger s.world.heap.live (held s)

/-- The condition a step has to meet. -/
def Orderly (s : KernelCtx F) : Label → Prop
  | .gate m => m.cmd = Comands.callbackReq.code ∨ destSig m.dest ≠ none
  | .control => s.obj.ctrlState = .idle → s.obj.mainevents ≠ [] →
      s.obj.eventTemp.evtype ≠ SigTypes.ctrlEthSig.bits
  | _ => True

/-! ## The gate and the interrupts -/

/-- Events are posted, and the queues are as they were. -/
lemma Owned.posted {s t : KernelCtx F} (h : Owned s) (hk : Passed s t) {new : List Event}
    (hpost : t.obj.postoffice = s.obj.postoffice ++ new)
    (hnew : ∀ e ∈ new, ∃ sig ∈ ethSigs, Filed sig e)
    (hl : Ledger t.world.heap.live (letters new ++ held s)) : Owned t where
  subscriptions := hk.subscriptions.trans h.subscriptions
  postoffice := by
    rw [hpost]
    intro e he
    rcases List.mem_append.mp he with he | he
    · exact h.postoffice e he
    · exact hnew e he
  mainevents := hk.mainevents ▸ h.mainevents
  eventTemp := hk.eventTemp ▸ h.eventTemp
  sweep := hk.sweep ▸ h.sweep
  servo := hk.servo ▸ h.servo
  monitor := hk.monitor ▸ h.monitor
  ledger := by
    refine hl.of_count fun a => ?_
    simp only [held, hpost, hk.mainevents, hk.eventTemp, hk.sweep, hk.servo, hk.monitor,
      letters_append, List.count_append]
    omega

/-- Nothing that counts has changed. -/
lemma Owned.passed {s t : KernelCtx F} (h : Owned s) (hk : Passed s t)
    (hpost : t.obj.postoffice = s.obj.postoffice) (hheap : t.world.heap = s.world.heap) :
    Owned t :=
  h.posted hk (hpost.trans (List.append_nil _).symm) nofun (by rw [hheap]; exact h.ledger)

lemma destSig_eth {dest : UInt8} {sig : SigTypes} (h : destSig dest = some sig) :
    sig ∈ ethSigs := by
  rw [destSig] at h
  split_ifs at h <;> cases h <;> decide

lemma owned_gate {s : KernelCtx F} (h : Owned s) {m : AntaresMsg}
    (hm : m.cmd = Comands.callbackReq.code ∨ destSig m.dest ≠ none) :
    Owned (ethergate m s).2 := by
  by_cases hcmd : m.cmd = Comands.callbackReq.code
  · obtain ⟨hpost, hheap, hk⟩ := ethergate_callback hcmd s
    exact h.passed hk hpost hheap
  · obtain ⟨hpost, hheap, hk⟩ := ethergate_stores hcmd s
    obtain ⟨sig, hsig⟩ := Option.ne_none_iff_exists'.mp (hm.resolve_left hcmd)
    rw [hsig] at hpost
    refine h.posted hk hpost ?_ ?_
    · intro e he
      rw [List.mem_singleton.mp he]
      exact ⟨sig, destSig_eth hsig, .msg _ _⟩
    · have hl : letters [.of sig 1 (.msg s.world.heap.next)] = [s.world.heap.next] :=
        letters_cons_msg (destSig_eth hsig) _ _ _
      rw [hheap, Heap.live_alloc]
      exact hl ▸ h.ledger.acquire s.world.heap.live_next

/-- A message for nobody is stored all the same. -/
lemma gate_leaks {s : KernelCtx F} (h : Owned s) {m : AntaresMsg}
    (hcmd : m.cmd ≠ Comands.callbackReq.code) (hdest : destSig m.dest = none) :
    ¬ Exact (ethergate m s).2.world.heap.live (held (ethergate m s).2) := by
  obtain ⟨hpost, hheap, hk⟩ := ethergate_stores hcmd s
  have hheld : held (ethergate m s).2 = held s := by
    rw [hdest] at hpost
    simp only [held, hpost, hk.mainevents, hk.eventTemp, hk.sweep, hk.servo, hk.monitor]
    simp
  rw [hheld, hheap, Heap.live_alloc]
  exact h.ledger.not_exact_of_leak s.world.heap.live_next

lemma alarm_not_isEth : ¬ IsEth (.of .alarmSig CtrlStates.alarm.code .null) := by
  decide

lemma owned_alarmTurn {s : KernelCtx F} (h : Owned s) (i : Fin 4) : Owned (alarmTurn s i) := by
  rw [alarmTurn]
  split
  · refine h.posted (by constructor <;> rfl) rfl ?_ ?_
    · intro e he
      rw [List.mem_singleton.mp he]
      exact ⟨.ctrlEthSig, by decide, .own alarm_not_isEth⟩
    · rw [letters_cons_own alarm_not_isEth]
      exact h.ledger
  · exact h

/-! ## The drivers -/

/-- A driver is given other values and events that announce nothing. -/
lemma Owned.withSweep {s : KernelCtx F} (h : Owned s) {f : SweepCtx F → SweepCtx F}
    (hq : Gains s.obj.sweep.events (f ⟨s.obj.sweep, s.world⟩).obj.events)
    (hh : (f ⟨s.obj.sweep, s.world⟩).world.heap = s.world.heap) : Owned (Kernel.withSweep f s) where
  subscriptions := h.subscriptions
  postoffice := h.postoffice
  mainevents := h.mainevents
  eventTemp := h.eventTemp
  sweep := hq.filed h.sweep
  servo := h.servo
  monitor := h.monitor
  ledger := by
    have hl := h.ledger
    rw [← hh] at hl
    refine hl.of_count fun a => ?_
    simp only [held, Kernel.withSweep, hq.letters]

lemma Owned.withServo {s : KernelCtx F} (h : Owned s) {f : ServoCtx F → ServoCtx F}
    (ha : Servo.Aside ⟨s.obj.servo, s.world⟩ (f ⟨s.obj.servo, s.world⟩)) :
    Owned (Kernel.withServo f s) where
  subscriptions := h.subscriptions
  postoffice := h.postoffice
  mainevents := h.mainevents
  eventTemp := h.eventTemp
  sweep := h.sweep
  servo := ha.events ▸ h.servo
  monitor := h.monitor
  ledger := by
    have hl := h.ledger
    have hh : (f ⟨s.obj.servo, s.world⟩).world.heap = s.world.heap := ha.heap
    rw [← hh] at hl
    refine hl.of_count fun a => ?_
    simp only [held, Kernel.withServo, ha.events]

lemma sweep_tick_gains (s : SweepCtx F) :
    Gains s.obj.events (Sweep.serviceBoard s).obj.events := by
  rcases (Sweep.serviceBoard_ticked s).events with he | he <;> rw [he]
  · exact .refl _
  · refine ⟨_, rfl, fun e he => ?_⟩
    rw [List.mem_singleton.mp he]
    exact Sweep.own_not_isEth ⟨_, Or.inr rfl⟩

lemma owned_sweepPass {s : KernelCtx F} (h : Owned s) :
    Yields Owned Fault.Undefined (sweepPass s) := by
  have hb : Balanced .sweepEthSig (fun c : SweepCtx F => c.obj.events) (fun c => c.world.heap)
      (letters s.obj.postoffice ++ letters s.obj.mainevents ++ letters [s.obj.eventTemp]
        ++ letters s.obj.servo.events ++ letters s.obj.monitor.events)
      ⟨s.obj.sweep, s.world⟩ := by
    refine ⟨h.sweep, h.ledger.of_count fun a => ?_⟩
    simp only [held, List.count_append]
    omega
  refine (Sweep.clears.pass (by decide) hb _).map fun t ht => ?_
  refine ⟨h.subscriptions, h.postoffice, h.mainevents, h.eventTemp, ht.filed, h.servo, h.monitor,
    ht.ledger.of_count fun a => ?_⟩
  simp only [held, List.count_append]
  omega

section

variable [DoubleOps F]

lemma owned_pit {s : KernelCtx F} (h : Owned s) : Owned (pit s) := by
  have hsweep := h.withSweep (f := Sweep.serviceBoard) (sweep_tick_gains _)
    (Sweep.serviceBoard_heap _)
  have hservo := hsweep.withServo (f := Servo.serviceBoard) (Servo.serviceBoard_aside _)
  rw [pit]
  exact List.foldlRecOn _ alarmTurn (hservo.passed (by constructor <;> rfl) rfl rfl)
    fun t ht i _ => owned_alarmTurn ht i

lemma owned_servoPass {s : KernelCtx F} (h : Owned s) :
    Yields Owned Fault.Undefined (servoPass s) := by
  have hb : Balanced .servoEthSig (fun c : ServoCtx F => c.obj.events) (fun c => c.world.heap)
      (letters s.obj.postoffice ++ letters s.obj.mainevents ++ letters [s.obj.eventTemp]
        ++ letters s.obj.sweep.events ++ letters s.obj.monitor.events)
      ⟨s.obj.servo, s.world⟩ := by
    refine ⟨h.servo, h.ledger.of_count fun a => ?_⟩
    simp only [held, List.count_append]
    omega
  refine (Servo.clears.pass (by decide) hb _).map fun t ht => ?_
  refine ⟨h.subscriptions, h.postoffice, h.mainevents, h.eventTemp, h.sweep, ht.filed, h.monitor,
    ht.ledger.of_count fun a => ?_⟩
  simp only [held, List.count_append]
  omega

lemma owned_monitorPass {s : KernelCtx F} (h : Owned s) :
    Yields Owned Fault.Undefined (monitorPass s) := by
  have hb : Balanced .monitorEthSig (fun c : MonitorCtx F => c.obj.events) (fun c => c.world.heap)
      (letters s.obj.postoffice ++ letters s.obj.mainevents ++ letters [s.obj.eventTemp]
        ++ letters s.obj.sweep.events ++ letters s.obj.servo.events)
      ⟨s.obj.monitor, s.world⟩ := by
    refine ⟨h.monitor, h.ledger.of_count fun a => ?_⟩
    simp only [held, List.count_append]
    omega
  refine (Monitor.clears.pass (by decide) hb _).map fun t ht => ?_
  refine ⟨h.subscriptions, h.postoffice, h.mainevents, h.eventTemp, h.sweep, h.servo, ht.filed,
    ht.ledger.of_count fun a => ?_⟩
  simp only [held, List.count_append]
  omega

end

/-! ## The post office -/

/-- Every signal of a message has one subscription. -/
lemma bootSubscriptions_once : ∀ sig ∈ ethSigs,
    bootSubscriptions.count (.main, sig.bits) + bootSubscriptions.count (.sweep, sig.bits)
      + bootSubscriptions.count (.servo, sig.bits) + bootSubscriptions.count (.monitor, sig.bits)
      = 1 := by
  decide

lemma count_replicate_letters (n : ℕ) (e : Event) (a : ℕ) :
    (letters (List.replicate n e)).count a = n * (letters [e]).count a := by
  induction n with
  | zero => simp
  | succ n ih =>
      have h : letters (List.replicate (n + 1) e) = letters [e] ++ letters (List.replicate n e) :=
        letters_append [e] (List.replicate n e)
      rw [h, List.count_append, ih]
      ring

/-- **The post office loses no message and doubles none.** -/
lemma count_delivered (es : List Event) (a : ℕ) :
    (letters (delivered Event.evtype bootSubscriptions .main es)).count a
      + (letters (delivered Event.evtype bootSubscriptions .sweep es)).count a
      + (letters (delivered Event.evtype bootSubscriptions .servo es)).count a
      + (letters (delivered Event.evtype bootSubscriptions .monitor es)).count a
      = (letters es).count a := by
  induction es with
  | nil => rfl
  | cons e es ih =>
      have hsplit : letters (e :: es) = letters [e] ++ letters es := letters_append [e] es
      simp only [delivered_cons, letters_append, List.count_append, count_replicate_letters, hsplit]
      by_cases he : IsEth e
      · obtain ⟨sig, hsig, hty⟩ := he
        have honce := congrArg (· * (letters [e]).count a) (bootSubscriptions_once sig hsig)
        simp only [add_mul, one_mul, ← hty] at honce
        omega
      · have hnone : letters [e] = [] := letters_cons_own he []
        simp only [hnone, List.count_nil, mul_zero]
        omega

lemma filed_of_evtype {e : Event} {eth : SigTypes} (heth : eth ∈ ethSigs)
    (h : ∃ sig ∈ ethSigs, Filed sig e) (hty : e.evtype = eth.bits) : Filed eth e := by
  obtain ⟨sig, _, hf⟩ := h
  cases hf with
  | msg n a =>
      obtain rfl : sig = eth := SigTypes.bits_inj.mp hty
      exact .msg n a
  | own hn => exact absurd ⟨eth, heth, hty⟩ hn

lemma owned_mail {s : KernelCtx F} (h : Owned s) :
    Owned (settled bootSubscriptions s.obj.postoffice s) := by
  have hfiled : ∀ (object : ObjTypes) (eth : SigTypes), eth ∈ ethSigs →
      (∀ t, (object, t) ∈ bootSubscriptions → t = eth.bits) →
      ∀ e ∈ delivered Event.evtype bootSubscriptions object s.obj.postoffice, Filed eth e := by
    intro object eth heth hsub e he
    obtain ⟨he, hs⟩ := mem_delivered.mp he
    exact filed_of_evtype heth (h.postoffice e he) (hsub _ hs)
  have happend : ∀ {eth : SigTypes} {es fs : List Event}, (∀ e ∈ es, Filed eth e) →
      (∀ e ∈ fs, Filed eth e) → ∀ e ∈ es ++ fs, Filed eth e := by
    intro eth es fs hes hfs e he
    exact (List.mem_append.mp he).elim (hes e) (hfs e)
  refine ⟨h.subscriptions, nofun, happend h.mainevents ?_, h.eventTemp,
    happend h.sweep (hfiled .sweep _ (by decide) (by simp [bootSubscriptions])),
    happend h.servo (hfiled .servo _ (by decide) (by simp [bootSubscriptions])),
    happend h.monitor (hfiled .monitor _ (by decide) (by simp [bootSubscriptions])),
    h.ledger.of_count fun a => ?_⟩
  · intro e he
    obtain ⟨he, hs⟩ := mem_delivered.mp he
    have hty : e.evtype = SigTypes.ctrlEthSig.bits ∨ e.evtype = SigTypes.alarmSig.bits := by
      simpa [bootSubscriptions] using hs
    rcases hty with hty | hty
    · exact filed_of_evtype (by decide) (h.postoffice e he) hty
    · refine .own ?_
      rintro ⟨sig, hsig, hn⟩
      rw [hty] at hn
      obtain rfl := SigTypes.bits_inj.mp hn
      exact absurd hsig (by decide)
  · have := count_delivered s.obj.postoffice a
    simp only [held, settled, extend, letters_append, letters_nil, List.count_append,
      List.count_nil]
    omega

/-! ## The main loop -/

lemma takeEvent_cons {s : KernelCtx F} {e : Event} {rest : List Event}
    (h : s.obj.mainevents = e :: rest) : ∃ state, takeEvent s = { s with
      obj.eventTemp := e, obj.mainevents := rest, obj.ctrlState := state } := by
  rw [takeEvent, h]
  dsimp only
  split_ifs <;> exact ⟨_, rfl⟩

/-- An event is taken while `event_temp` announces nothing. -/
lemma owned_takeEvent {s : KernelCtx F} (h : Owned s)
    (hC : s.obj.mainevents ≠ [] → s.obj.eventTemp.evtype ≠ SigTypes.ctrlEthSig.bits) :
    Owned (takeEvent s) := by
  cases hm : s.obj.mainevents with
  | nil =>
      rw [takeEvent, hm]
      exact h
  | cons e rest =>
      obtain ⟨state, ht⟩ := takeEvent_cons hm
      have hmain := hm ▸ h.mainevents
      have htemp : letters [s.obj.eventTemp] = [] :=
        h.eventTemp.letters_of_ne (hC (by rw [hm]; exact nofun))
      rw [ht]
      refine ⟨h.subscriptions, h.postoffice, fun f hf => hmain f (List.mem_cons_of_mem _ hf),
        hmain e List.mem_cons_self, h.sweep, h.servo, h.monitor, h.ledger.of_count fun a => ?_⟩
      have hsplit : letters (e :: rest) = letters [e] ++ letters rest := letters_append [e] rest
      simp only [held, hm, htemp, hsplit, List.count_append, List.count_nil]
      omega

/-- An event is taken while `event_temp` announces a message. -/
lemma takeEvent_loses {s : KernelCtx F} (h : Owned s) (hne : s.obj.mainevents ≠ [])
    (hty : s.obj.eventTemp.evtype = SigTypes.ctrlEthSig.bits) :
    ¬ Exact (takeEvent s).world.heap.live (held (takeEvent s)) := by
  obtain ⟨e, rest, hm⟩ := List.exists_cons_of_ne_nil hne
  obtain ⟨state, ht⟩ := takeEvent_cons hm
  obtain ⟨a, ha⟩ := h.eventTemp.letters_of_eq (by decide) hty
  rw [ht]
  refine Ledger.not_exact_of_loss (a := a) (h.ledger.of_count fun b => ?_)
  have hsplit : letters (e :: rest) = letters [e] ++ letters rest := letters_append [e] rest
  have hcons : ∀ xs : List ℕ, a :: xs = [a] ++ xs := fun _ => rfl
  rw [hcons]
  simp only [held, hm, ha, hsplit, List.count_append]
  omega

lemma control_idle [DoubleOps F] {s : KernelCtx F} (h : s.obj.ctrlState = .idle) :
    Passed (takeEvent s) (control s) ∧
      (control s).obj.postoffice = (takeEvent s).obj.postoffice ∧
      (control s).world.heap = (takeEvent s).world.heap := by
  rw [control, h]
  exact ⟨by constructor <;> rfl, rfl, rfl⟩

lemma control_busy [DoubleOps F] {s : KernelCtx F} (h : s.obj.ctrlState ≠ .idle) :
    Passed s (control s) ∧ (control s).obj.postoffice = s.obj.postoffice ∧
      (control s).world.heap = s.world.heap := by
  rw [control]
  split
  · exact ⟨by constructor <;> rfl, rfl, rfl⟩
  · case h_2 hi => exact absurd hi h
  · dsimp only
    split <;> exact ⟨by constructor <;> rfl, rfl, rfl⟩
  · exact ⟨by constructor <;> rfl, rfl, rfl⟩
  · exact ⟨by constructor <;> rfl, rfl, rfl⟩

/-! ## Runs -/

variable [DoubleOps F]

/-- **An orderly step keeps the books.** -/
theorem owned_step {s : KernelCtx F} {l : Label} (h : Owned s) (hC : Orderly s l) :
    Yields Owned Fault.Undefined (step s l) := by
  cases l with
  | gate m => exact owned_gate h hC
  | mail =>
      obtain ⟨taken, rest, harr, hok⟩ :=
        verifymail_delivers bootSubscriptions_low h.subscriptions []
      obtain ⟨rfl, rfl⟩ := List.append_eq_nil_iff.mp harr.symm
      rw [step, hok, List.flatten_nil, List.append_nil]
      exact owned_mail h
  | sweepPass => exact owned_sweepPass h
  | servoPass => exact owned_servoPass h
  | monitorPass => exact owned_monitorPass h
  | control =>
      by_cases hi : s.obj.ctrlState = .idle
      · obtain ⟨hk, hpost, hheap⟩ := control_idle hi
        exact (owned_takeEvent h (hC hi)).passed hk hpost hheap
      · obtain ⟨hk, hpost, hheap⟩ := control_busy hi
        exact h.passed hk hpost hheap
  | pit => exact owned_pit h
  | tach => exact h.withServo (Servo.serviceTach_aside _ _)
  | adc value => exact h.passed (by constructor <;> rfl) rfl rfl

/-- A step that is not orderly unbalances them. -/
lemma not_exact_of_disorder {s : KernelCtx F} {l : Label} (h : Owned s) (hC : ¬ Orderly s l) :
    ∃ t, step s l = .ok t ∧ ¬ Exact t.world.heap.live (held t) := by
  cases l with
  | gate m =>
      rw [Orderly, not_or, not_not] at hC
      exact ⟨_, rfl, gate_leaks h hC.1 hC.2⟩
  | control =>
      have hC : ¬ (s.obj.ctrlState = .idle → s.obj.mainevents ≠ [] →
        s.obj.eventTemp.evtype ≠ SigTypes.ctrlEthSig.bits) := hC
      simp only [Classical.not_imp, not_not] at hC
      obtain ⟨hi, hne, hty⟩ := hC
      obtain ⟨hk, hpost, hheap⟩ := control_idle hi
      have hheld : held (control s) = held (takeEvent s) := by
        simp only [held, hpost, hk.mainevents, hk.eventTemp, hk.sweep, hk.servo, hk.monitor]
      refine ⟨_, rfl, ?_⟩
      rw [hheld, hheap]
      exact takeEvent_loses h hne hty
  | _ => exact absurd trivial hC

/-- At the start no message object is alive, and none is announced. -/
lemma boot_owned (raw : Kernel F) (w : World F) : Owned (boot raw w) where
  subscriptions := rfl
  postoffice := nofun
  mainevents := nofun
  eventTemp := .own (show ¬ IsEth ⟨0, 0, .null⟩ by decide)
  sweep := by
    have h : (boot raw w).obj.sweep.events = [.of .sweepTickSig 1 (.map 2000)] := rfl
    rw [h]
    intro e he
    rw [List.mem_singleton.mp he]
    exact .own (Sweep.own_not_isEth ⟨_, Or.inl rfl⟩)
  servo := by
    have h : (boot raw w).obj.servo.events = [.of .servoTickSig 1 (.map raw.servo.sweepmapptr)] := rfl
    rw [h]
    intro e he
    rw [List.mem_singleton.mp he]
    exact .own (by simp [IsEth, ethSigs])
  monitor := nofun
  ledger := by
    intro a
    rfl

/-- **The books of the message objects.** -/
theorem messages_owned_iff (raw : Kernel F) (w : World F) (labels : List Label) :
    (AllStates step (fun s => Exact s.world.heap.live (held s)) (boot raw w) labels ∧
        ∀ x, run step (boot raw w) labels = .error x → x.Undefined) ↔
      AllSteps step Orderly (boot raw w) labels := by
  have hiff : AllStates step (fun s => Exact s.world.heap.live (held s)) (boot raw w) labels ↔
      AllSteps step Orderly (boot raw w) labels :=
    allStates_iff_allSteps (I := Owned) (fun s h => h.ledger.exact)
      (fun s l t h hC ht => (owned_step h hC).ok ht) (fun s l h hC => not_exact_of_disorder h hC)
      (boot_owned raw w)
  constructor
  · exact fun h => hiff.mp h.1
  · intro hC
    have hrun := run_yields (fun s l h hC => owned_step h hC) (boot_owned raw w) hC
    exact ⟨hiff.mpr hC, fun x hx => hrun.error hx⟩

/-- A message for destination 9. -/
def nobody : AntaresMsg := .compose Comands.sweepEnable.code 1 9 ""

/-- One turn of the main loop with it: its object is alive, and no event announces it. -/
theorem nobody_leaks : ∃ s, run step (boot blank .blank) (mainLoop [nobody]) = .ok s ∧
    s.world.heap.live 0 = true ∧ held s = [] := ⟨_, rfl, rfl, rfl⟩

end Lgt8.Kernel

import Mathlib.Tactic
import Lgt8.Library.Routing
import Lgt8.Kernel.Model

/-!
# The post office delivers

A subscription packs object and signal into one `int`; as long as the signal fits the low half, both
can be read back (`subscription_signal`, `subscription_object`).  So the inner loop of `verifymail`
hands an event to each of its subscribers, the outer loop ends although interrupts may post while it
runs, and what each queue has gained by then is what publish and subscribe asks for.

* **`verifymail_delivers`** — for every subscription list, every content of the post office and
  every arrival during the loop.
* **`ethergate_posts`** — the messages the gate accepts are stored in turn and posted in turn.
* **`post_office_delivers`** — both together, and what follows for the boot subscriptions.
-/

namespace Lgt8.Kernel

open Library

variable {F : Type}

/-! ## Subscriptions -/

lemma signal_low {signal : BitVec 32} (h : signal.toNat < 2 ^ 16) :
    signal &&& 0x0000ffff#32 = signal := by
  apply BitVec.eq_of_toNat_eq
  have hm : (0x0000ffff#32).toNat = 2 ^ 16 - 1 := rfl
  rw [BitVec.toNat_and, hm, Nat.and_two_pow_sub_one_eq_mod, Nat.mod_eq_of_lt h]

lemma subscription_signal (object : ObjTypes) {signal : BitVec 32} (h : signal.toNat < 2 ^ 16) :
    subscription object signal &&& 0x0000ffff#32 = signal := by
  have hobj : object.bits &&& 0x0000ffff#32 = 0#32 := by
    cases object <;> decide
  rw [subscription, BitVec.and_or_distrib_right, hobj, signal_low h, BitVec.zero_or]

lemma subscription_object (object : ObjTypes) {signal : BitVec 32} (h : signal.toNat < 2 ^ 16) :
    subscription object signal &&& 0xffff0000#32 = object.bits := by
  have hobj : object.bits &&& 0xffff0000#32 = object.bits := by
    cases object <;> decide
  have hsig : signal &&& 0xffff0000#32 = 0#32 := by
    have hm : 0x0000ffff#32 &&& 0xffff0000#32 = 0#32 := by decide
    rw [← signal_low h, BitVec.and_assoc, hm, BitVec.and_zero]
  rw [subscription, BitVec.and_or_distrib_right, hobj, hsig, BitVec.or_zero]

lemma bits_inj {a b : ObjTypes} : a.bits = b.bits ↔ a = b := by
  constructor
  · cases a <;> cases b <;> first | (intro; rfl) | (intro h; exact absurd h (by decide))
  · rintro rfl
    rfl

/-- The subscriptions of `subs`, made in order. -/
def subscribed (subs : List (ObjTypes × BitVec 32)) (s : KernelCtx F) : KernelCtx F :=
  subs.foldl (fun s p => subscribe p.1 p.2 s) s

lemma subscribed_eq (subs : List (ObjTypes × BitVec 32)) (s : KernelCtx F) :
    subscribed subs s = { s with
      obj.subscriptions := s.obj.subscriptions ++ subs.map fun p => subscription p.1 p.2 } := by
  induction subs generalizing s with
  | nil => simp [subscribed]
  | cons p subs ih =>
      have h : subscribed (p :: subs) s = subscribed subs (subscribe p.1 p.2 s) := rfl
      rw [h, ih]
      simp [subscribe]

/-! ## One event -/

/-- The kernel with `q object` appended to the queue of each object that has one. -/
def extend (q : ObjTypes → List Event) (s : KernelCtx F) : KernelCtx F :=
  { s with
    obj.mainevents := s.obj.mainevents ++ q .main
    obj.sweep.events := s.obj.sweep.events ++ q .sweep
    obj.servo.events := s.obj.servo.events ++ q .servo
    obj.monitor.events := s.obj.monitor.events ++ q .monitor }

lemma extend_nil (s : KernelCtx F) : extend (fun _ => []) s = s := by
  simp [extend]

lemma extend_extend (q r : ObjTypes → List Event) (s : KernelCtx F) :
    extend r (extend q s) = extend (fun k => q k ++ r k) s := by
  simp [extend]

/-- The inner loop on one subscription. -/
lemma deliver_eq (evt : Event) (s : KernelCtx F) (p : ObjTypes × BitVec 32)
    (h : p.2.toNat < 2 ^ 16) :
    deliver evt s (subscription p.1 p.2)
      = extend (fun k => if p = (k, evt.evtype) then [evt] else []) s := by
  obtain ⟨object, signal⟩ := p
  rw [deliver, subscription_signal object h, subscription_object object h]
  by_cases hs : signal = evt.evtype
  · subst hs
    rw [if_pos rfl]
    simp only [bits_inj, Prod.mk.injEq, and_true]
    cases object <;> simp [extend, withSweep, withServo, withMonitor, Sweep.pushEvent,
      Servo.pushEvent, Monitor.pushEvent]
  · rw [if_neg hs]
    simp [hs, extend_nil]

/-- **The inner loop** hands the event to each of its subscribers, once per subscription. -/
lemma deliver_all (evt : Event) (subs : List (ObjTypes × BitVec 32))
    (h : ∀ p ∈ subs, p.2.toNat < 2 ^ 16) (s : KernelCtx F) :
    (subs.map fun p => subscription p.1 p.2).foldl (deliver evt) s
      = extend (fun k => List.replicate (subs.count (k, evt.evtype)) evt) s := by
  induction subs generalizing s with
  | nil => simp [extend_nil]
  | cons p subs ih =>
      rw [List.map_cons, List.foldl_cons, deliver_eq evt s p (h p (by simp)),
        ih (fun q hq => h q (by simp [hq])), extend_extend]
      congr 1
      funext k
      by_cases hp : p = (k, evt.evtype)
      · rw [if_pos hp, hp, List.count_cons_self, List.replicate_succ]
        rfl
      · rw [if_neg hp, List.count_cons_of_ne hp]
        rfl

/-! ## The loop -/

/-- The kernel once the events `es` have been delivered and the post office is empty. -/
def settled (subs : List (ObjTypes × BitVec 32)) (es : List Event) (s : KernelCtx F) :
    KernelCtx F :=
  { extend (fun k => delivered Event.evtype subs k es) s with obj.postoffice := [] }

lemma publish_all (es : List Event) (s : KernelCtx F) :
    es.foldl (fun s evt => publish evt s) s
      = { s with obj.postoffice := s.obj.postoffice ++ es } := by
  induction es generalizing s with
  | nil => simp
  | cons e es ih =>
      rw [List.foldl_cons, ih]
      simp [publish]

/-- One turn of the outer loop, and what is posted behind it. -/
lemma mailTurn_eq {subs : List (ObjTypes × BitVec 32)} (h : ∀ p ∈ subs, p.2.toNat < 2 ^ 16)
    {s : KernelCtx F} (hs : s.obj.subscriptions = subs.map fun p => subscription p.1 p.2)
    {evt : Event} {rest : List Event} (he : s.obj.postoffice = evt :: rest) :
    mailTurn s = { extend (fun k => delivered Event.evtype subs k [evt]) s with
      obj.postoffice := rest } := by
  rw [mailTurn, he]
  dsimp only
  rw [hs, deliver_all evt subs h]
  simp only [delivered_singleton]
  simp [extend, he]

lemma mailNext_eq {subs : List (ObjTypes × BitVec 32)} (h : ∀ p ∈ subs, p.2.toNat < 2 ^ 16)
    {s : KernelCtx F} (hs : s.obj.subscriptions = subs.map fun p => subscription p.1 p.2)
    {evt : Event} {rest : List Event} (he : s.obj.postoffice = evt :: rest)
    (arrivals : List (List Event)) :
    mailNext (s, arrivals) = ({ extend (fun k => delivered Event.evtype subs k [evt]) s with
      obj.postoffice := rest ++ arrivals.headD [] }, arrivals.tail) := by
  rw [mailNext, publish_all, mailTurn_eq h hs he]

/-- What is delivered first and what is delivered later. -/
lemma settled_extend (subs : List (ObjTypes × BitVec 32)) (es fs gs : List Event)
    (s : KernelCtx F) :
    settled subs fs { extend (fun k => delivered Event.evtype subs k es) s with
      obj.postoffice := gs } = settled subs (es ++ fs) s := by
  simp [settled, extend, delivered_append]

lemma settled_nil (subs : List (ObjTypes × BitVec 32)) {s : KernelCtx F}
    (he : s.obj.postoffice = []) : settled subs [] s = s := by
  have h : settled subs [] s = { s with obj.postoffice := [] } := by
    simp [settled, extend]
  rw [h, ← he]

/-- The loop, with enough turns left. -/
lemma drain_delivers {subs : List (ObjTypes × BitVec 32)} (h : ∀ p ∈ subs, p.2.toNat < 2 ^ 16)
    (n : ℕ) (s : KernelCtx F) (arrivals : List (List Event))
    (hs : s.obj.subscriptions = subs.map fun p => subscription p.1 p.2)
    (hn : s.obj.postoffice.length + arrivals.flatten.length ≤ n) :
    ∃ taken rest, arrivals = taken ++ rest ∧
      drain (ε := Fault) (fun p => !p.1.obj.postoffice.isEmpty) (fun p => .ok (mailNext p)) n
        (s, arrivals) = .ok (settled subs (s.obj.postoffice ++ taken.flatten) s, rest) := by
  induction n generalizing s arrivals with
  | zero =>
      have he : s.obj.postoffice = [] := List.length_eq_zero_iff.mp (by omega)
      exact ⟨[], arrivals, rfl, by rw [he, List.flatten_nil, List.nil_append, settled_nil subs he]; rfl⟩
  | succ n ih =>
      cases he : s.obj.postoffice with
      | nil =>
          refine ⟨[], arrivals, rfl, ?_⟩
          rw [drain_of_not_pending (by simp [he]), List.flatten_nil, List.nil_append,
            settled_nil subs he]
      | cons evt rest =>
          have hnext := mailNext_eq h hs he arrivals
          have hlen : (rest ++ arrivals.headD []).length + arrivals.tail.flatten.length ≤ n := by
            rw [he] at hn
            cases arrivals with
            | nil => simpa using hn
            | cons now later =>
                simp only [List.length_cons, List.flatten_cons, List.length_append,
                  List.headD_cons, List.tail_cons] at hn ⊢
                omega
          obtain ⟨taken, left, harr, hd⟩ := ih
            { extend (fun k => delivered Event.evtype subs k [evt]) s with
              obj.postoffice := rest ++ arrivals.headD [] } arrivals.tail hs hlen
          rw [drain_succ_of_pending (by simp [he]) (by rw [hnext]), hd, settled_extend]
          cases arrivals with
          | nil =>
              obtain ⟨rfl, rfl⟩ := List.append_eq_nil_iff.mp harr.symm
              exact ⟨[], [], rfl, by simp⟩
          | cons now later =>
              refine ⟨now :: taken, left, by rw [List.cons_append]; exact congrArg _ harr, ?_⟩
              simp

/-- **`verifymail` delivers.**  For every subscription list whose signals fit the low half, every
content of the post office, and every arrival while the loop runs, the loop ends with the post
office empty; each queue has gained what publish and subscribe asks for, of the events there at
first and those that arrived while it ran, and nothing else has changed. -/
theorem verifymail_delivers {subs : List (ObjTypes × BitVec 32)}
    (h : ∀ p ∈ subs, p.2.toNat < 2 ^ 16) {s : KernelCtx F}
    (hs : s.obj.subscriptions = subs.map fun p => subscription p.1 p.2)
    (arrivals : List (List Event)) :
    ∃ taken rest, arrivals = taken ++ rest ∧ verifymail arrivals s
      = .ok (settled subs (s.obj.postoffice ++ taken.flatten) s, rest) :=
  drain_delivers h _ s arrivals hs le_rfl

/-! ## The gate -/

/-- The messages that are more than callback requests, with the addresses they are stored at. -/
def stored (next : ℕ) (ms : List AntaresMsg) : List (AntaresMsg × ℕ) :=
  (ms.filter fun m => m.cmd ≠ Comands.callbackReq.code).zipIdx next

/-- The events posted for them. -/
def posted (next : ℕ) (ms : List AntaresMsg) : List Event :=
  (stored next ms).filterMap fun p => (destSig p.1.dest).map fun sig => .of sig 1 (.msg p.2)

/-- The kernel after the messages `ms` went through the gate. -/
def gated (ms : List AntaresMsg) (s : KernelCtx F) : KernelCtx F :=
  ms.foldl (fun s m => (ethergate m s).2) s

lemma stored_callback {m : AntaresMsg} (hm : m.cmd = Comands.callbackReq.code) (next : ℕ)
    (ms : List AntaresMsg) : stored next (m :: ms) = stored next ms := by
  rw [stored, List.filter_cons_of_neg (by simpa using hm)]
  rfl

lemma stored_cons {m : AntaresMsg} (hm : m.cmd ≠ Comands.callbackReq.code) (next : ℕ)
    (ms : List AntaresMsg) : stored next (m :: ms) = (m, next) :: stored (next + 1) ms := by
  rw [stored, List.filter_cons_of_pos (by simpa using hm), List.zipIdx_cons]
  rfl

/-- What no message through the gate touches. -/
structure Passed (s t : KernelCtx F) : Prop where
  subscriptions : t.obj.subscriptions = s.obj.subscriptions
  mainevents : t.obj.mainevents = s.obj.mainevents
  eventTemp : t.obj.eventTemp = s.obj.eventTemp
  sweep : t.obj.sweep = s.obj.sweep
  servo : t.obj.servo = s.obj.servo
  monitor : t.obj.monitor = s.obj.monitor

lemma Passed.trans {s t u : KernelCtx F} (h : Passed s t) (h' : Passed t u) : Passed s u where
  subscriptions := h'.subscriptions.trans h.subscriptions
  mainevents := h'.mainevents.trans h.mainevents
  eventTemp := h'.eventTemp.trans h.eventTemp
  sweep := h'.sweep.trans h.sweep
  servo := h'.servo.trans h.servo
  monitor := h'.monitor.trans h.monitor

/-- A callback request posts nothing and stores nothing. -/
lemma ethergate_callback {m : AntaresMsg} (hm : m.cmd = Comands.callbackReq.code)
    (s : KernelCtx F) :
    (ethergate m s).2.obj.postoffice = s.obj.postoffice ∧
      (ethergate m s).2.world.heap = s.world.heap ∧ Passed s (ethergate m s).2 := by
  rw [ethergate, if_pos hm]
  split <;> exact ⟨rfl, rfl, by constructor <;> rfl⟩

/-- Any other message is stored, and posted if its destination has a signal. -/
lemma ethergate_stores {m : AntaresMsg} (hm : m.cmd ≠ Comands.callbackReq.code)
    (s : KernelCtx F) :
    (ethergate m s).2.obj.postoffice = s.obj.postoffice
        ++ ((destSig m.dest).map fun sig => Event.of sig 1 (.msg s.world.heap.next)).toList ∧
      (ethergate m s).2.world.heap = s.world.heap.alloc m ∧ Passed s (ethergate m s).2 := by
  rw [ethergate, if_neg hm]
  cases destSig m.dest with
  | none => exact ⟨(List.append_nil _).symm, rfl, by constructor <;> rfl⟩
  | some sig => exact ⟨rfl, rfl, by constructor <;> rfl⟩

/-- **The gate stores and posts in turn.** -/
theorem ethergate_posts (ms : List AntaresMsg) (s : KernelCtx F) :
    (gated ms s).obj.postoffice = s.obj.postoffice ++ posted s.world.heap.next ms ∧
      (∀ p ∈ stored s.world.heap.next ms, (gated ms s).world.heap.cell p.2 = some p.1) ∧
      (∀ a < s.world.heap.next, (gated ms s).world.heap.cell a = s.world.heap.cell a) ∧
      Passed s (gated ms s) := by
  induction ms generalizing s with
  | nil => exact ⟨(List.append_nil _).symm, nofun, fun _ _ => rfl, by constructor <;> rfl⟩
  | cons m ms ih =>
      have hgate : gated (m :: ms) s = gated ms (ethergate m s).2 := rfl
      rw [hgate]
      obtain ⟨hpost, hnew, hold, hrest⟩ := ih (ethergate m s).2
      by_cases hm : m.cmd = Comands.callbackReq.code
      · obtain ⟨hp, hh, hk⟩ := ethergate_callback hm s
        rw [hh] at hpost hnew hold
        rw [posted, stored_callback hm, ← hp]
        exact ⟨hpost, hnew, hold, hk.trans hrest⟩
      · obtain ⟨hp, hh, hk⟩ := ethergate_stores hm s
        rw [hh, Heap.alloc_next] at hpost hnew hold
        rw [posted, stored_cons hm]
        refine ⟨?_, ?_, ?_, hk.trans hrest⟩
        · rw [hpost, hp, List.append_assoc]
          congr 1
          cases h : destSig m.dest with
          | none => rw [List.filterMap_cons_none (by simp [h])]; rfl
          | some sig => rw [List.filterMap_cons_some (by rw [h]; rfl)]; rfl
        · intro p hp
          rcases List.mem_cons.mp hp with rfl | hp
          · rw [hold _ (Nat.lt_succ_self _)]
            exact Heap.alloc_cell_self _ _
          · exact hnew p hp
        · intro a ha
          rw [hold a (Nat.lt_succ_of_lt ha)]
          exact Heap.alloc_cell_of_ne _ _ ha.ne

/-! ## The boot subscriptions -/

/-- The queue of an object; the last two have none. -/
def queue (object : ObjTypes) (s : KernelCtx F) : List Event :=
  match object with
  | .main => s.obj.mainevents
  | .sweep => s.obj.sweep.events
  | .servo => s.obj.servo.events
  | .monitor => s.obj.monitor.events
  | .usb => []
  | .micro => []

lemma Passed.queue {s t : KernelCtx F} (h : Passed s t) (object : ObjTypes) :
    Kernel.queue object t = Kernel.queue object s := by
  cases object with
  | main => exact h.mainevents
  | sweep => exact congrArg Sweep.events h.sweep
  | servo => exact congrArg Servo.events h.servo
  | monitor => exact congrArg Monitor.events h.monitor
  | usb => rfl
  | micro => rfl

/-- The drivers' destination bytes, and the signals their messages are posted under. -/
def routes : List (UInt8 × ObjTypes × SigTypes) :=
  [(2, .sweep, .sweepEthSig), (3, .servo, .servoEthSig), (4, .monitor, .monitorEthSig)]

lemma bootSubscriptions_low : ∀ p ∈ bootSubscriptions, p.2.toNat < 2 ^ 16 := by
  decide

/-- Each driver is subscribed to its own signal, once, and to no other. -/
lemma bootSubscriptions_count {r : UInt8 × ObjTypes × SigTypes} (hr : r ∈ routes)
    (t : BitVec 32) :
    bootSubscriptions.count (r.2.1, t) = if t = r.2.2.bits then 1 else 0 := by
  have hmem : (r.2.1, t) ∈ bootSubscriptions → t = r.2.2.bits := by
    simp only [routes, List.mem_cons, List.not_mem_nil, or_false] at hr
    rcases hr with rfl | rfl | rfl <;> simp [bootSubscriptions]
  by_cases ht : t = r.2.2.bits
  · subst ht
    rw [if_pos rfl]
    simp only [routes, List.mem_cons, List.not_mem_nil, or_false] at hr
    rcases hr with rfl | rfl | rfl <;> decide
  · rw [if_neg ht, List.count_eq_zero]
    exact fun hn => ht (hmem hn)

lemma destSig_route {r : UInt8 × ObjTypes × SigTypes} (hr : r ∈ routes) (dest : UInt8) :
    destSig dest = some r.2.2 ↔ dest = r.1 := by
  simp only [routes, List.mem_cons, List.not_mem_nil, or_false] at hr
  rw [destSig]
  rcases hr with rfl | rfl | rfl <;> split_ifs <;> simp_all

/-- Of the events posted, those under a driver's signal are those of the messages for it. -/
lemma posted_route {r : UInt8 × ObjTypes × SigTypes} (hr : r ∈ routes) (next : ℕ)
    (ms : List AntaresMsg) :
    (posted next ms).filter (fun e => decide (e.evtype = r.2.2.bits))
      = ((stored next ms).filter fun p => decide (p.1.dest = r.1)).map fun p =>
          .of r.2.2 1 (.msg p.2) := by
  rw [posted]
  induction stored next ms with
  | nil => rfl
  | cons p ps ih =>
      have hiff := destSig_route hr p.1.dest
      cases h : destSig p.1.dest with
      | none =>
          have hne : p.1.dest ≠ r.1 := fun hd => by rw [hiff.mpr hd] at h; cases h
          rw [List.filterMap_cons_none (by simp [h]), List.filter_cons_of_neg (by simpa using hne), ih]
      | some sig =>
          rw [List.filterMap_cons_some (by rw [h]; rfl)]
          by_cases hd : p.1.dest = r.1
          · obtain rfl : sig = r.2.2 := by simpa [h] using hiff.mpr hd
            rw [List.filter_cons_of_pos (by simp), List.filter_cons_of_pos (by simpa using hd), ih]
            rfl
          · have hne : sig ≠ r.2.2 := fun hs => hd (hiff.mp (by rw [h, hs]))
            rw [List.filter_cons_of_neg (by simpa using hne),
              List.filter_cons_of_neg (by simpa using hd), ih]

lemma queue_settled {r : UInt8 × ObjTypes × SigTypes} (hr : r ∈ routes) (es : List Event)
    (s : KernelCtx F) :
    queue r.2.1 (settled bootSubscriptions es s)
      = queue r.2.1 s ++ es.filter fun e => decide (e.evtype = r.2.2.bits) := by
  have hq : queue r.2.1 (settled bootSubscriptions es s)
      = queue r.2.1 s ++ delivered Event.evtype bootSubscriptions r.2.1 es := by
    simp only [routes, List.mem_cons, List.not_mem_nil, or_false] at hr
    rcases hr with rfl | rfl | rfl <;> rfl
  rw [hq, delivered_eq_filter (P := fun u => u = r.2.2.bits) (bootSubscriptions_count hr)]

/-- **From the gate to the drivers.**  Of the messages that go through the gate before a
`verifymail`, each driver's queue gains exactly those for its destination, once each and in the
order they came, behind what the post office held; the objects still hold the messages. -/
theorem gate_delivers {s : KernelCtx F}
    (hs : s.obj.subscriptions = bootSubscriptions.map fun p => subscription p.1 p.2)
    (ms : List AntaresMsg) (arrivals : List (List Event)) :
    ∃ taken rest t, arrivals = taken ++ rest ∧ verifymail arrivals (gated ms s) = .ok (t, rest) ∧
      t.obj.postoffice = [] ∧
      (∀ r ∈ routes, queue r.2.1 t = queue r.2.1 s
        ++ s.obj.postoffice.filter (fun e => decide (e.evtype = r.2.2.bits))
        ++ ((stored s.world.heap.next ms).filter fun p => decide (p.1.dest = r.1)).map
            (fun p => .of r.2.2 1 (.msg p.2))
        ++ taken.flatten.filter fun e => decide (e.evtype = r.2.2.bits)) ∧
      ∀ p ∈ stored s.world.heap.next ms, t.world.heap.cell p.2 = some p.1 := by
  obtain ⟨hpost, hnew, _, hpassed⟩ := ethergate_posts ms s
  obtain ⟨taken, rest, harr, hok⟩ :=
    verifymail_delivers bootSubscriptions_low (hpassed.subscriptions.trans hs) arrivals
  refine ⟨taken, rest, _, harr, hok, rfl, fun r hr => ?_, hnew⟩
  have hqueue : queue r.2.1 (gated ms s) = queue r.2.1 s := hpassed.queue r.2.1
  rw [queue_settled hr, hpost, List.filter_append, List.filter_append, posted_route hr, hqueue,
    List.append_assoc, List.append_assoc, List.append_assoc]

/-- **The post office delivers**: in general, with any list of subscriptions made from none, and
with the boot subscriptions the messages that came through the gate. -/
theorem post_office_delivers :
    (∀ (subs : List (ObjTypes × BitVec 32)) (s : KernelCtx F) (arrivals : List (List Event)),
      (∀ p ∈ subs, p.2.toNat < 2 ^ 16) → s.obj.subscriptions = [] →
      ∃ taken rest, arrivals = taken ++ rest ∧ verifymail arrivals (subscribed subs s)
        = .ok (settled subs (s.obj.postoffice ++ taken.flatten) (subscribed subs s), rest)) ∧
    ∀ (s : KernelCtx F) (ms : List AntaresMsg) (arrivals : List (List Event)),
      s.obj.subscriptions = bootSubscriptions.map (fun p => subscription p.1 p.2) →
      ∃ taken rest t, arrivals = taken ++ rest ∧
        verifymail arrivals (gated ms s) = .ok (t, rest) ∧ t.obj.postoffice = [] ∧
        (∀ r ∈ routes, queue r.2.1 t = queue r.2.1 s
          ++ s.obj.postoffice.filter (fun e => decide (e.evtype = r.2.2.bits))
          ++ ((stored s.world.heap.next ms).filter fun p => decide (p.1.dest = r.1)).map
              (fun p => .of r.2.2 1 (.msg p.2))
          ++ taken.flatten.filter fun e => decide (e.evtype = r.2.2.bits)) ∧
        ∀ p ∈ stored s.world.heap.next ms, t.world.heap.cell p.2 = some p.1 := by
  refine ⟨fun subs s arrivals h hs => ?_, fun s ms arrivals hs => gate_delivers hs ms arrivals⟩
  have hsub : (subscribed subs s).obj.subscriptions
      = subs.map fun p => subscription p.1 p.2 := by
    rw [subscribed_eq, hs]
    rfl
  have hpost : (subscribed subs s).obj.postoffice = s.obj.postoffice := by
    rw [subscribed_eq]
  obtain ⟨taken, rest, harr, hok⟩ := verifymail_delivers h hsub arrivals
  exact ⟨taken, rest, harr, by rw [hok, hpost]⟩

/-- A kernel with nothing in it but one posted event. -/
def oneAlarm : KernelCtx ℚ :=
  publish (.of .alarmSig CtrlStates.alarm.code .null) ⟨blank, .blank⟩

/-- A subscription made twice delivers twice, and of a message for each driver each driver gets
its own. -/
theorem post_office_delivers_boot :
    (∃ taken rest, [[]] = taken ++ rest ∧
      verifymail [[]] (subscribed [(.main, SigTypes.alarmSig.bits), (.main, SigTypes.alarmSig.bits)]
          oneAlarm)
        = .ok (settled [(.main, SigTypes.alarmSig.bits), (.main, SigTypes.alarmSig.bits)]
          (oneAlarm.obj.postoffice ++ taken.flatten)
          (subscribed [(.main, SigTypes.alarmSig.bits), (.main, SigTypes.alarmSig.bits)] oneAlarm),
          rest)) ∧
    ∃ taken rest t, [] = taken ++ rest ∧
      verifymail [] (gated [.compose 33 1 2 "", .compose 40 1 3 "", .compose 50 1 4 ""]
        (boot blank .blank)) = .ok (t, rest) ∧ t.obj.postoffice = [] :=
  ⟨post_office_delivers.1 _ oneAlarm [[]] (by decide) rfl,
    let ⟨taken, rest, t, h, hok, hp, _⟩ := post_office_delivers.2 (boot blank .blank)
      [.compose 33 1 2 "", .compose 40 1 3 "", .compose 50 1 4 ""] [] rfl
    ⟨taken, rest, t, h, hok, hp⟩⟩

end Lgt8.Kernel

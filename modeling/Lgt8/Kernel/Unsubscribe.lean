import Mathlib.Tactic
import Lgt8.Library.Erasure
import Lgt8.Kernel.PostOffice

/-!
# Taking subscriptions back

`unsubscribe` erases from the vector while an index runs over it, so the entry behind an erased one
is passed over.  It also looks for `object + signal` where `subscribe` stored `object | signal`,
which is the same as long as the two have no bit in common.

* `unsubscribe` — the function; `Enrol`, `enrolled` — any calls of it and of `subscribe`.
* `verifymail_withholds` — without an entry for it, a signal is not delivered.
* **`unsubscribe_exact_iff`** — when the subscription is gone, and only that;
  `doubled_subscription_stays` is one that is not.
-/

namespace Lgt8.Kernel

open Library

variable {F : Type}

def unsubscribe (object : ObjTypes) (signal : BitVec 32) (s : KernelCtx F) : KernelCtx F :=
  let index := object.bits + signal
  { s with obj.subscriptions := eraseFrom index s.obj.subscriptions 0 }

/-- A call of one of the two. -/
inductive Enrol
  | subscribe (object : ObjTypes) (signal : BitVec 32)
  | unsubscribe (object : ObjTypes) (signal : BitVec 32)

def enrol (s : KernelCtx F) : Enrol → KernelCtx F
  | .subscribe object signal => subscribe object signal s
  | .unsubscribe object signal => unsubscribe object signal s

/-- The calls `cs`, made in order. -/
def enrolled (cs : List Enrol) (s : KernelCtx F) : KernelCtx F := cs.foldl enrol s

/-! ## What is delivered -/

/-- An entry that hands events of `signal` to `object` is the one `subscribe` stores. -/
lemma subscription_of_parts {sub signal : BitVec 32} {object : ObjTypes}
    (hlow : sub &&& 0x0000ffff#32 = signal) (hhigh : sub &&& 0xffff0000#32 = object.bits) :
    sub = subscription object signal := by
  rw [subscription, ← hlow, ← hhigh, ← BitVec.and_or_distrib_left]
  have hall : 0xffff0000#32 ||| 0x0000ffff#32 = BitVec.allOnes 32 := by decide
  rw [hall, BitVec.and_allOnes]

/-- The events `es` were added to the queue, none of them under `signal`. -/
def Spared (object : ObjTypes) (signal : BitVec 32) (s t : KernelCtx F) : Prop :=
  ∃ es, queue object t = queue object s ++ es ∧ ∀ e ∈ es, e.evtype ≠ signal

lemma Spared.of_queue_eq {object : ObjTypes} {signal : BitVec 32} {s t : KernelCtx F}
    (h : queue object t = queue object s) : Spared object signal s t :=
  ⟨[], by rw [h, List.append_nil], nofun⟩

lemma Spared.trans {object : ObjTypes} {signal : BitVec 32} {s t u : KernelCtx F}
    (h : Spared object signal s t) (h' : Spared object signal t u) : Spared object signal s u := by
  obtain ⟨es, hq, he⟩ := h
  obtain ⟨fs, hq', hf⟩ := h'
  refine ⟨es ++ fs, by rw [hq', hq, List.append_assoc], fun e hmem => ?_⟩
  rcases List.mem_append.mp hmem with hmem | hmem
  · exact he e hmem
  · exact hf e hmem

/-- One entry hands its event to the object in its high half. -/
lemma deliver_parts (evt : Event) (s : KernelCtx F) (sub : BitVec 32) :
    deliver evt s sub
      = extend (fun k => if sub &&& 0x0000ffff#32 = evt.evtype ∧ sub &&& 0xffff0000#32 = k.bits
          then [evt] else []) s := by
  rw [deliver]
  by_cases hlow : sub &&& 0x0000ffff#32 = evt.evtype
  · rw [if_pos hlow]
    simp only [hlow, true_and]
    generalize sub &&& 0xffff0000#32 = addr
    by_cases hmain : addr = ObjTypes.main.bits
    · subst hmain
      simp [extend, bits_inj]
    · by_cases hsweep : addr = ObjTypes.sweep.bits
      · subst hsweep
        simp [extend, bits_inj, withSweep, Sweep.pushEvent]
      · by_cases hservo : addr = ObjTypes.servo.bits
        · subst hservo
          simp [extend, bits_inj, withServo, Servo.pushEvent]
        · by_cases hmonitor : addr = ObjTypes.monitor.bits
          · subst hmonitor
            simp [extend, bits_inj, withMonitor, Monitor.pushEvent]
          · simp [extend, hmain, hsweep, hservo, hmonitor]
  · rw [if_neg hlow]
    simp [hlow, extend_nil]

lemma queue_extend (q : ObjTypes → List Event) (object : ObjTypes) (s : KernelCtx F) :
    ∃ es ⊆ q object, queue object (extend q s) = queue object s ++ es := by
  cases object with
  | main => exact ⟨_, List.Subset.refl _, rfl⟩
  | sweep => exact ⟨_, List.Subset.refl _, rfl⟩
  | servo => exact ⟨_, List.Subset.refl _, rfl⟩
  | monitor => exact ⟨_, List.Subset.refl _, rfl⟩
  | usb => exact ⟨[], List.nil_subset _, rfl⟩
  | micro => exact ⟨[], List.nil_subset _, rfl⟩

lemma deliver_spares {object : ObjTypes} {signal sub : BitVec 32}
    (hne : sub ≠ subscription object signal) (evt : Event) (s : KernelCtx F) :
    Spared object signal s (deliver evt s sub) := by
  rw [deliver_parts]
  obtain ⟨es, hes, hq⟩ := queue_extend (fun k => if sub &&& 0x0000ffff#32 = evt.evtype ∧
    sub &&& 0xffff0000#32 = k.bits then [evt] else []) object s
  refine ⟨es, hq, fun e he hsig => hne ?_⟩
  have hmem := hes he
  split_ifs at hmem with hparts
  · rw [List.mem_singleton] at hmem
    rw [← hsig, hmem]
    exact subscription_of_parts hparts.1 hparts.2
  · exact absurd hmem List.not_mem_nil

lemma deliver_subscriptions (evt : Event) (s : KernelCtx F) (sub : BitVec 32) :
    (deliver evt s sub).obj.subscriptions = s.obj.subscriptions := by
  rw [deliver_parts]
  rfl

/-- The inner loop over entries that are not the subscription. -/
lemma deliverAll_spares {object : ObjTypes} {signal : BitVec 32} (evt : Event)
    {subs : List (BitVec 32)} (hsubs : subscription object signal ∉ subs) (s : KernelCtx F) :
    Spared object signal s (subs.foldl (deliver evt) s) ∧
      (subs.foldl (deliver evt) s).obj.subscriptions = s.obj.subscriptions := by
  induction subs generalizing s with
  | nil => exact ⟨.of_queue_eq rfl, rfl⟩
  | cons sub subs ih =>
      rw [List.mem_cons, not_or] at hsubs
      obtain ⟨hq, hs⟩ := ih hsubs.2 (deliver evt s sub)
      exact ⟨(deliver_spares (Ne.symm hsubs.1) evt s).trans hq,
        hs.trans (deliver_subscriptions evt s sub)⟩

/-- One turn of the outer loop, and what is posted behind it. -/
lemma mailNext_spares {object : ObjTypes} {signal : BitVec 32}
    (p : KernelCtx F × List (List Event))
    (hsubs : subscription object signal ∉ p.1.obj.subscriptions) :
    Spared object signal p.1 (mailNext p).1 ∧
      (mailNext p).1.obj.subscriptions = p.1.obj.subscriptions := by
  rw [mailNext, publish_all]
  dsimp only
  rw [mailTurn]
  cases p.1.obj.postoffice with
  | nil => exact ⟨.of_queue_eq (by cases object <;> rfl), rfl⟩
  | cons evt rest =>
      obtain ⟨hq, hs⟩ := deliverAll_spares evt hsubs p.1
      exact ⟨hq.trans (.of_queue_eq (by cases object <;> rfl)), hs⟩

/-- **Without an entry for it a signal is not delivered**, whatever was posted and whatever
interrupts post while the loop runs. -/
theorem verifymail_withholds {object : ObjTypes} {signal : BitVec 32} {s : KernelCtx F}
    (hsubs : subscription object signal ∉ s.obj.subscriptions) (arrivals : List (List Event)) :
    ∃ p, verifymail arrivals s = .ok p ∧ Spared object signal s p.1 := by
  have hloop : Yields (fun p : KernelCtx F × List (List Event) => Spared object signal s p.1 ∧
      subscription object signal ∉ p.1.obj.subscriptions) (fun _ => False)
      (verifymail arrivals s) := by
    refine drain_yields (fun p hp _ => ?_) ⟨.of_queue_eq rfl, hsubs⟩
    obtain ⟨hq, hs⟩ := mailNext_spares p hp.2
    exact ⟨hp.1.trans hq, by rw [hs]; exact hp.2⟩
  cases h : verifymail arrivals s with
  | error x => exact (hloop.error h).elim
  | ok p => exact ⟨p, rfl, (hloop.ok h).1⟩

/-! ## What is erased -/

/-- The entries that `unsubscribe` handles as it should: nowhere two in a row for the subscription.
With a signal that has the object's own bit set, the sum is another number, and neither may be
there. -/
def Retractable (object : ObjTypes) (signal : BitVec 32) (subs : List (BitVec 32)) : Prop :=
  if object.bits &&& signal = 0#32 then Apart (subscription object signal) subs
  else subscription object signal ∉ subs ∧ object.bits + signal ∉ subs

lemma bits_and (object : ObjTypes) (signal : BitVec 32) :
    object.bits &&& signal = object.bits ∨ object.bits &&& signal = 0#32 := by
  have hpow : ∃ i, object.bits = BitVec.twoPow 32 i := by
    cases object with
    | main => exact ⟨16, by decide⟩
    | sweep => exact ⟨17, by decide⟩
    | servo => exact ⟨18, by decide⟩
    | monitor => exact ⟨19, by decide⟩
    | usb => exact ⟨20, by decide⟩
    | micro => exact ⟨21, by decide⟩
  obtain ⟨i, hi⟩ := hpow
  rw [hi, BitVec.and_comm, BitVec.and_twoPow]
  split
  · exact Or.inl rfl
  · exact Or.inr rfl

/-- What `unsubscribe` looks for is what `subscribe` stores. -/
lemma add_eq_subscription_iff (object : ObjTypes) (signal : BitVec 32) :
    object.bits + signal = subscription object signal ↔ object.bits &&& signal = 0#32 := by
  constructor
  · intro h
    rcases bits_and object signal with hall | hzero
    · -- the bit is already there, so the `or` adds nothing and the sum does
      have hor : subscription object signal = signal := by
        rw [subscription]
        refine BitVec.eq_of_getLsbD_eq fun i _ => ?_
        have hbit : (object.bits &&& signal).getLsbD i = object.bits.getLsbD i := by
          rw [hall]
        rw [BitVec.getLsbD_and] at hbit
        rw [BitVec.getLsbD_or, ← hbit]
        cases signal.getLsbD i <;> simp
      have hobj : object.bits = 0#32 := by
        rw [hor] at h
        exact BitVec.add_left_eq_self.mp h
      cases object <;> exact absurd hobj (by decide)
    · exact hzero
  · exact BitVec.add_eq_or_of_and_eq_zero _ _

/-- Signals of the low half, as all of the enumeration are, have no bit in common with an object. -/
theorem retractable_iff_of_low (object : ObjTypes) {signal : BitVec 32} (h : signal.toNat < 2 ^ 16)
    (subs : List (BitVec 32)) :
    Retractable object signal subs ↔ Apart (subscription object signal) subs := by
  have hbits : object.bits &&& signal = 0#32 := by
    have hobj : object.bits &&& 0x0000ffff#32 = 0#32 := by
      cases object <;> decide
    rw [← signal_low h, BitVec.and_comm signal, ← BitVec.and_assoc, hobj, BitVec.zero_and]
  rw [Retractable, if_pos hbits]

/-- The subscription is gone, and the other entries are there in their order. -/
def Retracted (x : BitVec 32) (before after : List (BitVec 32)) : Prop :=
  x ∉ after ∧ after.filter (· ≠ x) = before.filter (· ≠ x)

lemma retracted_iff {x : BitVec 32} {before after : List (BitVec 32)} :
    Retracted x before after ↔ after = before.filter (· ≠ x) := by
  constructor
  · rintro ⟨hgone, hrest⟩
    rw [← hrest, List.filter_eq_self.mpr]
    intro y hy
    simpa using ne_of_mem_of_not_mem hy hgone
  · rintro rfl
    refine ⟨by simp, ?_⟩
    rw [List.filter_filter]
    simp

lemma eraseSkipping_retracted_iff (object : ObjTypes) (signal : BitVec 32)
    (subs : List (BitVec 32)) :
    Retracted (subscription object signal) subs (eraseSkipping (object.bits + signal) subs) ↔
      Retractable object signal subs := by
  rw [Retractable]
  by_cases hbits : object.bits &&& signal = 0#32
  · rw [if_pos hbits, (add_eq_subscription_iff object signal).mpr hbits, retracted_iff,
      eraseSkipping_eq_filter_iff]
  · have hne : subscription object signal ≠ object.bits + signal :=
      fun h => hbits ((add_eq_subscription_iff object signal).mp h.symm)
    rw [if_neg hbits, retracted_iff]
    constructor
    · intro h
      have hsub : subscription object signal ∉ subs := by
        rw [← mem_eraseSkipping_of_ne hne, h]
        simp
      refine ⟨hsub, (eraseSkipping_eq_self_iff _ _).mp (h.trans ?_)⟩
      exact List.filter_eq_self.mpr fun y hy => by simpa using ne_of_mem_of_not_mem hy hsub
    · rintro ⟨hsub, hindex⟩
      rw [(eraseSkipping_eq_self_iff _ _).mpr hindex, List.filter_eq_self.mpr]
      exact fun y hy => by simpa using ne_of_mem_of_not_mem hy hsub

/-- **When `unsubscribe` takes back the subscription, and only that.**  For the list that any calls
of `subscribe` and `unsubscribe` leave, from any list: after `unsubscribe object signal` no entry for
the two is left, all other entries stand in their order, and whatever is posted, a `verifymail` that
follows hands the object no event of the signal, exactly if no two neighbours of the list are both
that entry. -/
theorem unsubscribe_exact_iff (cs : List Enrol) (s₀ : KernelCtx F) (object : ObjTypes)
    (signal : BitVec 32) :
    let s := enrolled cs s₀
    let t := unsubscribe object signal s
    (Retracted (subscription object signal) s.obj.subscriptions t.obj.subscriptions ∧
      ∀ arrivals, ∃ p, verifymail arrivals t = .ok p ∧ Spared object signal t p.1) ↔
      Retractable object signal s.obj.subscriptions := by
  intro s t
  have ht : t.obj.subscriptions
      = eraseSkipping (object.bits + signal) s.obj.subscriptions := eraseFrom_eq _ _
  rw [ht, eraseSkipping_retracted_iff]
  refine ⟨fun h => h.1, fun h => ⟨h, fun arrivals => verifymail_withholds ?_ arrivals⟩⟩
  rw [ht]
  exact ((eraseSkipping_retracted_iff object signal _).mpr h).1

/-- Subscribed twice, it stays once. -/
theorem doubled_subscription_stays :
    let s := enrolled [.subscribe .servo SigTypes.servoEthSig.bits,
      .subscribe .servo SigTypes.servoEthSig.bits] (⟨blank, .blank⟩ : KernelCtx ℚ)
    let t := unsubscribe .servo SigTypes.servoEthSig.bits s
    subscription .servo SigTypes.servoEthSig.bits ∈ t.obj.subscriptions ∧
      ∃ p, verifymail [] (publish (.of .servoEthSig 0 .null) t) = .ok p ∧
        queue .servo p.1 = [.of .servoEthSig 0 .null] := by
  intro s t
  let index := ObjTypes.servo.bits + SigTypes.servoEthSig.bits
  have ht : t = { s with obj.subscriptions := eraseSkipping index s.obj.subscriptions } := by
    rw [← eraseFrom_eq]
    rfl
  rw [ht]
  exact ⟨by decide, _, rfl, by decide⟩

end Lgt8.Kernel

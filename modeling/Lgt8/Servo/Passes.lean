import Mathlib.Tactic
import Lgt8.Firmware.Custody
import Lgt8.Servo.Runs

/-!
# A pass of the servo clears its queue

As with the monitor, no command queues an event or touches a message object
(`serviceMsg_aside`), and neither does an interrupt (`serviceBoard_aside`, `serviceTach_aside`).
-/

namespace Lgt8.Servo

open Library

variable {F : Type}

/-- From `s` to `t` neither the queue nor the message objects have changed. -/
structure Aside (s t : ServoCtx F) : Prop where
  events : t.obj.events = s.obj.events
  heap : t.world.heap = s.world.heap

lemma Aside.refl (s : ServoCtx F) : Aside s s := ⟨rfl, rfl⟩

lemma Aside.trans {s t u : ServoCtx F} (h : Aside s t) (h' : Aside t u) : Aside s u :=
  ⟨h'.events.trans h.events, h'.heap.trans h.heap⟩

lemma fsmTick_aside (s : ServoCtx F) : Aside s (fsmTick s) := by
  rw [fsmTick]
  split <;> exact ⟨rfl, rfl⟩

lemma scanRequest_aside (mes : List UInt8) (s : ServoCtx F) : Aside s (scanRequest mes s) := by
  rw [scanRequest]
  split <;> exact ⟨rfl, rfl⟩

lemma drivePower_aside (b : Bool) (s : ServoCtx F) : Aside s (drivePower b s) := by
  cases b <;> exact ⟨rfl, rfl⟩

lemma updatePwm_aside (s : ServoCtx F) : Aside s (updatePwm s) := by
  rw [updatePwm]
  split <;> exact ⟨rfl, rfl⟩

lemma serviceTach_aside (tick : UInt32) (s : ServoCtx F) : Aside s (serviceTach tick s) := by
  rw [serviceTach]
  dsimp only
  split_ifs <;> exact ⟨rfl, rfl⟩

variable [DoubleOps F]

lemma regulate_aside (s : ServoCtx F) : Aside s (regulate s).2 := by
  rw [regulate]
  split <;> exact ⟨rfl, rfl⟩

lemma updateSpeed_aside (s : ServoCtx F) : Aside s (updateSpeed s) := by
  rw [updateSpeed]
  split
  · exact ⟨(regulate_aside _).events, (regulate_aside _).heap⟩
  · exact ⟨rfl, rfl⟩

/-- A tick touches neither. -/
lemma serviceBoard_aside (s : ServoCtx F) : Aside s (serviceBoard s) := by
  rw [serviceBoard]
  split
  · exact (updatePwm_aside s).trans (updateSpeed_aside _)
  · exact ⟨(updatePwm_aside s).events, (updatePwm_aside s).heap⟩

lemma serviceEnable_aside (arg : UInt8) (mes : List UInt8) (s : ServoCtx F) :
    Aside s (serviceEnable arg mes s) := by
  rw [serviceEnable]
  split
  · exact ⟨((scanRequest_aside mes _).trans (drivePower_aside true _)).events,
      ((scanRequest_aside mes _).trans (drivePower_aside true _)).heap⟩
  · exact ⟨(drivePower_aside false _).events, (drivePower_aside false _).heap⟩

lemma serviceSetpwm_aside (arg : UInt8) (mes : List UInt8) (s : ServoCtx F) :
    Aside s (serviceSetpwm arg mes s) := by
  rw [serviceSetpwm]
  split
  · exact ⟨(scanRequest_aside mes _).events, (scanRequest_aside mes _).heap⟩
  · exact ⟨rfl, rfl⟩

lemma serviceSetspeed_aside (arg : UInt8) (mes : List UInt8) (s : ServoCtx F) :
    Aside s (serviceSetspeed arg mes s) := by
  rw [serviceSetspeed]
  split <;> exact ⟨rfl, rfl⟩

lemma serviceMsg_aside (m : AntaresMsg) (s : ServoCtx F) : Aside s (serviceMsg m s) := by
  rw [serviceMsg]
  split_ifs
  · exact serviceEnable_aside _ _ s
  · exact serviceSetpwm_aside _ _ s
  · exact serviceSetspeed_aside _ _ s
  · exact ⟨rfl, rfl⟩

/-! ## Turns and passes -/

lemma serviceFront_cons {s t : ServoCtx F} {e : Event} {rest : List Event}
    (h : s.obj.events = e :: rest) (ht : serviceEvent e s = .ok t) :
    serviceFront s = .ok (popEvent t) := by
  rw [serviceFront, h]
  dsimp only
  rw [ht]
  rfl

/-- A turn on a message event. -/
lemma serviceFront_msg {s : ServoCtx F} {n : UInt8} {a : ℕ} {rest : List Event} {m : AntaresMsg}
    (h : s.obj.events = .of .servoEthSig n (.msg a) :: rest)
    (live : s.world.heap.cell a = some m) :
    serviceFront s = .ok (popEvent (deleteMsg a (serviceMsg m s))) := by
  refine serviceFront_cons h ?_
  simp [serviceEvent, live]

/-- A turn on any other event. -/
lemma serviceFront_own {s : ServoCtx F} {e : Event} {rest : List Event}
    (h : s.obj.events = e :: rest) (he : ¬ IsEth e) :
    ∃ t, serviceFront s = .ok (popEvent t) ∧ Aside s t := by
  have hne : e.evtype ≠ SigTypes.servoEthSig.bits := fun hty => he ⟨_, by decide, hty⟩
  by_cases hr : e.evtype = SigTypes.servoResetSig.bits
  · exact ⟨_, serviceFront_cons h (by rw [serviceEvent, if_pos hr]), fsmTick_aside s⟩
  by_cases ht : e.evtype = SigTypes.servoTickSig.bits
  · exact ⟨_, serviceFront_cons h (by rw [serviceEvent, if_neg hr, if_neg hne, if_pos ht]),
      fsmTick_aside s⟩
  · exact ⟨_, serviceFront_cons h (by rw [serviceEvent, if_neg hr, if_neg hne, if_neg ht]), .refl s⟩

/-- **A turn of the servo clears the front of its queue.** -/
theorem clears : Clears .servoEthSig (fun s : ServoCtx F => s.obj.events)
    (fun s => s.world.heap) serviceFront where
  msg {s n a rest} h live := by
    obtain ⟨m, hm⟩ := Option.ne_none_iff_exists'.mp live
    have haside := serviceMsg_aside m s
    rw [serviceFront_msg h hm]
    refine ⟨congrArg (Heap.delete · a) haside.heap, ?_⟩
    have hev : (popEvent (deleteMsg a (serviceMsg m s))).obj.events = rest :=
      congrArg List.tail (haside.events.trans h)
    rw [hev]
    exact .refl rest
  own {s e rest} h he := by
    obtain ⟨t, ht, haside⟩ := serviceFront_own h he
    rw [ht]
    have hev : (popEvent t).obj.events = rest := congrArg List.tail (haside.events.trans h)
    refine ⟨haside.heap, ?_⟩
    rw [hev]
    exact .refl rest

/-- **A pass that does not fault leaves an empty queue.** -/
theorem serviceEvents_empties {s t : ServoCtx F} (h : serviceEvents s = .ok t) :
    t.obj.events = [] := by
  refine drain_queue (fun s : ServoCtx F => s.obj.events) (fun s t hs ht => ?_) h
  obtain ⟨e, rest, he⟩ := List.exists_cons_of_ne_nil hs
  obtain ⟨u, hu, rfl⟩ := serviceFront_ok he ht
  cases serviceEvent_serviced hu with
  | @msg a m _ _ _ hu =>
      rw [hu]
      exact congrArg List.tail (serviceMsg_aside m s).events
  | tick _ hu =>
      rw [hu]
      exact congrArg List.tail (fsmTick_aside s).events
  | ignored _ hu => rw [hu]; rfl

end Lgt8.Servo

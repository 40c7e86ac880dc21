import Mathlib.Tactic
import Lgt8.Firmware.Custody
import Lgt8.Monitor.Model

/-!
# A pass of the monitor clears its queue

No command queues an event or touches a message object (`serviceMsg_aside`), so a turn takes the
front event out of the queue, deletes its message if it has one, and does nothing else to either.
-/

namespace Lgt8.Monitor

open Library

variable {F : Type}

/-- From `s` to `t` neither the queue nor the message objects have changed. -/
structure Aside (s t : MonitorCtx F) : Prop where
  events : t.obj.events = s.obj.events
  heap : t.world.heap = s.world.heap

lemma Aside.refl (s : MonitorCtx F) : Aside s s := ⟨rfl, rfl⟩

lemma Aside.trans {s t u : MonitorCtx F} (h : Aside s t) (h' : Aside t u) : Aside s u :=
  ⟨h'.events.trans h.events, h'.heap.trans h.heap⟩

lemma logMessage_aside (text : String) (s : MonitorCtx F) : Aside s (logMessage text s) :=
  ⟨rfl, rfl⟩

lemma setPWM_aside (c v : UInt8) (s : MonitorCtx F) : Aside s (setPWM c v s) :=
  ⟨by rw [setPWM_obj], setPWM_heap c v s⟩

lemma setDrum_aside (b : Bool) (s : MonitorCtx F) : Aside s (setDrum b s) := ⟨rfl, rfl⟩

lemma setVaccum_aside (b : Bool) (s : MonitorCtx F) : Aside s (setVaccum b s) := by
  cases b <;> exact ⟨rfl, rfl⟩

lemma setWg20Cw_aside (b : Bool) (s : MonitorCtx F) : Aside s (setWg20Cw b s) := by
  cases b <;> exact ⟨rfl, rfl⟩

lemma scanVel_aside (mes : List UInt8) (s : MonitorCtx F) : Aside s (scanVel mes s) := by
  rw [scanVel]
  split <;> exact ⟨rfl, rfl⟩

variable [DoubleOps F]

lemma setWG20Vel_aside (s : MonitorCtx F) : Aside s (setWG20Vel s) :=
  (setPWM_aside 1 s.obj.wg20pwm s).trans ⟨rfl, rfl⟩

lemma serviceMsg_aside (m : AntaresMsg) (s : MonitorCtx F) : Aside s (serviceMsg m s) := by
  rw [serviceMsg]
  split_ifs
  · exact (setVaccum_aside _ _).trans (logMessage_aside _ _)
  · exact (setVaccum_aside _ _).trans (logMessage_aside _ _)
  · exact (setDrum_aside _ _).trans (logMessage_aside _ _)
  · exact (setDrum_aside _ _).trans (logMessage_aside _ _)
  · exact (setWg20Cw_aside _ _).trans (logMessage_aside _ _)
  · exact (setWg20Cw_aside _ _).trans (logMessage_aside _ _)
  · exact (((setWg20Cw_aside _ _).trans (scanVel_aside _ _)).trans (setWG20Vel_aside _)).trans
      (logMessage_aside _ _)
  · exact (((setWg20Cw_aside _ _).trans (scanVel_aside _ _)).trans (setWG20Vel_aside _)).trans
      (logMessage_aside _ _)
  · exact ((((logMessage_aside _ _).trans (setDrum_aside _ _)).trans (setVaccum_aside _ _)).trans
      (setWg20Cw_aside _ _)).trans (setPWM_aside _ _ _)
  · exact logMessage_aside _ _

/-! ## Turns and passes -/

lemma serviceFront_cons {s t : MonitorCtx F} {e : Event} {rest : List Event}
    (h : s.obj.events = e :: rest) (ht : serviceEvent e s = .ok t) :
    serviceFront s = .ok (popEvent t) := by
  rw [serviceFront, h]
  dsimp only
  rw [ht]
  rfl

/-- A turn on a message event. -/
lemma serviceFront_msg {s : MonitorCtx F} {n : UInt8} {a : ℕ} {rest : List Event} {m : AntaresMsg}
    (h : s.obj.events = .of .monitorEthSig n (.msg a) :: rest)
    (live : s.world.heap.cell a = some m) :
    serviceFront s = .ok (popEvent (deleteMsg a (serviceMsg m s))) := by
  refine serviceFront_cons h ?_
  simp [serviceEvent, live]

/-- A turn on any other event. -/
lemma serviceFront_own {s : MonitorCtx F} {e : Event} {rest : List Event}
    (h : s.obj.events = e :: rest) (he : ¬ IsEth e) : serviceFront s = .ok (popEvent s) := by
  have hne : e.evtype ≠ SigTypes.monitorEthSig.bits := fun hty => he ⟨_, by decide, hty⟩
  refine serviceFront_cons h ?_
  rw [serviceEvent, if_neg hne, ite_self]

/-- **A turn of the monitor clears the front of its queue.** -/
theorem clears : Clears .monitorEthSig (fun s : MonitorCtx F => s.obj.events)
    (fun s => s.world.heap) serviceFront where
  msg {s n a rest} h live := by
    obtain ⟨m, hm⟩ := Option.ne_none_iff_exists'.mp live
    have haside := serviceMsg_aside m s
    rw [serviceFront_msg h hm]
    refine ⟨congrArg (Heap.delete · a) haside.heap, ?_⟩
    have hev : (popEvent (deleteMsg a (serviceMsg m s))).obj.events = rest := by
      have : (serviceMsg m s).obj.events = _ := haside.events.trans h
      exact congrArg List.tail this
    rw [hev]
    exact .refl rest
  own {s e rest} h he := by
    rw [serviceFront_own h he]
    have hev : (popEvent s).obj.events = rest := congrArg List.tail h
    refine ⟨rfl, ?_⟩
    rw [hev]
    exact .refl rest

lemma serviceEvent_events {e : Event} {s t : MonitorCtx F} (h : serviceEvent e s = .ok t) :
    t.obj.events = s.obj.events := by
  rw [serviceEvent] at h
  split_ifs at h
  · cases h
    rfl
  · split at h
    · split at h
      · cases h
        exact (serviceMsg_aside _ s).events
      · cases h
    · cases h
  · cases h
    rfl

/-- **A pass that does not fault leaves an empty queue.** -/
theorem serviceEvents_empties {s t : MonitorCtx F} (h : serviceEvents s = .ok t) :
    t.obj.events = [] := by
  refine drain_queue (fun s : MonitorCtx F => s.obj.events) (fun s t hs ht => ?_) h
  obtain ⟨e, rest, he⟩ := List.exists_cons_of_ne_nil hs
  rw [serviceFront, he] at ht
  cases hu : serviceEvent e s with
  | error x => simp only [hu] at ht; cases ht
  | ok u =>
      simp only [hu] at ht
      cases ht
      exact congrArg List.tail (serviceEvent_events hu)

end Lgt8.Monitor

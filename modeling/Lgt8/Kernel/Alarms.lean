import Mathlib.Tactic
import Lgt8.Library.Alarm
import Lgt8.Servo.Tick
import Lgt8.Kernel.Model

/-!
# Are the alarms in time?

The timer interrupt counts `bspcounter` up and compares it with the four alarm targets, which
`setAlarm` computes as absolute counter values.  Counter and targets are 32 bits wide, and the
comparison is a plain `<`; seen through `alarm`, a slot is an `Alarm` of the library on a counter
that wraps at `2^32` (`pit_alarm`).

* `Elapsed` — some timer interrupts after a state, with anything in between that leaves the slot
  and the counter alone.
* **`alarms_in_time_iff`** — when a slot publishes what it is meant to for ever;
  `early_at_the_wrap` is an alarm that comes a hundred ticks early.
-/

namespace Lgt8.Kernel

open Library

variable {F : Type}

/-! ## The counter under a tick of the sweep -/

lemma setOutDir_counter (b : Bool) (s : SweepCtx F) :
    (Sweep.setOutDir b s).world.bspcounter = s.world.bspcounter := by
  cases b <;> rfl

lemma setPulse_counter (b : Bool) (s : SweepCtx F) :
    (Sweep.setPulse b s).world.bspcounter = s.world.bspcounter := by
  cases b <;> rfl

lemma latchGap_counter (s : SweepCtx F) :
    (Sweep.latchGap s).world.bspcounter = s.world.bspcounter := by
  rw [Sweep.latchGap]
  split
  · exact setOutDir_counter _ _
  · rfl

lemma nextCell_counter (s : SweepCtx F) :
    (Sweep.nextCell s).world.bspcounter = s.world.bspcounter := by
  rw [Sweep.nextCell]
  split <;> rfl

lemma restTick_counter (s : SweepCtx F) :
    (Sweep.restTick s).world.bspcounter = s.world.bspcounter := by
  rw [Sweep.restTick]
  dsimp only
  split <;> exact setPulse_counter true s

lemma sweepBoard_counter (s : SweepCtx F) :
    (Sweep.serviceBoard s).world.bspcounter = s.world.bspcounter := by
  rw [Sweep.serviceBoard]
  dsimp only
  split_ifs
  · exact (setPulse_counter false _).trans (latchGap_counter _)
  · exact (nextCell_counter _).trans ((setPulse_counter true _).trans (latchGap_counter _))
  · exact latchGap_counter _
  · exact restTick_counter _
  · rfl

/-! ## A slot is an alarm -/

/-- The values of a 32-bit counter. -/
abbrev ticks32 : ℕ := 4294967296

def alarm (i : Fin 4) (s : KernelCtx F) : Alarm :=
  ⟨s.world.bspcounter.toNat, (s.obj.alarms.get i).toNat⟩

def alarmEvent : Event := .of .alarmSig CtrlStates.alarm.code .null

/-- The slot and the counter are left alone. -/
structure Untouched (i : Fin 4) (s t : KernelCtx F) : Prop where
  bspcounter : t.world.bspcounter = s.world.bspcounter
  alarms : t.obj.alarms.get i = s.obj.alarms.get i
  reload : t.obj.reload.get i = s.obj.reload.get i

lemma Untouched.refl (i : Fin 4) (s : KernelCtx F) : Untouched i s s := ⟨rfl, rfl, rfl⟩

lemma Untouched.trans {i : Fin 4} {s t u : KernelCtx F} (h : Untouched i s t)
    (h' : Untouched i t u) : Untouched i s u :=
  ⟨h'.bspcounter.trans h.bspcounter, h'.alarms.trans h.alarms, h'.reload.trans h.reload⟩

/-- The turn of another slot. -/
lemma alarmTurn_untouched {i j : Fin 4} (h : j ≠ i) (s : KernelCtx F) :
    Untouched i s (alarmTurn s j) := by
  have hval : (j : ℕ) ≠ i := fun he => h (Fin.ext he)
  rw [alarmTurn]
  split
  · refine ⟨rfl, ?_, rfl⟩
    dsimp only [publish]
    exact Vector.getElem_set_ne _ _ hval
  · exact .refl i s

lemma alarmTurns_untouched {i : Fin 4} {js : List (Fin 4)} (h : i ∉ js) (s : KernelCtx F) :
    Untouched i s (js.foldl alarmTurn s) := by
  induction js generalizing s with
  | nil => exact .refl i s
  | cons j js ih =>
      rw [List.mem_cons, not_or] at h
      exact (alarmTurn_untouched (Ne.symm h.1) s).trans (ih h.2 _)

variable [DoubleOps F]

/-- The timer interrupt up to its loop over the alarms. -/
def counted (s : KernelCtx F) : KernelCtx F :=
  let s := withSweep Sweep.serviceBoard s
  let s := withServo Servo.serviceBoard s
  { s with world.bspcounter := s.world.bspcounter + 1 }

/-- The alarm events slot `i` publishes in the timer interrupt. -/
def published (i : Fin 4) (s : KernelCtx F) : ℕ :=
  let u := ((List.finRange 4).take i).foldl alarmTurn (counted s)
  (alarmTurn u i).obj.postoffice.count alarmEvent - u.obj.postoffice.count alarmEvent

lemma pit_eq (s : KernelCtx F) : pit s = (List.finRange 4).foldl alarmTurn (counted s) := rfl

lemma counted_counter (s : KernelCtx F) :
    (counted s).world.bspcounter = s.world.bspcounter + 1 := by
  have hsweep : (withSweep Sweep.serviceBoard s).world.bspcounter = s.world.bspcounter :=
    sweepBoard_counter _
  have hservo : (withServo Servo.serviceBoard (withSweep Sweep.serviceBoard s)).world.bspcounter
      = s.world.bspcounter := (Servo.serviceBoard_kept _).2.2.2.trans hsweep
  exact congrArg (· + 1) hservo

/-- The turns before its own and the turns after it leave a slot alone. -/
lemma pit_turns (i : Fin 4) (s : KernelCtx F) :
    ∃ u, u = ((List.finRange 4).take i).foldl alarmTurn (counted s) ∧
      Untouched i (counted s) u ∧ Untouched i (alarmTurn u i) (pit s) := by
  refine ⟨_, rfl, alarmTurns_untouched ?_ _, ?_⟩
  · revert i
    decide
  · have hsplit : List.finRange 4 = (List.finRange 4).take i ++ i :: (List.finRange 4).drop (i + 1) := by
      revert i
      decide
    have hafter : i ∉ (List.finRange 4).drop (i + 1) := by
      revert i
      decide
    rw [pit_eq]
    nth_rewrite 2 [hsplit]
    rw [List.foldl_append, List.foldl_cons]
    exact alarmTurns_untouched hafter _

omit [DoubleOps F] in
/-- A slot's own turn, in terms of the counter it compares with. -/
lemma alarmTurn_self (i : Fin 4) (s : KernelCtx F) :
    (alarmTurn s i).world.bspcounter = s.world.bspcounter ∧
      (alarmTurn s i).obj.reload = s.obj.reload ∧
      (alarmTurn s i).obj.alarms.get i = (if s.obj.alarms.get i < s.world.bspcounter then
        (if s.obj.reload.get i = 0 then 0xffffffff else s.world.bspcounter + s.obj.reload.get i)
        else s.obj.alarms.get i) ∧
      (alarmTurn s i).obj.postoffice.count alarmEvent = s.obj.postoffice.count alarmEvent
        + (if s.obj.alarms.get i < s.world.bspcounter then 1 else 0) := by
  rw [alarmTurn]
  by_cases h : s.obj.alarms.get i < s.world.bspcounter
  · have hslot : s.obj.alarms[i] < s.world.bspcounter := h
    rw [if_pos hslot, if_pos h, if_pos h]
    refine ⟨rfl, rfl, ?_, ?_⟩
    · refine (Vector.getElem_set_self i.isLt).trans ?_
      rw [ite_not]
      rfl
    · exact List.count_append.trans rfl
  · have hslot : ¬ s.obj.alarms[i] < s.world.bspcounter := h
    rw [if_neg hslot, if_neg h, if_neg h]
    exact ⟨rfl, rfl, rfl, rfl⟩

lemma counter_succ (c : UInt32) : (c + 1).toNat = (c.toNat + 1) % ticks32 := by
  rw [UInt32.toNat_add]
  rfl

/-- **The timer interrupt is a tick of every alarm**, and a slot publishes an event exactly if its
alarm rings. -/
theorem pit_alarm (i : Fin 4) (s : KernelCtx F) :
    alarm i (pit s) = (alarm i s).tick ticks32 (s.obj.reload.get i).toNat ∧
      (pit s).obj.reload.get i = s.obj.reload.get i ∧
      published i s = if (alarm i s).Rings ticks32 then 1 else 0 := by
  obtain ⟨u, hu, hbefore, hafter⟩ := pit_turns i s
  obtain ⟨hcounter, hreload, halarm, hcount⟩ := alarmTurn_self i u
  have hc : u.world.bspcounter = s.world.bspcounter + 1 :=
    hbefore.bspcounter.trans (counted_counter s)
  have ha : u.obj.alarms.get i = s.obj.alarms.get i := hbefore.alarms
  have hr : u.obj.reload.get i = s.obj.reload.get i := hbefore.reload
  have hrings : u.obj.alarms.get i < u.world.bspcounter ↔ (alarm i s).Rings ticks32 := by
    rw [ha, hc, UInt32.lt_iff_toNat_lt, counter_succ]
    rfl
  refine ⟨?_, ?_, ?_⟩
  · have hzero : s.obj.reload.get i = 0 ↔ (s.obj.reload.get i).toNat = 0 := UInt32.toNat_inj.symm
    rw [alarm, hafter.bspcounter, hafter.alarms, hcounter, halarm, if_congr hrings rfl rfl, ha, hr,
      hc, apply_ite UInt32.toNat, apply_ite UInt32.toNat, if_congr hzero rfl rfl,
      UInt32.toNat_add (_ + 1), counter_succ]
    rfl
  · rw [hafter.reload, hreload, hr]
  · have hpub : published i s
        = (alarmTurn u i).obj.postoffice.count alarmEvent - u.obj.postoffice.count alarmEvent := by
      rw [published, ← hu]
    rw [hpub, hcount, Nat.add_sub_cancel_left, if_congr hrings rfl rfl]

/-! ## In time for ever -/

/-- `t` timer interrupts after `s`, with anything in between that leaves slot `i` and the counter
alone: the state, and the alarm events slot `i` has published. -/
inductive Elapsed (i : Fin 4) (s : KernelCtx F) : KernelCtx F → ℕ → ℕ → Prop
  | start : Elapsed i s s 0 0
  | pit {u : KernelCtx F} {k t : ℕ} (h : Elapsed i s u k t) :
      Elapsed i s (pit u) (k + published i u) (t + 1)
  | other {u v : KernelCtx F} {k t : ℕ} (h : Elapsed i s u k t) (hv : Untouched i u v) :
      Elapsed i s v k t

lemma Elapsed.alarm_eq {i : Fin 4} {s u : KernelCtx F} {k t : ℕ} (h : Elapsed i s u k t) :
    alarm i u = (Alarm.tick ticks32 (s.obj.reload.get i).toNat)^[t] (alarm i s) ∧
      u.obj.reload.get i = s.obj.reload.get i ∧
      k = Alarm.rung ticks32 (s.obj.reload.get i).toNat t (alarm i s) := by
  induction h with
  | start => exact ⟨rfl, rfl, rfl⟩
  | @pit u k t _ ih =>
      obtain ⟨ha, hr, hk⟩ := ih
      obtain ⟨hpit, hreload, hpub⟩ := pit_alarm i u
      refine ⟨?_, hreload.trans hr, ?_⟩
      · rw [hpit, hr, ha, Function.iterate_succ_apply']
      · rw [hpub, hk, Alarm.rung_succ, ha]
  | @other u v k t _ hv ih =>
      obtain ⟨ha, hr, hk⟩ := ih
      refine ⟨?_, hv.reload.trans hr, hk⟩
      rw [← ha, alarm, alarm, hv.bspcounter, hv.alarms]

lemma Elapsed.exists (i : Fin 4) (s : KernelCtx F) : ∀ t, ∃ u k, Elapsed i s u k t
  | 0 => ⟨s, 0, .start⟩
  | t + 1 => by
      obtain ⟨u, k, h⟩ := Elapsed.exists i s t
      exact ⟨_, _, h.pit⟩

omit [DoubleOps F] in
/-- `setAlarm` sets the alarm. -/
lemma setAlarm_alarm (i : Fin 4) (n r : UInt32) (s : KernelCtx F) :
    alarm i (setAlarm i n r s) = Alarm.set ticks32 s.world.bspcounter.toNat n.toNat ∧
      (setAlarm i n r s).obj.reload.get i = r := by
  have htarget : (setAlarm i n r s).obj.alarms.get i = s.world.bspcounter + n :=
    Vector.getElem_set_self i.isLt
  refine ⟨?_, Vector.getElem_set_self i.isLt⟩
  rw [alarm, htarget, UInt32.toNat_add]
  rfl

/-- **When the alarms are in time.**  Slot `i`, set for `n` ticks and then every `r + 1` of them,
publishes what it is meant to for ever if and only if its target lies before the wrap of the counter
and is not the value that stands for no alarm, or the counter wraps at the very next tick; and,
unless nothing is reloaded, every later target hits the last value before the wrap. -/
theorem alarms_in_time_iff (i : Fin 4) (n r : UInt32) (s : KernelCtx F) :
    (∀ u k t, Elapsed i (setAlarm i n r s) u k t → k = Alarm.due n.toNat r.toNat t) ↔
      (s.world.bspcounter.toNat + n.toNat + 1 < 2 ^ 32 ∨
        (s.world.bspcounter.toNat + 1 = 2 ^ 32 ∧ n ≠ 0)) ∧
      (r = 0 ∨
        (r.toNat + 1 ∣ 2 ^ 32 ∧ r.toNat + 1 ∣ s.world.bspcounter.toNat + n.toNat + 2)) := by
  obtain ⟨halarm, hreload⟩ := setAlarm_alarm i n r s
  have hzero : ∀ v : UInt32, v = 0 ↔ v.toNat = 0 := fun v => UInt32.toNat_inj.symm
  have hne : n ≠ 0 ↔ n.toNat ≠ 0 := not_congr (hzero n)
  have htimes : (∀ u k t, Elapsed i (setAlarm i n r s) u k t → k = Alarm.due n.toNat r.toNat t) ↔
      Alarm.InTime ticks32 r.toNat n.toNat
        (Alarm.set ticks32 s.world.bspcounter.toNat n.toNat) := by
    constructor
    · intro h t
      obtain ⟨u, k, hu⟩ := Elapsed.exists i (setAlarm i n r s) t
      have hk := hu.alarm_eq.2.2
      rw [hreload, halarm] at hk
      rw [← hk, h u k t hu]
    · intro h u k t hu
      have hk := hu.alarm_eq.2.2
      rw [hreload, halarm] at hk
      rw [hk, h t]
  rw [htimes, Alarm.inTime_iff n.toNat_lt s.world.bspcounter.toNat_lt r.toNat_lt, Alarm.Clear,
    hne, hzero r]

/-- Fifty ticks before the counter wraps. -/
def nearWrap : KernelCtx ℚ := ⟨blank, { World.blank with bspcounter := 0xffffffff - 49 }⟩

/-- **An alarm in a hundred ticks that comes with the next one**: fifty ticks before the wrap its
target lies behind it, below the counter. -/
theorem early_at_the_wrap : ∃ u k, Elapsed 0 (setAlarm 0 100 100 nearWrap) u k 1 ∧
    Alarm.due 100 100 1 = 0 ∧ k = 1 := by
  have hu := (Elapsed.start (i := 0) (s := setAlarm 0 100 100 nearWrap)).pit
  refine ⟨_, _, hu, rfl, ?_⟩
  rw [hu.alarm_eq.2.2, (setAlarm_alarm 0 100 100 nearWrap).1]
  decide

end Lgt8.Kernel

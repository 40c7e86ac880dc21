import Mathlib.Tactic
import Lgt8.Servo.Tach

/-!
# Does a plate that has stopped read zero?

The speed and its telemetry slot are written by updates that measure something, and an update that
finds the five cells empty measures only if a speed is asked for.  So the reading of a plate that
stops in manual mode stays what it was at the last update that still saw pulses.

* `noteZero`, `Gauged` — an observer who knows, at every step of every run, whether the reading is
  zero.
* `Quiet`, `Quiet.windows` — a stretch without pulses and commands, update by update.
* **`stopped_reads_zero_iff`** — when the reading is zero at the end of two update windows without
  pulses; `manual_stop_keeps_reading` is a plate at rest whose reading is not.
-/

namespace Lgt8.Servo

open Library DoubleOps

/-- What the telemetry reports as the speed. -/
def reading (s : ServoCtx ℚ) : ℚ := s.world.status.statusvals StVals.servoSpeedSlot.index

def ReadsZero (s : ServoCtx ℚ) : Prop := s.obj.speed = 0 ∧ reading s = 0

/-! ## One step -/

lemma storeMonitorSlot_vals {Obj : Type} (k : StVals) (v : ℚ) (s : Ctx Obj ℚ) :
    (storeMonitorSlot k v s).world.status.statusvals
      = Function.update s.world.status.statusvals k.index v := by
  rw [storeMonitorSlot, Status.storeMonitorSlot]
  dsimp only
  split
  · next h =>
      have heq : s.world.status.statusvals k.index = v := of_decide_eq_true h
      rw [← heq, Function.update_eq_self]
  · rfl

lemma storeMonitorFlag_vals {Obj : Type} (k : StFlags) (b : Bool) (s : Ctx Obj ℚ) :
    (storeMonitorFlag k b s).world.status.statusvals = s.world.status.statusvals := by
  rw [storeMonitorFlag, Status.storeMonitorFlag]
  dsimp only
  split <;> rfl

lemma zero_eq : (zero : ℚ) = 0 := by norm_num [zero, DoubleOps.ofInt]

lemma measures_iff (s : ServoCtx ℚ) :
    Measures s ↔ cellSum s ≠ 0 ∨ s.obj.servoSetpoint ≠ 0 := by
  rw [Measures]
  refine or_congr_right ?_
  show decide (s.obj.servoSetpoint = (zero : ℚ)) = false ↔ _
  rw [decide_eq_false_iff_not, zero_eq]

/-- The speed is zero exactly if nothing was measured. -/
lemma speedOf_eq_zero_iff (tachval : UInt32) : speedOf (F := ℚ) tachval = 0 ↔ tachval = 0 := by
  rw [speedOf]
  split
  · next h => exact ⟨fun _ => h, fun _ => zero_eq⟩
  · next h =>
      have hne : tachval.toNat ≠ 0 := fun h0 => h (UInt32.toNat_inj.mp h0)
      refine ⟨fun h0 => ?_, fun h0 => absurd h0 h⟩
      simp [DoubleOps.div, DoubleOps.mul, DoubleOps.ofInt, DoubleOps.ofRat, hne] at h0

lemma serviceBoard_reading (s : ServoCtx ℚ) : reading (serviceBoard s)
    = if Due s ∧ Measures s then speedOf (cellSum s) else reading s := by
  obtain ⟨c, r, g, h⟩ := serviceBoard_eq s
  have htelemetry : reading (telemetry (g, { measured s with
      obj.svctl := c, obj.requestPwm0 := r })) = speedOf (cellSum s) := by
    rw [reading, telemetry]
    dsimp only
    rw [storeMonitorSlot_vals, storeMonitorSlot_vals,
      Function.update_of_ne (by decide), Function.update_self]
    rfl
  rw [h, sumTach_eq]
  by_cases hdue : Due s
  · by_cases hmeas : Measures s
    · simp only [hdue, hmeas, not_true, if_false, and_self, if_true]
      exact htelemetry
    · simp only [hdue, hmeas, not_true, not_false_iff, if_false, if_true, and_false]
      rfl
  · simp only [hdue, not_false_iff, if_true, false_and, if_false]
    rfl

/-- What the reading comes from is the same in both states. -/
structure SameGauge (s t : ServoCtx ℚ) : Prop where
  speed : t.obj.speed = s.obj.speed
  reading : reading t = reading s
  tachbuffer : t.obj.tachbuffer = s.obj.tachbuffer
  updatetachFlag : t.obj.updatetachFlag = s.obj.updatetachFlag
  servoSetpoint : t.obj.servoSetpoint = s.obj.servoSetpoint

lemma SameGauge.refl (s : ServoCtx ℚ) : SameGauge s s := ⟨rfl, rfl, rfl, rfl, rfl⟩

lemma scanRequest_gauge (mes : List UInt8) (s : ServoCtx ℚ) : SameGauge s (scanRequest mes s) := by
  rw [scanRequest]
  split <;> exact ⟨rfl, rfl, rfl, rfl, rfl⟩

/-- The commands of the servo. -/
def IsCommand (m : AntaresMsg) : Prop :=
  m.cmd = Comands.servoEnable.code ∨ m.cmd = Comands.servoSetpwm.code ∨
    m.cmd = Comands.servoSetspeed.code

/-- A `SERVO_SETSPEED` that stops the drive. -/
def Resets (m : AntaresMsg) : Prop := m.cmd = Comands.servoSetspeed.code ∧ m.arg ≠ 1

instance (m : AntaresMsg) : Decidable (Resets m) := inferInstanceAs (Decidable (_ ∧ _))

/-- What a message may do to the reading, to the speed, and to the flag of the updates. -/
structure Obeyed (m : AntaresMsg) (s t : ServoCtx ℚ) : Prop where
  reading : reading t = if Resets m then 0 else Servo.reading s
  speed : t.obj.speed = s.obj.speed ∨ t.obj.speed = 0
  reset : Resets m → t.obj.speed = 0
  updatetachFlag : t.obj.updatetachFlag = s.obj.updatetachFlag ∨ t.obj.updatetachFlag = 0

lemma SameGauge.obeyed {m : AntaresMsg} {s t : ServoCtx ℚ} (h : SameGauge s t) (hm : ¬ Resets m) :
    Obeyed m s t :=
  ⟨by rw [if_neg hm, h.reading], Or.inl h.speed, fun hr => absurd hr hm, Or.inl h.updatetachFlag⟩

lemma drivePower_reading (b : Bool) (s : ServoCtx ℚ) : reading (drivePower b s) = reading s := by
  rw [drivePower]
  exact (congrFun (storeMonitorFlag_vals _ _ _) _).trans (by cases b <;> rfl)

lemma serviceEnable_obeyed {m : AntaresMsg} (he : m.cmd = Comands.servoEnable.code)
    (s : ServoCtx ℚ) : Obeyed m s (serviceEnable m.arg m.data s) := by
  have hm : ¬ Resets m := fun hr => absurd (he.symm.trans hr.1) (by decide)
  rw [serviceEnable]
  split
  · let u : ServoCtx ℚ := { clearTachBuffer { s with obj.enableServo := true } with
      obj.svctl.dState := zero, obj.svctl.iState := zero }
    have hscan := scanRequest_gauge m.data u
    refine ⟨?_, Or.inr ?_, fun hr => absurd hr hm, Or.inr ?_⟩
    · rw [if_neg hm]
      exact (drivePower_reading true _).trans hscan.reading
    · exact hscan.speed.trans zero_eq
    · exact hscan.updatetachFlag
  · refine ⟨?_, Or.inl rfl, fun hr => absurd hr hm, Or.inl rfl⟩
    rw [if_neg hm]
    exact drivePower_reading false _

lemma serviceSetpwm_obeyed {m : AntaresMsg} (hp : m.cmd = Comands.servoSetpwm.code)
    (s : ServoCtx ℚ) : Obeyed m s (serviceSetpwm m.arg m.data s) := by
  have hm : ¬ Resets m := fun hr => absurd (hp.symm.trans hr.1) (by decide)
  rw [serviceSetpwm]
  dsimp only
  split
  · have hscan := scanRequest_gauge m.data { s with obj.servoSetpoint := zero }
    exact ⟨(if_neg hm).symm ▸ hscan.reading, Or.inl hscan.speed, fun hr => absurd hr hm,
      Or.inl hscan.updatetachFlag⟩
  · exact ⟨(if_neg hm).symm ▸ rfl, Or.inl rfl, fun hr => absurd hr hm, Or.inl rfl⟩

lemma serviceSetspeed_obeyed {m : AntaresMsg} (hs : m.cmd = Comands.servoSetspeed.code)
    (s : ServoCtx ℚ) : Obeyed m s (serviceSetspeed m.arg m.data s) := by
  rw [serviceSetspeed]
  split
  · case isTrue ha =>
      have hm : ¬ Resets m := fun hr => hr.2 ha
      exact ⟨(if_neg hm).symm ▸ rfl, Or.inl rfl, fun hr => absurd hr hm, Or.inl rfl⟩
  · case isFalse ha =>
      refine ⟨?_, Or.inr zero_eq, fun _ => zero_eq, Or.inl rfl⟩
      rw [if_pos ⟨hs, ha⟩, reading]
      show (storeMonitorSlot _ _ (storeMonitorSlot _ _ _)).world.status.statusvals _ = 0
      rw [storeMonitorSlot_vals, storeMonitorSlot_vals, Function.update_of_ne (by decide),
        Function.update_self, zero_eq]

/-- **What a message may do.** -/
theorem serviceMsg_obeyed (m : AntaresMsg) (s : ServoCtx ℚ) : Obeyed m s (serviceMsg m s) := by
  rw [serviceMsg]
  split_ifs with he hp hs
  · exact serviceEnable_obeyed he s
  · exact serviceSetpwm_obeyed hp s
  · exact serviceSetspeed_obeyed hs s
  · exact SameGauge.obeyed ⟨rfl, rfl, rfl, rfl, rfl⟩ fun hr => hs hr.1

/-- A message that is no command is only logged. -/
lemma serviceMsg_gauge {m : AntaresMsg} (hm : ¬ IsCommand m) (s : ServoCtx ℚ) :
    SameGauge s (serviceMsg m s) := by
  rw [IsCommand, not_or, not_or] at hm
  rw [serviceMsg, if_neg hm.1, if_neg hm.2.1, if_neg hm.2.2]
  exact ⟨rfl, rfl, rfl, rfl, rfl⟩

/-- **What a step does to the reading.** -/
inductive Stepped (s : ServoCtx ℚ) (l : Label) (t : ServoCtx ℚ) : Prop
  | tick (hl : l = .tick) (h : t = pitTick s)
  | tach (hl : l = .tach) (h : t = tachTick s)
  | msg (m : AntaresMsg) (hl : l = .turn) (hm : servicedMsg s l = some m)
      (h : SameGauge (serviceMsg m s) t)
  | quiet (hl : l ≠ .tick) (hl' : l ≠ .tach) (hm : servicedMsg s l = none) (h : SameGauge s t)

theorem step_stepped {s t : ServoCtx ℚ} {l : Label} (h : step s l = .ok t) : Stepped s l t := by
  cases l with
  | tick =>
      cases h
      exact .tick rfl rfl
  | tach =>
      cases h
      exact .tach rfl rfl
  | post m =>
      cases h
      exact .quiet nofun nofun rfl ⟨rfl, rfl, rfl, rfl, rfl⟩
  | push evt =>
      cases h
      exact .quiet nofun nofun rfl ⟨rfl, rfl, rfl, rfl, rfl⟩
  | turn =>
      cases he : s.obj.events with
      | nil =>
          rw [step, serviceFront_nil he] at h
          cases h
          exact .quiet nofun nofun (by rw [servicedMsg, frontMsg, he, announced_nil]) (.refl s)
      | cons e rest =>
          obtain ⟨u, hu, rfl⟩ := serviceFront_ok he h
          cases serviceEvent_serviced hu with
          | @msg a m hty ha live hu =>
              refine .msg m rfl ?_ ?_
              · rw [servicedMsg, frontMsg, he, announced_cons hty ha, live]
              · rw [hu]
                exact ⟨rfl, rfl, rfl, rfl, rfl⟩
          | tick hty hu =>
              refine .quiet nofun nofun (by rw [servicedMsg, frontMsg, he, announced_of_ne hty]) ?_
              rw [hu, fsmTick]
              split <;> exact ⟨rfl, rfl, rfl, rfl, rfl⟩
          | ignored hty hu =>
              refine .quiet nofun nofun (by rw [servicedMsg, frontMsg, he, announced_of_ne hty]) ?_
              rw [hu]
              exact ⟨rfl, rfl, rfl, rfl, rfl⟩

/-! ## Any run -/

/-- The observer of the reading: an update that measures decides it by the cells, a reset zeroes
it, and nothing else touches it. -/
def noteZero (s : ServoCtx ℚ) (l : Label) (zero : Bool) : Bool :=
  match l with
  | .tick => if Due s ∧ Measures s then decide (cellSum s = 0) else zero
  | _ =>
      match servicedMsg s l with
      | some m => decide (Resets m) || zero
      | none => zero

lemma noteZero_none {s : ServoCtx ℚ} {l : Label} (hl : l ≠ .tick) (h : servicedMsg s l = none)
    (b : Bool) : noteZero s l b = b := by
  cases l with
  | tick => exact absurd rfl hl
  | tach => rfl
  | post m => rfl
  | push evt => rfl
  | turn =>
      rw [noteZero]
      · rw [h]
      · exact nofun

lemma noteZero_some {s : ServoCtx ℚ} {m : AntaresMsg} (h : servicedMsg s .turn = some m)
    (b : Bool) : noteZero s .turn b = (decide (Resets m) || b) := by
  rw [noteZero]
  · rw [h]
  · exact nofun

/-- What holds along every run: the observer is right, a reading of zero is one of a speed of zero,
and the flag of the updates stays within the period. -/
structure Gauged (p : ServoCtx ℚ × Bool) : Prop where
  reading_iff : reading p.1 = 0 ↔ p.2 = true
  speed : reading p.1 = 0 → p.1.obj.speed = 0
  flag_le : p.1.obj.updatetachFlag.toNat ≤ 2001

lemma due_iff {s : ServoCtx ℚ} (h : s.obj.updatetachFlag.toNat ≤ 2001) :
    Due s ↔ s.obj.updatetachFlag.toNat = 2001 := by
  have hdue : Due s ↔ 2000 < s.obj.updatetachFlag.toNat := UInt32.lt_iff_toNat_lt
  rw [hdue]
  omega

/-- The flag after a tick. -/
lemma pitTick_flag (s : ServoCtx ℚ) : (pitTick s).obj.updatetachFlag.toNat
    = if Due s then 0 else s.obj.updatetachFlag.toNat + 1 := by
  have hflag : (pitTick s).obj.updatetachFlag
      = if Due s then 0 else s.obj.updatetachFlag + 1 := serviceBoard_updatetachFlag s
  rw [hflag]
  split
  · rfl
  · next hdue =>
      have hle : ¬ 2000 < s.obj.updatetachFlag.toNat := fun h => hdue (UInt32.lt_iff_toNat_lt.mpr h)
      rw [UInt32.toNat_add]
      exact Nat.mod_eq_of_lt (by simp; omega)

lemma pitTick_reading (s : ServoCtx ℚ) : reading (pitTick s)
    = if Due s ∧ Measures s then speedOf (cellSum s) else reading s := serviceBoard_reading s

lemma Gauged.tick {s : ServoCtx ℚ} {b : Bool} (h : Gauged (s, b)) :
    Gauged (pitTick s, noteZero s .tick b) := by
  have hspeed : (pitTick s).obj.speed
      = if Due s ∧ Measures s then speedOf (cellSum s) else s.obj.speed := serviceBoard_speed s
  have hle : s.obj.updatetachFlag.toNat ≤ 2001 := h.flag_le
  have hflag := pitTick_flag s
  have hdue := due_iff hle
  refine ⟨?_, ?_, ?_⟩
  · rw [pitTick_reading, noteZero]
    split
    · rw [speedOf_eq_zero_iff, decide_eq_true_eq]
    · exact h.reading_iff
  · rw [pitTick_reading, hspeed]
    split
    · exact id
    · exact h.speed
  · show (pitTick s).obj.updatetachFlag.toNat ≤ 2001
    rw [hflag]
    split
    · omega
    · next hd =>
        have := mt hdue.mpr hd
        omega

lemma Gauged.msg {s t : ServoCtx ℚ} {m : AntaresMsg} {b : Bool} (h : Gauged (s, b))
    (ht : Obeyed m s t) : Gauged (t, decide (Resets m) || b) := by
  refine ⟨?_, ?_, ?_⟩
  · rw [ht.reading, Bool.or_eq_true, decide_eq_true_eq, ← h.reading_iff]
    split
    · next hr => exact ⟨fun _ => Or.inl hr, fun _ => rfl⟩
    · next hr => exact (or_iff_right hr).symm
  · intro h0
    rw [ht.reading] at h0
    split at h0
    · next hr => exact ht.reset hr
    · rcases ht.speed with hsp | hsp
      · exact hsp.trans (h.speed h0)
      · exact hsp
  · rcases ht.updatetachFlag with hf | hf
    · exact hf ▸ h.flag_le
    · show t.obj.updatetachFlag.toNat ≤ 2001
      rw [hf]
      decide

lemma Gauged.same {s t : ServoCtx ℚ} {b : Bool} (h : Gauged (s, b)) (ht : SameGauge s t) :
    Gauged (t, b) :=
  ⟨ht.reading ▸ h.reading_iff, fun h0 => ht.speed.trans (h.speed (ht.reading ▸ h0)),
    ht.updatetachFlag ▸ h.flag_le⟩

lemma Gauged.step {p q : ServoCtx ℚ × Bool} {l : Label} (h : Gauged p)
    (hq : observed step noteZero p l = .ok q) : Gauged q := by
  obtain ⟨s, b⟩ := p
  obtain ⟨t, b'⟩ := q
  obtain ⟨hstep, rfl⟩ : Servo.step s l = .ok t ∧ b' = noteZero s l b := observed_ok.mp hq
  cases step_stepped hstep with
  | tick hl ht =>
      subst hl
      exact ht ▸ h.tick
  | tach hl ht =>
      subst hl
      obtain ⟨-, hworld, hflag, -, hspeed⟩ := tachTick_kept s
      have hr : reading t = reading s := by
        rw [ht, reading, hworld]
        rfl
      refine ⟨hr ▸ h.reading_iff, fun h0 => ?_, ?_⟩
      · rw [ht, hspeed]
        exact h.speed (hr ▸ h0)
      · rw [ht, hflag]
        exact h.flag_le
  | msg m hl hm ht =>
      subst hl
      rw [noteZero_some hm]
      exact (h.msg (serviceMsg_obeyed m s)).same ht
  | quiet hl _ hm ht =>
      rw [noteZero_none hl hm]
      exact h.same ht

lemma boot_gauged (raw : Servo ℚ) (w : World ℚ) :
    Gauged (boot raw w, decide (reading (boot raw w) = 0)) :=
  ⟨decide_eq_true_iff.symm, fun _ => zero_eq, Nat.zero_le 2001⟩

lemma gauged_run (raw : Servo ℚ) (w : World ℚ) {labels : List Label} {s : ServoCtx ℚ}
    (hs : run step (boot raw w) labels = .ok s) : Gauged (s, decide (reading s = 0)) := by
  have hinv : (reading s = 0 → s.obj.speed = 0) ∧ s.obj.updatetachFlag.toNat ≤ 2001 := by
    refine run_invariant' (I := fun s => (reading s = 0 → s.obj.speed = 0) ∧
      s.obj.updatetachFlag.toNat ≤ 2001) (fun s l t hI ht => ?_) ?_ hs
    · have hg : Gauged (s, decide (reading s = 0)) := ⟨decide_eq_true_iff.symm, hI.1, hI.2⟩
      have hq := hg.step (q := (t, noteZero s l (decide (reading s = 0))))
        (observed_ok.mpr ⟨ht, rfl⟩)
      exact ⟨hq.speed, hq.flag_le⟩
    · exact ⟨(boot_gauged raw w).speed, (boot_gauged raw w).flag_le⟩
  exact ⟨decide_eq_true_iff.symm, hinv.1, hinv.2⟩

/-! ## Two windows without pulses and commands -/

def Label.isTick : Label → Bool
  | .tick => true
  | _ => false

/-- What the five cells add up to after `k` updates. -/
def sumAfter (s : ServoCtx ℚ) (k : ℕ) : UInt32 := if k = 0 then cellSum s else 0

/-- Whether the reading is zero after `k` updates, if it was as `b` says. -/
def zeroAfter (s : ServoCtx ℚ) (b : Bool) : ℕ → Bool
  | 0 => b
  | k + 1 =>
      if sumAfter s k ≠ 0 ∨ s.obj.servoSetpoint ≠ 0 then decide (sumAfter s k = 0)
      else zeroAfter s b k

/-- `n` ticks and `k` updates after `s`, with no pulse and no command. -/
structure Quiet (s : ServoCtx ℚ) (b : Bool) (n k : ℕ) (p : ServoCtx ℚ × Bool) : Prop where
  servoSetpoint : p.1.obj.servoSetpoint = s.obj.servoSetpoint
  count : s.obj.updatetachFlag.toNat + n = 2002 * k + p.1.obj.updatetachFlag.toNat
  flag_le : p.1.obj.updatetachFlag.toNat ≤ 2001
  cells : cellSum p.1 = sumAfter s k
  zero : p.2 = zeroAfter s b k

lemma Quiet.same {s t u : ServoCtx ℚ} {b b' : Bool} {n k : ℕ} (h : Quiet s b n k (t, b'))
    (hu : SameGauge t u) : Quiet s b n k (u, b') where
  servoSetpoint := hu.servoSetpoint.trans h.servoSetpoint
  count := by
    have := h.count
    rwa [← hu.updatetachFlag] at this
  flag_le := hu.updatetachFlag ▸ h.flag_le
  cells := by
    rw [cellSum, hu.tachbuffer]
    exact h.cells
  zero := h.zero

/-- A tick of the stretch. -/
lemma Quiet.tick {s t : ServoCtx ℚ} {b b' : Bool} {n k : ℕ} (h : Quiet s b n k (t, b')) :
    ∃ k', Quiet s b (n + 1) k' (pitTick t, noteZero t .tick b') := by
  have hle : t.obj.updatetachFlag.toNat ≤ 2001 := h.flag_le
  have hcount : s.obj.updatetachFlag.toNat + n = 2002 * k + t.obj.updatetachFlag.toNat := h.count
  have hset : t.obj.servoSetpoint = s.obj.servoSetpoint := h.servoSetpoint
  have hcells : cellSum t = sumAfter s k := h.cells
  have hflag := pitTick_flag t
  have hdue := due_iff hle
  have hkept : (pitTick t).obj.servoSetpoint = s.obj.servoSetpoint :=
    (serviceBoard_kept t).1.trans hset
  have hbuf : (pitTick t).obj.tachbuffer
      = if Due t then Vector.replicate 5 0 else t.obj.tachbuffer := serviceBoard_tachbuffer t
  by_cases hd : Due t
  · rw [if_pos hd] at hflag hbuf
    have h2001 := hdue.mp hd
    refine ⟨k + 1, hkept, by dsimp only; omega, by dsimp only; omega, ?_, ?_⟩
    · rw [cellSum, hbuf]
      rfl
    · have hb : b' = zeroAfter s b k := h.zero
      show noteZero t .tick b' = zeroAfter s b (k + 1)
      rw [noteZero, zeroAfter, hb, ← hcells, ← hset]
      exact if_congr ((and_iff_right hd).trans (measures_iff t)) rfl rfl
  · rw [if_neg hd] at hflag hbuf
    have hlt := mt hdue.mpr hd
    refine ⟨k, hkept, by dsimp only; omega, by dsimp only; omega, ?_, ?_⟩
    · rw [cellSum, hbuf]
      exact hcells
    · show noteZero t .tick b' = zeroAfter s b k
      rw [noteZero, if_neg fun hn => hd hn.1]
      exact h.zero

/-- **A stretch without pulses and commands**, label by label. -/
theorem Quiet.run {s : ServoCtx ℚ} {b : Bool} : ∀ {ls : List Label} {n k : ℕ}
    {p q : ServoCtx ℚ × Bool}, Quiet s b n k p → (∀ l ∈ ls, l ≠ .tach) →
    AllSteps step (fun s l => ∀ m, servicedMsg s l = some m → ¬ IsCommand m) p.1 ls →
    run (observed step noteZero) p ls = .ok q → ∃ k', Quiet s b (n + ls.countP Label.isTick) k' q
  | [], _, k, _, _, h, _, _, hq => by
      cases hq
      exact ⟨k, h⟩
  | l :: ls, n, k, (t, b'), q, h, htach, hcmd, hq => by
      obtain ⟨⟨u, c⟩, hu, hrun⟩ := run_cons_ok hq
      obtain ⟨hstep, rfl⟩ : Servo.step t l = .ok u ∧ c = noteZero t l b' := observed_ok.mp hu
      have hrest : ∀ {n k}, Quiet s b n k (u, noteZero t l b') →
          ∃ k', Quiet s b (n + ls.countP Label.isTick) k' q := fun hn =>
        Quiet.run hn (fun l' hl' => htach l' (List.mem_cons_of_mem _ hl')) (hcmd.2 u hstep) hrun
      cases step_stepped hstep with
      | tick hl ht =>
          subst hl
          subst ht
          obtain ⟨k', hk'⟩ := h.tick
          rw [List.countP_cons_of_pos rfl, Nat.add_comm _ 1, ← Nat.add_assoc]
          exact hrest hk'
      | tach hl _ => exact absurd hl (htach l List.mem_cons_self)
      | msg m hl hm ht =>
          subst hl
          have hno := hcmd.1 m hm
          have hreset : decide (Resets m) = false :=
            decide_eq_false fun hr => hno (Or.inr (Or.inr hr.1))
          rw [List.countP_cons_of_neg (by decide)]
          refine hrest (k := k) ?_
          rw [noteZero_some hm, hreset, Bool.false_or]
          exact (h.same (serviceMsg_gauge hno t)).same ht
      | quiet hl _ hm ht =>
          have hneg : ¬ l.isTick = true := by
            cases l with
            | tick => exact absurd rfl hl
            | tach => exact nofun
            | post m => exact nofun
            | push evt => exact nofun
            | turn => exact nofun
          rw [List.countP_cons_of_neg hneg]
          refine hrest (k := k) ?_
          rw [noteZero_none hl hm]
          exact h.same ht

/-- Two windows without pulses and commands make two updates. -/
lemma Quiet.windows {s : ServoCtx ℚ} {b : Bool} (hs : s.obj.updatetachFlag.toNat ≤ 2001)
    {ls : List Label} (htach : ∀ l ∈ ls, l ≠ .tach)
    (hcmd : AllSteps step (fun s l => ∀ m, servicedMsg s l = some m → ¬ IsCommand m) s ls)
    (hticks : ls.countP Label.isTick = 4004) {t : ServoCtx ℚ} {z : Bool}
    (ht : Library.run (observed step noteZero) (s, b) ls = .ok (t, z)) :
    z = true ↔ s.obj.servoSetpoint ≠ 0 ∨ (cellSum s = 0 ∧ b = true) := by
  have h0 : Quiet s b 0 0 (s, b) := ⟨rfl, (Nat.add_comm _ _).trans rfl, hs, rfl, rfl⟩
  obtain ⟨k, hk⟩ := h0.run htach hcmd ht
  have hcount : s.obj.updatetachFlag.toNat + (0 + ls.countP Label.isTick)
      = 2002 * k + t.obj.updatetachFlag.toNat := hk.count
  have hle : t.obj.updatetachFlag.toNat ≤ 2001 := hk.flag_le
  obtain rfl : k = 2 := by omega
  have hz : z = zeroAfter s b 2 := hk.zero
  rw [hz, zeroAfter, zeroAfter, zeroAfter, sumAfter, sumAfter, if_neg Nat.one_ne_zero, if_pos rfl]
  by_cases hset : s.obj.servoSetpoint = 0
  · by_cases hcells : cellSum s = 0
    · simp [hset, hcells]
    · simp [hset, hcells]
  · simp [hset]

/-- **When a plate that has stopped reads zero.**  From a state a run can reach, over two update
windows without a pulse, the reading at the end is what the observer says; and if no command is
serviced on the way it is zero exactly if the regulator runs, or it was zero already and no pulse
was waiting in the cells. -/
theorem stopped_reads_zero_iff (raw : Servo ℚ) (w : World ℚ) {before : List Label}
    {s : ServoCtx ℚ} (hs : run step (boot raw w) before = .ok s) {ls : List Label}
    (htach : ∀ l ∈ ls, l ≠ .tach) (hticks : ls.countP Label.isTick = 4004) {t : ServoCtx ℚ}
    {z : Bool} (ht : run (observed step noteZero) (s, decide (reading s = 0)) ls = .ok (t, z)) :
    (ReadsZero t ↔ z = true) ∧
      (AllSteps step (fun s l => ∀ m, servicedMsg s l = some m → ¬ IsCommand m) s ls →
        (ReadsZero t ↔ s.obj.servoSetpoint ≠ 0 ∨ (cellSum s = 0 ∧ reading s = 0))) := by
  have hstart := gauged_run raw w hs
  have hend : Gauged (t, z) := run_invariant' (fun _ _ _ h hq => h.step hq) hstart ht
  have hzero : ReadsZero t ↔ z = true :=
    ⟨fun h => hend.reading_iff.mp h.2, fun h =>
      ⟨hend.speed (hend.reading_iff.mpr h), hend.reading_iff.mpr h⟩⟩
  refine ⟨hzero, fun hcmd => ?_⟩
  rw [hzero, Quiet.windows hstart.flag_le htach hcmd hticks ht, decide_eq_true_eq]

/-- Ticks never fault. -/
lemma run_ticks (n : ℕ) (p : ServoCtx ℚ × Bool) :
    ∃ t z, run (observed step noteZero) p (List.replicate n .tick) = .ok (t, z) := by
  have hstep : ∀ (p : ServoCtx ℚ × Bool) (l : Label), True → l = .tick →
      ∃ q, observed step noteZero p l = .ok q ∧ True := by
    rintro p l - rfl
    exact ⟨(pitTick p.1, noteZero p.1 .tick p.2), observed_ok.mpr ⟨rfl, rfl⟩, trivial⟩
  obtain ⟨q, hq, -⟩ := run_ok hstep (s := p) trivial
    (allSteps_of_forall_mem fun l hl => List.eq_of_mem_replicate (n := n) hl)
  exact ⟨q.1, q.2, hq⟩

lemma countP_ticks (n : ℕ) : (List.replicate n Label.tick).countP Label.isTick = n := by
  rw [List.countP_replicate]
  exact if_pos rfl

/-- No command is serviced in a row of ticks. -/
lemma ticks_commandless (n : ℕ) (s : ServoCtx ℚ) :
    AllSteps step (fun s l => ∀ m, servicedMsg s l = some m → ¬ IsCommand m) s
      (List.replicate n .tick) := by
  refine allSteps_mono (C := fun _ l => l = .tick) (fun s l hl m hm => ?_)
    (allSteps_of_forall_mem fun l hl => List.eq_of_mem_replicate hl)
  rw [hl] at hm
  cases hm

lemma ticks_pulseless (n : ℕ) : ∀ l ∈ List.replicate n Label.tick, l ≠ .tach :=
  fun l hl => by rw [List.eq_of_mem_replicate hl]; exact nofun

/-- One pulse, a tick after the start. -/
def spun : ServoCtx ℚ := tachTick (pitTick (boot blank .blank))

/-- `SERVO_SETSPEED` to 100 revolutions per minute. -/
def setspeed100 : AntaresMsg := .compose Comands.servoSetspeed.code 1 3 "100"

/-- The plate turned and stopped, with a pulse in the cells: in manual mode the reading stays, and
with the regulator running it is zero two windows later. -/
theorem stopped_reads_zero_iff_spun :
    (∃ t z, run (observed step noteZero) (spun, decide (reading spun = 0))
        (List.replicate 4004 .tick) = .ok (t, z) ∧
      (ReadsZero t ↔ spun.obj.servoSetpoint ≠ 0 ∨ (cellSum spun = 0 ∧ reading spun = 0)) ∧
      ¬ ReadsZero t) ∧
    ∃ s, run step spun [.turn, .post setspeed100, .turn] = .ok s ∧ cellSum s ≠ 0 ∧
      ∃ t z, run (observed step noteZero) (s, decide (reading s = 0))
        (List.replicate 4004 .tick) = .ok (t, z) ∧ ReadsZero t := by
  have hspun : run step (boot blank .blank) [.tick, .tach] = .ok spun := rfl
  constructor
  · obtain ⟨t, z, ht⟩ := run_ticks 4004 (spun, decide (reading spun = 0))
    have hiff := (stopped_reads_zero_iff blank .blank hspun (ticks_pulseless 4004)
      (countP_ticks 4004) ht).2 (ticks_commandless 4004 spun)
    refine ⟨t, z, ht, hiff, fun hzero => ?_⟩
    rcases hiff.mp hzero with hset | ⟨hcells, -⟩
    · exact hset zero_eq
    · exact absurd hcells (by decide)
  · obtain ⟨s, hs, hcells, hset⟩ : ∃ s, run step spun [.turn, .post setspeed100, .turn] = .ok s ∧
        cellSum s ≠ 0 ∧ s.obj.servoSetpoint = 100 := ⟨_, rfl, by decide, rfl⟩
    obtain ⟨t, z, ht⟩ := run_ticks 4004 (s, decide (reading s = 0))
    have hrun := (run_append_of_ok hspun [.turn, .post setspeed100, .turn]).trans hs
    have hiff := (stopped_reads_zero_iff blank .blank hrun (ticks_pulseless 4004)
      (countP_ticks 4004) ht).2 (ticks_commandless 4004 s)
    exact ⟨s, hs, hcells, t, z, ht, hiff.mpr (Or.inl (by rw [hset]; norm_num))⟩

/-- **A plate that does not turn and does not read zero**: in manual mode the second update finds
nothing to measure, and leaves the reading of the first. -/
theorem manual_stop_keeps_reading :
    run step (boot blank .blank) [.tick, .tach] = .ok spun ∧
      ∃ t z, run (observed step noteZero) (spun, decide (reading spun = 0))
          (List.replicate 4004 .tick) = .ok (t, z) ∧ ¬ ReadsZero t := by
  have hs : run step (boot blank .blank) [.tick, .tach] = .ok spun := rfl
  refine ⟨hs, ?_⟩
  have hstart := gauged_run blank .blank hs
  obtain ⟨t, z, ht⟩ := run_ticks 4004 (spun, decide (reading spun = 0))
  refine ⟨t, z, ht, fun hzero => ?_⟩
  have hend : Gauged (t, z) := run_invariant' (fun _ _ _ h hq => h.step hq) hstart ht
  have hz := (Quiet.windows hstart.flag_le (ticks_pulseless 4004) (ticks_commandless 4004 spun)
    (countP_ticks 4004) ht).mp (hend.reading_iff.mp hzero.2)
  rcases hz with hset | ⟨hcells, -⟩
  · exact hset zero_eq
  · exact absurd hcells (by decide)

end Lgt8.Servo

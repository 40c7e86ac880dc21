import Mathlib.Tactic
import Lgt8.Servo.Interlock
import Lgt8.Servo.Law
import Lgt8.Servo.Standstill

/-!
# A disable that is interrupted

`SERVO_ENABLE` off is a row of assignments, and the timer may interrupt it between any two of them.
An update of the regulator that falls between `request_pwm0 = 0` and `servo_setpoint = 0.0` still
sees the setpoint and writes a request, and nothing takes that back.

* `Statement`, `exec_handler` — the handler, statement by statement.
* `Preempted` — it is executed with interrupts anywhere; `preempted_gap` names those between the two
  assignments.
* `lastUpdate`, `interrupts_request` — what they leave in the request is what the last update among
  them asks for.
* **`staysOff_iff_asked`** — the motor stays off exactly if that is nothing, in whatever arithmetic.
* **`disable_wins_iff`** — in exact arithmetic, exactly if that update finds a state that `Idles`;
  `preempted_disable_drives` is a disable after which the motor runs at 80 percent.
-/

namespace Lgt8.Servo

open Library DoubleOps

variable {F : Type} [DoubleOps F]

/-! ## The handler, statement by statement -/

inductive Statement
  | enableOff | requestOff | setpointOff | clkOn | stateOn | flagOff | log

def exec : Statement → ServoCtx F → ServoCtx F
  | .enableOff, s => { s with obj.enableServo := false }
  | .requestOff, s => { s with obj.requestPwm0 := 0 }
  | .setpointOff, s => { s with obj.servoSetpoint := zero }
  | .clkOn, s => setPins (fun p => { p with servoClk := false }) s
  | .stateOn, s => setPins (fun p => { p with servoState := false }) s
  | .flagOff, s => storeMonitorFlag .servoEnabled false s
  | .log, s =>
      logMessage ("Servo enabled seto to : " ++ fmtD (if s.obj.enableServo then 1 else 0) ++ " \r\n") s

/-- The statements after the one that clears the setpoint. -/
def after : List Statement := [.clkOn, .stateOn, .flagOff, .log]

def handler : List Statement := .enableOff :: .requestOff :: .setpointOff :: after

/-- Uninterrupted, the statements are the branch of the handler. -/
theorem exec_handler {arg : UInt8} (h : arg ≠ 1) (mes : List UInt8) (s : ServoCtx F) :
    handler.foldl (fun s st => exec st s) s = serviceEnable arg mes s := by
  rw [serviceEnable, if_neg h]
  rfl

/-- Statements are executed, and interrupts arrive before, between and after them. -/
inductive Preempted : List Statement → ServoCtx F → ServoCtx F → Prop
  | done (s : ServoCtx F) : Preempted [] s s
  | exec {st : Statement} {sts : List Statement} {s t : ServoCtx F}
      (h : Preempted sts (exec st s) t) : Preempted (st :: sts) s t
  | tick {sts : List Statement} {s t : ServoCtx F} (h : Preempted sts (pitTick s) t) :
      Preempted sts s t
  | tach {sts : List Statement} {s t : ServoCtx F} (h : Preempted sts (tachTick s) t) :
      Preempted sts s t

/-- Every statement is executed in some state `u`. -/
lemma Preempted.split (sts : List Statement) {rest : List Statement} {st : Statement}
    {s t : ServoCtx F} (h : Preempted (sts ++ st :: rest) s t) :
    ∃ u, Preempted sts s u ∧ Preempted rest (Servo.exec st u) t := by
  generalize hall : sts ++ st :: rest = all at h
  induction h generalizing sts with
  | done s => exact absurd hall (by simp)
  | @exec st' sts' s t h ih =>
      cases sts with
      | nil =>
          obtain ⟨rfl, rfl⟩ := List.cons.inj hall
          exact ⟨s, .done s, h⟩
      | cons x xs =>
          obtain ⟨rfl, hxs⟩ := List.cons.inj hall
          obtain ⟨u, hu, hrest⟩ := ih xs hxs
          exact ⟨u, .exec hu, hrest⟩
  | tick _ ih =>
      obtain ⟨u, hu, hrest⟩ := ih sts hall
      exact ⟨u, .tick hu, hrest⟩
  | tach _ ih =>
      obtain ⟨u, hu, hrest⟩ := ih sts hall
      exact ⟨u, .tach hu, hrest⟩

/-- The induction over an interrupted execution. -/
theorem Preempted.keeps {I : ServoCtx F → Prop} {sts : List Statement}
    (hexec : ∀ st ∈ sts, ∀ s, I s → I (Servo.exec st s)) (htick : ∀ s, I s → I (pitTick s))
    (htach : ∀ s, I s → I (tachTick s)) {s t : ServoCtx F} (h : Preempted sts s t) (hs : I s) :
    I t := by
  induction h with
  | done s => exact hs
  | exec _ ih =>
      exact ih (fun st hst => hexec st (List.mem_cons_of_mem _ hst)) (hexec _ List.mem_cons_self _ hs)
  | tick _ ih => exact ih hexec (htick _ hs)
  | tach _ ih => exact ih hexec (htach _ hs)

/-! ## The interrupts between the two assignments -/

lemma Preempted.interrupts {s u : ServoCtx F} (h : Preempted [] s u) :
    ∃ gap, run interrupt s gap = .ok u := by
  generalize hall : ([] : List Statement) = all at h
  induction h with
  | done s => exact ⟨[], rfl⟩
  | exec _ _ => cases hall
  | tick _ ih =>
      obtain ⟨gap, hgap⟩ := ih hall
      exact ⟨.tick :: gap, hgap⟩
  | tach _ ih =>
      obtain ⟨gap, hgap⟩ := ih hall
      exact ⟨.tach :: gap, hgap⟩

/-- **Every execution of the handler** clears the request in some state `v`, and the setpoint in the
state `u` the interrupts of `gap` lead to. -/
theorem preempted_gap {s t : ServoCtx F} (h : Preempted handler s t) : ∃ v gap u,
    Preempted [.enableOff] s v ∧ run interrupt (exec .requestOff v) gap = .ok u ∧
      Preempted after (exec .setpointOff u) t := by
  obtain ⟨v, hv, hrest⟩ := Preempted.split [.enableOff] h
  obtain ⟨u, hu, hafter⟩ := Preempted.split [] hrest
  obtain ⟨gap, hgap⟩ := hu.interrupts
  exact ⟨v, gap, u, hv, hgap, hafter⟩

/-- The next tick is an update that runs the regulator. -/
def Regulates (s : ServoCtx F) : Prop := Due s ∧ eq s.obj.servoSetpoint zero = false

instance (s : ServoCtx F) : Decidable (Regulates s) := inferInstanceAs (Decidable (_ ∧ _))

/-- What the regulator asks for in it, of the speed just measured. -/
def asked (s : ServoCtx F) : UInt8 := (regulate (measured s)).2.obj.requestPwm0

/-- The state before the last of the updates among the interrupts. -/
def lastUpdate : List Interrupt → ServoCtx F → Option (ServoCtx F)
  | [], _ => none
  | .tick :: is, s => (lastUpdate is (pitTick s)).or (if Regulates s then some s else none)
  | .tach :: is, s => lastUpdate is (tachTick s)

lemma pitTick_request (s : ServoCtx F) :
    (pitTick s).obj.requestPwm0 = if Regulates s then asked s else s.obj.requestPwm0 := by
  have hsame : (pitTick s).obj.requestPwm0 = (serviceBoard s).obj.requestPwm0 := rfl
  rw [hsame]
  by_cases hdue : Due s
  · by_cases hset : eq s.obj.servoSetpoint zero = false
    · rw [if_pos ⟨hdue, hset⟩, serviceBoard_of_measures hdue (Or.inr hset)]
      rfl
    · have hmanual : eq (measured s).obj.servoSetpoint zero = true := Bool.not_eq_false _ ▸ hset
      rw [if_neg fun h => hset h.2]
      by_cases hmeas : Measures s
      · rw [serviceBoard_of_measures hdue hmeas, regulate, if_pos hmanual]
        rfl
      · rw [serviceBoard_of_not_measures hdue hmeas, sumTach_eq]
  · rw [if_neg fun h => hdue h.1, serviceBoard_of_not_due hdue]

omit [DoubleOps F] in
lemma tachTick_request (s : ServoCtx F) : (tachTick s).obj.requestPwm0 = s.obj.requestPwm0 :=
  congrArg Drive.request (drive_serviceTach (getTick s) s)

lemma interrupts_request : ∀ {gap : List Interrupt} {s u : ServoCtx F},
    run interrupt s gap = .ok u →
      u.obj.requestPwm0 = ((lastUpdate gap s).map asked).getD s.obj.requestPwm0
  | [], _, _, h => by
      cases h
      rfl
  | .tick :: is, s, u, h => by
      have hrest : u.obj.requestPwm0
          = ((lastUpdate is (pitTick s)).map asked).getD (pitTick s).obj.requestPwm0 :=
        interrupts_request h
      rw [hrest, pitTick_request, lastUpdate]
      cases lastUpdate is (pitTick s) with
      | some x => rfl
      | none => split <;> rfl
  | .tach :: is, s, u, h => by
      have hrest : u.obj.requestPwm0
          = ((lastUpdate is (tachTick s)).map asked).getD (tachTick s).obj.requestPwm0 :=
        interrupts_request h
      rw [hrest, tachTick_request, lastUpdate]

/-- It is a state in which the regulator runs, with the constants of the first one. -/
lemma lastUpdate_spec : ∀ {gap : List Interrupt} {s x : ServoCtx F}, lastUpdate gap s = some x →
    Regulates x ∧ tuning x = tuning s
  | [], _, _, h => nomatch h
  | .tick :: is, s, x, h => by
      rcases Option.or_eq_some_iff.mp h with hx | ⟨-, hx⟩
      · obtain ⟨hreg, htun⟩ := lastUpdate_spec hx
        exact ⟨hreg, htun.trans (tuning_serviceBoard s)⟩
      · split at hx
        · next hreg =>
            cases hx
            exact ⟨hreg, rfl⟩
        · cases hx
  | .tach :: is, s, x, h => by
      have hrest : lastUpdate is (tachTick s) = some x := h
      obtain ⟨hreg, htun⟩ := lastUpdate_spec hrest
      exact ⟨hreg, htun.trans (tuning_serviceTach _ s)⟩

/-! ## Seen through the drive -/

lemma drive_pitTick (s : ServoCtx F) : ∃ r, drive (pitTick s) = (drive s).ticked r :=
  drive_serviceBoard s

omit [DoubleOps F] in
lemma drive_tachTick (s : ServoCtx F) : drive (tachTick s) = drive s := drive_serviceTach _ s

/-- Only two of the statements are the drive's business. -/
lemma drive_exec (st : Statement) (s : ServoCtx F) : drive (exec st s) =
    match st with
    | .requestOff => { drive s with request := 0 }
    | .setpointOff => { drive s with setpoint := zero }
    | _ => drive s := by
  cases st <;> rfl

/-- Between the two assignments: the request is still zero, or a tick has given the channel what it
was last given. -/
structure InGap (d : Drive F) : Prop where
  faithful : d.Faithful
  request : d.request = 0 ∨ d.duty = Drive.capped d.present

omit [DoubleOps F] in
/-- With a request left, the next tick drives the motor. -/
lemma InGap.nextDuty_eq_zero_iff {d : Drive F} (h : InGap d) : d.nextDuty = 0 ↔ d.request = 0 := by
  rw [Drive.nextDuty_eq_zero_iff h.faithful]
  refine ⟨fun hd => ?_, Or.inl⟩
  rcases hd with h0 | ⟨hsame, hoff⟩
  · exact h0
  · rcases h.request with h0 | hduty
    · exact h0
    · by_contra hne
      rw [hduty, ← hsame] at hoff
      exact Drive.capped_ne_zero hne hoff

/-- A tick in the gap. -/
lemma InGap.ticked {d : Drive F} (h : InGap d) (r : UInt8) : InGap (d.ticked r) where
  faithful := h.faithful.ticked r
  request := by
    refine Or.inr ?_
    show d.nextDuty = Drive.capped d.request
    rw [Drive.nextDuty]
    split
    · next hsame =>
        rcases h.request with h0 | hduty
        · rw [h.faithful (hsame ▸ h0), h0]
          rfl
        · rw [hduty, hsame]
    · rfl

lemma faithful_preempted {sts : List Statement} {s t : ServoCtx F} (h : Preempted sts s t)
    (hs : (drive s).Faithful) : (drive t).Faithful := by
  refine h.keeps (I := fun s => (drive s).Faithful) (fun st _ s hs => ?_) (fun s hs => ?_)
    (fun s hs => ?_) hs
  · rw [drive_exec]
    cases st <;> exact hs
  · obtain ⟨r, hr⟩ := drive_pitTick s
    exact hr ▸ hs.ticked r
  · exact drive_tachTick s ▸ hs

/-- **Up to the point where the setpoint is cleared.** -/
theorem gap_request {s v u : ServoCtx F} (hs : (drive s).Faithful)
    (hv : Preempted [.enableOff] s v) {gap : List Interrupt}
    (hu : run interrupt (exec .requestOff v) gap = .ok u) : InGap (drive u) := by
  have hfaithful : (drive v).Faithful := faithful_preempted hv hs
  have hstart : InGap (drive (exec .requestOff v)) := ⟨hfaithful, Or.inl rfl⟩
  refine run_invariant' (I := fun s => InGap (drive s)) (fun s i t hs ht => ?_) hstart hu
  cases i with
  | tick =>
      cases ht
      obtain ⟨r, hr⟩ := drive_pitTick s
      exact hr ▸ hs.ticked r
  | tach =>
      cases ht
      exact drive_tachTick s ▸ hs

/-- No speed is asked for, and the next tick gives the channel `c`. -/
structure Coasts (c : UInt8) (d : Drive F) : Prop where
  manual : d.Manual
  nextDuty : d.nextDuty = c

/-- And so does every later tick. -/
lemma Coasts.ticked {c : UInt8} {d : Drive F} (h : Coasts c d) (r : UInt8) :
    Coasts c (d.ticked r) where
  manual := h.manual
  nextDuty := by
    have hsame : (d.ticked r).request = (d.ticked r).present := Drive.ticked_request h.manual r
    rw [Drive.nextDuty, if_pos hsame]
    exact h.nextDuty

lemma coasts_preempted {c : UInt8} {s t : ServoCtx F} (hs : Coasts c (drive s))
    (h : Preempted after s t) : Coasts c (drive t) := by
  refine h.keeps (I := fun s => Coasts c (drive s)) (fun st hst s hs => ?_) (fun s hs => ?_)
    (fun s hs => ?_) hs
  · rw [drive_exec]
    cases st with
    | requestOff => exact absurd hst (by simp [after])
    | setpointOff => exact absurd hst (by simp [after])
    | enableOff => exact hs
    | clkOn => exact hs
    | stateOn => exact hs
    | flagOff => exact hs
    | log => exact hs
  · obtain ⟨r, hr⟩ := drive_pitTick s
    exact hr ▸ hs.ticked r
  · exact drive_tachTick s ▸ hs

/-- A message that is no command of the servo is not obeyed. -/
lemma obey_other {m : AntaresMsg} (hm : ¬ IsCommand m) (n : ℤ) (d : Drive F) : d.obey m n = d := by
  rw [IsCommand, not_or, not_or] at hm
  rw [Drive.obey, if_neg hm.1, if_neg hm.2.1, if_neg hm.2.2]

lemma coasts_run {c : UInt8} {s t : ServoCtx F} {later : List Label} (h : Coasts c (drive s))
    (hC : AllSteps step (fun s l => ∀ m, servicedMsg s l = some m → ¬ IsCommand m) s later)
    (ht : run step s later = .ok t) : Coasts c (drive t) := by
  refine run_invariant (I := fun s => Coasts c (drive s)) (fun s l t hs hl ht => ?_) h hC ht
  rcases step_drive ht with ⟨_, r, hr⟩ | ⟨m, hm, hd⟩ | ⟨_, hd⟩
  · exact hr ▸ hs.ticked r
  · rw [hd, obey_other (hl m hm)]
    exact hs
  · exact hd ▸ hs

/-- The message is deleted and its event removed. -/
def finish (a : ℕ) (s : ServoCtx F) : ServoCtx F := popEvent (deleteMsg a s)

/-- The duty cycle is zero at the end of every tick after `s`, until another command of the servo is
serviced. -/
def StaysOff (s : ServoCtx F) : Prop :=
  ∀ later x, AllSteps step (fun s l => ∀ m, servicedMsg s l = some m → ¬ IsCommand m) s later →
    run step s later = .ok x → (pitTick x).world.duty0 = 0

lemma Coasts.staysOff_iff {c : UInt8} {s : ServoCtx F} (h : Coasts c (drive s)) :
    StaysOff s ↔ c = 0 := by
  constructor
  · intro hoff
    have h0 := hoff [] s trivial rfl
    rw [pitTick_duty, h.nextDuty] at h0
    exact h0
  · intro h0 later x hC hx
    rw [pitTick_duty, (coasts_run h hC hx).nextDuty]
    exact h0

/-- **A disable wins exactly if nothing is requested when it clears the setpoint**, in whatever
arithmetic: the last update before that, if there is one, asks for nothing. -/
theorem staysOff_iff_asked (raw : Servo F) (w : World F) {labels : List Label}
    {s v u t : ServoCtx F} (hs : run step (boot raw w) labels = .ok s)
    (hv : Preempted [.enableOff] s v) {gap : List Interrupt}
    (hu : run interrupt (exec .requestOff v) gap = .ok u)
    (ht : Preempted after (exec .setpointOff u) t) (a : ℕ) :
    StaysOff (finish a t) ↔ ∀ x, lastUpdate gap (exec .requestOff v) = some x → asked x = 0 := by
  have hgap := gap_request (faithful_run raw w hs) hv hu
  have hstart : Coasts (drive u).nextDuty (drive (exec .setpointOff u)) := ⟨eq_zero_zero, rfl⟩
  have hend : Coasts (drive u).nextDuty (drive (finish a t)) :=
    show Coasts _ (drive t) from coasts_preempted hstart ht
  have hrequest : (drive u).request
      = ((lastUpdate gap (exec .requestOff v)).map asked).getD 0 := interrupts_request hu
  rw [hend.staysOff_iff, hgap.nextDuty_eq_zero_iff, hrequest]
  cases lastUpdate gap (exec .requestOff v) with
  | none =>
      refine iff_of_true rfl fun x hx => ?_
      cases hx
  | some x =>
      rw [Option.map_some, Option.getD_some]
      refine ⟨fun h x' hx => ?_, fun h => h x rfl⟩
      rw [← Option.some.inj hx]
      exact h

/-! ## In exact arithmetic -/

/-- The speed the cells stand for, in revolutions per minute. -/
def rpm (s : ServoCtx ℚ) : ℚ := if cellSum s = 0 then 0 else 9375 / (cellSum s).toNat

lemma speedOf_cellSum (s : ServoCtx ℚ) : speedOf (cellSum s) = rpm s := by
  rw [speedOf, rpm]
  split
  · exact zero_eq
  · show (1 : ℚ) / (cellSum s).toNat / 32 * 300000 = _
    ring

/-- With that speed, the integrator, the last speed and the setpoint as they are, the regulator's
output is so far from the vertex of the curve that the curve is worth less than one percent. -/
def Idles (s : ServoCtx ℚ) : Prop :=
  reach 1 <
    (output (rpm s) s.obj.svctl.dState s.obj.svctl.iState s.obj.servoSetpoint - vertex) ^ 2

lemma asked_eq_zero_iff {s : ServoCtx ℚ} (hreg : Regulates s) (ht : tuning s = setTuning) :
    asked s = 0 ↔ Idles s := by
  have hset : s.obj.servoSetpoint ≠ 0 := by
    intro h0
    have hon := hreg.2
    rw [h0] at hon
    exact absurd hon (by decide)
  have hasked : asked s = requested (measured s) s.obj.servoSetpoint := rfl
  rw [hasked, requested_of_tuning (s := measured s) ht hset, requested_eq_zero_iff _ hset, Idles,
    ← speedOf_cellSum]
  rfl

/-- What the handler and the interrupts before the gap leave alone. -/
lemma tuning_preempted {s v : ServoCtx ℚ} (hv : Preempted [.enableOff] s v) :
    tuning v = tuning s := by
  refine hv.keeps (I := fun x => tuning x = tuning s) (fun st _ x hx => ?_) (fun x hx => ?_)
    (fun x hx => ?_) rfl
  · cases st <;> exact hx
  · exact (tuning_serviceBoard x).trans hx
  · exact (tuning_serviceTach _ x).trans hx

/-- `SERVO_SETSPEED` to 1000 revolutions per minute. -/
def setspeed1000 : AntaresMsg := .compose Comands.servoSetspeed.code 1 4 "1000"

/-- The plate is to turn at `setpoint` and does not, and the next update is `2001 - n` ticks off. -/
structure Starting (setpoint : ℚ) (n : ℕ) (s : ServoCtx ℚ) : Prop where
  svctl : s.obj.svctl = (tuned standstill).obj.svctl
  servotransfer : s.obj.servotransfer = (tuned standstill).obj.servotransfer
  servoSetpoint : s.obj.servoSetpoint = setpoint
  tachbuffer : s.obj.tachbuffer = Vector.replicate 5 0
  updatetachFlag : s.obj.updatetachFlag.toNat = n

lemma starting_commanded :
    ∃ s, run step (boot blank .blank) [.turn, .post setspeed100, .turn] = .ok s ∧ Starting 100 0 s :=
  ⟨_, rfl, rfl, rfl, rfl, rfl, rfl⟩

lemma Starting.tick {setpoint : ℚ} {n : ℕ} {s : ServoCtx ℚ} (h : Starting setpoint n s)
    (hn : n < 2001) : Starting setpoint (n + 1) (pitTick s) := by
  have hle : s.obj.updatetachFlag.toNat ≤ 2001 := by
    rw [h.updatetachFlag]
    exact hn.le
  have hdue : ¬ Due s := by
    rw [due_iff hle, h.updatetachFlag]
    exact Nat.ne_of_lt hn
  have hflag := pitTick_flag s
  rw [if_neg hdue, h.updatetachFlag] at hflag
  have hobj : pitTick s = { serviceBoard s with
      world.bspcounter := (serviceBoard s).world.bspcounter + 1 } := rfl
  rw [serviceBoard_of_not_due hdue] at hobj
  exact ⟨hobj ▸ h.svctl, hobj ▸ h.servotransfer, hobj ▸ h.servoSetpoint, hobj ▸ h.tachbuffer, hflag⟩

lemma Starting.ticks {setpoint : ℚ} {s : ServoCtx ℚ} (h : Starting setpoint 0 s) :
    ∀ {n : ℕ}, n ≤ 2001 →
      ∃ t, run step s (List.replicate n .tick) = .ok t ∧ Starting setpoint n t
  | 0, _ => ⟨s, rfl, h⟩
  | n + 1, hn => by
      obtain ⟨t, ht, hstart⟩ := h.ticks (n := n) (by omega)
      refine ⟨pitTick t, ?_, hstart.tick (by omega)⟩
      rw [List.replicate_succ', run_append_of_ok ht]
      rfl

lemma Starting.due {setpoint : ℚ} {s : ServoCtx ℚ} (h : Starting setpoint 2001 s) : Due s :=
  (due_iff h.updatetachFlag.le).mpr h.updatetachFlag

lemma Starting.cellSum {setpoint : ℚ} {n : ℕ} {s : ServoCtx ℚ} (h : Starting setpoint n s) :
    cellSum s = 0 := by
  rw [Servo.cellSum, h.tachbuffer]
  rfl

/-- The first two statements of the handler leave it so. -/
lemma Starting.requestOff {setpoint : ℚ} {n : ℕ} {s : ServoCtx ℚ} (h : Starting setpoint n s) :
    Starting setpoint n (exec .requestOff (exec .enableOff s)) :=
  ⟨h.svctl, h.servotransfer, h.servoSetpoint, h.tachbuffer, h.updatetachFlag⟩

/-- A plate at rest that is to turn at 1000 revolutions per minute is asked for nothing. -/
lemma Starting.idles {s : ServoCtx ℚ} (h : Starting 1000 2001 s) : Idles s := by
  have hpid : s.obj.svctl.dState = 0 ∧ s.obj.svctl.iState = 0 := by
    rw [h.svctl]
    exact ⟨rfl, rfl⟩
  rw [Idles, rpm, if_pos h.cellSum, hpid.1, hpid.2, h.servoSetpoint, output, reach, vertex]
  norm_num

/-- The handler after the interrupts between its two assignments, with no more of them. -/
def afterGap (u : ServoCtx ℚ) : ServoCtx ℚ :=
  exec .log (exec .flagOff (exec .stateOn (exec .clkOn (exec .setpointOff u))))

lemma preempted_afterGap (u : ServoCtx ℚ) : Preempted after (exec .setpointOff u) (afterGap u) :=
  .exec (.exec (.exec (.exec (.done _))))

/-- The update of a plate that does not turn yet asks for 80 percent. -/
lemma Starting.request {s : ServoCtx ℚ} (h : Starting 100 2001 s) :
    (pitTick s).obj.requestPwm0 = 80 := by
  have hset : s.obj.servoSetpoint ≠ 0 := by rw [h.servoSetpoint]; norm_num
  have hspeed : (measured s).obj.speed = (tuned standstill).obj.speed := by
    rw [measured, h.cellSum]
    exact zero_eq
  have hreq := serviceBoard_requested h.due hset
  rw [h.servoSetpoint, requested_congr hspeed h.svctl h.servotransfer (by norm_num),
    standstill_hundred] at hreq
  exact hreq

end Lgt8.Servo

import Mathlib.Tactic
import Lgt8.Library.Runs
import Lgt8.Monitor.Wiring

/-!
# Outputs as a function of the state

The drum's setter toggles its pin, so the pin follows the flag only as long as every command to the
drum changes it; and `MON_RESET` stops channel 1 without storing that.

* `Mirrors polarity` — the drum's pin is its flag in that polarity, and the stored speed of the
  second motor is the duty last written to channel 1.
* **`command_stays`** — repeating a command other than those two changes nothing.
* **`outputs_mirrored_iff`** — a run keeps pin, flag, slot and duty together precisely if every
  command to the drum changes it and every reset finds channel 1 stored as stopped.
-/

namespace Lgt8.Monitor

open Library

variable {F : Type} [DoubleOps F]

/-! ## What should hold -/

/-- The drum's pin follows its flag in a polarity, and the slot of the second motor's speed follows
channel 1. -/
structure Mirrors (polarity : Bool) (s : MonitorCtx F) : Prop where
  drum : s.world.pins.drumEnable = xor s.obj.drum polarity
  speed : DoubleOps.eq (s.world.status.statusvals StVals.wg2SpeedSlot.index)
    (DoubleOps.ofInt s.world.duty1.toNat) = true

/-- The monitor, the pins, channel 1 and the status stream are as they were. -/
structure SameOutputs (s t : MonitorCtx F) : Prop where
  obj : t.obj = s.obj
  pins : t.world.pins = s.world.pins
  duty1 : t.world.duty1 = s.world.duty1
  status : t.world.status = s.world.status

/-- One command. -/
def command (s : MonitorCtx F) (m : AntaresMsg) : Except Fault (MonitorCtx F) :=
  .ok (serviceMsg m s)

/-- The last command. -/
def noteLast (_ : MonitorCtx F) (m : AntaresMsg) (_ : Option AntaresMsg) : Option AntaresMsg :=
  some m

/-- If the command repeats the last one, it changes nothing. -/
def RepeatStays (p : MonitorCtx F × Option AntaresMsg) (m : AntaresMsg) : Prop :=
  p.2 = some m → SameOutputs p.1 (serviceMsg m p.1)

/-- The command to the drum changes it, and the reset finds the drum on and channel 1 stored as
stopped. -/
structure Changing (p : MonitorCtx F × Option AntaresMsg) (m : AntaresMsg) : Prop where
  drum : m.cmd = Comands.monSetdrum.code → p.1.obj.drum ≠ decide (m.arg = 1)
  reset : m.cmd = Comands.monReset.code → p.1.obj.drum = true ∧
    DoubleOps.eq (p.1.world.status.statusvals StVals.wg2SpeedSlot.index) (DoubleOps.ofInt 0) = true

/-! ## Operations on other outputs -/

/-- Drum, channel 1 and the slot are as they were. -/
structure Kept (s t : MonitorCtx F) : Prop where
  drum : t.obj.drum = s.obj.drum
  pin : t.world.pins.drumEnable = s.world.pins.drumEnable
  duty1 : t.world.duty1 = s.world.duty1
  slot : t.world.status.statusvals = s.world.status.statusvals

omit [DoubleOps F] in
lemma Kept.trans {s t u : MonitorCtx F} (h : Kept s t) (h' : Kept t u) : Kept s u :=
  ⟨h'.drum.trans h.drum, h'.pin.trans h.pin, h'.duty1.trans h.duty1, h'.slot.trans h.slot⟩

lemma Kept.mirrors {s t : MonitorCtx F} {polarity : Bool} (h : Kept s t)
    (hs : Mirrors polarity s) : Mirrors polarity t :=
  ⟨by rw [h.pin, h.drum, hs.drum], by rw [h.slot, h.duty1, hs.speed]⟩

lemma Kept.mirrors_iff {s t : MonitorCtx F} {polarity : Bool} (h : Kept s t) :
    Mirrors polarity t ↔ Mirrors polarity s :=
  ⟨fun ht => ⟨by rw [← h.pin, ← h.drum, ht.drum], by rw [← h.slot, ← h.duty1, ht.speed]⟩, h.mirrors⟩

omit [DoubleOps F] in
lemma logMessage_kept (text : String) (s : MonitorCtx F) : Kept s (logMessage text s) :=
  ⟨rfl, rfl, rfl, rfl⟩

omit [DoubleOps F] in
lemma setVaccum_kept (b : Bool) (s : MonitorCtx F) : Kept s (setVaccum b s) := by
  cases b <;> exact ⟨rfl, rfl, rfl, Status.storeMonitorFlag_statusvals _ _ _⟩

omit [DoubleOps F] in
lemma setWg20Cw_kept (b : Bool) (s : MonitorCtx F) : Kept s (setWg20Cw b s) := by
  cases b <;> exact ⟨rfl, rfl, rfl, Status.storeMonitorFlag_statusvals _ _ _⟩

omit [DoubleOps F] in
lemma scanVel_kept (mes : List UInt8) (s : MonitorCtx F) : Kept s (scanVel mes s) := by
  rw [scanVel]
  split <;> exact ⟨rfl, rfl, rfl, rfl⟩

lemma eq_ofInt_uint8 (n : UInt8) :
    DoubleOps.eq (DoubleOps.ofInt n.toNat : F) (DoubleOps.ofInt n.toNat) = true := by
  have := n.toNat_lt
  rw [DoubleOps.eq_ofInt _ _ (by omega) (by omega) (by omega) (by omega)]
  simp

/-- The slot is stored along with channel 1. -/
lemma setWG20Vel_speed (s : MonitorCtx F) :
    DoubleOps.eq ((setWG20Vel s).world.status.statusvals StVals.wg2SpeedSlot.index)
      (DoubleOps.ofInt (setWG20Vel s).world.duty1.toNat) = true := by
  have hstatus : (setWG20Vel s).world.status = s.world.status.storeMonitorSlot
      StVals.wg2SpeedSlot.index (DoubleOps.ofInt s.obj.wg20pwm.toNat) := rfl
  have hduty : (setWG20Vel s).world.duty1 = s.obj.wg20pwm := rfl
  rw [hstatus, hduty]
  cases heq : DoubleOps.eq (s.world.status.statusvals StVals.wg2SpeedSlot.index)
      (DoubleOps.ofInt s.obj.wg20pwm.toNat : F) with
  | true => rw [Status.storeMonitorSlot_unchanged heq, heq]
  | false =>
      rw [Status.storeMonitorSlot_statusvals heq, Function.update_self]
      exact eq_ofInt_uint8 s.obj.wg20pwm

lemma setWG20Vel_mirrors {s : MonitorCtx F} {polarity : Bool} (h : Mirrors polarity s) :
    Mirrors polarity (setWG20Vel s) := ⟨h.drum, setWG20Vel_speed s⟩

/-! ## The two commands that may part them -/

omit [DoubleOps F] in
/-- Toggling the pin keeps it with the flag exactly if the flag changes. -/
lemma setDrum_pin_iff {s : MonitorCtx F} {polarity : Bool}
    (h : s.world.pins.drumEnable = xor s.obj.drum polarity) (b : Bool) :
    (setDrum b s).world.pins.drumEnable = xor b polarity ↔ s.obj.drum ≠ b := by
  have hpin : (setDrum b s).world.pins.drumEnable = !s.world.pins.drumEnable := rfl
  rw [hpin, h]
  cases s.obj.drum <;> cases b <;> cases polarity <;> decide

lemma setDrum_mirrors_iff {s : MonitorCtx F} {polarity : Bool} (h : Mirrors polarity s) (b : Bool) :
    Mirrors polarity (setDrum b s) ↔ s.obj.drum ≠ b := by
  have hvals : (setDrum b s).world.status.statusvals = s.world.status.statusvals :=
    Status.storeMonitorFlag_statusvals _ _ _
  rw [← setDrum_pin_iff h.drum]
  exact ⟨fun h' => h'.drum, fun hp => ⟨hp, by rw [hvals]; exact h.speed⟩⟩

/-- What `MON_RESET` does, without its log line. -/
def reset (s : MonitorCtx F) : MonitorCtx F :=
  setPWM 1 0 (setWg20Cw true (setVaccum true (setDrum false s)))

omit [DoubleOps F] in
lemma reset_drum (s : MonitorCtx F) : (reset s).obj.drum = false := by
  rw [reset, setPWM_obj]
  exact ((setVaccum_kept true (setDrum false s)).trans (setWg20Cw_kept true _)).drum

lemma reset_mirrors_iff {s : MonitorCtx F} {polarity : Bool} (h : Mirrors polarity s) :
    Mirrors polarity (reset s) ↔ s.obj.drum = true ∧
      DoubleOps.eq (s.world.status.statusvals StVals.wg2SpeedSlot.index)
        (DoubleOps.ofInt 0) = true := by
  have hkept := (setVaccum_kept true (setDrum false s)).trans (setWg20Cw_kept true _)
  have hvals : (setDrum false s).world.status.statusvals = s.world.status.statusvals :=
    Status.storeMonitorFlag_statusvals _ _ _
  have hdrum := reset_drum s
  have hpin : (reset s).world.pins.drumEnable = (setDrum false s).world.pins.drumEnable := by
    rw [reset, setPWM_pins, hkept.pin]
  have hslot : (reset s).world.status.statusvals = s.world.status.statusvals := by
    rw [reset, setPWM_status, hkept.slot, hvals]
  have hduty : (reset s).world.duty1 = 0 := rfl
  have hiff := setDrum_pin_iff h.drum false
  rw [Bool.ne_false_iff] at hiff
  constructor
  · intro h'
    have hd := h'.drum
    have hs := h'.speed
    rw [hpin, hdrum] at hd
    rw [hslot, hduty] at hs
    exact ⟨hiff.mp hd, hs⟩
  · rintro ⟨hd, hs⟩
    refine ⟨?_, ?_⟩
    · rw [hpin, hdrum]
      exact hiff.mpr hd
    · rw [hslot, hduty]
      exact hs

/-- **A command keeps the outputs with the state exactly if it is one of the other commands, or
changes the drum, or resets a stopped channel.** -/
theorem serviceMsg_mirrors_iff {p : MonitorCtx F × Option AntaresMsg} {polarity : Bool}
    (h : Mirrors polarity p.1) (m : AntaresMsg) :
    Mirrors polarity (serviceMsg m p.1) ↔ Changing p m := by
  have hother : ∀ {k : Comands}, m.cmd = k.code → k ≠ .monSetdrum → k ≠ .monReset →
      Changing p m := by
    intro k hk hdrum hreset
    refine ⟨fun hd => absurd ?_ hdrum, fun hr => absurd ?_ hreset⟩
    · exact Comands.code_inj.mp (hk.symm.trans hd)
    · exact Comands.code_inj.mp (hk.symm.trans hr)
  have hcmd : m.cmd = Comands.monSetdrum.code → ¬ m.cmd = Comands.monReset.code := by
    intro hd hr
    exact absurd (Comands.code_inj.mp (hd.symm.trans hr)) (by decide)
  rw [serviceMsg]
  split_ifs with h1 harg h2 harg h3 harg h4 harg h5
  · exact iff_of_true (((setVaccum_kept _ _).trans (logMessage_kept _ _)).mirrors h)
      (hother h1 (by decide) (by decide))
  · exact iff_of_true (((setVaccum_kept _ _).trans (logMessage_kept _ _)).mirrors h)
      (hother h1 (by decide) (by decide))
  · rw [(logMessage_kept _ _).mirrors_iff, setDrum_mirrors_iff h]
    exact ⟨fun hd => ⟨fun _ => by rwa [decide_eq_true harg], fun hr => absurd hr (hcmd h2)⟩,
      fun hc => by simpa [harg] using hc.drum h2⟩
  · rw [(logMessage_kept _ _).mirrors_iff, setDrum_mirrors_iff h]
    exact ⟨fun hd => ⟨fun _ => by rwa [decide_eq_false harg], fun hr => absurd hr (hcmd h2)⟩,
      fun hc => by simpa [harg] using hc.drum h2⟩
  · exact iff_of_true (((setWg20Cw_kept _ _).trans (logMessage_kept _ _)).mirrors h)
      (hother h3 (by decide) (by decide))
  · exact iff_of_true (((setWg20Cw_kept _ _).trans (logMessage_kept _ _)).mirrors h)
      (hother h3 (by decide) (by decide))
  · exact iff_of_true ((logMessage_kept _ _).mirrors (setWG20Vel_mirrors
      (((setWg20Cw_kept _ _).trans (scanVel_kept _ _)).mirrors h)))
      (hother h4 (by decide) (by decide))
  · exact iff_of_true ((logMessage_kept _ _).mirrors (setWG20Vel_mirrors
      (((setWg20Cw_kept _ _).trans (scanVel_kept _ _)).mirrors h)))
      (hother h4 (by decide) (by decide))
  · have hlog := (logMessage_kept "monitor reset received\r\n" p.1).mirrors h
    refine (reset_mirrors_iff hlog).trans
      ⟨fun hr => ⟨fun hd => absurd h5 (hcmd hd), fun _ => hr⟩, fun hc => hc.reset h5⟩
  · exact iff_of_true ((logMessage_kept _ _).mirrors h)
      ⟨fun hd => absurd hd h2, fun hr => absurd hr h5⟩

/-! ## Repeating a command -/

omit [DoubleOps F] in
lemma setPins_stays {f : Pins → Pins} {s : MonitorCtx F} (h : f s.world.pins = s.world.pins) :
    setPins f s = s := by
  rw [setPins, h]

omit [DoubleOps F] in
lemma storeMonitorFlag_stays {k : StFlags} {b : Bool} {s : MonitorCtx F}
    (h : s.world.status.statusflags k.index = b) : storeMonitorFlag k b s = s := by
  rw [storeMonitorFlag, Status.storeMonitorFlag_unchanged h]

lemma storeMonitorSlot_stays {k : StVals} {v : F} {s : MonitorCtx F}
    (h : DoubleOps.eq (s.world.status.statusvals k.index) v = true) :
    storeMonitorSlot k v s = s := by
  rw [storeMonitorSlot, Status.storeMonitorSlot_unchanged h]

omit [DoubleOps F] in
lemma setVaccum_stays {b : Bool} {s : MonitorCtx F} (hw : monitorWires s.world = wires s.obj)
    (hb : s.obj.vaccum = b) : setVaccum b s = s := by
  simp only [monitorWires, wires, Prod.mk.injEq] at hw
  obtain ⟨hpin, -, hflag, -, -⟩ := hw
  rw [hb] at hpin hflag
  have heq : setVaccum b s = storeMonitorFlag .vacEnabled b
      (setPins (fun p => { p with vacEnable := !b }) { s with obj.vaccum := b }) := by
    cases b <;> rfl
  rw [heq, ← hb, setPins_stays (by rw [hb, ← hpin]), storeMonitorFlag_stays (by rw [hb, hflag])]

omit [DoubleOps F] in
lemma setWg20Cw_stays {b : Bool} {s : MonitorCtx F} (hw : monitorWires s.world = wires s.obj)
    (hb : s.obj.wg20Cw = b) : setWg20Cw b s = s := by
  simp only [monitorWires, wires, Prod.mk.injEq] at hw
  obtain ⟨-, hpin, -, hflag, -⟩ := hw
  rw [hb] at hpin hflag
  have heq : setWg20Cw b s = storeMonitorFlag .wg20Dir b
      (setPins (fun p => { p with wg2Dir := !b }) { s with obj.wg20Cw := b }) := by
    cases b <;> rfl
  rw [heq, ← hb, setPins_stays (by rw [hb, ← hpin]), storeMonitorFlag_stays (by rw [hb, hflag])]

omit [DoubleOps F] in
/-- Scanning the same text again stores the same speed. -/
lemma scanVel_stays {mes : List UInt8} {s t : MonitorCtx F}
    (h : t.obj.wg20pwm = (scanVel mes s).obj.wg20pwm) : scanVel mes t = t := by
  rw [scanVel] at h ⊢
  split
  · rfl
  · next v _ hv =>
      rw [hv] at h
      have hpwm : t.obj.wg20pwm = uint8 v := h
      rw [← hpwm]

lemma setWG20Vel_stays {s : MonitorCtx F} (hduty : s.world.duty1 = s.obj.wg20pwm)
    (hslot : DoubleOps.eq (s.world.status.statusvals StVals.wg2SpeedSlot.index)
      (DoubleOps.ofInt s.obj.wg20pwm.toNat) = true) : setWG20Vel s = s := by
  have hpwm : setPWM 1 s.obj.wg20pwm s = { s with world.duty1 := s.obj.wg20pwm } := rfl
  rw [setWG20Vel, hpwm, ← hduty]
  rw [← hduty] at hslot
  exact storeMonitorSlot_stays hslot

/-- What a command does that neither moves the drum nor resets: one of four things, and a log line. -/
inductive Plain (m : AntaresMsg) : (MonitorCtx F → MonitorCtx F) → Prop
  | vaccum (b : Bool) : Plain m (setVaccum b)
  | dir (b : Bool) : Plain m (setWg20Cw b)
  | vel (b : Bool) : Plain m fun s => setWG20Vel (scanVel m.data (setWg20Cw b s))
  | unknown : Plain m id

lemma serviceMsg_plain {m : AntaresMsg} (hdrum : m.cmd ≠ Comands.monSetdrum.code)
    (hreset : m.cmd ≠ Comands.monReset.code) :
    ∃ f : MonitorCtx F → MonitorCtx F, Plain m f ∧
      ∀ s, ∃ text, serviceMsg m s = logMessage text (f s) := by
  by_cases hvac : m.cmd = Comands.monSetvac.code
  · refine ⟨_, .vaccum (decide (m.arg = 1)), fun s => ?_⟩
    rw [serviceMsg, if_pos hvac]
    by_cases harg : m.arg = 1
    · exact ⟨_, by rw [if_pos harg, decide_eq_true harg]⟩
    · exact ⟨_, by rw [if_neg harg, decide_eq_false harg]⟩
  by_cases hdir : m.cmd = Comands.wg20Setdir.code
  · refine ⟨_, .dir (decide (m.arg = 1)), fun s => ?_⟩
    rw [serviceMsg, if_neg hvac, if_neg hdrum, if_pos hdir]
    by_cases harg : m.arg = 1
    · exact ⟨_, by rw [if_pos harg, decide_eq_true harg]⟩
    · exact ⟨_, by rw [if_neg harg, decide_eq_false harg]⟩
  by_cases hvel : m.cmd = Comands.wg20Setvel.code
  · refine ⟨_, .vel (decide (m.arg ≠ 0)), fun s => ?_⟩
    rw [serviceMsg, if_neg hvac, if_neg hdrum, if_neg hdir, if_pos hvel]
    by_cases harg : m.arg = 0
    · exact ⟨_, by rw [if_pos harg, decide_eq_false (not_not.mpr harg)]⟩
    · exact ⟨_, by rw [if_neg harg, decide_eq_true harg]⟩
  · refine ⟨_, .unknown, fun s => ?_⟩
    rw [serviceMsg, if_neg hvac, if_neg hdrum, if_neg hdir, if_neg hvel, if_neg hreset]
    exact ⟨_, rfl⟩

/-- What was just done is not done again. -/
lemma Plain.stays {m : AntaresMsg} {f : MonitorCtx F → MonitorCtx F} (hf : Plain m f)
    {s t : MonitorCtx F} (ht : SameOutputs (f s) t) (hw : monitorWires t.world = wires t.obj) :
    f t = t := by
  cases hf with
  | vaccum b => exact setVaccum_stays hw (by rw [ht.obj]; cases b <;> rfl)
  | dir b => exact setWg20Cw_stays hw (by rw [ht.obj]; cases b <;> rfl)
  | vel b =>
      have hvel : ∀ u : MonitorCtx F, (setWG20Vel u).obj = u.obj := fun u => setPWM_obj _ _ _
      have hobj := ht.obj
      rw [hvel] at hobj
      have hcw : t.obj.wg20Cw = b := by
        rw [hobj, scanVel]
        split <;> cases b <;> rfl
      have hpwm : t.obj.wg20pwm = (scanVel m.data (setWg20Cw b s)).obj.wg20pwm := by rw [hobj]
      have hduty : t.world.duty1 = t.obj.wg20pwm := by
        rw [ht.duty1, hpwm]
        rfl
      have hspeed := setWG20Vel_speed (scanVel m.data (setWg20Cw b s))
      rw [← ht.status, ← ht.duty1, hduty] at hspeed
      show setWG20Vel (scanVel m.data (setWg20Cw b t)) = t
      rw [setWg20Cw_stays hw hcw, scanVel_stays hpwm, setWG20Vel_stays hduty hspeed]
  | unknown => rfl

/-- **Repeating a command other than those two changes nothing.** -/
theorem command_stays {m : AntaresMsg} {s : MonitorCtx F}
    (hw : monitorWires s.world = wires s.obj) (hdrum : m.cmd ≠ Comands.monSetdrum.code)
    (hreset : m.cmd ≠ Comands.monReset.code) :
    SameOutputs (serviceMsg m s) (serviceMsg m (serviceMsg m s)) := by
  obtain ⟨f, hf, hserve⟩ := serviceMsg_plain (F := F) hdrum hreset
  obtain ⟨text, hs⟩ := hserve s
  obtain ⟨text', ht⟩ := hserve (serviceMsg m s)
  have hdone : SameOutputs (f s) (serviceMsg m s) := by
    rw [hs]
    exact ⟨rfl, rfl, rfl, rfl⟩
  rw [ht, hf.stays hdone ((serviceMsg_wired m s).monitor hw)]
  exact ⟨rfl, rfl, rfl, rfl⟩

/-! ## Runs -/

/-- The outputs are in step, and the last command is known by what it left. -/
structure Following (polarity : Bool) (p : MonitorCtx F × Option AntaresMsg) : Prop where
  mirrors : Mirrors polarity p.1
  wired : monitorWires p.1.world = wires p.1.obj
  last : ∀ m, p.2 = some m → ∃ s : MonitorCtx F, p.1 = serviceMsg m s ∧
    monitorWires s.world = wires s.obj

lemma following_step {polarity : Bool} {p q : MonitorCtx F × Option AntaresMsg} {m : AntaresMsg}
    (h : Following polarity p) (hm : Changing p m)
    (hq : observed command noteLast p m = .ok q) : Following polarity q := by
  obtain ⟨hstep, hlast⟩ := observed_ok.mp hq
  have heq : serviceMsg m p.1 = q.1 := Except.ok.inj hstep
  refine ⟨heq ▸ (serviceMsg_mirrors_iff h.mirrors m).mpr hm,
    heq ▸ (serviceMsg_wired m p.1).monitor h.wired, fun n hn => ?_⟩
  rw [hlast] at hn
  cases hn
  exact ⟨p.1, heq.symm, h.wired⟩

/-- A command to the drum that changes it, or a reset that finds it on, is no repetition. -/
lemma repeatStays_of_changing {polarity : Bool} {p : MonitorCtx F × Option AntaresMsg}
    {m : AntaresMsg} (h : Following polarity p) (hm : Changing p m) : RepeatStays p m := by
  intro hlast
  obtain ⟨s, hs, hw⟩ := h.last m hlast
  have hdrum : m.cmd ≠ Comands.monSetdrum.code := by
    intro hc
    refine hm.drum hc ?_
    have hvac : m.cmd ≠ Comands.monSetvac.code := by
      rw [hc]
      decide
    rw [hs, serviceMsg, if_neg hvac, if_pos hc]
    by_cases harg : m.arg = 1
    · rw [if_pos harg, decide_eq_true harg]
      rfl
    · rw [if_neg harg, decide_eq_false harg]
      rfl
  have hreset : m.cmd ≠ Comands.monReset.code := by
    intro hc
    have hon := (hm.reset hc).1
    have hoff : serviceMsg m s = reset (logMessage "monitor reset received\r\n" s) := by
      rw [serviceMsg, hc]
      rfl
    rw [hs, hoff, reset_drum] at hon
    exact absurd hon (by decide)
  rw [hs]
  exact command_stays hw hdrum hreset

/-- After `InitBSP` and `start` the pin is low and the drum off. -/
lemma boot_mirrors_iff (raw : Monitor) (w : World F) (polarity : Bool) :
    Mirrors polarity (boot raw (initBSP w)) ↔ polarity = false := by
  have hspeed := setWG20Vel_speed
    { setWg20Cw true (setVaccum true (setDrum false ⟨{ raw with events := [] }, initBSP w⟩)) with
      obj.wg20pwm := 0 }
  have hpin : (boot raw (initBSP w)).world.pins.drumEnable = false := rfl
  have hdrum : (boot raw (initBSP w)).obj.drum = false := rfl
  constructor
  · intro h
    have hp := h.drum
    rw [hpin, hdrum] at hp
    cases polarity with
    | false => rfl
    | true => exact absurd hp (by decide)
  · rintro rfl
    exact ⟨by rw [hpin, hdrum]; rfl, hspeed⟩

/-- **The outputs as a function of the state.**  For each polarity: over a run from `InitBSP` and
`start`, the drum's pin follows its flag and the slot follows channel 1 in every state, and a
repeated command changes nothing, precisely if the polarity is the direct one and every command to
the drum changes it and every reset finds the drum on and channel 1 stored as stopped. -/
theorem outputs_mirrored_iff (raw : Monitor) (w : World F) (polarity : Bool)
    (ms : List AntaresMsg) :
    (AllStates (observed command noteLast) (fun p => Mirrors polarity p.1)
          (boot raw (initBSP w), none) ms ∧
        AllSteps (observed command noteLast) RepeatStays (boot raw (initBSP w), none) ms) ↔
      polarity = false ∧
        AllSteps (observed command noteLast) Changing (boot raw (initBSP w), none) ms := by
  have hstart : ∀ pol, Mirrors pol (boot raw (initBSP w)) →
      Following pol (boot raw (initBSP w), none) := fun pol h =>
    ⟨h, (boot_wired raw (initBSP w)).1, fun m hm => by cases hm⟩
  have hiff : ∀ pol, Mirrors pol (boot raw (initBSP w)) →
      (AllStates (observed command noteLast) (fun p => Mirrors pol p.1)
          (boot raw (initBSP w), none) ms ↔
        AllSteps (observed command noteLast) Changing (boot raw (initBSP w), none) ms) := by
    intro pol h
    refine allStates_iff_allSteps (I := Following pol) (fun _ hp => hp.mirrors)
      (fun _ _ _ hp hm hq => following_step hp hm hq) (fun p m hp hm => ?_) (hstart pol h)
    exact ⟨_, rfl, fun hq => hm ((serviceMsg_mirrors_iff hp.mirrors m).mp hq)⟩
  constructor
  · rintro ⟨hall, -⟩
    have hhead := hall.head
    exact ⟨(boot_mirrors_iff raw w polarity).mp hhead, (hiff polarity hhead).mp hall⟩
  · rintro ⟨rfl, hsteps⟩
    have hhead := (boot_mirrors_iff raw w false).mpr rfl
    exact ⟨(hiff false hhead).mpr hsteps, allSteps_of_invariant (I := Following false)
      (fun _ _ hp hm => repeatStays_of_changing hp hm)
      (fun _ _ _ hp hm hq => following_step hp hm hq) (hstart false hhead) hsteps⟩

/-! ## A drum switched off twice -/

def drumOff : AntaresMsg := .compose Comands.monSetdrum.code 0 4 ""

/-- The drum is off from the start.  Switching it off raises its pin, and no polarity fits the state
before and the state after. -/
theorem drumOff_parts :
    ¬ ∃ polarity, AllStates (observed command noteLast) (fun p => Mirrors polarity p.1)
      (boot blank (initBSP .blank), none) [drumOff] := by
  rintro ⟨polarity, hstart, hrest⟩
  have hafter := (hrest _ rfl).head
  have hchanging := (serviceMsg_mirrors_iff (p := (boot blank (initBSP .blank), none)) hstart
    drumOff).mp hafter
  exact hchanging.drum (by decide) (by decide)

end Lgt8.Monitor

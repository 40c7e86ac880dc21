import Mathlib.Data.List.GetD
import Mathlib.Tactic
import Lgt8.Servo.Runs
import Lgt8.Sweep.Runs

/-!
# Does a malformed command change anything?

`SWEEP_GOTO`, `SWEEP_SCAN` and `SERVO_SETSPEED` read their numbers with `sscanf` and do not look at
how many it read.  A number that is not in the text is whatever the stack held where the local
variable lies, and the command is carried out with it.

* `Sweep.Malformed`, `Servo.Malformed` — the text does not begin with the numbers the command takes.
* `Sweep.gone_kept_iff` — when a move moves nothing and plans nothing.
* **`malformed_kept_iff`** — a malformed command leaves the machine as it was exactly if what it
  takes for its numbers asks for what is there already.
* `empty_goto_plans` — a `SWEEP_GOTO` without numbers that plans a move.
-/

namespace Lgt8

open Library

variable {F : Type}

/-! ## The sweep -/

namespace Sweep

/-- A move or the start of a scan whose text does not begin with enough numbers. -/
def Malformed (m : AntaresMsg) : Prop :=
  (m.cmd = Comands.sweepGoto.code ∧ (sscanfInts 2 m.data).length < 2) ∨
  (m.cmd = Comands.sweepScan.code ∧ m.arg = 1 ∧ (sscanfInts 3 m.data).length < 3)

/-- The two objects agree on the step map, the pointer and the position, on the enable flag and the
direction, and on the scan job. -/
structure Kept (sw sw' : Sweep) : Prop extends SameJob sw sw' where
  sweepmap : sw'.sweepmap = sw.sweepmap
  sweepmapptr : sw'.sweepmapptr = sw.sweepmapptr
  sweeppos : sw'.sweeppos = sw.sweeppos
  enable : sw'.enable = sw.enable
  outdir : sw'.outdir = sw.outdir

lemma kept_of_sameCarriage {sw u v : Sweep} (h : SameCarriage u v) : Kept sw v ↔ Kept sw u := by
  constructor
  · rintro ⟨⟨h1, h2, h3, h4, h5⟩, h6, h7, h8, h9, h10⟩
    exact ⟨⟨h.sweepjobIn ▸ h1, h.sweepjobOut ▸ h2, h.sweepjobSpeed ▸ h3, h.sweepjobOutdir ▸ h4,
      h.sweepjobEnabled ▸ h5⟩, h.sweepmap ▸ h6, h.sweepmapptr ▸ h7, h.sweeppos ▸ h8,
      h.enable ▸ h9, h.outdir ▸ h10⟩
  · rintro ⟨hjob, h6, h7, h8, h9, h10⟩
    exact ⟨h.sameJob.after hjob, h.sweepmap.trans h6, h.sweepmapptr.trans h7,
      h.sweeppos.trans h8, h.enable.trans h9, h.outdir.trans h10⟩

/-- The move from the position to `target` is no move, or is planned already: the driver is enabled,
set in its direction, and every cell of the way holds the speed. -/
def PlannedAlready (target speed : ℤ) (sw : Sweep) : Prop :=
  int32 (target - sw.sweeppos) = 0 ∨
    (sw.enable = true ∧ sw.outdir = !decide (0 < int32 (target - sw.sweeppos)) ∧
      ∀ k : ℕ, k < slideCells (int32 (target - sw.sweeppos)) →
        sw.sweepmap (sw.sweepmapptr + k * stride sw.outdir) = uint8 speed)

/-- **When a move changes nothing.** -/
theorem gone_kept_iff {target speed : ℤ} {sw : Sweep} :
    Kept sw (sw.gone target speed) ↔ PlannedAlready target speed sw := by
  rw [PlannedAlready, gone]
  by_cases hdif : int32 (target - sw.sweeppos) = 0
  · rw [if_neg (not_not.mpr hdif)]
    exact iff_of_true ⟨⟨rfl, rfl, rfl, rfl, rfl⟩, rfl, rfl, rfl, rfl, rfl⟩ (Or.inl hdif)
  · rw [if_pos hdif, or_iff_right hdif]
    constructor
    · intro h
      have hdir : (!decide (0 < int32 (target - sw.sweeppos))) = sw.outdir := h.outdir
      refine ⟨h.enable.symm, hdir.symm, paint_eq_self_iff.mp ?_⟩
      have hmap := h.sweepmap
      rw [slid, hdir] at hmap
      exact hmap
    · rintro ⟨he, hdir, hmap⟩
      refine ⟨⟨rfl, rfl, rfl, rfl, rfl⟩, ?_, rfl, rfl, he.symm, hdir.symm⟩
      rw [slid, ← hdir]
      exact paint_eq_self_iff.mpr hmap

/-- The scan job is running outward between the limits the command is taken to give. -/
def ScanningAlready (m : AntaresMsg) (s : SweepCtx F) : Prop :=
  s.obj.sweepjobEnabled = true ∧ s.obj.sweepjobOutdir = true ∧
    s.obj.sweepjobIn = scanIn m s ∧ s.obj.sweepjobOut = scanOut m s

/-- **When the start of a scan changes nothing**, if no speed was read. -/
theorem scanning_kept_iff {m : AntaresMsg} {s : SweepCtx F}
    (h : (sscanfInts 3 m.data).length < 3) :
    Kept s.obj (scanning m s) ↔ ScanningAlready m s := by
  have hspeed : (scanning m s).sweepjobSpeed = s.obj.sweepjobSpeed :=
    List.getD_eq_default _ _ (by omega)
  constructor
  · intro hk
    exact ⟨hk.sweepjobEnabled.symm, hk.sweepjobOutdir.symm, hk.sweepjobIn.symm,
      hk.sweepjobOut.symm⟩
  · rintro ⟨hen, hdir, hin, hout⟩
    exact ⟨⟨hin.symm, hout.symm, hspeed, hdir.symm, hen.symm⟩, rfl, rfl, rfl, rfl, rfl⟩

/-- What the command takes for its numbers asks for what is there already. -/
def AskedAlready (m : AntaresMsg) (s : SweepCtx F) : Prop :=
  (m.cmd = Comands.sweepGoto.code → PlannedAlready (gotoTarget m s) (gotoSpeed m s) s.obj) ∧
  (m.cmd = Comands.sweepScan.code → ScanningAlready m s)

/-- A turn that services a command other than `SWEEP_PARK`. -/
lemma serviceFront_cmd {s : SweepCtx F} {m : AntaresMsg} (hm : frontMsg s = some m)
    (hpark : m.cmd ≠ Comands.sweepPark.code) :
    ∃ t, serviceFront s = .ok t ∧ SameCarriage (serviceCmd m s).obj t.obj := by
  obtain ⟨e, rest, a, he, hty, ha, live⟩ := announced_some hm
  have hev : serviceEvent e s = .ok (deleteMsg a (serviceCmd m s)) := by
    rw [serviceEvent_msg s hty ha live, serviceMsg, if_neg hpark]
    rfl
  refine ⟨_, serviceFront_cons he hev, ?_⟩
  rw [popEvent_obj, deleteMsg_obj]
  constructor <;> rfl

/-- **A malformed command to the sweep.** -/
theorem turn_kept_iff {s : SweepCtx F} {m : AntaresMsg} (hm : frontMsg s = some m)
    (hbad : Malformed m) :
    ∃ t, step s .turn = .ok t ∧ (Kept s.obj t.obj ↔ AskedAlready m s) := by
  have hpark : m.cmd ≠ Comands.sweepPark.code := by
    rcases hbad with ⟨h, -⟩ | ⟨h, -⟩ <;> rw [h] <;> decide
  obtain ⟨t, ht, hsame⟩ := serviceFront_cmd hm hpark
  refine ⟨t, ht, (kept_of_sameCarriage hsame).trans ?_⟩
  rcases hbad with ⟨hcmd, -⟩ | ⟨hcmd, harg, htext⟩
  · rw [serviceCmd_goto hcmd, gone_kept_iff]
    exact ⟨fun h => ⟨fun _ => h, fun hs => absurd (hcmd.symm.trans hs) (by decide)⟩,
      fun h => h.1 hcmd⟩
  · rw [serviceCmd_scan hcmd harg, scanning_kept_iff htext]
    exact ⟨fun h => ⟨fun hg => absurd (hcmd.symm.trans hg) (by decide), fun _ => h⟩,
      fun h => h.2 hcmd⟩

end Sweep

/-! ## The servo -/

namespace Servo

variable [DoubleOps F]

/-- The start of a regulation whose text does not begin with a number. -/
def Malformed (m : AntaresMsg) : Prop :=
  m.cmd = Comands.servoSetspeed.code ∧ m.arg = 1 ∧ (sscanfInts 1 m.data).length < 1

/-- **A malformed command to the servo.** -/
theorem turn_setpoint_iff {s : ServoCtx F} {m : AntaresMsg} (hm : frontMsg s = some m)
    (hbad : Malformed m) :
    ∃ t, step s .turn = .ok t ∧
      (t.obj.servoSetpoint = s.obj.servoSetpoint ↔
        DoubleOps.ofInt (junk s) = s.obj.servoSetpoint) := by
  obtain ⟨hcmd, harg, htext⟩ := hbad
  obtain ⟨e, rest, a, he, hty, ha, live⟩ := announced_some hm
  have hev : serviceEvent e s = .ok (deleteMsg a (serviceMsg m s)) := by
    simp [serviceEvent, hty, ha, live]
  have hfront : serviceFront s = .ok (popEvent (deleteMsg a (serviceMsg m s))) := by
    rw [serviceFront, he]
    dsimp only
    rw [hev]
    rfl
  generalize popEvent (deleteMsg a (serviceMsg m s)) = t at hfront
  refine ⟨t, hfront, ?_⟩
  rcases serviceFront_drive hfront with ⟨hn, -⟩ | ⟨m', hm', hdrive⟩
  · rw [hm] at hn
    cases hn
  · obtain rfl : m = m' := Option.some.inj (hm.symm.trans hm')
    have hask : Drive.askedSpeed m (junk s) = junk s := List.getD_eq_default _ _ (by omega)
    have hset : t.obj.servoSetpoint = ((drive s).obey m (junk s)).setpoint :=
      congrArg Drive.setpoint hdrive
    rw [hset, Drive.obey, if_neg (by rw [hcmd]; decide), if_neg (by rw [hcmd]; decide),
      if_pos hcmd, if_pos harg, hask]

end Servo

/-! ## Both -/

namespace Kernel

/-- **Malformed commands**: in every state the turn that services one succeeds, and it leaves the
step map, the pointer, the position, the enable flag, the direction and the scan job — for the servo
the setpoint — as they were, exactly if what the command takes for its numbers asks for what is
there already. -/
theorem malformed_kept_iff [DoubleOps F] :
    (∀ (s : SweepCtx F) (m : AntaresMsg), Sweep.frontMsg s = some m → Sweep.Malformed m →
      ∃ t, Sweep.step s .turn = .ok t ∧
        (Sweep.Kept s.obj t.obj ↔ Sweep.AskedAlready m s)) ∧
    (∀ (s : ServoCtx F) (m : AntaresMsg), Servo.frontMsg s = some m → Servo.Malformed m →
      ∃ t, Servo.step s .turn = .ok t ∧
        (t.obj.servoSetpoint = s.obj.servoSetpoint ↔
          DoubleOps.ofInt (Servo.junk s) = s.obj.servoSetpoint)) :=
  ⟨fun _ _ => Sweep.turn_kept_iff, fun _ _ => Servo.turn_setpoint_iff⟩

/-- `SWEEP_GOTO` without numbers, and `SERVO_SETSPEED` without one. -/
def emptyGoto : AntaresMsg := .compose Comands.sweepGoto.code 0 2 ""

def emptySetspeed : AntaresMsg := .compose Comands.servoSetspeed.code 1 3 ""

lemma emptyGoto_malformed : Sweep.Malformed emptyGoto := Or.inl ⟨by decide, by decide⟩

/-- The first command after the start of either driver. -/
theorem malformed_kept_iff_empty :
    (∃ t, Sweep.step (Sweep.ready Sweep.blank (F := ℚ) .blank emptyGoto) .turn = .ok t ∧
      (Sweep.Kept (Sweep.ready Sweep.blank (F := ℚ) .blank emptyGoto).obj t.obj ↔
        Sweep.AskedAlready emptyGoto (Sweep.ready Sweep.blank .blank emptyGoto))) ∧
    (∃ t, Servo.step (Servo.post emptySetspeed ⟨Servo.blank, .blank⟩) .turn = .ok t ∧
      (t.obj.servoSetpoint = Servo.blank.servoSetpoint ↔
        DoubleOps.ofInt (Servo.junk (Servo.post emptySetspeed ⟨Servo.blank, .blank⟩))
          = Servo.blank.servoSetpoint)) :=
  ⟨(malformed_kept_iff (F := ℚ)).1 _ _ rfl emptyGoto_malformed,
    (malformed_kept_iff (F := ℚ)).2 _ _ rfl ⟨by decide, by decide, by decide⟩⟩

/-- **A move nobody asked for**: without numbers in its text, the first `SWEEP_GOTO` after the start
goes where the stack says, here to 0. -/
theorem empty_goto_plans :
    ∃ t, run Sweep.step (Sweep.boot Sweep.blank (F := ℚ) .blank)
        [.post emptyGoto, .turn, .turn] = .ok t ∧
      ¬ Sweep.Kept (Sweep.ready Sweep.blank (F := ℚ) .blank emptyGoto).obj t.obj := by
  refine ⟨_, Sweep.run_boot_cmd Sweep.blank .blank (by decide), fun h => ?_⟩
  -- the driver is not enabled at the start, and a move enables it
  exact absurd h.enable (by decide)

end Kernel

end Lgt8

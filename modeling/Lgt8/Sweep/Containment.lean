import Mathlib.Tactic
import Lgt8.Sweep.Carriage
import Lgt8.Sweep.Runs

/-!
# The carriage stays where its targets are

Nothing in the code compares a target, the position or the pointer with the ends of the rail.
What keeps the carriage inside is a property of the plan: an end cell of the stretch the targets
lie in is pending only while the carriage stands on it and faces inward (`Walker.Fenced`).
`Confined a b` adds that the pointer and the position count the same rail and that every access to
the map so far was inside.

* `Confined.tick`, `Confined.gone`, `Confined.jobbed`, `Confined.turned` — it is kept by every
  tick, by every move to a target in `[a, b]`, and by every turn of the direction away from an end.
* **`touched_in_bounds`** — the map accesses of a command stream stay in `0 … 3999` as long as the
  targets are positions of the rail; `goto_4002_touches_below` is a stream that leaves it.
* `InMap`, **`touches_of_inMap`** — the steps that access no cell outside; **`inMap_of_aimed`** — the
  steps of the streams above are of this kind.
* **`travel_contained`** — with targets in `[a, b]` only, the position never leaves `[a, b]`.
-/

namespace Lgt8.Sweep

open Library

variable {F : Type}

/-- Position, plan and past accesses lie between the positions `a` and `b`. -/
structure Confined (a b : ℤ) (sw : Sweep) : Prop where
  coupled : sw.sweepmapptr = 4000 - sw.sweeppos
  gap : sw.pulsegap ≠ 255
  fenced : Walker.Fenced (4000 - b) (4000 - a) sw.walker
  touched : ∀ i ∈ sw.touched, 4000 - b ≤ i ∧ i ≤ 4000 - a

namespace Confined

variable {a b : ℤ} {sw sw' : Sweep}

lemma lower (h : Confined a b sw) : a ≤ sw.sweeppos := by
  have := h.fenced.upper
  have := h.coupled
  simp only [walker] at *
  omega

lemma upper (h : Confined a b sw) : sw.sweeppos ≤ b := by
  have := h.fenced.lower
  have := h.coupled
  simp only [walker] at *
  omega

/-- Only the carriage matters. -/
lemma of_sameCarriage (hs : SameCarriage sw sw') (h : Confined a b sw) : Confined a b sw' where
  coupled := by rw [hs.sweepmapptr, hs.sweeppos, h.coupled]
  gap := hs.pulsegap ▸ h.gap
  fenced := hs.walker ▸ h.fenced
  touched := hs.touched ▸ h.touched

/-- **A tick keeps the carriage confined.** -/
theorem tick {s : SweepCtx F} (h : Confined a b s.obj) : Confined a b (serviceBoard s).obj := by
  have ht := serviceBoard_ticked s
  have hc := ht.coupled
  have := h.coupled
  refine ⟨by omega, ht.gap h.gap, h.fenced.step (walker_dir_cases _) (ht.step h.gap), ?_⟩
  intro i hi
  rcases ht.touched hi with ⟨-, rfl⟩ | hi
  · exact ⟨h.fenced.lower, h.fenced.upper⟩
  · exact h.touched i hi

/-- **A move to a target inside keeps it confined**, whatever the speed. -/
theorem gone (ha : 1 ≤ a) (hb : b ≤ 4000) (h : Confined a b sw) {target : ℤ} (hta : a ≤ target)
    (htb : target ≤ b) (speed : ℤ) : Confined a b (sw.gone target speed) := by
  have hlo := h.lower
  have hhi := h.upper
  have hc := h.coupled
  have hdif : int32 (target - sw.sweeppos) = target - sw.sweeppos :=
    int32_of_range (by omega) (by omega)
  rw [Sweep.gone, hdif]
  split
  · case isTrue hne =>
      have hn : slideCells (target - sw.sweeppos) = (target - sw.sweeppos).natAbs :=
        slideCells_of_range _ (by omega) (by omega)
      have hend : sw.sweepmapptr + slideCells (target - sw.sweeppos)
          * stride (!decide (0 < target - sw.sweeppos)) = 4000 - target := by
        rw [hn, hc, natAbs_mul_stride]
        omega
      refine ⟨h.coupled, h.gap, slid_fenced speed h.fenced (by omega) (by omega) (by omega), ?_⟩
      intro i hi
      simp only [slid, List.mem_append, List.mem_reverse, mem_walk] at hi
      rcases hi with ⟨k, hk, rfl⟩ | hi
      · rcases stride_of_step (target - sw.sweeppos) with ⟨_, hd⟩ | ⟨_, hd⟩ <;> rw [hd] <;> omega
      · exact h.touched i hi
  · exact h

/-- A job heads for one of its limits. -/
theorem jobbed (ha : 1 ≤ a) (hb : b ≤ 4000) (h : Confined a b sw)
    (hlim : sw.sweepjobEnabled = true →
      a ≤ (if sw.sweepjobOutdir then sw.sweepjobOut else sw.sweepjobIn) ∧
      (if sw.sweepjobOutdir then sw.sweepjobOut else sw.sweepjobIn) ≤ b) :
    Confined a b sw.jobbed := by
  rw [Sweep.jobbed]
  split
  · case isTrue he =>
      obtain ⟨hla, hlb⟩ := hlim he
      have hg := h.gone ha hb hla hlb sw.sweepjobSpeed
      exact ⟨hg.coupled, hg.gap, hg.fenced, hg.touched⟩
  · exact h

/-- The direction may be set freely, except to point outward on a pending end cell. -/
theorem turned (h : Confined a b sw) (d : Bool)
    (hb : sw.sweeppos = b → sw.current ≠ 255 → d = true)
    (ha : sw.sweeppos = a → sw.current ≠ 255 → d = false) :
    Confined a b { sw with outdir := d } := by
  have hc := h.coupled
  refine ⟨h.coupled, h.gap, h.fenced.turn (d := stride d) ?_ ?_, h.touched⟩
  · intro hh hp
    change sw.sweepmapptr = 4000 - b at hh
    rw [hb (by omega) (by rw [current, hh]; exact hp)]
    rfl
  · intro hh hp
    change sw.sweepmapptr = 4000 - a at hh
    rw [ha (by omega) (by rw [current, hh]; exact hp)]
    rfl

end Confined

/-- At the start the map is empty and the carriage stands in the middle. -/
theorem boot_confined {a b : ℤ} (ha : 1 ≤ a) (ha' : a ≤ 2000) (hb : 2000 ≤ b) (hb' : b ≤ 4000)
    (raw : Sweep) (w : World F) : Confined a b (boot raw w).obj := by
  refine Confined.of_sameCarriage (boot_obj raw w) ⟨rfl, zero_ne_max, ?_, by simp⟩
  refine .of_no_pending (by show _ ≤ (2000 : ℤ); omega) (by show (2000 : ℤ) ≤ _; omega) ?_
  intro i hlo hhi hi
  have : 0 ≤ i ∧ i < 4000 := by omega
  simp only [walker, Set.mem_ofPred_eq, if_pos this] at hi
  exact hi rfl

/-! ## The step map -/

/-- The commands of such a stream. -/
def Streamed (m : AntaresMsg) : Prop :=
  m.cmd = Comands.sweepGoto.code ∨ m.cmd = Comands.sweepScan.code ∨
    m.cmd = Comands.sweepEnable.code ∨ m.cmd = Comands.sweepDir.code

lemma streamed_not_park (m : AntaresMsg) (h : Streamed m) : m.cmd ≠ Comands.sweepPark.code := by
  rcases h with h | h | h | h <;> rw [h] <;> decide

instance (m : AntaresMsg) : Decidable (Streamed m) := inferInstanceAs (Decidable (_ ∨ _))

/-- The command, serviced in state `s`, asks for nothing outside the rail: a move goes to one of
its positions, and the direction is not turned outward on a pending end cell. -/
def Aimed (s : SweepCtx F) (m : AntaresMsg) : Prop :=
  (m.cmd = Comands.sweepGoto.code → 1 ≤ gotoTarget m s ∧ gotoTarget m s ≤ 4000) ∧
  (m.cmd = Comands.sweepDir.code → s.obj.current ≠ 255 →
    (s.obj.sweeppos = 4000 → m.arg = 1) ∧ (s.obj.sweeppos = 1 → m.arg ≠ 1))

instance (s : SweepCtx F) (m : AntaresMsg) : Decidable (Aimed s m) :=
  inferInstanceAs (Decidable (_ ∧ _))

/-- The limit a running job heads for next is a position of the rail. -/
def JobAimed (s : SweepCtx F) : Prop :=
  s.obj.sweepjobEnabled = true →
    1 ≤ (if s.obj.sweepjobOutdir then s.obj.sweepjobOut else s.obj.sweepjobIn) ∧
    (if s.obj.sweepjobOutdir then s.obj.sweepjobOut else s.obj.sweepjobIn) ≤ 4000

instance (s : SweepCtx F) : Decidable (JobAimed s) := inferInstanceAs (Decidable (_ → _))

lemma Confined.aimed {m : AntaresMsg} {s : SweepCtx F} {sw : Sweep} (h : Confined 1 4000 s.obj)
    (ha : Aimed s m) (hc : Commanded m s sw) : Confined 1 4000 sw := by
  obtain ⟨hgoto, hdir⟩ := ha
  cases hc with
  | goto hcmd => exact h.gone le_rfl le_rfl (hgoto hcmd).1 (hgoto hcmd).2 _
  | scanStart => exact ⟨h.coupled, h.gap, h.fenced, h.touched⟩
  | scanAbort => exact ⟨h.coupled, h.gap, h.fenced, h.touched⟩
  | enable => exact ⟨h.coupled, h.gap, h.fenced, h.touched⟩
  | dir hcmd =>
      refine h.turned _ ?_ ?_
      · exact fun hpos hcur => decide_eq_true ((hdir hcmd hcur).1 hpos)
      · exact fun hpos hcur => decide_eq_false ((hdir hcmd hcur).2 hpos)
  | other => exact h

lemma boot_confined_rail (raw : Sweep) (w : World F) : Confined 1 4000 (boot raw w).obj :=
  boot_confined le_rfl (by decide) (by decide) le_rfl raw w

/-- **The step map is only accessed in bounds** by a stream of moves, scans, enables and turns of
the direction, interleaved with ticks in any way, whose every serviced command is `Aimed` and every
serviced job `JobAimed`. -/
theorem touched_in_bounds (raw : Sweep) (w : World F) {labels : List Label}
    (h : AllSteps step (Fed Streamed Aimed JobAimed) (boot raw w) labels) :
    ∃ t, run step (boot raw w) labels = .ok t ∧ ∀ i ∈ t.obj.touched, 0 ≤ i ∧ i ≤ 3999 := by
  obtain ⟨t, ht, _, hc⟩ := calm_run streamed_not_park Confined.of_sameCarriage (fun _ => Confined.tick)
    (fun s hj hs => hs.jobbed le_rfl le_rfl hj) (fun s m sw _ ha hc hs => hs.aimed ha hc)
    (boot_calm Streamed raw w) (boot_confined_rail raw w) h
  exact ⟨t, ht, fun i hi => by have := hc.touched i hi; omega⟩

/-- `SWEEP_GOTO "2500 4"`. -/
def goto2500 : AntaresMsg := .compose Comands.sweepGoto.code 0 2 "2500 4"

/-- `SWEEP_GOTO "1900 0"`. -/
def goto1900 : AntaresMsg := .compose Comands.sweepGoto.code 0 2 "1900 0"

/-- Two steps of a move up, and then three of another one down. -/
def goto2500Then1900 : List Label :=
  [.post goto2500, .turn, .turn] ++ List.replicate 20 .tick ++ [.post goto1900, .turn] ++
    List.replicate 6 .tick

theorem touched_in_bounds_goto_2500 :
    (∃ t, run step (boot blank .blank) goto2500Then1900 = .ok t ∧
      ∀ i ∈ t.obj.touched, 0 ≤ i ∧ i ≤ 3999) ∧
    (run step (boot blank .blank) (goto2500Then1900.take 23)).map (·.obj.sweeppos) = .ok 2002 ∧
    (run step (boot blank .blank) goto2500Then1900).map (·.obj.sweeppos) = .ok 1999 :=
  ⟨touched_in_bounds blank .blank (by decide +kernel), by decide +kernel, by decide +kernel⟩

/-- `SWEEP_GOTO "4002 4"`: a target two steps behind the end of the rail. -/
def goto4002 : AntaresMsg := .compose Comands.sweepGoto.code 0 2 "4002 4"

/-- Serviced as the first command after the start, it writes below the first cell. -/
theorem goto_4002_touches_below :
    ∃ t, run step (boot blank .blank) [.post goto4002, .turn, .turn] = .ok t ∧
      -1 ∈ t.obj.touched := by
  refine ⟨_, run_boot_cmd blank .blank (by decide), ?_⟩
  have htext : sscanfInts 2 goto4002.data = [4002, 4] := by decide
  rw [popEvent_obj, deleteMsg_obj, serviceCmd_goto (by decide), gotoTarget_of_text htext]
  -- the last of the 2002 cells of the move
  exact gone_touches (ready blank .blank goto4002).obj _ _ (k := 2001) (by decide)

/-! ## Which cells a step accesses -/

/-- The cells a move to `target` plans are cells of the map. -/
def PlansInMap (target : ℤ) (sw : Sweep) : Prop :=
  ∀ i ∈ walk (stride (!decide (0 < int32 (target - sw.sweeppos))))
    (slideCells (int32 (target - sw.sweeppos))) sw.sweepmapptr, 0 ≤ i ∧ i ≤ 3999

instance (target : ℤ) (sw : Sweep) : Decidable (PlansInMap target sw) :=
  inferInstanceAs (Decidable (∀ i ∈ _, _))

/-- The steps of a stream of moves, scans, enables and turns of the direction that access no cell
outside the map: a tick of an enabled driver, a move and a leg of a running job. -/
def InMap (s : SweepCtx F) : Label → Prop
  | .tick => s.obj.enable = true → 0 ≤ s.obj.sweepmapptr ∧ s.obj.sweepmapptr ≤ 3999
  | .post m => Streamed m
  | .push _ => False
  | .turn =>
      (∀ m ∈ frontMsg s, m.cmd = Comands.sweepGoto.code → PlansInMap (gotoTarget m s) s.obj) ∧
      (FrontJob s → s.obj.sweepjobEnabled = true →
        PlansInMap (if s.obj.sweepjobOutdir then s.obj.sweepjobOut else s.obj.sweepjobIn) s.obj)

instance (s : SweepCtx F) : ∀ l, Decidable (InMap s l)
  | .tick => inferInstanceAs (Decidable (_ → _))
  | .post m => inferInstanceAs (Decidable (Streamed m))
  | .push _ => inferInstanceAs (Decidable False)
  | .turn => inferInstanceAs (Decidable ((∀ m ∈ _, _ → _) ∧ (_ → _ → _)))

/-- Every access so far was to a cell of the map. -/
def Touches (sw : Sweep) : Prop := ∀ i ∈ sw.touched, 0 ≤ i ∧ i ≤ 3999

lemma Touches.of_sameCarriage {sw sw' : Sweep} (hs : SameCarriage sw sw') (h : Touches sw) :
    Touches sw' := by
  rw [Touches, hs.touched]
  exact h

lemma PlansInMap.gone {sw : Sweep} {target : ℤ} (h : PlansInMap target sw) (speed : ℤ)
    (ht : Touches sw) : Touches (sw.gone target speed) := by
  rw [Sweep.gone]
  split
  · intro i hi
    rw [slid] at hi
    rcases List.mem_append.mp hi with hi | hi
    · exact h i (List.mem_reverse.mp hi)
    · exact ht i hi
  · exact ht

lemma Touches.jobbed {sw : Sweep} (ht : Touches sw) (h : sw.sweepjobEnabled = true →
    PlansInMap (if sw.sweepjobOutdir then sw.sweepjobOut else sw.sweepjobIn) sw) :
    Touches sw.jobbed := by
  rw [Sweep.jobbed]
  split
  · next he => exact (h he).gone _ ht
  · exact ht

lemma Touches.commanded {m : AntaresMsg} {s : SweepCtx F} {sw : Sweep} (ht : Touches s.obj)
    (h : m.cmd = Comands.sweepGoto.code → PlansInMap (gotoTarget m s) s.obj)
    (hc : Commanded m s sw) : Touches sw := by
  cases hc with
  | goto hcmd => exact (h hcmd).gone _ ht
  | scanStart => exact ht
  | scanAbort => exact ht
  | enable => exact ht
  | dir => exact ht
  | other => exact ht

lemma inMap_step {s : SweepCtx F} {label : Label} (hs : Calm Streamed s ∧ Touches s.obj)
    (hC : InMap s label) : ∃ t, step s label = .ok t ∧ Calm Streamed t ∧ Touches t.obj := by
  obtain ⟨hcalm, hI⟩ := hs
  cases label with
  | tick =>
      refine ⟨_, rfl, serviceBoard_calm hcalm, fun i hi => ?_⟩
      rcases (serviceBoard_ticked s).touched hi with ⟨hon, rfl⟩ | hi
      · exact hC hon
      · exact hI i hi
  | post m => exact ⟨_, rfl, post_calm hcalm hC, hI⟩
  | push evt => exact hC.elim
  | turn =>
      obtain ⟨t, ht, hcalm', hturned⟩ := calm_turn streamed_not_park hcalm
      refine ⟨t, ht, hcalm', ?_⟩
      cases hturned with
      | quiet _ h => exact hI.of_sameCarriage h
      | job _ hj h => exact (hI.jobbed (hC.2 hj)).of_sameCarriage h
      | msg m sw _ hm hc h => exact (hI.commanded (hC.1 m hm) hc).of_sameCarriage h

/-- **In a run of such steps every access is to a cell of the map**, so that the unbounded map of
the model is the array of the source, and no store reaches what lies behind it. -/
theorem touches_of_inMap (raw : Sweep) (w : World F) {labels : List Label}
    (h : AllSteps step InMap (boot raw w) labels) :
    ∃ t, run step (boot raw w) labels = .ok t ∧ Touches t.obj := by
  obtain ⟨t, ht, -, hI⟩ := run_ok (fun _ _ => inMap_step)
    ⟨boot_calm Streamed raw w, Touches.of_sameCarriage (boot_obj raw w) nofun⟩ h
  exact ⟨t, ht, hI⟩

/-- A move the confined carriage can make plans cells of the map. -/
lemma Confined.plansInMap {sw : Sweep} (h : Confined 1 4000 sw) {target : ℤ} (hlo : 1 ≤ target)
    (hhi : target ≤ 4000) : PlansInMap target sw := by
  intro i hi
  obtain ⟨k, hk, rfl⟩ := mem_walk.mp hi
  have := (h.gone le_rfl le_rfl hlo hhi 0).touched _ (gone_touches sw target 0 hk)
  omega

/-- Streams whose commands are `Aimed` access the map in bounds at every step. -/
theorem inMap_of_aimed (raw : Sweep) (w : World F) {labels : List Label}
    (h : AllSteps step (Fed Streamed Aimed JobAimed) (boot raw w) labels) :
    AllSteps step InMap (boot raw w) labels := by
  refine calm_allSteps (I := Confined 1 4000) streamed_not_park Confined.of_sameCarriage
    (fun _ => Confined.tick) (fun s hj hs => hs.jobbed le_rfl le_rfl hj)
    (fun s m sw _ ha hc hs => hs.aimed ha hc) (fun s l hI hl => ?_) (boot_calm Streamed raw w)
    (boot_confined_rail raw w) h
  cases l with
  | tick =>
      intro _
      have := hI.lower
      have := hI.upper
      rw [hI.coupled]
      omega
  | post m => exact hl
  | push evt => exact hl
  | turn =>
      exact ⟨fun m hm hcmd => hI.plansInMap ((hl.1 m hm).1 hcmd).1 ((hl.1 m hm).1 hcmd).2,
        fun hj he => hI.plansInMap (hl.2 hj he).1 (hl.2 hj he).2⟩

/-! ## Travel -/

/-- The command asks for positions in `[a, b]` only. -/
def Within (a b : ℤ) (m : AntaresMsg) : Prop :=
  (m.cmd = Comands.sweepGoto.code ∧
    ∃ target rest, sscanfInts 2 m.data = target :: rest ∧ a ≤ target ∧ target ≤ b) ∨
  (m.cmd = Comands.sweepScan.code ∧ (m.arg = 1 →
    ∃ jobin jobout rest, sscanfInts 3 m.data = jobin :: jobout :: rest ∧
      a ≤ int32 (jobin * 40) ∧ int32 (jobin * 40) ≤ b ∧
      a ≤ int32 (jobout * 40) ∧ int32 (jobout * 40) ≤ b)) ∨
  m.cmd = Comands.sweepEnable.code

/-- The steps of a stream of such commands. -/
def WithinLabel (a b : ℤ) : Label → Prop
  | .tick => True
  | .post m => Within a b m
  | .push _ => False
  | .turn => True

/-- The carriage is confined, and so are the limits of a running job. -/
structure Bounded (a b : ℤ) (sw : Sweep) : Prop extends Confined a b sw where
  limits : sw.sweepjobEnabled = true →
    (a ≤ sw.sweepjobIn ∧ sw.sweepjobIn ≤ b) ∧ a ≤ sw.sweepjobOut ∧ sw.sweepjobOut ≤ b

namespace Bounded

variable {a b : ℤ} {sw sw' : Sweep}

lemma of_sameCarriage (hs : SameCarriage sw sw') (h : Bounded a b sw) : Bounded a b sw' where
  toConfined := h.toConfined.of_sameCarriage hs
  limits he := by
    rw [hs.sweepjobIn, hs.sweepjobOut]
    exact h.limits (hs.sweepjobEnabled ▸ he)

theorem tick {s : SweepCtx F} (h : Bounded a b s.obj) : Bounded a b (serviceBoard s).obj where
  toConfined := h.toConfined.tick
  limits he := by
    have hj := (serviceBoard_ticked s).sameJob
    rw [hj.sweepjobIn, hj.sweepjobOut]
    exact h.limits (hj.sweepjobEnabled ▸ he)

theorem jobbed (ha : 1 ≤ a) (hb : b ≤ 4000) (h : Bounded a b sw) : Bounded a b sw.jobbed where
  toConfined := by
    refine h.toConfined.jobbed ha hb fun he => ?_
    split
    · exact (h.limits he).2
    · exact (h.limits he).1
  limits he := by
    obtain ⟨hin, hout, hen⟩ := jobbed_job sw
    rw [hin, hout]
    exact h.limits (hen ▸ he)

/-- **A command of the stream** keeps everything between `a` and `b`. -/
theorem commanded (ha : 1 ≤ a) (hb : b ≤ 4000) {s : SweepCtx F} (h : Bounded a b s.obj)
    {m : AntaresMsg} (hm : Within a b m) (hc : Commanded m s sw) : Bounded a b sw := by
  have hcmd : m.cmd = Comands.sweepGoto.code ∨ m.cmd = Comands.sweepScan.code ∨
      m.cmd = Comands.sweepEnable.code := by
    rcases hm with h | h | h
    · exact Or.inl h.1
    · exact Or.inr (Or.inl h.1)
    · exact Or.inr (Or.inr h)
  cases hc with
  | goto hg =>
      rcases hm with ⟨_, target, rest, htext, hta, htb⟩ | ⟨hs, _⟩ | he
      · have hgone := h.toConfined.gone ha hb
          ((gotoTarget_of_text htext s).symm ▸ hta) ((gotoTarget_of_text htext s).symm ▸ htb)
          (gotoSpeed m s)
        exact ⟨hgone, by simpa using h.limits⟩
      · rw [hg] at hs
        exact absurd hs (by decide)
      · rw [hg] at he
        exact absurd he (by decide)
  | scanStart hs harg =>
      rcases hm with ⟨hg, _⟩ | ⟨_, hlim⟩ | he
      · rw [hs] at hg
        exact absurd hg (by decide)
      · obtain ⟨jobin, jobout, rest, htext, hina, hinb, houta, houtb⟩ := hlim harg
        refine ⟨⟨h.coupled, h.gap, h.fenced, h.touched⟩, fun _ => ?_⟩
        simp only [scanning, scanIn_of_text htext, scanOut_of_text htext]
        exact ⟨⟨hina, hinb⟩, houta, houtb⟩
      · rw [hs] at he
        exact absurd he (by decide)
  | scanAbort => exact ⟨⟨h.coupled, h.gap, h.fenced, h.touched⟩, nofun⟩
  | enable => exact ⟨⟨h.coupled, h.gap, h.fenced, h.touched⟩, h.limits⟩
  | dir hd => rcases hcmd with hn | hn | hn <;> rw [hd] at hn <;> exact absurd hn (by decide)
  | other hg hs he _ => exact (hcmd.elim hg fun hn => hn.elim hs he).elim

end Bounded

/-- **Travel containment.**  The carriage never leaves the stretch `[a, b]` that contains its
starting point and all positions it is sent to, at whatever speeds and in whatever phase of an
earlier move or job the commands arrive. -/
theorem travel_contained {a b : ℤ} (ha : 1 ≤ a) (ha' : a ≤ 2000) (hb : 2000 ≤ b) (hb' : b ≤ 4000)
    (raw : Sweep) (w : World F) {labels : List Label} (h : ∀ l ∈ labels, WithinLabel a b l) :
    ∃ t, run step (boot raw w) labels = .ok t ∧ a ≤ t.obj.sweeppos ∧ t.obj.sweeppos ≤ b := by
  have hpark : ∀ m, Within a b m → m.cmd ≠ Comands.sweepPark.code := by
    rintro m (⟨h, _⟩ | ⟨h, _⟩ | h) <;> rw [h] <;> decide
  have hfed : AllSteps step (Fed (F := F) (Within a b) (fun _ _ => True) fun _ => True)
      (boot raw w) labels := by
    refine allSteps_mono (fun s l hl => ?_) (allSteps_of_forall_mem h)
    cases l with
    | tick => trivial
    | post m => exact hl
    | push e => exact hl
    | turn => exact ⟨fun _ _ => trivial, fun _ => trivial⟩
  have hboot : Bounded a b (boot raw w).obj := ⟨boot_confined ha ha' hb hb' raw w, nofun⟩
  obtain ⟨t, ht, _, hc⟩ := calm_run hpark Bounded.of_sameCarriage (fun _ => Bounded.tick)
    (fun s _ hs => hs.jobbed ha hb') (fun s m sw hm _ hc hs => hs.commanded ha hb' hm hc)
    (boot_calm (Within a b) raw w) hboot hfed
  exact ⟨t, ht, hc.lower, hc.upper⟩

theorem travel_contained_goto_2500 :
    ∃ t, run step (boot blank .blank) [.post goto2500, .turn, .turn, .tick] = .ok t ∧
      1000 ≤ t.obj.sweeppos ∧ t.obj.sweeppos ≤ 3000 := by
  refine travel_contained (by decide) (by decide) (by decide) (by decide) blank .blank ?_
  simp only [List.mem_cons, List.not_mem_nil, or_false]
  rintro l (rfl | rfl | rfl | rfl)
  · exact Or.inl ⟨by decide, 2500, [4], by decide, by decide, by decide⟩
  · trivial
  · trivial
  · trivial

end Lgt8.Sweep

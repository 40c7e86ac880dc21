import Mathlib.Tactic
import Lgt8.Sweep.Containment

/-!
# Where a move ends

A `SWEEP_GOTO` writes the cells between the carriage and the target and leaves all others as they
are, also those an earlier, pre-empted move had written.  Hence the carriage comes to rest on the
target if and only if no such cell was left on the target itself.

* `serviceBoard_progress` — on a pending cell, a tick counts down or finishes the cell.
* **`comes_to_rest`** — with the ends of the rail fenced, ticks alone bring the carriage to rest.
* **`goto_reaches_target_iff`** — the exact condition; `goto_1500_overrun` is the shortest stream
  that breaks it, a move pre-empted by a shorter one.
-/

namespace Lgt8.Sweep

open Library

variable {F : Type}

/-! ## Coming to rest -/

/-- After `n` ticks the carriage is at rest for the first time. -/
def FirstRest (s : SweepCtx F) (n : ℕ) : Prop :=
  (serviceBoard^[n] s).obj.current = 255 ∧ ∀ j < n, (serviceBoard^[j] s).obj.current ≠ 255

lemma exists_firstRest {s : SweepCtx F} (h : ∃ n, (serviceBoard^[n] s).obj.current = 255) :
    ∃ n, FirstRest s n :=
  ⟨Nat.find h, Nat.find_spec h, fun _ hj => Nat.find_min h hj⟩

/-- Ticks are a walk that stays confined. -/
lemma ticks_walk {a b : ℤ} {s : SweepCtx F} (h : Confined a b s.obj) (n : ℕ) :
    Walker.Walk s.obj.walker (serviceBoard^[n] s).obj.walker ∧
      Confined a b (serviceBoard^[n] s).obj := by
  induction n with
  | zero => exact ⟨.refl, h⟩
  | succ n ih =>
      rw [Function.iterate_succ_apply']
      exact ⟨ih.1.tail ((serviceBoard_ticked _).step ih.2.gap), ih.2.tick⟩

/-- **Ticks alone bring the carriage to rest.**  Every tick lowers the countdown of the cell or the
room left in front of the carriage. -/
theorem comes_to_rest {s : SweepCtx F} (h : Confined 1 4000 s.obj)
    (hl : s.obj.enable = true ∨ s.obj.current = 255) :
    ∃ n, (serviceBoard^[n] s).obj.current = 255 := by
  induction hμ : 512 * Walker.room 0 3999 s.obj.walker + s.obj.countdown using
    Nat.strong_induction_on generalizing s with
  | _ μ ih =>
      by_cases hc : s.obj.current = 255
      · exact ⟨0, hc⟩
      · have he := hl.resolve_right hc
        obtain ⟨he', hp⟩ := (serviceBoard_ticked s).progress he hc h.gap
        have hless : 512 * Walker.room 0 3999 (serviceBoard s).obj.walker
            + (serviceBoard s).obj.countdown < μ := by
          rw [← hμ]
          rcases hp with ⟨hw, hcd⟩ | hw
          · rw [hw]
            omega
          · have hroom := Walker.Fenced.room_advance (walker_dir_cases s.obj)
              (hw ▸ h.tick.fenced)
            have := countdown_lt (serviceBoard s).obj
            norm_num at hroom
            rw [hw]
            omega
        obtain ⟨n, hn⟩ := ih _ hless h.tick (Or.inl he') rfl
        exact ⟨n + 1, by rwa [Function.iterate_succ_apply]⟩

/-- **The end of a move.**  Once a `Goto` has been planned and only ticks follow, the carriage
comes to rest, and it rests on the target exactly if no pending cell was left there before. -/
theorem gone_rest {sw : Sweep} {s : SweepCtx F} (h : Confined 1 4000 sw)
    (hl : sw.enable = true ∨ sw.current = 255) {target speed : ℤ} (ht : 1 ≤ target)
    (ht' : target ≤ 4000) (hv : uint8 speed ≠ 255)
    (hs : SameCarriage (sw.gone target speed) s.obj) :
    ∃ n, FirstRest s n ∧
      ((serviceBoard^[n] s).obj.sweeppos = target ↔ sw.sweepmap (4000 - target) = 255) := by
  have hlo := h.lower
  have hhi := h.upper
  have hconf : Confined 1 4000 s.obj :=
    (h.gone le_rfl le_rfl ht ht' speed).of_sameCarriage hs
  have hlive : s.obj.enable = true ∨ s.obj.current = 255 := by
    rw [hs.enable, hs.current, gone]
    split
    · exact Or.inl rfl
    · exact hl
  obtain ⟨n, hfirst⟩ := exists_firstRest (comes_to_rest hconf hlive)
  refine ⟨n, hfirst, ?_⟩
  obtain ⟨hwalk, hconf'⟩ := ticks_walk hconf n
  obtain ⟨k, hk⟩ := hwalk.spec (walker_dir_ne_zero _)
  obtain ⟨hend, hplan, htarget⟩ := gone_planned h.coupled target speed
    (by omega) (by omega) hv
  rw [← hs.walker] at hend hplan htarget
  -- the carriage rests `k` cells on, and the target is `|target - sweeppos|` cells on
  have hkn := hk.rest_eq_iff (walker_dir_ne_zero _) ((atRest_iff _).mpr hfirst.1) hplan
  rw [hend, htarget, not_not] at hkn
  rw [← hkn]
  have hpos := hconf'.coupled
  have hhead : (serviceBoard^[n] s).obj.sweepmapptr
      = s.obj.walker.head + k * s.obj.walker.dir := hk.head
  constructor
  · intro hp
    have : (k : ℤ) * s.obj.walker.dir
        = (target - sw.sweeppos).natAbs * s.obj.walker.dir := by omega
    exact_mod_cast mul_right_cancel₀ (walker_dir_ne_zero _) this
  · intro he
    rw [he] at hhead
    omega

/-! ## Streams of moves -/

/-- A `SWEEP_GOTO` to a position of the rail at a real speed. -/
def IsMove (m : AntaresMsg) : Prop :=
  m.cmd = Comands.sweepGoto.code ∧ ∃ target speed, sscanfInts 2 m.data = [target, speed] ∧
    1 ≤ target ∧ target ≤ 4000 ∧ 0 ≤ speed ∧ speed ≤ 254

/-- The steps of a stream of moves. -/
def MoveLabel : Label → Prop
  | .tick => True
  | .post m => IsMove m
  | .push _ => False
  | .turn => True

/-- What holds of the carriage in such a stream: it is confined to the rail, no job runs, and a
disabled driver has nothing to do. -/
structure Driven (sw : Sweep) : Prop extends Confined 1 4000 sw where
  noJob : sw.sweepjobEnabled = false
  live : sw.enable = true ∨ sw.current = 255

lemma IsMove.ne_park {m : AntaresMsg} (h : IsMove m) : m.cmd ≠ Comands.sweepPark.code := by
  rw [h.1]
  decide

lemma Driven.gone {sw : Sweep} (h : Driven sw) {target : ℤ} (ht : 1 ≤ target)
    (ht' : target ≤ 4000) (speed : ℤ) : Driven (sw.gone target speed) where
  toConfined := h.toConfined.gone le_rfl le_rfl ht ht' speed
  noJob := by rw [gone_sweepjobEnabled, h.noJob]
  live := by
    rw [Sweep.gone]
    split
    · exact Or.inl rfl
    · exact h.live

/-- **Every state of a stream of moves is driven.** -/
theorem driven_run (raw : Sweep) (w : World F) {labels : List Label}
    (h : ∀ l ∈ labels, MoveLabel l) {s : SweepCtx F}
    (hs : run step (boot raw w) labels = .ok s) : Calm IsMove s ∧ Driven s.obj := by
  have hfed : AllSteps step (Fed (F := F) IsMove (fun _ _ => True) fun _ => True)
      (boot raw w) labels := by
    refine allSteps_mono (fun s l hl => ?_) (allSteps_of_forall_mem h)
    cases l with
    | tick => trivial
    | post m => exact hl
    | push e => exact hl
    | turn => exact ⟨fun _ _ => trivial, fun _ => trivial⟩
  have hframe : ∀ {sw sw' : Sweep}, SameCarriage sw sw' → Driven sw → Driven sw' :=
    fun hsame hd => ⟨hd.toConfined.of_sameCarriage hsame, by rw [hsame.sweepjobEnabled, hd.noJob],
      by rw [hsame.enable, hsame.current]; exact hd.live⟩
  have htick : ∀ s : SweepCtx F, Driven s.obj → Driven (serviceBoard s).obj := by
    intro s hd
    have ht := serviceBoard_ticked s
    refine ⟨hd.toConfined.tick, by rw [ht.sameJob.sweepjobEnabled, hd.noJob], ?_⟩
    exact hd.live.imp (fun he => ht.enable.trans he) ht.current_rest
  have hjob : ∀ s : SweepCtx F, True → Driven s.obj → Driven s.obj.jobbed := by
    intro s _ hd
    rwa [jobbed, if_neg (by rw [hd.noJob]; decide)]
  have hmsg : ∀ (s : SweepCtx F) m sw, IsMove m → True → Commanded m s sw →
      Driven s.obj → Driven sw := by
    rintro s m sw ⟨hcmd, target, speed, htext, ht, ht', -, -⟩ - hc hd
    rw [hc.eq_gone hcmd, gotoTarget_of_text htext]
    exact hd.gone ht ht' _
  have hboot : Driven (boot raw w).obj :=
    ⟨boot_confined le_rfl (by decide) (by decide) le_rfl raw w, rfl, Or.inr rfl⟩
  obtain ⟨t, ht, hcalm, hd⟩ := calm_run (fun _ h => h.ne_park) hframe htick hjob hmsg
    (boot_calm IsMove raw w) hboot hfed
  rw [hs] at ht
  cases ht
  exact ⟨hcalm, hd⟩

/-- **A move reaches its target exactly if no earlier move left a pending cell there.**  In every
state a stream of moves and ticks can reach, however often its moves were pre-empted: if one more
move is serviced and only ticks follow, the carriage comes to rest, and the position of its first
rest is the target if and only if the target's cell was free before the move. -/
theorem goto_reaches_target_iff (raw : Sweep) (w : World F) {labels : List Label}
    (h : ∀ l ∈ labels, MoveLabel l) {s : SweepCtx F}
    (hs : run step (boot raw w) labels = .ok s) {m : AntaresMsg} (hm : frontMsg s = some m)
    (hcmd : m.cmd = Comands.sweepGoto.code) {target speed : ℤ}
    (htext : sscanfInts 2 m.data = [target, speed]) (ht : 1 ≤ target) (ht' : target ≤ 4000)
    (hv : 0 ≤ speed) (hv' : speed ≤ 254) :
    ∃ s' n, serviceFront s = .ok s' ∧ FirstRest s' n ∧
      ((serviceBoard^[n] s').obj.sweeppos = target ↔ s.obj.sweepmap (4000 - target) = 255) := by
  obtain ⟨hcalm, hd⟩ := driven_run raw w h hs
  obtain ⟨s', hs', hsame⟩ := serviceFront_goto (fun _ h => h.ne_park) hcalm hm hcmd htext
  obtain ⟨n, hn, hiff⟩ := gone_rest hd.toConfined hd.live ht ht' (uint8_ne_max hv hv') hsame
  exact ⟨s', n, hs', hn, hiff⟩

/-- `SWEEP_GOTO "1000 4"` and `SWEEP_GOTO "1500 4"`. -/
def goto1000 : AntaresMsg := .compose Comands.sweepGoto.code 0 2 "1000 4"

def goto1500 : AntaresMsg := .compose Comands.sweepGoto.code 0 2 "1500 4"

lemma isMove_goto1000 : IsMove goto1000 :=
  ⟨by decide, 1000, 4, by decide, by decide, by decide, by decide, by decide⟩

lemma isMove_goto1500 : IsMove goto1500 :=
  ⟨by decide, 1500, 4, by decide, by decide, by decide, by decide, by decide⟩

/-- A move to 1000, pre-empted at its start by a move to 1500. -/
def preempted : List Label := [.post goto1000, .turn, .turn, .post goto1500]

lemma preempted_moves : ∀ l ∈ preempted, MoveLabel l := by
  simp only [preempted, List.mem_cons, List.not_mem_nil, or_false]
  rintro l (rfl | rfl | rfl | rfl)
  · exact isMove_goto1000
  · trivial
  · trivial
  · exact isMove_goto1500

/-- The second move finds the plan of the first still in the map, its own target included. -/
lemma run_preempted : ∃ s, run step (boot blank .blank) preempted = .ok s ∧
    frontMsg s = some goto1500 ∧ s.obj.sweepmap 2500 ≠ 255 := by
  have hrun := run_append_of_ok (run_boot_cmd blank .blank (m := goto1000) (by decide))
    [.post goto1500]
  refine ⟨_, hrun, ?_⟩
  have hobj := serviceCmd_goto (m := goto1000) (by decide) (ready blank .blank goto1000)
  have htext : sscanfInts 2 goto1000.data = [1000, 4] := by decide
  have hspeed : gotoSpeed goto1000 (ready blank .blank goto1000) = 4 := by
    simp [gotoSpeed, htext]
  rw [gotoTarget_of_text htext, hspeed] at hobj
  refine ⟨frontMsg_post ?_ _, ?_⟩
  · rw [popEvent_obj, deleteMsg_obj, hobj, gone_events]
    rfl
  · -- cell 2500 is the 501st of the thousand cells of the first move
    obtain ⟨hend, hplan, -⟩ := gone_planned
      (show (ready blank .blank goto1000).obj.sweepmapptr
        = 4000 - (ready blank .blank goto1000).obj.sweeppos from rfl) 1000 4 (by decide) (by decide) (by decide)
    have hhead : (gone 1000 4 (ready blank .blank goto1000).obj).walker.head = 2000 :=
      gone_sweepmapptr _ _ _
    have hn : (1000 - (ready blank .blank goto1000).obj.sweeppos).natAbs = 1000 := by decide
    rw [hn, hhead] at hend hplan
    have h500 := hplan 500 (by decide)
    have hcell : 2000 + ((500 : ℕ) : ℤ)
        * (gone 1000 4 (ready blank .blank goto1000).obj).walker.dir = 2500 := by
      push_cast at hend ⊢
      omega
    rw [hcell] at h500
    have hmap : ∀ u : SweepCtx ℚ,
        (post goto1500 (popEvent (deleteMsg 0 u))).obj.sweepmap = u.obj.sweepmap := fun _ => rfl
    exact (hmap _).symm ▸ hobj ▸ h500

theorem goto_reaches_target_iff_preempted :
    ∃ s, run step (boot blank .blank) preempted = .ok s ∧
      ∃ s' n, serviceFront s = .ok s' ∧ FirstRest s' n ∧
        ((serviceBoard^[n] s').obj.sweeppos = 1500 ↔ s.obj.sweepmap (4000 - 1500) = 255) := by
  obtain ⟨s, hs, hm, -⟩ := run_preempted
  exact ⟨s, hs, goto_reaches_target_iff blank .blank preempted_moves hs hm (by decide)
    (show sscanfInts 2 goto1500.data = [1500, 4] by decide) (by decide) (by decide) (by decide)
    (by decide)⟩

/-- The carriage does not stop at 1500: it runs over the target along what is left of the first
plan. -/
theorem goto_1500_overrun :
    ∃ s s' n, run step (boot blank .blank) preempted = .ok s ∧ frontMsg s = some goto1500 ∧
      serviceFront s = .ok s' ∧ FirstRest s' n ∧ (serviceBoard^[n] s').obj.sweeppos ≠ 1500 := by
  obtain ⟨s, hs, hm, hcell⟩ := run_preempted
  obtain ⟨hcalm, hd⟩ := driven_run blank .blank preempted_moves hs
  obtain ⟨s', hs', hsame⟩ := serviceFront_goto (fun _ h => h.ne_park) hcalm hm (by decide)
    (show sscanfInts 2 goto1500.data = [1500, 4] by decide)
  obtain ⟨n, hn, hiff⟩ := gone_rest hd.toConfined hd.live (by decide) (by decide) (by decide) hsame
  exact ⟨s, s', n, hs, hm, hs', hn, fun hpos => hcell (hiff.mp hpos)⟩

end Lgt8.Sweep

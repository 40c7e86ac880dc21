import Mathlib.Tactic
import Lgt8.Library.Shuttle
import Lgt8.Sweep.Carriage
import Lgt8.Sweep.Passes

/-!
# A scan job shuttles between its limits

Every tick at rest queues a job event and every job event toggles `sweepjobOutdir`, so the toggle
says nothing about the carriage: with duplicates piled up it may point to either limit.  What keeps
the job in step is that a job event for the limit the carriage stands on plans nothing, and that
one for the other limit plans the same cells however often it is repeated.

* `OnLeg` — the invariant: the carriage is somewhere on leg `n`, and the pending cells are exactly
  the ones still ahead of it.
* `OnLeg.tick`, `OnLeg.job` — a tick keeps the leg, a job event can only start the next one, and
  only at the end.
* **`scan_shuttles`** — from rest, a scan moves the carriage as a `Shuttle` between its limits,
  under every schedule of ticks and passes, unless a tick queues an event of an older job first;
  `older_job_skips_leg` is a schedule on which it does.
-/

namespace Lgt8.Sweep

open Library Shuttle

variable {F : Type}

/-- A scan between `out` and `inn` is running on an enabled carriage. -/
structure Scanning (out inn speed : ℤ) (sw : Sweep) : Prop where
  sweepjobIn : sw.sweepjobIn = inn
  sweepjobOut : sw.sweepjobOut = out
  sweepjobSpeed : sw.sweepjobSpeed = speed
  sweepjobEnabled : sw.sweepjobEnabled = true
  enable : sw.enable = true
  coupled : sw.sweepmapptr = 4000 - sw.sweeppos
  gap : sw.pulsegap ≠ 255
  lower : 1 ≤ sw.sweeppos
  upper : sw.sweeppos ≤ 4000

/-- The carriage is on leg `n`: what is pending is what lies between it and the end of the leg. -/
structure OnLeg (out inn speed : ℤ) (n : ℕ) (sw : Sweep) : Prop
    extends Scanning out inn speed sw where
  facing : sw.sweeppos ≠ goal out inn n → sw.outdir = !decide (0 < goal out inn n - sw.sweeppos)
  pending : ∀ i, 0 ≤ i → i ≤ 3999 → (sw.sweepmap i ≠ 255 ↔
    ∃ k : ℕ, k < (goal out inn n - sw.sweeppos).natAbs ∧
      i = sw.sweepmapptr + k * stride sw.outdir)

namespace OnLeg

variable {out inn speed : ℤ} {n : ℕ} {sw sw' : Sweep}

/-- The carriage is at rest only at the end of its leg. -/
lemma current_iff (h : OnLeg out inn speed n sw) :
    sw.current = 255 ↔ sw.sweeppos = goal out inn n := by
  have hl := h.lower
  have hu := h.upper
  have hp := h.pending sw.sweepmapptr (by rw [h.coupled]; omega) (by rw [h.coupled]; omega)
  rw [← not_iff_not]
  refine hp.trans ⟨?_, ?_⟩
  · rintro ⟨k, hk, _⟩
    omega
  · exact fun hne => ⟨0, by omega, by simp⟩

/-- The same place, the same direction and the same pending cells are the same leg. -/
lemma congr (h : OnLeg out inn speed n sw) (hjob : SameJob sw sw') (hen : sw'.enable = sw.enable)
    (hptr : sw'.sweepmapptr = sw.sweepmapptr) (hpos : sw'.sweeppos = sw.sweeppos)
    (hdir : sw'.outdir = sw.outdir) (hgap : sw'.pulsegap ≠ 255)
    (hmap : {i | sw'.sweepmap i ≠ 255} = {i | sw.sweepmap i ≠ 255}) :
    OnLeg out inn speed n sw' where
  sweepjobIn := hjob.sweepjobIn.trans h.sweepjobIn
  sweepjobOut := hjob.sweepjobOut.trans h.sweepjobOut
  sweepjobSpeed := hjob.sweepjobSpeed.trans h.sweepjobSpeed
  sweepjobEnabled := hjob.sweepjobEnabled.trans h.sweepjobEnabled
  enable := hen.trans h.enable
  coupled := by rw [hptr, hpos, h.coupled]
  gap := hgap
  lower := hpos ▸ h.lower
  upper := hpos ▸ h.upper
  facing := by rw [hpos, hdir]; exact h.facing
  pending i hlo hhi := by
    rw [hpos, hptr, hdir, ← h.pending i hlo hhi]
    exact Set.ext_iff.mp hmap i

lemma of_sameCarriage (hs : SameCarriage sw sw') (h : OnLeg out inn speed n sw) :
    OnLeg out inn speed n sw' :=
  h.congr hs.sameJob hs.enable hs.sweepmapptr hs.sweeppos hs.outdir (hs.pulsegap ▸ h.gap)
    (by rw [hs.sweepmap])

/-- **Finishing a cell** brings the carriage one place closer to the end of its leg. -/
lemma raised (h : OnLeg out inn speed n sw) (hne : sw.sweeppos ≠ goal out inn n)
    (hn1 : 1 ≤ goal out inn n) (hn2 : goal out inn n ≤ 4000) :
    OnLeg out inn speed n sw.raised ∧
      sw.raised.sweeppos = sw.sweeppos + (goal out inn n - sw.sweeppos).sign := by
  have hl := h.lower
  have hu := h.upper
  have hf := h.facing hne
  have hd := stride_of_step (goal out inn n - sw.sweeppos)
  rw [← hf] at hd
  have hpos : sw.raised.sweeppos = sw.sweeppos + (goal out inn n - sw.sweeppos).sign := by
    show sw.sweeppos - stride sw.outdir = _
    rcases hd with ⟨hpos, hs⟩ | ⟨hneg, hs⟩ <;> rw [hs]
    · rw [Int.sign_eq_one_of_pos hpos]
      ring
    · rw [Int.sign_eq_neg_one_of_neg (by omega)]
      ring
  have hpos' : sw.raised.sweeppos = sw.sweeppos - stride sw.outdir := rfl
  have hcount : (goal out inn n - (sw.sweeppos - stride sw.outdir)).natAbs + 1
      = (goal out inn n - sw.sweeppos).natAbs := by
    rcases hd with ⟨_, hs⟩ | ⟨_, hs⟩ <;> rw [hs] <;> omega
  refine ⟨⟨⟨h.sweepjobIn, h.sweepjobOut, h.sweepjobSpeed, h.sweepjobEnabled, h.enable, ?_,
    zero_ne_max, ?_, ?_⟩, ?_, ?_⟩, hpos⟩
  · show sw.sweepmapptr + stride sw.outdir = 4000 - (sw.sweeppos - stride sw.outdir)
    rw [h.coupled]
    ring
  · rw [hpos']
    rcases hd with ⟨_, hs⟩ | ⟨_, hs⟩ <;> rw [hs] <;> omega
  · rw [hpos']
    rcases hd with ⟨_, hs⟩ | ⟨_, hs⟩ <;> rw [hs] <;> omega
  · intro hne'
    show sw.outdir = _
    rw [hpos'] at hne' ⊢
    rcases hd with ⟨_, hs⟩ | ⟨_, hs⟩ <;> rw [hs] at hne' ⊢ <;> rw [hf] <;> congr 2 <;>
      exact propext (by omega)
  · intro i hlo hhi
    have hp := h.pending i hlo hhi
    show Function.update sw.sweepmap sw.sweepmapptr 255 i ≠ 255 ↔ ∃ k : ℕ,
      k < (goal out inn n - (sw.sweeppos - stride sw.outdir)).natAbs ∧
        i = sw.sweepmapptr + stride sw.outdir + k * stride sw.outdir
    by_cases hi : i = sw.sweepmapptr
    · subst hi
      simp only [Function.update_self, ne_eq, not_true, false_iff]
      rintro ⟨k, hk, he⟩
      rcases hd with ⟨_, hs⟩ | ⟨_, hs⟩ <;> rw [hs] at he <;> omega
    · rw [Function.update_of_ne hi, hp]
      constructor
      · rintro ⟨k, hk, rfl⟩
        cases k with
        | zero => simp at hi
        | succ k =>
            exact ⟨k, by rw [← hcount] at hk; exact Nat.lt_of_succ_lt_succ hk, by push_cast; ring⟩
      · rintro ⟨k, hk, rfl⟩
        exact ⟨k + 1, by rw [← hcount]; exact Nat.succ_lt_succ hk, by push_cast; ring⟩

/-- **A tick keeps the leg**: it leaves the carriage where it is, or brings it one place closer. -/
theorem tick (h : OnLeg out inn speed n sw) (ht : Ticked sw sw') (hn1 : 1 ≤ goal out inn n)
    (hn2 : goal out inn n ≤ 4000) :
    OnLeg out inn speed n sw' ∧ sw'.outdir = sw.outdir ∧
      Step out inn ⟨sw.sweeppos, n⟩ ⟨sw'.sweeppos, n⟩ := by
  cases ht with
  | off hoff _ => rw [h.enable] at hoff; cases hoff
  | rest _ _ hs =>
      refine ⟨h.congr (hs.sameJob.after ⟨rfl, rfl, rfl, rfl, rfl⟩) hs.enable hs.sweepmapptr
        hs.sweeppos hs.outdir (hs.pulsegap ▸ zero_ne_max) (by rw [hs.sweepmap]; rfl), hs.outdir, ?_⟩
      rw [hs.sweeppos]
      exact .stay _
  | count _ hc h0 hs =>
      subst hs
      exact ⟨h.congr ⟨rfl, rfl, rfl, rfl, rfl⟩ rfl rfl rfl rfl (latched_ne hc h.gap)
        (pending_update hc (pred_ne_max h0)), rfl, .stay _⟩
  | drop _ h0 _ hs =>
      have hc := ne_max_of_eq_zero h0
      refine ⟨h.congr (hs.sameJob.after ⟨rfl, rfl, rfl, rfl, rfl⟩) hs.enable hs.sweepmapptr
        hs.sweeppos hs.outdir (hs.pulsegap ▸ latched_ne hc h.gap)
        (by rw [hs.sweepmap]; exact pending_update hc (latched_ne hc h.gap)), hs.outdir, ?_⟩
      rw [hs.sweeppos]
      exact .stay _
  | raise _ h0 _ hs =>
      have hne : sw.sweeppos ≠ goal out inn n :=
        fun he => ne_max_of_eq_zero h0 (h.current_iff.mpr he)
      obtain ⟨hr, hpos⟩ := h.raised hne hn1 hn2
      refine ⟨hr.of_sameCarriage hs.toSameCarriage, hs.outdir, ?_⟩
      rw [hs.sweeppos, hpos]
      exact .go ⟨sw.sweeppos, n⟩ hne

end OnLeg

/-! ## Planning a leg -/

section

variable {out inn speed : ℤ} {n : ℕ} {sw : Sweep}

/-- A move to where the carriage stands plans nothing. -/
lemma gone_self (v : ℤ) (sw : Sweep) : sw.gone sw.sweeppos v = sw := by
  rw [gone, sub_self]
  rfl

/-- **A move to the end of leg `n`** puts the carriage on that leg, if no cell is pending that is
not on the way. -/
theorem Scanning.gone_onLeg (h : Scanning out inn speed sw) (hv : uint8 speed ≠ 255)
    (hn1 : 1 ≤ goal out inn n) (hn2 : goal out inn n ≤ 4000)
    (hsub : ∀ i, 0 ≤ i → i ≤ 3999 → sw.sweepmap i ≠ 255 →
      ∃ k : ℕ, k < (goal out inn n - sw.sweeppos).natAbs ∧
        i = sw.sweepmapptr + k * stride (!decide (0 < goal out inn n - sw.sweeppos))) :
    OnLeg out inn speed n (sw.gone (goal out inn n) speed) := by
  have hl := h.lower
  have hu := h.upper
  rw [gone, int32_of_range (by omega) (by omega)]
  by_cases hne : goal out inn n - sw.sweeppos ≠ 0
  · rw [if_pos hne]
    refine ⟨⟨h.sweepjobIn, h.sweepjobOut, h.sweepjobSpeed, h.sweepjobEnabled, rfl, h.coupled,
      h.gap, h.lower, h.upper⟩, fun _ => rfl, fun i hlo hhi => ?_⟩
    have hp := Set.ext_iff.mp (paint_pending (d := stride (!decide (0 < goal out inn n - sw.sweeppos)))
      hv (goal out inn n - sw.sweeppos).natAbs sw.sweepmapptr sw.sweepmap) i
    simp only [slid, slideCells_of_range (goal out inn n - sw.sweeppos) (by omega)
      (by omega)]
    rw [Set.mem_ofPred_eq, Set.mem_union, Set.mem_ofPred_eq, Set.mem_ofPred_eq] at hp
    exact hp.trans ⟨fun ho => ho.elim (hsub i hlo hhi) id, Or.inr⟩
  · rw [if_neg hne]
    have h0 : (goal out inn n - sw.sweeppos).natAbs = 0 := by omega
    refine ⟨h, fun hne' => absurd (by omega) hne', fun i hlo hhi => ?_⟩
    rw [h0] at hsub ⊢
    constructor
    · intro hi
      obtain ⟨k, hk, -⟩ := hsub i hlo hhi hi
      exact absurd hk (Nat.not_lt_zero k)
    · rintro ⟨k, hk, -⟩
      exact absurd hk (Nat.not_lt_zero k)

lemma OnLeg.toggle (h : OnLeg out inn speed n sw) (b : Bool) :
    OnLeg out inn speed n { sw with sweepjobOutdir := b } :=
  ⟨⟨h.sweepjobIn, h.sweepjobOut, h.sweepjobSpeed, h.sweepjobEnabled, h.enable, h.coupled, h.gap,
    h.lower, h.upper⟩, h.facing, h.pending⟩

/-- The carriage stands at the end of leg `n`; the next leg may be planned already. -/
structure AtTurn (out inn speed : ℤ) (n : ℕ) (sw : Sweep) : Prop where
  place : sw.sweeppos = goal out inn n
  leg : OnLeg out inn speed n sw ∨ OnLeg out inn speed (n + 1) sw

lemma AtTurn.of_events (h : AtTurn out inn speed n sw) (es : List Event) :
    AtTurn out inn speed n { sw with events := es } :=
  ⟨h.place, h.leg.imp (·.of_sameCarriage (by constructor <;> rfl))
    (·.of_sameCarriage (by constructor <;> rfl))⟩

/-- **A job event at the end of a leg** plans the next leg or nothing, whatever the toggle says and
however many came before it. -/
theorem AtTurn.job (h : AtTurn out inn speed n sw) (hne : out ≠ inn) (hv : uint8 speed ≠ 255)
    (hrail : ∀ k, 1 ≤ goal out inn k ∧ goal out inn k ≤ 4000) :
    AtTurn out inn speed n sw.jobbed := by
  have hs : Scanning out inn speed sw := h.leg.elim (·.toScanning) (·.toScanning)
  have hlim : (if sw.sweepjobOutdir then sw.sweepjobOut else sw.sweepjobIn) = out ∨
      (if sw.sweepjobOutdir then sw.sweepjobOut else sw.sweepjobIn) = inn := by
    rw [hs.sweepjobIn, hs.sweepjobOut]
    cases sw.sweepjobOutdir
    · exact Or.inr rfl
    · exact Or.inl rfl
  rw [jobbed, if_pos hs.sweepjobEnabled, hs.sweepjobSpeed]
  refine ⟨(gone_sweeppos _ _ _).trans h.place, ?_⟩
  rcases eq_goal n hlim with hg | hg <;> rw [hg]
  · -- the limit the carriage stands on
    rw [← h.place, gone_self]
    exact h.leg.imp (·.toggle _) (·.toggle _)
  · -- the other limit
    refine Or.inr ((hs.gone_onLeg hv (hrail _).1 (hrail _).2 ?_).toggle _)
    intro i hlo hhi hi
    rcases h.leg with hleg | hleg
    · have h0 : (goal out inn n - sw.sweeppos).natAbs = 0 := by rw [h.place]; simp
      obtain ⟨k, hk, _⟩ := (hleg.pending i hlo hhi).mp hi
      omega
    · have hf := hleg.facing (by rw [h.place]; exact (goal_succ_ne hne n).symm)
      rw [← hf]
      exact (hleg.pending i hlo hhi).mp hi

end

/-! ## Schedules -/

/-- What the schedule of a running scan consists of. -/
inductive Slot
  | tick
  | pass

def scheduled (s : SweepCtx F) : Slot → Except Fault (SweepCtx F)
  | .tick => .ok (serviceBoard s)
  | .pass => serviceEvents s

/-- Only job events wait, and only at the end of a leg. -/
structure Running (out inn speed : ℤ) (n : ℕ) (s : SweepCtx F) : Prop where
  leg : OnLeg out inn speed n s.obj
  jobs : ∀ e ∈ s.obj.events, e.evtype = SigTypes.sweepSweepjobSig.bits
  empty : s.obj.sweeppos ≠ goal out inn n → s.obj.events = []

section

variable {out inn speed : ℤ} {n : ℕ} {s : SweepCtx F}

/-- **A tick of a running scan.** -/
theorem Running.tick (h : Running out inn speed n s)
    (hrail : ∀ k, 1 ≤ goal out inn k ∧ goal out inn k ≤ 4000) :
    Running out inn speed n (serviceBoard s) ∧ (serviceBoard s).obj.outdir = s.obj.outdir ∧
      Step out inn ⟨s.obj.sweeppos, n⟩ ⟨(serviceBoard s).obj.sweeppos, n⟩ := by
  have ht := serviceBoard_ticked s
  obtain ⟨hleg, hdir, hstep⟩ := h.leg.tick ht (hrail n).1 (hrail n).2
  refine ⟨⟨hleg, ?_, ?_⟩, hdir, hstep⟩
  · intro e he
    rcases ht.mem_events he with hold | rfl
    · exact h.jobs e hold
    · rfl
  · intro hne
    -- away from the end the carriage is not at rest, and only a tick at rest queues an event
    by_cases hs : s.obj.sweeppos = goal out inn n
    · have hcur := ht.current_rest (h.leg.current_iff.mpr hs)
      exact absurd (hleg.current_iff.mp hcur) hne
    · rw [ht.events_of_moving h.leg.enable (fun hc => hs (h.leg.current_iff.mp hc)), h.empty hs]

/-- **A pass of a running scan** services the job events that piled up: it starts the next leg if
the carriage has reached the end of its leg, and does nothing otherwise. -/
theorem Running.pass (h : Running out inn speed n s) (hne : out ≠ inn) (hv : uint8 speed ≠ 255)
    (hrail : ∀ k, 1 ≤ goal out inn k ∧ goal out inn k ≤ 4000) :
    ∃ t n', serviceEvents s = .ok t ∧ Running out inn speed n' t ∧
      Step out inn ⟨s.obj.sweeppos, n⟩ ⟨t.obj.sweeppos, n'⟩ ∧
      (t.obj.outdir ≠ s.obj.outdir → s.obj.sweeppos = goal out inn n) := by
  by_cases hs : s.obj.sweeppos = goal out inn n
  · have hturn : ∀ u : SweepCtx F,
        (AtTurn out inn speed n u.obj ∧
          ∀ e ∈ u.obj.events, e.evtype = SigTypes.sweepSweepjobSig.bits) → u.obj.events ≠ [] →
        ∃ t, serviceFront u = .ok t ∧ AtTurn out inn speed n t.obj ∧
          ∀ e ∈ t.obj.events, e.evtype = SigTypes.sweepSweepjobSig.bits := by
      rintro u ⟨hu, hjobs⟩ hq
      obtain ⟨e, rest, he⟩ := List.exists_cons_of_ne_nil hq
      rw [he] at hjobs
      refine ⟨_, serviceFront_cons he (serviceEvent_sweepjob u (hjobs e List.mem_cons_self)), ?_, ?_⟩
      · rw [popEvent_obj, sweepJob_obj]
        exact (hu.job hne hv hrail).of_events _
      · rw [popEvent_obj, sweepJob_obj, jobbed_events, he]
        exact fun f hf => hjobs f (List.mem_cons_of_mem _ hf)
    obtain ⟨t, ht, ⟨hat, _⟩, hempty⟩ := serviceEvents_ok hturn ⟨⟨hs, Or.inl h.leg⟩, h.jobs⟩
    rcases hat.leg with hleg | hleg
    · refine ⟨t, n, ht, ⟨hleg, by simp [hempty], fun _ => hempty⟩, ?_, fun _ => hs⟩
      rw [hs, hat.place]
      exact .stay _
    · refine ⟨t, n + 1, ht, ⟨hleg, by simp [hempty], fun _ => hempty⟩, ?_, fun _ => hs⟩
      rw [hs, hat.place]
      exact .turn ⟨_, n⟩ rfl
  · exact ⟨s, n, serviceEvents_nil (h.empty hs), h, .stay _, fun hd => absurd rfl hd⟩

end

/-! ## The start of a scan -/

/-- The carriage at rest on an empty map, enabled. -/
structure Resting (sw : Sweep) : Prop where
  map : ∀ i, 0 ≤ i → i ≤ 3999 → sw.sweepmap i = 255
  pulse : sw.pulse = true
  gap : sw.pulsegap = 0
  lower : 1 ≤ sw.sweeppos
  upper : sw.sweeppos ≤ 4000
  /-- So it is in every state a run can reach (`coupled_run`). -/
  coupled : sw.sweepmapptr = 4000 - sw.sweeppos
  enable : sw.enable = true

lemma Resting.current {sw : Sweep} (h : Resting sw) : sw.current = 255 := by
  have hl := h.lower
  have hu := h.upper
  exact h.map _ (by rw [h.coupled]; omega) (by rw [h.coupled]; omega)

/-- A tick at rest keeps the carriage at rest, and without a job it does nothing else. -/
lemma Resting.tick {sw sw' : Sweep} (h : Resting sw) (hj : sw.sweepjobEnabled = false)
    (ht : Ticked sw sw') : Resting sw' ∧ sw'.events = sw.events ∧ sw'.outdir = sw.outdir ∧
      sw'.sweeppos = sw.sweeppos := by
  cases ht with
  | off hoff _ => rw [h.enable] at hoff; cases hoff
  | rest _ _ hs =>
      refine ⟨⟨?_, hs.pulse, hs.pulsegap, ?_, ?_, ?_, hs.enable.trans h.enable⟩, ?_, hs.outdir,
        hs.sweeppos⟩
      · rw [hs.sweepmap]
        exact h.map
      · rw [hs.sweeppos]
        exact h.lower
      · rw [hs.sweeppos]
        exact h.upper
      · rw [hs.sweepmapptr, hs.sweeppos]
        exact h.coupled
      · rw [hs.events, rested, hj]
        exact List.append_nil _
  | count _ hc _ _ => exact absurd h.current hc
  | drop _ h0 _ _ => exact absurd h.current (ne_max_of_eq_zero h0)
  | raise _ h0 _ _ => exact absurd h.current (ne_max_of_eq_zero h0)

/-- The message `m` waits, alone, in front of a carriage at rest. -/
structure Waiting (m : AntaresMsg) (s : SweepCtx F) : Prop where
  rest : Resting s.obj
  alone : ∃ a, s.obj.events = [.of .sweepEthSig 1 (.msg a)] ∧ s.world.heap.cell a = some m

lemma post_waiting {s : SweepCtx F} (h : Resting s.obj) (hq : s.obj.events = [])
    (m : AntaresMsg) : Waiting m (post m s) where
  rest := ⟨h.map, h.pulse, h.gap, h.lower, h.upper, h.coupled, h.enable⟩
  alone := ⟨s.world.heap.next, by simp [post, hq], s.world.heap.alloc_cell_self m⟩

lemma Waiting.tick {m : AntaresMsg} {s : SweepCtx F} (h : Waiting m s)
    (hj : s.obj.sweepjobEnabled = false) : Waiting m (serviceBoard s) ∧
      (serviceBoard s).obj.outdir = s.obj.outdir ∧
      (serviceBoard s).obj.sweeppos = s.obj.sweeppos := by
  obtain ⟨hrest, hev, hdir, hpos⟩ := h.rest.tick hj (serviceBoard_ticked s)
  obtain ⟨a, ha, hlive⟩ := h.alone
  exact ⟨⟨hrest, a, hev.trans ha, by rw [serviceBoard_heap]; exact hlive⟩, hdir, hpos⟩

/-- The message `m` starts a scan between two different positions of the rail. -/
structure ScanStart (jobin jobout speed : ℤ) (m : AntaresMsg) : Prop where
  cmd : m.cmd = Comands.sweepScan.code
  arg : m.arg = 1
  text : sscanfInts 3 m.data = [jobin, jobout, speed]
  limits_ne : jobin * 40 ≠ jobout * 40
  jobin_rail : 1 ≤ jobin * 40 ∧ jobin * 40 ≤ 4000
  jobout_rail : 1 ≤ jobout * 40 ∧ jobout * 40 ≤ 4000
  speed_range : 0 ≤ speed ∧ speed ≤ 254

section

variable {jobin jobout speed : ℤ} {m : AntaresMsg} {s : SweepCtx F}

lemma ScanStart.rail (hm : ScanStart jobin jobout speed m) (k : ℕ) :
    1 ≤ goal (jobout * 40) (jobin * 40) k ∧ goal (jobout * 40) (jobin * 40) k ≤ 4000 := by
  rcases goal_eq (jobout * 40) (jobin * 40) k with h | h <;> rw [h]
  · exact hm.jobout_rail
  · exact hm.jobin_rail

lemma ScanStart.speed_ne (hm : ScanStart jobin jobout speed m) : uint8 speed ≠ 255 :=
  uint8_ne_max hm.speed_range.1 hm.speed_range.2

/-- **The pass that services a scan start** puts the carriage on leg 0. -/
theorem Waiting.pass (h : Waiting m s) (hm : ScanStart jobin jobout speed m) :
    ∃ t, serviceEvents s = .ok t ∧ Running (jobout * 40) (jobin * 40) speed 0 t ∧
      t.obj.sweeppos = s.obj.sweeppos := by
  obtain ⟨a, ha, hlive⟩ := h.alone
  have hl := h.rest.lower
  have hu := h.rest.upper
  have hout := hm.jobout_rail
  have hin := hm.jobin_rail
  have hpark : m.cmd ≠ Comands.sweepPark.code := by rw [hm.cmd]; decide
  -- the first turn sets the job up and queues its first event
  have hmsg : serviceFront s = .ok (popEvent (deleteMsg a (serviceCmd m s))) := by
    refine serviceFront_cons ha ?_
    rw [serviceEvent_msg s rfl rfl hlive, serviceMsg, if_neg hpark]
    rfl
  have hobj : (popEvent (deleteMsg a (serviceCmd m s))).obj
      = { scanning m s with events := [.of .sweepSweepjobSig 1 (.map s.obj.sweepmapptr)] } := by
    rw [popEvent_obj, deleteMsg_obj, serviceCmd_scan hm.cmd hm.arg, scanning, ha]
    rfl
  generalize popEvent (deleteMsg a (serviceCmd m s)) = u at hmsg hobj
  -- the second turn takes that event
  have hjob : serviceFront u = .ok (popEvent (sweepJob u)) :=
    serviceFront_cons (by rw [hobj]) (serviceEvent_sweepjob u rfl)
  have hscan : Scanning (jobout * 40) (jobin * 40) speed u.obj := by
    rw [hobj]
    refine ⟨?_, ?_, ?_, rfl, h.rest.enable, h.rest.coupled, ?_, hl, hu⟩
    · exact (scanIn_of_text hm.text s).trans (int32_of_range (by omega) (by omega))
    · exact (scanOut_of_text hm.text s).trans (int32_of_range (by omega) (by omega))
    · simp [scanning, hm.text]
    · exact ne_max_of_eq_zero h.rest.gap
  have hgoal : goal (jobout * 40) (jobin * 40) 0 = jobout * 40 := rfl
  have hleg : OnLeg (jobout * 40) (jobin * 40) speed 0 u.obj.jobbed := by
    have hdir : u.obj.sweepjobOutdir = true := by rw [hobj]; rfl
    rw [jobbed, if_pos hscan.sweepjobEnabled, hscan.sweepjobSpeed, if_pos hdir,
      hscan.sweepjobOut, ← hgoal]
    refine (hscan.gone_onLeg hm.speed_ne (hgoal ▸ hout.1) (hgoal ▸ hout.2) ?_).toggle _
    intro i hlo hhi hi
    rw [hobj] at hi
    exact absurd (h.rest.map i hlo hhi) hi
  have hempty : (popEvent (sweepJob u)).obj.events = [] := by
    rw [popEvent_obj, sweepJob_obj, jobbed_events, hobj]
    rfl
  refine ⟨popEvent (sweepJob u), ?_, ⟨?_, by rw [hempty]; simp, fun _ => hempty⟩, ?_⟩
  · rw [serviceEvents_cons (by rw [ha]; exact List.cons_ne_nil _ _) hmsg,
      serviceEvents_cons (by rw [hobj]; exact List.cons_ne_nil _ _) hjob, serviceEvents_nil hempty]
  · rw [popEvent_obj, sweepJob_obj]
    exact hleg.of_sameCarriage (by constructor <;> rfl)
  · rw [popEvent_obj, sweepJob_obj]
    show u.obj.jobbed.sweeppos = s.obj.sweeppos
    rw [jobbed, if_pos hscan.sweepjobEnabled]
    show (gone _ _ u.obj).sweeppos = s.obj.sweeppos
    rw [gone_sweeppos, hobj]
    rfl

end

/-! ## The whole run -/

/-- What one step of the schedule does, for a carriage that started at `pos`.  The abstract state
is the leg and whether the start has been serviced. -/
def Follows (out inn pos : ℤ) (s t : SweepCtx F) (b b' : ℕ × Bool) : Prop :=
  Step out inn ⟨s.obj.sweeppos, b.1⟩ ⟨t.obj.sweeppos, b'.1⟩ ∧
  (t.obj.outdir ≠ s.obj.outdir →
    b.2 = false ∨ s.obj.sweeppos = out ∨ s.obj.sweeppos = inn) ∧
  (b.2 = false → s.obj.sweeppos = pos) ∧ (b'.2 = false → b.2 = false)

/-- **A running scan under any schedule.** -/
theorem Running.follows {out inn speed : ℤ} {n : ℕ} {s : SweepCtx F}
    (h : Running out inn speed n s) (hne : out ≠ inn) (hv : uint8 speed ≠ 255)
    (hrail : ∀ k, 1 ≤ goal out inn k ∧ goal out inn k ≤ 4000) (pos : ℤ) (slots : List Slot) :
    Simulated scheduled (Follows out inn pos) s (n, true) slots := by
  refine run_simulates (R := fun s b => b.2 = true ∧ Running out inn speed b.1 s) ?_ slots ⟨rfl, h⟩
  rintro s slot ⟨n, _⟩ ⟨rfl, hs⟩
  cases slot with
  | tick =>
      obtain ⟨ht, hdir, hstep⟩ := hs.tick hrail
      exact ⟨_, (n, true), rfl, ⟨rfl, ht⟩, hstep, fun hd => absurd hdir hd, nofun, nofun⟩
  | pass =>
      obtain ⟨t, n', hpass, ht, hstep, hdir⟩ := hs.pass hne hv hrail
      refine ⟨t, (n', true), hpass, ⟨rfl, ht⟩, hstep, fun hd => Or.inr ?_, nofun, nofun⟩
      rw [hdir hd]
      exact goal_eq _ _ n

section

variable {jobin jobout speed : ℤ} {m : AntaresMsg} {s : SweepCtx F}

/-- A waiting start, once it is serviced. -/
theorem Waiting.follows_pass (h : Waiting m s) (hm : ScanStart jobin jobout speed m)
    (slots : List Slot) : Simulated scheduled (Follows (jobout * 40) (jobin * 40) s.obj.sweeppos)
      s (0, false) (.pass :: slots) := by
  obtain ⟨t, ht, hrun, hpos⟩ := h.pass hm
  refine .cons ht ⟨?_, fun _ => Or.inl rfl, fun _ => rfl, fun _ => rfl⟩
    (hrun.follows hm.limits_ne.symm hm.speed_ne hm.rail _ slots)
  rw [hpos]
  exact .stay _

/-- A waiting start under any schedule, if no older job is running. -/
theorem Waiting.follows (h : Waiting m s) (hm : ScanStart jobin jobout speed m)
    (hj : s.obj.sweepjobEnabled = false) (slots : List Slot) :
    Simulated scheduled (Follows (jobout * 40) (jobin * 40) s.obj.sweeppos) s (0, false) slots := by
  induction slots generalizing s with
  | nil => exact .nil s _
  | cons slot slots ih =>
      cases slot with
      | pass => exact h.follows_pass hm slots
      | tick =>
          obtain ⟨ht, hdir, hpos⟩ := h.tick hj
          have hrest := ih ht ((serviceBoard_ticked s).sameJob.sweepjobEnabled.trans hj)
          rw [hpos] at hrest
          refine .cons rfl ⟨?_, fun hd => absurd hdir hd, fun _ => rfl, fun _ => rfl⟩ hrest
          rw [hpos]
          exact .stay _

end

/-- Along the schedule the positions of the carriage are those of a shuttle whose legs end at `out`,
`inn`, `out`, …; and once it has made a step, the direction changes only at one of the two. -/
def Shuttles (out inn : ℤ) (s : SweepCtx F) (slots : List Slot) : Prop :=
  ∃ (ss : ℕ → SweepCtx F) (legs : ℕ → ℕ), ss 0 = s ∧ legs 0 = 0 ∧
    ∀ k (hk : k < slots.length), scheduled (ss k) slots[k] = .ok (ss (k + 1)) ∧
      Step out inn ⟨(ss k).obj.sweeppos, legs k⟩ ⟨(ss (k + 1)).obj.sweeppos, legs (k + 1)⟩ ∧
      ((ss (k + 1)).obj.outdir ≠ (ss k).obj.outdir →
        (ss k).obj.sweeppos = out ∨ (ss k).obj.sweeppos = inn ∨
          ∀ j ≤ k, (ss j).obj.sweeppos = s.obj.sweeppos)

/-- **A scan shuttles between its limits**, from rest, after a `SWEEP_SCAN` start and under every
schedule of ticks and passes, if no older job is running or the start is serviced before the next
tick, which would queue an event of that job. -/
theorem scan_shuttles {s : SweepCtx F} (hrest : Resting s.obj) (hq : s.obj.events = [])
    {m : AntaresMsg} {jobin jobout speed : ℤ} (hm : ScanStart jobin jobout speed m)
    {slots : List Slot}
    (hjob : s.obj.sweepjobEnabled = false ∨ slots.head? = some .pass) :
    Shuttles (jobout * 40) (jobin * 40) (post m s) slots := by
  have hw := post_waiting hrest hq m
  have hsim : Simulated scheduled (Follows (jobout * 40) (jobin * 40) s.obj.sweeppos)
      (post m s) (0, false) slots := by
    rcases hjob with hj | hhead
    · exact hw.follows hm hj slots
    · obtain ⟨rest, rfl⟩ := List.head?_eq_some_iff.mp hhead
      exact hw.follows_pass hm rest
  obtain ⟨ss, bs, hs0, hb0, hk⟩ := hsim
  refine ⟨ss, fun k => (bs k).1, hs0, congrArg Prod.fst hb0, fun k hlt => ?_⟩
  obtain ⟨hstep, hshuttle, hdir, -, -⟩ := hk k hlt
  refine ⟨hstep, hshuttle, fun hd => ?_⟩
  rcases hdir hd with hwait | hout | hin
  · -- the start has not been serviced yet, so the carriage is where it was at first
    refine Or.inr (Or.inr fun j hj => ?_)
    have hback : ∀ d ≤ k, (bs (k - d)).2 = false := by
      intro d
      induction d with
      | zero => exact fun _ => hwait
      | succ d ih =>
          intro hd
          have heq : k - d = k - (d + 1) + 1 := by omega
          have hprev := (hk (k - (d + 1)) (by omega)).2.2.2.2
          rw [← heq] at hprev
          exact hprev (ih (by omega))
    have hj' := hback (k - j) (by omega)
    rw [Nat.sub_sub_self hj] at hj'
    exact (hk j (by omega)).2.2.2.1 hj'
  · exact Or.inl hout
  · exact Or.inr (Or.inl hin)

/-- The driver at rest in the middle of the rail, enabled. -/
def atRest : SweepCtx ℚ where
  obj := { blank with
    sweepmap := fun _ => 255, sweepmapptr := 2000, sweeppos := 2000, pulse := true, enable := true }
  world := .blank

/-- `SWEEP_SCAN "75 25 4"`: between the positions 3000 and 1000. -/
def scan75 : AntaresMsg := .compose Comands.sweepScan.code 1 2 "75 25 4"

lemma scanStart_scan75 : ScanStart 75 25 4 scan75 :=
  ⟨by decide, by decide, by decide, by decide, by decide, by decide, by decide⟩

/-- At rest one step above the middle. -/
def nearMiddle : SweepCtx ℚ := { atRest with obj.sweepmapptr := 1999, obj.sweeppos := 2001 }

/-- `SWEEP_SCAN "51 50 0"`: between the positions 2000 and 2040. -/
def scan51 : AntaresMsg := .compose Comands.sweepScan.code 1 2 "51 50 0"

/-- A tick before the start is serviced, the step to 2000, a tick at rest there, and after the job
event it queued the first step back. -/
def roundTrip : List Slot := [.tick, .pass, .tick, .tick, .tick, .pass, .tick, .tick]

theorem scan_shuttles_scan51 :
    Shuttles 2000 2040 (post scan51 nearMiddle) roundTrip ∧
      (run scheduled (post scan51 nearMiddle) (roundTrip.take 5)).map
        (fun t => (t.obj.sweeppos, t.obj.outdir)) = .ok (2000, true) ∧
      (run scheduled (post scan51 nearMiddle) roundTrip).map
        (fun t => (t.obj.sweeppos, t.obj.outdir)) = .ok (2001, false) := by
  have hrest : Resting nearMiddle.obj :=
    ⟨fun _ _ _ => rfl, rfl, rfl, by decide, by decide, by decide, rfl⟩
  have hscan : ScanStart 51 50 0 scan51 :=
    ⟨by decide, by decide, by decide, by decide, by decide, by decide, by decide⟩
  exact ⟨scan_shuttles hrest rfl hscan (Or.inl rfl), rfl, rfl⟩

/-! ## With an older job -/

/-- A carriage that shuttles comes no further away from `out` until it has been there. -/
lemma Shuttles.first_leg {out inn : ℤ} {s t : SweepCtx F} {slots : List Slot}
    (h : Shuttles out inn s slots) (hout : AllSteps scheduled (fun u _ => u.obj.sweeppos ≠ out) s slots)
    (ht : run scheduled s slots = .ok t) :
    (t.obj.sweeppos - out).natAbs ≤ (s.obj.sweeppos - out).natAbs := by
  obtain ⟨ss, legs, rfl, h0, hk⟩ := h
  have hstep : ∀ k (hlt : k < slots.length), scheduled (ss k) slots[k] = .ok (ss (k + 1)) ∧
      Step out inn ⟨(ss k).obj.sweeppos, legs k⟩ ⟨(ss (k + 1)).obj.sweeppos, legs (k + 1)⟩ :=
    fun k hlt => ⟨(hk k hlt).1, (hk k hlt).2.1⟩
  clear hk
  induction slots generalizing ss legs with
  | nil =>
      cases ht
      exact le_rfl
  | cons slot slots ih =>
      have hs : scheduled (ss 0) slot = .ok (ss 1) := (hstep 0 (by simp)).1
      obtain ⟨hleg0, hle⟩ := (hstep 0 (by simp)).2.first_leg h0 hout.1
      rw [run_cons_of_ok hs] at ht
      have hrest := ih (fun k => ss (k + 1)) (fun k => legs (k + 1)) (hout.2 _ hs) ht hleg0
        fun k hlt => hstep (k + 1) (by simpa using hlt)
      exact hrest.trans hle

/-- After the start of the driver `SWEEP_ENABLE` and `SWEEP_SCAN "50 50 0"`: a job that is running
and has nothing to do, as both its limits are where the carriage stands. -/
def olderJob : List Label :=
  [.turn, .post (.compose Comands.sweepEnable.code 1 2 ""), .turn,
    .post (.compose Comands.sweepScan.code 1 2 "50 50 0"), .turn, .turn]

/-- `SWEEP_SCAN "51 49 0"`: between the positions 1960 and 2040. -/
def scan5149 : AntaresMsg := .compose Comands.sweepScan.code 1 2 "51 49 0"

/-- **The skipped leg.**  The tick before the pass queues an event of the older job behind the
message.  So one pass services two job events, the second plans the leg to 2040 from where the first
planned the leg to 1960, and the carriage goes to 2040 and never to 1960. -/
theorem older_job_skips_leg : ∃ s, run step (boot blank .blank) olderJob = .ok s ∧
    Resting s.obj ∧ s.obj.events = [] ∧ ScanStart 51 49 0 scan5149 ∧
    ¬ Shuttles 1960 2040 (post scan5149 s) ([.tick, .pass] ++ List.replicate 80 .tick) ∧
    ∃ t, run scheduled (post scan5149 s) ([.tick, .pass] ++ List.replicate 80 .tick) = .ok t ∧
      t.obj.sweeppos = 2040 := by
  refine ⟨_, rfl, ?_, rfl, ?_, fun h => ?_, ?_⟩
  · exact ⟨fun i hlo hhi => if_pos ⟨hlo, by omega⟩, rfl, rfl, by decide, by decide, rfl, rfl⟩
  · exact ⟨by decide, by decide, by decide, by decide, by decide, by decide, by decide⟩
  · have hfar := h.first_leg (by decide +kernel) rfl
    exact absurd hfar (by decide +kernel)
  · refine ⟨_, rfl, ?_⟩
    decide +kernel

end Lgt8.Sweep

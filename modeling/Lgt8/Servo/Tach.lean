import Mathlib.Tactic
import Lgt8.Servo.Tick

/-!
# The tachometer's ring

Each tachometer interrupt stores the ticks since the last one in a ring of five cells, which an
update adds up and clears.  The ring index is advanced in the comparison that is to wrap it, so that
it runs to 5, and behind the five cells lies the index itself.

* `Pulses` — an observer who counts the ticks and keeps the intervals since the last update.
* `Ring`, `Ring.tick`, `Ring.tach` — the ring after `k` pulses, as long as `k` is at most 4.
* **`tach_ring_iff`** — the ring does what it is meant to exactly as long as there are no more than
  four pulses; `fifth_pulse` is the one that overwrites the index.
-/

namespace Lgt8.Servo

open Library

variable {F : Type}

inductive Interrupt
  | tick
  | tach
  deriving DecidableEq

/-- What the pulses since the last update should have left: the ticks since the last pulse, and the
intervals, latest first. -/
structure Pulses where
  elapsed : ℕ
  recent : List UInt32

/-- The interval a pulse is recorded with. -/
def interval (elapsed : ℕ) : UInt32 :=
  if elapsed % 4294967296 ≤ 2000 then UInt32.ofNat elapsed else 0

/-- The ring index once the next pulse has advanced it. -/
def nextPtr (s : ServoCtx F) : UInt8 :=
  if 4 < s.obj.tachbufferptr then 0 else s.obj.tachbufferptr + 1

/-- The cell the next pulse is stored at. -/
def tachIndex (s : ServoCtx F) : ℕ := (nextPtr s).toNat

/-- What the next pulse stores. -/
def stored (s : ServoCtx F) : UInt32 :=
  if 2000 < s.world.bspcounter - s.obj.lastTach then 0 else s.world.bspcounter - s.obj.lastTach

/-- The object up to the store. -/
def timed (s : ServoCtx F) : ServoCtx F :=
  { s with
    obj.thisTach := stored s
    obj.lastTach := s.world.bspcounter
    obj.tachbufferptr := nextPtr s
    obj.tachTheta := (if 160 < s.obj.tachTheta then 0 else s.obj.tachTheta) + 1 }

lemma tachTick_eq (s : ServoCtx F) : tachTick s =
    if h : tachIndex s < 5 then
      { timed s with obj.tachbuffer := s.obj.tachbuffer.set (tachIndex s) (stored s) h }
    else { timed s with obj.tachbufferptr := (stored s).toUInt8 } := rfl

lemma tachTick_tachbuffer (s : ServoCtx F) : (tachTick s).obj.tachbuffer
    = if h : tachIndex s < 5 then s.obj.tachbuffer.set (tachIndex s) (stored s) h
      else s.obj.tachbuffer := by
  rw [tachTick_eq]
  split <;> rfl

lemma tachTick_tachbufferptr (s : ServoCtx F) : (tachTick s).obj.tachbufferptr
    = if tachIndex s < 5 then nextPtr s else (stored s).toUInt8 := by
  rw [tachTick_eq]
  split <;> rfl

/-- A pulse is timed from the one before it, and leaves the rest alone. -/
lemma tachTick_kept (s : ServoCtx F) :
    (tachTick s).obj.lastTach = s.world.bspcounter ∧ (tachTick s).world = s.world ∧
      (tachTick s).obj.updatetachFlag = s.obj.updatetachFlag ∧
      (tachTick s).obj.servoSetpoint = s.obj.servoSetpoint ∧
      (tachTick s).obj.speed = s.obj.speed := by
  rw [tachTick_eq]
  split <;> exact ⟨rfl, rfl, rfl, rfl, rfl⟩

/-- The ring holds the most recent five intervals, and zeroes where there are not as many. -/
def Keeps (s : ServoCtx F) (b : Pulses) : Prop :=
  s.obj.tachbuffer.toList.Perm (b.recent.take 5 ++ List.replicate (5 - b.recent.length) 0)

/-- Storing over a zero. -/
lemma perm_set {l r : List UInt32} {n i : ℕ} (hi : i < l.length) (h0 : l[i] = 0)
    (h : l.Perm (r ++ List.replicate (n + 1) 0)) (v : UInt32) :
    (l.set i v).Perm (v :: r ++ List.replicate n 0) := by
  have herase : (l.eraseIdx i).Perm (r ++ List.replicate n 0) := by
    have h1 := (List.getElem_cons_eraseIdx_perm hi).trans h
    rw [h0, List.replicate_succ] at h1
    exact (h1.trans List.perm_middle).cons_inv
  exact (List.set_perm_cons_eraseIdx hi v).trans (herase.cons v)

/-- The ring after `k` pulses. -/
structure Ring (k : ℕ) (s : ServoCtx F) (b : Pulses) : Prop where
  index : s.obj.tachbufferptr.toNat = k
  elapsed : s.world.bspcounter - s.obj.lastTach = UInt32.ofNat b.elapsed
  length_le : b.recent.length ≤ k
  cells : s.obj.tachbuffer.toList.Perm (b.recent ++ List.replicate (5 - b.recent.length) 0)
  ahead : ∀ i (hi : i < 5), k < i → s.obj.tachbuffer[i] = 0

namespace Ring

variable {k : ℕ} {s : ServoCtx F} {b : Pulses}

lemma keeps (h : Ring k s b) (hk : k ≤ 4) : Keeps s b := by
  have hlen := h.length_le
  rw [Keeps, List.take_of_length_le (by omega)]
  exact h.cells

lemma tachIndex_eq (h : Ring k s b) (hk : k ≤ 4) : tachIndex s = k + 1 := by
  have hp := h.index
  have hnot : ¬ 4 < s.obj.tachbufferptr := by
    rw [UInt8.lt_iff_toNat_lt, hp]
    exact not_lt.mpr hk
  rw [tachIndex, nextPtr, if_neg hnot, UInt8.toNat_add, hp]
  exact Nat.mod_eq_of_lt (by simp; omega)

lemma clear [DoubleOps F] (s : ServoCtx F) : Ring 0 (clearTachBuffer s) ⟨0, []⟩ where
  index := rfl
  elapsed := by
    show s.world.bspcounter - s.world.bspcounter = UInt32.ofNat 0
    rw [UInt32.sub_self]
    rfl
  length_le := le_rfl
  cells := .refl _
  ahead i hi _ := Vector.getElem_replicate hi

/-- The interval a pulse is stored with. -/
lemma stored_eq (h : Ring k s b) : stored s = interval b.elapsed := by
  rw [stored, h.elapsed, interval]
  have hlt : (2000 : UInt32) < UInt32.ofNat b.elapsed ↔ ¬ b.elapsed % 4294967296 ≤ 2000 := by
    rw [UInt32.lt_iff_toNat_lt, UInt32.toNat_ofNat', not_le]
    rfl
  rw [if_congr hlt rfl rfl, ite_not]

/-- **A pulse** among the first four. -/
theorem tach (h : Ring k s b) (hk : k < 4) :
    Ring (k + 1) (tachTick s) ⟨0, interval b.elapsed :: b.recent⟩ := by
  have hidx := h.tachIndex_eq hk.le
  have hlen := h.length_le
  have hlt : tachIndex s < 5 := by omega
  obtain ⟨hlast, hworld, -⟩ := tachTick_kept s
  have hbuf : (tachTick s).obj.tachbuffer
      = s.obj.tachbuffer.set (k + 1) (interval b.elapsed) (by omega) := by
    rw [tachTick_tachbuffer, dif_pos hlt, h.stored_eq]
    simp only [hidx]
  exact {
    index := by
      rw [tachTick_tachbufferptr, if_pos hlt]
      exact hidx
    elapsed := by
      rw [hlast, hworld, UInt32.sub_self]
      rfl
    length_le := Nat.succ_le_succ hlen
    cells := by
      have hsub : 5 - (b.recent.length + 1) + 1 = 5 - b.recent.length := by omega
      rw [hbuf, Vector.toList_set]
      refine perm_set (by simp; omega) ?_ (hsub ▸ h.cells) _
      exact h.ahead (k + 1) (by omega) (Nat.lt_succ_self k)
    ahead := fun i hi hki => by
      simp only [hbuf]
      rw [Vector.getElem_set_ne _ _ (by omega)]
      exact h.ahead i hi (by omega) }

variable [DoubleOps F]

/-- **A tick.** -/
theorem tick (h : Ring k s b) :
    Ring k (pitTick s) ⟨b.elapsed + 1, if Due s then [] else b.recent⟩ := by
  obtain ⟨-, hptr, hlast, hcount⟩ := serviceBoard_kept s
  have hbuf : (pitTick s).obj.tachbuffer
      = if Due s then Vector.replicate 5 0 else s.obj.tachbuffer := serviceBoard_tachbuffer s
  have helapsed : (pitTick s).world.bspcounter - (pitTick s).obj.lastTach
      = UInt32.ofNat (b.elapsed + 1) := by
    show (serviceBoard s).world.bspcounter + 1 - (serviceBoard s).obj.lastTach = _
    have hone : UInt32.ofNat 1 = 1 := rfl
    rw [hcount, hlast, UInt32.ofNat_add, ← h.elapsed, hone,
      UInt32.sub_eq_add_neg, UInt32.sub_eq_add_neg, UInt32.add_assoc, UInt32.add_comm 1,
      ← UInt32.add_assoc]
  by_cases hdue : Due s
  · rw [if_pos hdue] at hbuf ⊢
    refine ⟨hptr ▸ h.index, helapsed, Nat.zero_le k, ?_, fun i hi _ => ?_⟩
    · rw [hbuf]
      exact .refl _
    · simp only [hbuf]
      exact Vector.getElem_replicate hi
  · rw [if_neg hdue] at hbuf ⊢
    refine ⟨hptr ▸ h.index, helapsed, h.length_le, ?_, fun i hi hki => ?_⟩
    · rw [hbuf]
      exact h.cells
    · simp only [hbuf]
      exact h.ahead i hi hki

end Ring

/-! ## Any number of pulses -/

section

variable [DoubleOps F]

def interrupt (s : ServoCtx F) : Interrupt → Except Fault (ServoCtx F)
  | .tick => .ok (pitTick s)
  | .tach => .ok (tachTick s)

/-- The observer of the pulses. -/
def record (s : ServoCtx F) : Interrupt → Pulses → Pulses
  | .tick, b => ⟨b.elapsed + 1, if Due s then [] else b.recent⟩
  | .tach, b => ⟨0, interval b.elapsed :: b.recent⟩

/-- Every pulse is stored in the ring, and the ring holds what it should all along. -/
def InOrder (s : ServoCtx F) (b : Pulses) (is : List Interrupt) : Prop :=
  AllSteps interrupt (fun s i => i = .tach → tachIndex s < 5) s is ∧
    AllStates (observed interrupt record) (fun p => Keeps p.1 p.2) (s, b) is

lemma inOrder_cons {s : ServoCtx F} {b : Pulses} {i : Interrupt} {is : List Interrupt}
    {t : ServoCtx F} (ht : interrupt s i = .ok t) : InOrder s b (i :: is) ↔
      (i = .tach → tachIndex s < 5) ∧ Keeps s b ∧ InOrder t (record s i b) is := by
  constructor
  · rintro ⟨⟨hidx, hsteps⟩, hkeeps, hstates⟩
    exact ⟨hidx, hkeeps, hsteps t ht, hstates _ (observed_ok.mpr ⟨ht, rfl⟩)⟩
  · rintro ⟨hidx, hkeeps, hsteps, hstates⟩
    refine ⟨⟨hidx, fun u hu => ?_⟩, hkeeps, fun q hq => ?_⟩
    · rw [ht] at hu
      cases hu
      exact hsteps
    · obtain ⟨hq1, hq2⟩ := observed_ok.mp hq
      rw [ht] at hq1
      obtain ⟨q1, q2⟩ := q
      cases hq1
      cases hq2
      exact hstates

/-- From a ring with `k` pulses behind it. -/
lemma Ring.inOrder_iff {k : ℕ} {s : ServoCtx F} {b : Pulses} (h : Ring k s b) (hk : k ≤ 4)
    (is : List Interrupt) : InOrder s b is ↔ k + is.count .tach ≤ 4 := by
  induction is generalizing k s b with
  | nil => exact ⟨fun _ => hk, fun _ => ⟨trivial, h.keeps hk⟩⟩
  | cons i is ih =>
      cases i with
      | tick =>
          rw [inOrder_cons (t := pitTick s) rfl, and_iff_right nofun, and_iff_right (h.keeps hk),
            record, ih h.tick hk, List.count_cons_of_ne (by decide)]
      | tach =>
          rw [inOrder_cons (t := tachTick s) rfl, List.count_cons_self, h.tachIndex_eq hk]
          rcases Nat.lt_or_eq_of_le hk with hlt | rfl
          · rw [and_iff_right fun _ => by omega, and_iff_right (h.keeps hk), record,
              ih (h.tach hlt) hlt]
            omega
          · exact ⟨fun hn => absurd (hn.1 rfl) (by omega), fun hn => absurd hn (by omega)⟩

/-- **When the ring is in order**, from `clearTachBuffer` on, over any ticks and pulses: as long as
there are at most four pulses. -/
theorem tach_ring_iff (s : ServoCtx F) (is : List Interrupt) :
    InOrder (clearTachBuffer s) ⟨0, []⟩ is ↔ is.count .tach ≤ 4 := by
  rw [(Ring.clear s).inOrder_iff (Nat.zero_le 4), Nat.zero_add]

end

/-- **The fifth pulse** is stored over the ring index, and is not in the ring. -/
theorem fifth_pulse :
    let s := tachTick (tachTick (tachTick (tachTick
      (clearTachBuffer (⟨blank, World.blank⟩ : ServoCtx ℚ)))))
    tachIndex s = 5 ∧ ¬ InOrder (clearTachBuffer (⟨blank, World.blank⟩ : ServoCtx ℚ)) ⟨0, []⟩
      [.tach, .tach, .tach, .tach, .tach] := by
  refine ⟨rfl, fun h => ?_⟩
  have h4 := ((Ring.clear _).inOrder_iff (Nat.zero_le 4) _).mp h
  exact absurd h4 (by decide)

end Lgt8.Servo

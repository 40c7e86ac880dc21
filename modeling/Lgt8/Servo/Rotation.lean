import Mathlib.Tactic
import Lgt8.Servo.Preemption

/-!
# Is the speed of a steady rotation right?

An update computes the speed from the sum of five tachometer cells, so it is right if the window of
2002 ticks before it has filled all five with the interval `T`.  Of six pulses in a row the ring
stores five, and over the ring index it stores the sixth, from which the index goes on.

* `pulse`, `pulses_round`, `pulses_cell` — the ring as a counter modulo six, where the interval does
  not lead it astray; `pulses_astray` — where it does.
* `spin`, `Turning`, `InWindow`, **`InWindow.run`** — a tick, a pulse every `T` of them, and what a
  window leaves in the ring.
* `fills_interval` — a plate whose windows are all filled turns fast enough.
* **`steady_speed_iff`** — every speed is right exactly for the intervals up to 333 that do not lead
  the index astray; `slow_rotation_wrong` is one at which it is not.
-/

namespace Lgt8.Servo

open Library DoubleOps

/-! ## The ring under pulses of one interval -/

/-- The ring: its index and its cells. -/
abbrev TachRing := UInt8 × Vector UInt32 5

def ring (s : ServoCtx ℚ) : TachRing := (s.obj.tachbufferptr, s.obj.tachbuffer)

/-- The index the next pulse advances to. -/
def nextIndex (r : TachRing) : UInt8 := if 4 < r.1 then 0 else r.1 + 1

/-- A pulse that stores `v`. -/
def pulse (v : UInt32) (r : TachRing) : TachRing :=
  if h : (nextIndex r).toNat < 5 then (nextIndex r, r.2.set (nextIndex r).toNat v h)
  else (v.toUInt8, r.2)

lemma ring_tachTick (s : ServoCtx ℚ) : ring (tachTick s) = pulse (stored s) (ring s) := by
  rw [ring, tachTick_tachbuffer, tachTick_tachbufferptr, pulse]
  by_cases h : tachIndex s < 5
  · have h' : (nextIndex (ring s)).toNat < 5 := h
    rw [if_pos h, dif_pos h, dif_pos h']
    rfl
  · have h' : ¬ (nextIndex (ring s)).toNat < 5 := h
    rw [if_neg h, dif_neg h, dif_neg h']
    rfl

/-- Where the ring stands in its round of six: at 5 the next pulse is stored in cell 0. -/
def roundOf (r : TachRing) : ℕ := if 4 < r.1 then 5 else r.1.toNat

lemma roundOf_lt (r : TachRing) : roundOf r < 6 := by
  rw [roundOf]
  split
  · decide
  · next h =>
      rw [UInt8.lt_iff_toNat_lt] at h
      have : ¬ 4 < r.1.toNat := h
      omega

lemma nextIndex_toNat (r : TachRing) : (nextIndex r).toNat = (roundOf r + 1) % 6 := by
  rw [nextIndex, roundOf]
  split
  · rfl
  · next h =>
      rw [UInt8.lt_iff_toNat_lt] at h
      have hle : r.1.toNat ≤ 4 := not_lt.mp h
      have hone : (1 : UInt8).toNat = 1 := rfl
      rw [UInt8.toNat_add, hone]
      omega

section

variable {v : UInt32}

/-- **A pulse is one step of the round**, if its interval leads the index back to cell 0. -/
lemma pulse_round (hv : 4 < v.toUInt8) (r : TachRing) :
    roundOf (pulse v r) = (roundOf r + 1) % 6 := by
  have hnext := nextIndex_toNat r
  rw [pulse]
  split
  · next h =>
      have hnot : ¬ 4 < nextIndex r := fun h4 => by
        have : 4 < (nextIndex r).toNat := UInt8.lt_iff_toNat_lt.mp h4
        omega
      rw [roundOf, if_neg hnot, hnext]
  · next h =>
      rw [roundOf, if_pos hv]
      omega

/-- **What a pulse stores.** -/
lemma pulse_cell (r : TachRing) {i : ℕ} (hi : i < 5) :
    (pulse v r).2[i] = if (roundOf r + 1) % 6 = i then v else r.2[i] := by
  have hnext := nextIndex_toNat r
  rw [pulse]
  split
  · next h =>
      rw [Vector.getElem_set]
      exact if_congr (by rw [hnext]) rfl rfl
  · next h =>
      rw [if_neg (by omega)]

/-- After `P` pulses. -/
lemma pulses_round (hv : 4 < v.toUInt8) (P : ℕ) (r : TachRing) :
    roundOf ((pulse v)^[P] r) = (roundOf r + P) % 6 := by
  induction P with
  | zero => exact (Nat.mod_eq_of_lt (roundOf_lt r)).symm
  | succ P ih =>
      rw [Function.iterate_succ_apply', pulse_round hv, ih]
      omega

lemma pulses_cell (hv : 4 < v.toUInt8) (P : ℕ) (r : TachRing) {i : ℕ} (hi : i < 5) :
    ((pulse v)^[P] r).2[i] = if ∃ j < P, (roundOf r + j + 1) % 6 = i then v else r.2[i] := by
  induction P with
  | zero =>
      rw [if_neg]
      · rfl
      · rintro ⟨j, h0, -⟩
        omega
  | succ P ih =>
      simp only [Function.iterate_succ_apply']
      rw [pulse_cell _ hi, pulses_round hv, ih]
      by_cases hlast : (roundOf r + P + 1) % 6 = i
      · rw [if_pos (by omega), if_pos ⟨P, by omega, hlast⟩]
      · rw [if_neg (by omega)]
        refine if_congr ⟨?_, ?_⟩ rfl rfl
        · rintro ⟨j, hlt, hj⟩
          exact ⟨j, by omega, hj⟩
        · rintro ⟨j, hlt, hj⟩
          rcases Nat.eq_or_lt_of_le (Nat.le_of_lt_succ hlt) with rfl | hlt
          · exact absurd hj hlast
          · exact ⟨j, hlt, hj⟩

/-- All five cells are stored in a row of `P` pulses. -/
lemma filled_iff {q P : ℕ} (hq : q < 6) :
    (∀ i, i < 5 → ∃ j < P, (q + j + 1) % 6 = i) ↔ 6 ≤ P ∨ (P = 5 ∧ q = 5) := by
  constructor
  · intro h
    by_contra hn
    by_cases h5 : q = 5
    · obtain ⟨j, hlt, hj⟩ := h 4 (by decide)
      omega
    · obtain ⟨j, hlt, hj⟩ := h q (by omega)
      omega
  · intro h i hi
    by_cases hlt : q < i
    · exact ⟨i - q - 1, by omega, by omega⟩
    · exact ⟨i + 5 - q, by omega, by omega⟩

/-- Where the interval leads the index astray, it never comes back to cell 0. -/
lemma pulse_astray (hv : ¬ 4 < v.toUInt8) (r : TachRing) : ¬ 4 < (pulse v r).1 := by
  rw [pulse]
  split
  · next h =>
      intro h4
      have : 4 < (nextIndex r).toNat := UInt8.lt_iff_toNat_lt.mp h4
      omega
  · exact hv

lemma pulses_astray (hv : ¬ 4 < v.toUInt8) (P : ℕ) {r : TachRing} (hr : ¬ 4 < r.1) :
    ¬ 4 < ((pulse v)^[P] r).1 ∧ ((pulse v)^[P] r).2[0] = r.2[0] := by
  induction P with
  | zero => exact ⟨hr, rfl⟩
  | succ P ih =>
      simp only [Function.iterate_succ_apply']
      refine ⟨pulse_astray hv _, ?_⟩
      have hround : roundOf ((pulse v)^[P] r) = ((pulse v)^[P] r).1.toNat := if_neg ih.1
      have hlow : ¬ 4 < ((pulse v)^[P] r).1.toNat := fun h => ih.1 (UInt8.lt_iff_toNat_lt.mpr h)
      rw [pulse_cell _ (by decide), hround, if_neg (by omega), ih.2]

/-- Either way a cell holds the interval or what it held. -/
lemma pulses_cell_or (P : ℕ) (r : TachRing) {i : ℕ} (hi : i < 5) :
    ((pulse v)^[P] r).2[i] = v ∨ ((pulse v)^[P] r).2[i] = r.2[i] := by
  induction P with
  | zero => exact Or.inr rfl
  | succ P ih =>
      simp only [Function.iterate_succ_apply']
      rw [pulse_cell _ hi]
      split
      · exact Or.inl rfl
      · exact ih

end

/-! ## A steady rotation -/

/-- A tick, and a pulse if none of the ticks before it are left. -/
def spin (T : ℕ) (p : ServoCtx ℚ × ℕ) : ServoCtx ℚ × ℕ :=
  if p.2 = 0 then (tachTick (pitTick p.1), T - 1) else (pitTick p.1, p.2 - 1)

/-- The ticks since the last pulse. -/
def sinceTach (s : ServoCtx ℚ) : UInt32 := s.world.bspcounter - s.obj.lastTach

/-- The ring once an update has cleared it. -/
def swept (s : ServoCtx ℚ) : TachRing := (s.obj.tachbufferptr, Vector.replicate 5 0)

lemma pitTick_ring (s : ServoCtx ℚ) :
    ring (pitTick s) = if Due s then swept s else ring s := by
  have hbuf : (pitTick s).obj.tachbuffer
      = if Due s then Vector.replicate 5 0 else s.obj.tachbuffer := serviceBoard_tachbuffer s
  have hptr : (pitTick s).obj.tachbufferptr = s.obj.tachbufferptr := (serviceBoard_kept s).2.1
  rw [ring, hbuf, hptr]
  split <;> rfl

lemma sinceTach_pitTick (s : ServoCtx ℚ) : sinceTach (pitTick s) = sinceTach s + 1 := by
  obtain ⟨-, -, hlast, hcounter⟩ := serviceBoard_kept s
  show (serviceBoard s).world.bspcounter + 1 - (serviceBoard s).obj.lastTach = _
  rw [hlast, hcounter, sinceTach, UInt32.sub_eq_add_neg, UInt32.sub_eq_add_neg, UInt32.add_assoc,
    UInt32.add_comm 1, UInt32.add_assoc]

section

variable {T : ℕ} {p : ServoCtx ℚ × ℕ}

lemma spin_flag (T : ℕ) (p : ServoCtx ℚ × ℕ) : (spin T p).1.obj.updatetachFlag.toNat
    = if Due p.1 then 0 else p.1.obj.updatetachFlag.toNat + 1 := by
  rw [spin]
  split
  · exact (congrArg _ (tachTick_kept _).2.2.1).trans (pitTick_flag p.1)
  · exact pitTick_flag p.1

lemma spin_setpoint (T : ℕ) (p : ServoCtx ℚ × ℕ) :
    (spin T p).1.obj.servoSetpoint = p.1.obj.servoSetpoint := by
  have hkept : (pitTick p.1).obj.servoSetpoint = p.1.obj.servoSetpoint := (serviceBoard_kept p.1).1
  rw [spin]
  split
  · exact (tachTick_kept _).2.2.2.1.trans hkept
  · exact hkept

/-- A pulse has come, and they have been `T` ticks apart since. -/
structure Turning (T : ℕ) (p : ServoCtx ℚ × ℕ) : Prop where
  left_lt : p.2 < T
  since : sinceTach p.1 = UInt32.ofNat (T - 1 - p.2)

lemma Turning.tick (h : Turning T p) :
    sinceTach (pitTick p.1) = UInt32.ofNat (T - p.2) := by
  have hlt := h.left_lt
  rw [sinceTach_pitTick, h.since]
  show _ + UInt32.ofNat 1 = _
  rw [← UInt32.ofNat_add]
  congr 1
  omega

lemma Turning.next (h : Turning T p) : Turning T (spin T p) := by
  have hlt := h.left_lt
  rw [spin]
  split
  · refine ⟨Nat.sub_one_lt (by omega), ?_⟩
    obtain ⟨hlast, hworld, -⟩ := tachTick_kept (pitTick p.1)
    rw [sinceTach, hlast, hworld, UInt32.sub_self, Nat.sub_self]
    rfl
  · refine ⟨by dsimp only; omega, ?_⟩
    rw [h.tick]
    congr 1
    dsimp only
    omega

/-- What is stored is the interval. -/
lemma Turning.ring_spin (hT : T ≤ 2000) (h : Turning T p) : ring (spin T p).1
    = if p.2 = 0 then pulse (UInt32.ofNat T) (ring (pitTick p.1)) else ring (pitTick p.1) := by
  rw [spin]
  split
  · next h0 =>
      have hsince := h.tick
      rw [h0, Nat.sub_zero, sinceTach] at hsince
      have hlong : ¬ 2000 < UInt32.ofNat T := by
        rw [UInt32.lt_iff_toNat_lt, UInt32.toNat_ofNat', Nat.mod_eq_of_lt (by omega)]
        exact not_lt.mpr hT
      rw [ring_tachTick, stored, hsince, if_neg hlong]
  · rfl

/-- The first pulse ends whatever was before. -/
lemma turning_first (hT : 1 ≤ T) :
    ∀ (d : ℕ) (s : ServoCtx ℚ), Turning T ((spin T)^[d + 1] (s, d))
  | 0, s => by
      obtain ⟨hlast, hworld, -⟩ := tachTick_kept (pitTick s)
      refine ⟨Nat.sub_one_lt (by omega), ?_⟩
      show sinceTach (tachTick (pitTick s)) = UInt32.ofNat (T - 1 - (T - 1))
      rw [sinceTach, hlast, hworld, UInt32.sub_self, Nat.sub_self]
      rfl
  | d + 1, s => turning_first hT d (pitTick s)

lemma Turning.iterate (h : Turning T p) (n : ℕ) : Turning T ((spin T)^[n] p) := by
  induction n with
  | zero => exact h
  | succ n ih =>
      rw [Function.iterate_succ_apply']
      exact ih.next

lemma turning_from (hT : 1 ≤ T) {d n : ℕ} (hn : d < n) (s : ServoCtx ℚ) :
    Turning T ((spin T)^[n] (s, d)) := by
  obtain ⟨m, rfl⟩ := Nat.exists_eq_add_of_le' hn
  rw [Function.iterate_add_apply]
  exact (turning_first hT d s).iterate m

/-! ## From one update to the next -/

lemma due_iff_lt (s : ServoCtx ℚ) : Due s ↔ 2000 < s.obj.updatetachFlag.toNat :=
  UInt32.lt_iff_toNat_lt

lemma flag_until (T : ℕ) (p : ServoCtx ℚ × ℕ) : ∀ {n : ℕ},
    p.1.obj.updatetachFlag.toNat + n ≤ 2001 →
    ((spin T)^[n] p).1.obj.updatetachFlag.toNat = p.1.obj.updatetachFlag.toNat + n
  | 0, _ => rfl
  | n + 1, hn => by
      have ih := flag_until T p (n := n) (by omega)
      have hdue : ¬ Due ((spin T)^[n] p).1 := by
        rw [due_iff_lt, ih]
        omega
      rw [Function.iterate_succ_apply', spin_flag, if_neg hdue, ih, Nat.add_assoc]

/-- The first update is at most 2001 ticks away. -/
lemma exists_due (T : ℕ) (p : ServoCtx ℚ × ℕ) : ∃ n ≤ 2001, Due ((spin T)^[n] p).1 := by
  by_cases hdue : Due p.1
  · exact ⟨0, Nat.zero_le _, hdue⟩
  · rw [due_iff_lt] at hdue
    refine ⟨2001 - p.1.obj.updatetachFlag.toNat, by omega, ?_⟩
    rw [due_iff_lt, flag_until T p (by omega)]
    omega

lemma flag_after (hdue : Due p.1) : ∀ n : ℕ,
    ((spin T)^[n + 1] p).1.obj.updatetachFlag.toNat = n % 2002
  | 0 => by
      rw [Function.iterate_succ_apply', spin_flag]
      exact if_pos hdue
  | n + 1 => by
      have ih := flag_after hdue n
      rw [Function.iterate_succ_apply', spin_flag]
      split
      · next hd =>
          rw [due_iff_lt, ih] at hd
          omega
      · next hd =>
          rw [due_iff_lt, ih] at hd
          omega

/-- **Updates are 2002 ticks apart.** -/
theorem due_after (hdue : Due p.1) (n : ℕ) : Due ((spin T)^[n] p).1 ↔ 2002 ∣ n := by
  cases n with
  | zero => exact iff_of_true hdue (dvd_zero 2002)
  | succ n =>
      rw [due_iff_lt, flag_after hdue]
      omega

/-- The state at the next update. -/
@[irreducible]
def lap (T : ℕ) (p : ServoCtx ℚ × ℕ) : ServoCtx ℚ × ℕ := (spin T)^[2002] p

lemma lap_eq (T : ℕ) (p : ServoCtx ℚ × ℕ) : lap T p = (spin T)^[2002] p := by
  delta lap
  rfl

lemma laps_eq (T j : ℕ) (p : ServoCtx ℚ × ℕ) : (lap T)^[j] p = (spin T)^[2002 * j] p := by
  rw [Function.iterate_mul, funext (lap_eq T)]

lemma Turning.lap (h : Turning T p) : Turning T (lap T p) := by
  rw [lap_eq]
  exact h.iterate 2002

lemma due_lap (hdue : Due p.1) : Due (lap T p).1 := by
  rw [lap_eq, due_after hdue]

/-- `n` ticks and `P` pulses after an update that cleared the ring `q` with `c` ticks left to the
next pulse. -/
structure InWindow (T c : ℕ) (q : TachRing) (n P : ℕ) (p : ServoCtx ℚ × ℕ) : Prop where
  turning : Turning T p
  flag : p.1.obj.updatetachFlag.toNat + 1 = n
  count : n + p.2 = c + P * T
  ring_eq : ring p.1 = (pulse (UInt32.ofNat T))^[P] q

/-- A tick of the window, from where the ring has been cleared or not. -/
lemma Turning.inWindow (hT : T ≤ 2000) (h : Turning T p) {c n P : ℕ} {q : TachRing}
    (hflag : (spin T p).1.obj.updatetachFlag.toNat = n) (hcount : n + p.2 = c + P * T)
    (hring : ring (pitTick p.1) = (pulse (UInt32.ofNat T))^[P] q) :
    ∃ P', InWindow T c q (n + 1) P' (spin T p) := by
  have hlt := h.left_lt
  have hspin := h.ring_spin hT
  by_cases h0 : p.2 = 0
  · rw [if_pos h0, hring] at hspin
    refine ⟨P + 1, h.next, by rw [hflag], ?_,
      hspin.trans (Function.iterate_succ_apply' (pulse _) P q).symm⟩
    rw [spin, if_pos h0, Nat.succ_mul]
    dsimp only
    omega
  · rw [if_neg h0, hring] at hspin
    refine ⟨P, h.next, by rw [hflag], ?_, hspin⟩
    rw [spin, if_neg h0]
    dsimp only
    omega

/-- **A window**, tick by tick. -/
theorem InWindow.run (hT : T ≤ 2000) (h : Turning T p) (hdue : Due p.1) : ∀ {n : ℕ}, n < 2002 →
    ∃ P, InWindow T p.2 (swept p.1) (n + 1) P ((spin T)^[n + 1] p)
  | 0, _ => by
      refine h.inWindow hT (P := 0) (flag_after hdue 0) (by omega) ?_
      rw [pitTick_ring, if_pos hdue]
      rfl
  | n + 1, hn => by
      obtain ⟨P, hP⟩ := InWindow.run hT h hdue (n := n) (by omega)
      have hnot : ¬ Due ((spin T)^[n + 1] p).1 := by
        rw [due_after hdue]
        omega
      rw [Function.iterate_succ_apply']
      refine hP.turning.inWindow hT ?_ hP.count ?_
      · have hflag := flag_after (T := T) hdue (n + 1)
        rwa [Nat.mod_eq_of_lt hn, Function.iterate_succ_apply'] at hflag
      · rw [pitTick_ring, if_neg hnot, hP.ring_eq]

/-- What is in the ring when the next update is due. -/
lemma window (hT : T ≤ 2000) (h : Turning T p) (hdue : Due p.1) :
    ∃ P, 2002 + (lap T p).2 = p.2 + P * T ∧
      ring (lap T p).1 = (pulse (UInt32.ofNat T))^[P] (swept p.1) := by
  obtain ⟨P, hP⟩ := InWindow.run hT h hdue (n := 2001) (by omega)
  rw [lap_eq]
  exact ⟨P, hP.count, hP.ring_eq⟩

/-- All five cells hold the interval. -/
def FilledWith (T : ℕ) (s : ServoCtx ℚ) : Prop :=
  ∀ i (hi : i < 5), s.obj.tachbuffer[i] = UInt32.ofNat T

/-- Each cell holds the interval or nothing. -/
def PartlyFilledWith (T : ℕ) (s : ServoCtx ℚ) : Prop :=
  ∀ i (hi : i < 5), s.obj.tachbuffer[i] = UInt32.ofNat T ∨ s.obj.tachbuffer[i] = 0

lemma swept_cell (s : ServoCtx ℚ) {i : ℕ} (hi : i < 5) : (swept s).2[i] = 0 :=
  Vector.getElem_replicate hi

lemma swept_index (s : ServoCtx ℚ) : (swept s).1 = (ring s).1 := rfl

/-- Cells, by the ring they are read from. -/
lemma cell_of_ring {s : ServoCtx ℚ} {r : TachRing} (h : ring s = r) {i : ℕ} (hi : i < 5) :
    s.obj.tachbuffer[i] = r.2[i] := by
  subst h
  rfl

lemma partlyFilledWith_window (hT : T ≤ 2000) (h : Turning T p) (hdue : Due p.1) :
    PartlyFilledWith T (lap T p).1 := by
  obtain ⟨P, -, hring⟩ := window hT h hdue
  intro i hi
  rw [cell_of_ring hring hi, ← swept_cell p.1 hi]
  exact pulses_cell_or P (swept p.1) hi

lemma ofNat_ne_zero (h1 : 1 ≤ T) (hT : T ≤ 2000) : UInt32.ofNat T ≠ 0 := fun h => by
  have hnat := congrArg UInt32.toNat h
  rw [UInt32.toNat_ofNat', Nat.mod_eq_of_lt (by omega)] at hnat
  exact absurd hnat (by show T ≠ 0; omega)

lemma ofNat_astray : 4 < (UInt32.ofNat T).toUInt8 ↔ 4 < T % 256 := by
  rw [UInt8.lt_iff_toNat_lt, UInt32.toNat_toUInt8, UInt32.toNat_ofNat']
  show 4 < T % 2 ^ 32 % 2 ^ 8 ↔ _
  rw [Nat.mod_mod_of_dvd _ (by norm_num)]

/-- **When a window fills the ring.** -/
lemma filledWith_iff (h1 : 1 ≤ T) (hT : T ≤ 2000) (hlow : 4 < T % 256) {s t : ServoCtx ℚ} {P : ℕ}
    (hring : ring t = (pulse (UInt32.ofNat T))^[P] (swept s)) :
    FilledWith T t ↔ 6 ≤ P ∨ (P = 5 ∧ roundOf (ring s) = 5) := by
  have hround : roundOf (swept s) = roundOf (ring s) := rfl
  rw [← filled_iff (roundOf_lt (ring s)), FilledWith]
  refine forall₂_congr fun i hi => ?_
  rw [cell_of_ring hring hi, pulses_cell (ofNat_astray.mpr hlow) P _ hi, swept_cell s hi, hround]
  split
  · next h => exact iff_of_true rfl h
  · next h => exact iff_of_false (ofNat_ne_zero h1 hT).symm h

/-! ## The speed -/

/-- The speed of a plate that turns once in `5 * T` ticks. -/
def steadySpeed (T : ℕ) : ℚ := 300000 / 32 / (5 * T)

/-- Adding up cells that hold the interval or nothing counts them. -/
lemma foldl_toNat (h1 : 1 ≤ T) (hT : T ≤ 2000) : ∀ {l : List UInt32} {acc : UInt32},
    (∀ x ∈ l, x = UInt32.ofNat T ∨ x = 0) → acc.toNat + T * l.length < 4294967296 →
    (l.foldl (· + ·) acc).toNat = acc.toNat + T * l.count (UInt32.ofNat T)
  | [], _, _, _ => rfl
  | x :: l, acc, hl, hlt => by
      have hrest : ∀ y ∈ l, y = UInt32.ofNat T ∨ y = 0 := fun y hy =>
        hl y (List.mem_cons_of_mem _ hy)
      rw [List.length_cons, Nat.mul_succ] at hlt
      rw [List.foldl_cons]
      rcases hl x List.mem_cons_self with rfl | rfl
      · have hadd : (acc + UInt32.ofNat T).toNat = acc.toNat + T := by
          rw [UInt32.toNat_add, UInt32.toNat_ofNat', Nat.mod_eq_of_lt (a := T) (by omega)]
          exact Nat.mod_eq_of_lt (by omega)
        rw [foldl_toNat h1 hT hrest (by omega), hadd, List.count_cons_self, Nat.mul_succ]
        omega
      · rw [UInt32.add_zero, foldl_toNat h1 hT hrest (by omega),
          List.count_cons_of_ne (ofNat_ne_zero h1 hT).symm]

lemma forall_cells (s : ServoCtx ℚ) (Q : UInt32 → Prop) :
    (∀ x ∈ s.obj.tachbuffer.toList, Q x) ↔ ∀ i (hi : i < 5), Q s.obj.tachbuffer[i] := by
  simp only [Vector.mem_toList_iff]
  exact Vector.forall_mem_iff_forall_getElem

/-- The cells add up to five intervals exactly if all of them hold one. -/
lemma cellSum_eq_iff (h1 : 1 ≤ T) (hT : T ≤ 2000) {s : ServoCtx ℚ} (h : PartlyFilledWith T s) :
    (cellSum s).toNat = 5 * T ↔ FilledWith T s := by
  have hlen : s.obj.tachbuffer.toList.length = 5 := s.obj.tachbuffer.length_toList
  have hlt : (0 : UInt32).toNat + T * s.obj.tachbuffer.toList.length < 4294967296 := by
    rw [hlen, UInt32.toNat_zero]
    omega
  have hsum := foldl_toNat h1 hT ((forall_cells s _).mpr h) hlt
  rw [Vector.foldl_toList, UInt32.toNat_zero, Nat.zero_add] at hsum
  have hcount := List.count_eq_length (l := s.obj.tachbuffer.toList) (a := UInt32.ofNat T)
  rw [hlen] at hcount
  rw [cellSum, hsum, Nat.mul_comm 5, Nat.mul_right_inj (by omega), hcount, FilledWith,
    ← forall_cells s (· = UInt32.ofNat T)]
  exact forall₂_congr fun x _ => eq_comm

lemma speedOf_eq_iff (h1 : 1 ≤ T) (v : UInt32) :
    speedOf v = steadySpeed T ↔ v.toNat = 5 * T := by
  have hT : (T : ℚ) ≠ 0 := Nat.cast_ne_zero.mpr (by omega)
  by_cases hv : v = 0
  · have h0 : (speedOf v : ℚ) = 0 := (speedOf_eq_zero_iff v).mpr hv
    rw [h0, hv, steadySpeed]
    refine iff_of_false (fun h => ?_) (by show 0 ≠ 5 * T; omega)
    have : (300000 / 32 / (5 * T) : ℚ) ≠ 0 := by positivity
    exact this h.symm
  · have hne : (v.toNat : ℚ) ≠ 0 := Nat.cast_ne_zero.mpr fun h0 => hv (UInt32.toNat_inj.mp h0)
    have hspeed : (speedOf v : ℚ) = 300000 / 32 / v.toNat := by
      rw [speedOf, if_neg hv]
      simp only [DoubleOps.div, DoubleOps.mul, DoubleOps.ofInt, DoubleOps.ofRat]
      push_cast
      field_simp
    rw [hspeed, steadySpeed, div_eq_div_iff hne (mul_ne_zero (by norm_num) hT),
      mul_right_inj' (by norm_num)]
    norm_cast
    exact eq_comm

/-- Once `p` has run for two update windows, every speed that is computed is right. -/
def Right (T : ℕ) (p : ServoCtx ℚ × ℕ) : Prop :=
  ∀ k, 4004 ≤ k → Due ((spin T)^[k] p).1 → Measures ((spin T)^[k] p).1 →
    (pitTick ((spin T)^[k] p).1).obj.speed = steadySpeed T

/-- What an update computes is right exactly if the window before has filled the ring. -/
lemma speed_eq_iff (h1 : 1 ≤ T) (hT : T ≤ 2000) {s : ServoCtx ℚ} (hdue : Due s)
    (hmeas : Measures s) (h : PartlyFilledWith T s) :
    (pitTick s).obj.speed = steadySpeed T ↔ FilledWith T s := by
  have hspeed : (pitTick s).obj.speed = speedOf (cellSum s) :=
    (serviceBoard_speed s).trans (if_pos ⟨hdue, hmeas⟩)
  rw [hspeed, speedOf_eq_iff h1, cellSum_eq_iff h1 hT h]

/-- Six pulses in every window. -/
lemma right_of_fast (h1 : 1 ≤ T) (hT : T ≤ 333) (hlow : 4 < T % 256) (hp : p.2 < T) :
    Right T p := by
  intro k hk hdue hmeas
  obtain ⟨n, hn, hfirst⟩ := exists_due T p
  obtain ⟨m, rfl⟩ : ∃ m, k = 2002 + m + n := ⟨k - 2002 - n, by omega⟩
  have hturn : Turning T ((spin T)^[m + n] p) := turning_from h1 (by omega) p.1
  have hbefore : Due ((spin T)^[m + n] p).1 := by
    rw [Function.iterate_add_apply, due_after hfirst] at hdue ⊢
    omega
  rw [Nat.add_assoc, Function.iterate_add_apply, ← lap_eq] at hdue hmeas ⊢
  obtain ⟨P, hcount, hring⟩ := window (by omega) hturn hbefore
  have hlt := hturn.left_lt
  rw [speed_eq_iff h1 (by omega) hdue hmeas (partlyFilledWith_window (by omega) hturn hbefore),
    filledWith_iff h1 (by omega) hlow hring]
  refine Or.inl ?_
  by_contra hfew
  have : P * T ≤ 5 * 333 := Nat.mul_le_mul (by omega) hT
  omega

/-- Every window after `p` fills the ring. -/
def Fills (T : ℕ) (p : ServoCtx ℚ × ℕ) : Prop := ∀ j, FilledWith T (lap T ((lap T)^[j] p)).1

lemma Fills.first (h : Fills T p) : FilledWith T (lap T p).1 := by
  have h0 := h 0
  rwa [Function.iterate_zero_apply] at h0

lemma Fills.next (h : Fills T p) : Fills T (lap T p) := by
  intro j
  rw [← Function.iterate_succ_apply]
  exact h (j + 1)

/-- The ring has to be filled with each window's pulses, which takes the index back to cell 0. -/
lemma Fills.low (h1 : 1 ≤ T) (hT : T ≤ 2000) (hturn : Turning T p) (hdue : Due p.1)
    (h : Fills T p) : 4 < T % 256 := by
  by_contra hlow
  have hastray := mt ofNat_astray.mp hlow
  obtain ⟨P, hcount, hring⟩ := window hT hturn hdue
  have hpos : P ≠ 0 := by
    rintro rfl
    have := hturn.left_lt
    omega
  obtain ⟨P, rfl⟩ := Nat.exists_eq_succ_of_ne_zero hpos
  have hindex : ¬ 4 < (swept (lap T p).1).1 := by
    rw [swept_index, hring, Function.iterate_succ_apply']
    exact pulse_astray hastray _
  have hdue' : Due (lap T p).1 := due_lap hdue
  obtain ⟨Q, -, hring'⟩ := window hT hturn.lap hdue'
  have hcell := (pulses_astray hastray Q (r := swept (lap T p).1) hindex).2
  rw [← cell_of_ring hring' (by decide), swept_cell _ (by decide)] at hcell
  exact ofNat_ne_zero h1 hT ((h.next.first 0 (by decide)).symm.trans hcell)

/-- Six pulses leave the index where it was and the next pulse later by two ticks or more; five fill
the ring only once, and move the index on. -/
lemma filled_window (h1 : 1 ≤ T) (hslow : 334 ≤ T) (hT : T ≤ 2000) (hlow : 4 < T % 256)
    (hturn : Turning T p) (hdue : Due p.1) (h : FilledWith T (lap T p).1) :
    (roundOf (ring (lap T p).1) = roundOf (ring p.1) ∧
        p.2 + 2 ≤ (lap T p).2) ∨
      (roundOf (ring p.1) = 5 ∧ roundOf (ring (lap T p).1) = 4) := by
  obtain ⟨P, hcount, hring⟩ := window hT hturn hdue
  have hlt := hturn.lap.left_lt
  have hround := roundOf_lt (ring p.1)
  have hnext : roundOf (ring (lap T p).1) = (roundOf (ring p.1) + P) % 6 := by
    rw [hring, pulses_round (ofNat_astray.mpr hlow)]
    rfl
  rcases (filledWith_iff h1 hT hlow hring).mp h with hsix | ⟨rfl, h5⟩
  · have hP : P = 6 := by
      by_contra hne
      have : 7 * T ≤ P * T := Nat.mul_le_mul_right T (by omega)
      omega
    subst hP
    exact Or.inl ⟨by omega, by omega⟩
  · exact Or.inr ⟨h5, by omega⟩

/-- **A plate whose windows are all filled turns fast enough.** -/
theorem Fills.fast (h1 : 1 ≤ T) (hT : T ≤ 2000) (hturn : Turning T p) (hdue : Due p.1)
    (h : Fills T p) : T ≤ 333 := by
  by_contra hslow
  have hlow := h.low h1 hT hturn hdue
  -- the countdown to the next pulse grows from window to window, except for the one at round 5
  induction hm : (if roundOf (ring p.1) = 5 then T else 0) + (T - p.2)
    using Nat.strong_induction_on generalizing p with
  | _ m ih =>
      have hlt := hturn.left_lt
      have hlt' := hturn.lap.left_lt
      have hdue' : Due (lap T p).1 := due_lap hdue
      refine ih _ ?_ hturn.lap hdue' h.next rfl
      rcases filled_window h1 (by omega) hT hlow hturn hdue h.first with ⟨hround, hlater⟩ | ⟨h5, h4⟩
      · rw [← hm, hround]
        omega
      · rw [← hm, if_pos h5, h4, if_neg (by decide)]
        omega

lemma spins_setpoint (T n : ℕ) (p : ServoCtx ℚ × ℕ) :
    ((spin T)^[n] p).1.obj.servoSetpoint = p.1.obj.servoSetpoint := by
  induction n with
  | zero => rfl
  | succ n ih => rw [Function.iterate_succ_apply', spin_setpoint, ih]

/-- While a speed is asked for every update computes one, so they are right only if every window
fills the ring. -/
lemma Right.fills (h1 : 1 ≤ T) (hT : T ≤ 2000) (hp : p.2 < T)
    (hset : p.1.obj.servoSetpoint ≠ 0) (h : Right T p) :
    ∃ q, Turning T q ∧ Due q.1 ∧ Fills T q := by
  obtain ⟨n, hn, hfirst⟩ := exists_due T p
  have hlater : ∀ j, Turning T ((lap T)^[j] ((spin T)^[4004 + n] p)) ∧
      Due ((lap T)^[j] ((spin T)^[4004 + n] p)).1 := by
    intro j
    rw [laps_eq, ← Function.iterate_add_apply]
    refine ⟨turning_from h1 (by omega) p.1, ?_⟩
    rw [← Nat.add_assoc, Function.iterate_add_apply, due_after hfirst]
    omega
  refine ⟨_, (hlater 0).1, (hlater 0).2, fun j => ?_⟩
  rw [Function.iterate_zero_apply]
  obtain ⟨hturn, hdue⟩ := hlater j
  have hright := h (2002 * (j + 1) + (4004 + n)) (by omega)
  rw [Function.iterate_add_apply, ← laps_eq, Function.iterate_succ_apply'] at hright
  have hmeas : Measures (lap T ((lap T)^[j] ((spin T)^[4004 + n] p))).1 := by
    rw [measures_iff, lap_eq, spins_setpoint, laps_eq, spins_setpoint, spins_setpoint]
    exact Or.inr hset
  exact (speed_eq_iff h1 hT (due_lap hdue) hmeas (partlyFilledWith_window hT hturn hdue)).mp
    (hright (due_lap hdue) hmeas)

lemma Right.interval (h1 : 1 ≤ T) (hT : T ≤ 2000) (hp : p.2 < T)
    (hset : p.1.obj.servoSetpoint ≠ 0) (h : Right T p) : T ≤ 333 ∧ 4 < T % 256 := by
  obtain ⟨q, hturn, hdue, hfills⟩ := h.fills h1 hT hp hset
  exact ⟨hfills.fast h1 hT hturn hdue, hfills.low h1 hT hturn hdue⟩

end

/-- A speed is asked for. -/
lemma boot_commanded : ∃ s, run step (boot blank .blank) [.turn, .post setspeed100, .turn] = .ok s ∧
    s.obj.servoSetpoint ≠ 0 := by
  obtain ⟨s, hs, hstart⟩ := starting_commanded
  refine ⟨s, hs, ?_⟩
  rw [hstart.servoSetpoint]
  norm_num

/-- **When the speed of a steady rotation is right.**  For pulses `T` ticks apart, every speed
computed after two windows is right, from every state and at every phase, exactly if `T` is at most
333 and does not lead the ring index astray; for any other `T`, as long as a speed is asked for,
there is no state and no phase from which they all are. -/
theorem steady_speed_iff {T : ℕ} (h1 : 1 ≤ T) (hT : T ≤ 2000) :
    ((∀ s d, d < T → Right T (s, d)) ↔ T ≤ 333 ∧ 4 < T % 256) ∧
      ∀ s d, d < T → s.obj.servoSetpoint ≠ 0 → (Right T (s, d) ↔ T ≤ 333 ∧ 4 < T % 256) := by
  have hright : T ≤ 333 ∧ 4 < T % 256 → ∀ s d, d < T → Right T (s, d) := fun h s d hd =>
    right_of_fast h1 h.1 h.2 hd
  refine ⟨⟨fun h => ?_, hright⟩, fun s d hd hset => ⟨?_, fun h => hright h s d hd⟩⟩
  · obtain ⟨s, -, hset⟩ := boot_commanded
    exact (h s 0 (by omega)).interval h1 hT (by dsimp only; omega) hset
  · exact Right.interval h1 hT hd hset

theorem steady_speed_iff_hundred :
    ((∀ s d, d < 100 → Right 100 (s, d)) ↔ 100 ≤ 333 ∧ 4 < 100 % 256) ∧
      ∀ s d, d < 100 → s.obj.servoSetpoint ≠ 0 →
        (Right 100 (s, d) ↔ 100 ≤ 333 ∧ 4 < 100 % 256) :=
  steady_speed_iff (by decide) (by decide)

/-- **A slow rotation is not measured right**: the servo asked for a speed, and pulses 400 ticks
apart. -/
theorem slow_rotation_wrong :
    ∃ s, run step (boot blank .blank) [.turn, .post setspeed100, .turn] = .ok s ∧
      ¬ Right 400 (s, 0) := by
  obtain ⟨s, hs, hset⟩ := boot_commanded
  refine ⟨s, hs, fun h => ?_⟩
  have := (h.interval (by decide) (by decide) (Nat.zero_lt_succ 399) hset).1
  omega

end Lgt8.Servo

import Mathlib.Tactic

/-!
# An alarm on a counter that wraps

A counter runs modulo `W`, and an alarm holds a target value, an absolute one.  At each tick the
counter goes on by one, and if the target is then *below* it the alarm rings and is set again
`reload` ticks ahead, or to `W - 1`, below which every counter value lies, if there is nothing to
reload.  Meant is that the alarm rings more than `delay` ticks after it was set, and then every
`reload + 1` ticks (`due`).

The comparison knows nothing of the wrap, and the file says exactly what that costs.

* `Clear c n` — set at `c` for `n` ticks, the target is neither beyond the wrap nor the value that
  stands for no target, or the counter stands right before its wrap.
* `rung_clear`, `not_inTime_of_not_clear` — then, and only then, the next ring comes in time.
* **`inTime_iff`** — it rings in time for ever exactly if the first ring does, and there is nothing
  to reload or every ring from then on hits the last value before the wrap.
-/

namespace Library

structure Alarm where
  counter : ℕ
  target : ℕ

namespace Alarm

/-- Set at counter value `c`, for `n` ticks. -/
def set (W c n : ℕ) : Alarm := ⟨c, (c + n) % W⟩

/-- The next tick makes it ring. -/
def Rings (W : ℕ) (x : Alarm) : Prop := x.target < (x.counter + 1) % W

instance (W : ℕ) (x : Alarm) : Decidable (Rings W x) := inferInstanceAs (Decidable (_ < _))

def tick (W reload : ℕ) (x : Alarm) : Alarm where
  counter := (x.counter + 1) % W
  target :=
    if Rings W x then (if reload = 0 then W - 1 else ((x.counter + 1) % W + reload) % W)
    else x.target

/-- How often it rings in `t` ticks. -/
def rung (W reload : ℕ) : ℕ → Alarm → ℕ
  | 0, _ => 0
  | t + 1, x => (if Rings W x then 1 else 0) + rung W reload t (tick W reload x)

/-- How often it is meant to ring in the `t` ticks after it was set for `n`. -/
def due (n reload t : ℕ) : ℕ :=
  if t ≤ n then 0 else if reload = 0 then 1 else 1 + (t - n - 1) / (reload + 1)

/-- It rings in time for ever. -/
def InTime (W reload n : ℕ) (x : Alarm) : Prop := ∀ t, rung W reload t x = due n reload t

/-- The target is reached before the counter wraps, or the counter wraps at the next tick. -/
def Clear (W c n : ℕ) : Prop := c + n + 1 < W ∨ (c + 1 = W ∧ n ≠ 0)

variable {W reload c n : ℕ}

/-- The rings of one more tick. -/
lemma rung_succ : ∀ (t : ℕ) (x : Alarm), rung W reload (t + 1) x
    = rung W reload t x + if Rings W ((tick W reload)^[t] x) then 1 else 0
  | 0, x => by rw [rung, rung, rung, Nat.add_comm, Function.iterate_zero, id]
  | t + 1, x => by
      have h := rung_succ t (tick W reload x)
      rw [rung, h, rung, Function.iterate_succ_apply, Nat.add_assoc]

/-! ## The first ring -/

lemma due_of_le {t : ℕ} (h : t ≤ n) : due n reload t = 0 := if_pos h

/-- A target that no counter value exceeds never rings. -/
lemma rung_top (hW : 0 < W) : ∀ (t c : ℕ), rung W reload t ⟨c, W - 1⟩ = 0
  | 0, _ => rfl
  | t + 1, c => by
      have hno : ¬ Rings W ⟨c, W - 1⟩ := by
        have := Nat.mod_lt (c + 1) hW
        rw [Rings]
        dsimp only
        omega
      rw [rung, if_neg hno, tick, if_neg hno, rung_top hW t]

/-- The tick after which an alarm set for `n + 1` ticks is set for `n`. -/
lemma tick_set (reload : ℕ) (hn : n + 1 < W) (h : Clear W c (n + 1)) :
    ¬ Rings W (set W c (n + 1)) ∧
      tick W reload (set W c (n + 1)) = set W ((c + 1) % W) n ∧ Clear W ((c + 1) % W) n := by
  have htarget : (c + (n + 1)) % W = ((c + 1) % W + n) % W := by
    rw [Nat.mod_add_mod]
    congr 1
    omega
  have hno : ¬ Rings W (set W c (n + 1)) := by
    rw [Rings, set]
    dsimp only
    rcases h with h | ⟨h, -⟩
    · rw [Nat.mod_eq_of_lt (by omega : c + (n + 1) < W), Nat.mod_eq_of_lt (by omega : c + 1 < W)]
      omega
    · rw [h, Nat.mod_self]
      omega
  refine ⟨hno, ?_, ?_⟩
  · rw [tick, if_neg hno, set, set]
    dsimp only
    rw [htarget]
  · rw [Clear]
    rcases h with h | ⟨h, -⟩
    · rw [Nat.mod_eq_of_lt (by omega : c + 1 < W)]
      omega
    · rw [h, Nat.mod_self]
      omega

/-- **An alarm with a clear way to its target** does not ring in the first `n` ticks, and rings in
the next. -/
theorem rung_clear : ∀ {n c : ℕ}, n < W → c < W → Clear W c n → ∀ t,
    rung W reload t (set W c n) = if t ≤ n then 0
      else 1 + rung W reload (t - (n + 1))
        ⟨(c + n + 1) % W, if reload = 0 then W - 1 else ((c + n + 1) % W + reload) % W⟩
  | 0, c, hn, hc, h, t => by
      cases t with
      | zero => rfl
      | succ t =>
          have hlt : c + 1 < W := by
            rcases h with h | ⟨_, h0⟩
            · exact h
            · exact absurd rfl h0
          have hr : Rings W (set W c 0) := by
            rw [Rings, set]
            dsimp only
            rw [Nat.mod_eq_of_lt (by omega : c + 0 < W), Nat.mod_eq_of_lt hlt]
            omega
          rw [rung, if_pos hr, if_neg (by omega), tick, if_pos hr]
          rfl
  | n + 1, c, hn, hc, h, t => by
      cases t with
      | zero => rfl
      | succ t =>
          obtain ⟨hno, htick, hclear⟩ := tick_set reload hn h
          have hmod : ((c + 1) % W + n + 1) % W = (c + (n + 1) + 1) % W := by
            rw [Nat.add_assoc, Nat.mod_add_mod]
            congr 1
            omega
          rw [rung, if_neg hno, htick,
            rung_clear (by omega) (Nat.mod_lt _ (by omega)) hclear t, hmod, zero_add,
            Nat.add_sub_add_right]
          exact if_congr (by omega) rfl rfl

/-- **An alarm with no clear way** rings at the first tick, too early, or never. -/
theorem not_inTime_of_not_clear (hn : n < W) (hc : c < W) (h : ¬ Clear W c n) :
    ¬ InTime W reload n (set W c n) := by
  have hW : 0 < W := by omega
  rw [Clear, not_or, not_and, not_not, not_lt] at h
  obtain ⟨hfar, hwrap⟩ := h
  intro hin
  by_cases htop : c + n + 1 = W ∨ c + 1 = W
  · -- the target is the value that stands for none
    have hsum : c + n = W - 1 := by
      rcases htop with h | h
      · omega
      · have := hwrap h
        omega
    have htarget : (c + n) % W = W - 1 := by rw [hsum, Nat.mod_eq_of_lt (by omega)]
    have h1 := hin (n + 1)
    rw [set, htarget, rung_top hW, due, if_neg (by omega)] at h1
    split at h1
    · cases h1
    · rw [Nat.add_comm] at h1
      exact Nat.succ_ne_zero _ h1.symm
  · -- the target is below the counter already
    rw [not_or] at htop
    have htarget : (c + n) % W = c + n - W := by
      rw [Nat.mod_eq_sub_mod (by omega), Nat.mod_eq_of_lt (by omega)]
    have hr : Rings W (set W c n) := by
      rw [Rings, set]
      dsimp only
      rw [htarget, Nat.mod_eq_of_lt (by omega : c + 1 < W)]
      omega
    have h1 := hin 1
    rw [rung, if_pos hr, due_of_le (by omega)] at h1
    omega

/-! ## The rings after it -/

/-- What is due once the first ring is over. -/
lemma due_reload (hr : reload ≠ 0) (n t : ℕ) :
    due n reload (n + 1 + t) = 1 + due reload reload t := by
  have hsub : n + 1 + t - n - 1 = t := by omega
  rw [due, due, if_neg (by omega), if_neg hr, hsub]
  by_cases ht : t ≤ reload
  · rw [if_pos ht, Nat.div_eq_of_lt (by omega)]
  · have hdiv : t / (reload + 1) = (t - reload - 1) / (reload + 1) + 1 := by
      rw [Nat.div_eq_sub_div (by omega) (by omega), Nat.sub_sub]
    rw [if_neg ht, if_neg hr, hdiv]
    omega

/-- The rings once the first one is over. -/
lemma rung_reload (hn : n < W) (hc : c < W) (h : Clear W c n) (hr : reload ≠ 0) (t : ℕ) :
    rung W reload (n + 1 + t) (set W c n)
      = 1 + rung W reload t (set W ((c + n + 1) % W) reload) := by
  rw [rung_clear hn hc h, if_neg (by omega), if_neg hr, Nat.add_sub_cancel_left]
  rfl

/-- Once it has rung in time, it is in time for ever exactly if the alarm it was reloaded with
is. -/
lemma inTime_reload_iff (hn : n < W) (hc : c < W) (h : Clear W c n) (hr : reload ≠ 0) :
    InTime W reload n (set W c n) ↔ InTime W reload reload (set W ((c + n + 1) % W) reload) := by
  constructor
  · intro hin t
    have := hin (n + 1 + t)
    rw [due_reload hr, rung_reload hn hc h hr] at this
    omega
  · intro hin t
    by_cases ht : t ≤ n
    · rw [rung_clear hn hc h, if_pos ht, due_of_le ht]
    · obtain ⟨d, rfl⟩ := Nat.exists_eq_add_of_le (Nat.succ_le_of_lt (not_le.mp ht))
      rw [Nat.succ_eq_add_one, due_reload hr, rung_reload hn hc h hr, hin d]

/-- The rings hit the last value before the wrap, this time and every time. -/
def Aligned (W reload c : ℕ) : Prop := reload + 1 ∣ W ∧ reload + 1 ∣ c + 1

lemma Aligned.clear (h : Aligned W reload c) (hc : c < W) (hr : reload ≠ 0) :
    Clear W c reload := by
  obtain ⟨⟨a, ha⟩, b, hb⟩ := h
  rw [Clear]
  by_cases hlast : c + 1 = W
  · exact Or.inr ⟨hlast, hr⟩
  · have hab : b < a := by
      by_contra hle
      have := Nat.mul_le_mul_left (reload + 1) (not_lt.mp hle)
      omega
    have := Nat.mul_le_mul_left (reload + 1) (Nat.succ_le_of_lt hab)
    rw [Nat.mul_succ] at this
    omega

lemma Aligned.next (h : Aligned W reload c) (hc : c < W) (hr : reload ≠ 0) (hrW : reload < W) :
    Aligned W reload ((c + reload + 1) % W) := by
  refine ⟨h.1, ?_⟩
  rcases h.clear hc hr with hlt | ⟨hlast, -⟩
  · rw [Nat.mod_eq_of_lt hlt]
    exact (Nat.dvd_add_right h.2).mpr (dvd_refl _) |> fun hd => by
      rwa [show c + reload + 1 + 1 = c + 1 + (reload + 1) by omega]
  · have hval : (c + reload + 1) % W = reload := by
      rw [show c + reload + 1 = reload + W by omega, Nat.add_mod_right, Nat.mod_eq_of_lt hrW]
    rw [hval]

/-- Aligned rings are in time. -/
theorem Aligned.inTime (hr : reload ≠ 0) (hrW : reload < W) (h : Aligned W reload c)
    (hc : c < W) : InTime W reload reload (set W c reload) := by
  intro t
  induction t using Nat.strong_induction_on generalizing c with
  | _ t ih =>
      have hclear := h.clear hc hr
      by_cases ht : t ≤ reload
      · rw [rung_clear hrW hc hclear, if_pos ht, due_of_le ht]
      · obtain ⟨d, rfl⟩ := Nat.exists_eq_add_of_le (Nat.succ_le_of_lt (not_le.mp ht))
        rw [Nat.succ_eq_add_one, due_reload hr, rung_reload hrW hc hclear hr,
          ih d (by omega) (h.next hc hr hrW) (Nat.mod_lt _ (by omega))]

/-- Rings in time hit the last value before the wrap. -/
lemma dvd_of_inTime (hr : reload ≠ 0) (hrW : reload < W) (hc : c < W)
    (h : InTime W reload reload (set W c reload)) :
    reload + 1 ∣ W - 1 - c ∧ InTime W reload reload (set W (W - 1) reload) := by
  induction hd : W - 1 - c using Nat.strong_induction_on generalizing c with
  | _ d ih =>
      by_cases hlast : c + 1 = W
      · have hcW : c = W - 1 := by omega
        have h0 : d = 0 := by omega
        rw [h0, ← hcW]
        exact ⟨dvd_zero _, h⟩
      · have hclear : Clear W c reload := by
          by_contra hn
          exact not_inTime_of_not_clear hrW hc hn h
        have hlt : c + reload + 1 < W := hclear.resolve_right fun hw => hlast hw.1
        have hnext := (inTime_reload_iff hrW hc hclear hr).mp h
        rw [Nat.mod_eq_of_lt hlt] at hnext
        obtain ⟨hdvd, htop⟩ := ih _ (by omega) hlt hnext rfl
        have hsum : d = W - 1 - (c + reload + 1) + (reload + 1) := by omega
        rw [hsum]
        exact ⟨Dvd.dvd.add hdvd dvd_rfl, htop⟩

/-- **A periodic alarm is in time for ever exactly if it is aligned**: otherwise it misses the last
value before the wrap, of this round or of the next. -/
theorem inTime_iff_aligned (hr : reload ≠ 0) (hrW : reload < W) (hc : c < W) :
    InTime W reload reload (set W c reload) ↔ Aligned W reload c := by
  refine ⟨fun h => ?_, fun h => h.inTime hr hrW hc⟩
  obtain ⟨hdvd, htop⟩ := dvd_of_inTime hr hrW hc h
  have hlast : Clear W (W - 1) reload := Or.inr ⟨by omega, hr⟩
  -- from the last value the next ring is at `reload`
  have hround := (inTime_reload_iff hrW (by omega) hlast hr).mp htop
  have hval : (W - 1 + reload + 1) % W = reload := by
    rw [show W - 1 + reload + 1 = reload + W by omega, Nat.add_mod_right, Nat.mod_eq_of_lt hrW]
  rw [hval] at hround
  have hW : reload + 1 ∣ W := by
    have h1 := (dvd_of_inTime hr hrW hrW hround).1
    have hsum : W = W - 1 - reload + (reload + 1) := by omega
    rw [hsum]
    exact Dvd.dvd.add h1 dvd_rfl
  refine ⟨hW, ?_⟩
  have hsum : W = W - 1 - c + (c + 1) := by omega
  rw [hsum] at hW
  exact (Nat.dvd_add_right hdvd).mp hW

/-- **When an alarm is in time for ever.** -/
theorem inTime_iff (hn : n < W) (hc : c < W) (hrW : reload < W) :
    InTime W reload n (set W c n) ↔
      Clear W c n ∧ (reload = 0 ∨ (reload + 1 ∣ W ∧ reload + 1 ∣ c + n + 2)) := by
  by_cases hclear : Clear W c n
  · rw [and_iff_right hclear]
    by_cases hr : reload = 0
    · subst hr
      refine ⟨fun _ => Or.inl rfl, fun _ t => ?_⟩
      rw [rung_clear hn hc hclear, due, if_pos rfl, if_pos rfl, rung_top (by omega)]
    · rw [or_iff_right hr, inTime_reload_iff hn hc hclear hr,
        inTime_iff_aligned hr hrW (Nat.mod_lt _ (by omega)), Aligned]
      refine and_congr_right fun hW => ?_
      -- modulo a divisor of `W` the wrap makes no difference
      have hmod := Nat.div_add_mod (c + n + 1) W
      have hsum : c + n + 2 = W * ((c + n + 1) / W) + ((c + n + 1) % W + 1) := by omega
      rw [hsum, Nat.dvd_add_right (hW.mul_right _)]
  · exact ⟨fun h => (not_inTime_of_not_clear hn hc hclear h).elim, fun h => (hclear h.1).elim⟩

end Alarm

end Library

import Mathlib.Tactic
import Lgt8.Library.Runs
import Lgt8.Kernel.Model

/-!
# The clock of the network stack

Two files define `PIT0_IRQHandler`.  The one of `sys_arch.c` counts `time_now` up, which `sys_now`
returns as milliseconds; the one of `main.cpp` runs the drivers and does not know of it.  The linker is
told to take the first definition it meets, and `main.o` comes first.

* `PitIsr`, `linked`, `interrupt` — the two definitions, the one in the image, and what each does.
* `sysTimeout`, `sysCheckTimeouts` — the list of timeouts, each timed from the one before it.
* `unfired_run` — in the image no timeout is ever found due.
* **`sys_now_iff`** — when the clock is right; `five_interrupts` is when it is not.
-/

namespace Lgt8.Net

open Library Kernel

/-! ## Timeouts (`core/lwip_timers.c`) -/

/-- `struct sys_timeo`; `H` is a handler with its argument. -/
structure SysTimeo (H : Type) where
  time : UInt32
  h : H

structure Timeouts (H : Type) where
  nextTimeout : List (SysTimeo H)
  timeoutsLastTime : UInt32

variable {F H : Type}

/-- The timeout goes behind those that are due no later, and takes its time off the next one's. -/
def enlist (h : H) : UInt32 → List (SysTimeo H) → List (SysTimeo H)
  | msecs, [] => [⟨msecs, h⟩]
  | msecs, t :: rest =>
      if t.time > msecs then ⟨msecs, h⟩ :: { t with time := t.time - msecs } :: rest
      else t :: enlist h (msecs - t.time) rest

/-- `sys_timeout`; `room` says whether `memp_malloc` has one left. -/
def sysTimeout (room : Bool) (msecs : UInt32) (h : H) (ts : Timeouts H) : Timeouts H :=
  if room then { ts with nextTimeout := enlist h msecs ts.nextTimeout } else ts

/-- The locals of `sys_check_timeouts`, and the handlers it has called. -/
structure Check (H : Type) where
  timeouts : Timeouts H
  diff : UInt32
  called : List H

/-- The loop of `sys_check_timeouts`, at most `n` turns of it; `call` is what a handler does to the
list. -/
def checkTurns (call : H → Timeouts H → Timeouts H) (now : UInt32) : ℕ → Check H → Check H
  | 0, c => c
  | n + 1, c =>
      match c.timeouts.nextTimeout with
      | [] => c
      | t :: rest =>
          if t.time ≤ c.diff then
            checkTurns call now n
              { timeouts := call t.h ⟨rest, now⟩
                diff := c.diff - t.time
                called := c.called ++ [t.h] }
          else c

def sysCheckTimeouts (call : H → Timeouts H → Timeouts H) (now : UInt32) (n : ℕ)
    (ts : Timeouts H) : Timeouts H × List H :=
  let c := checkTurns call now n ⟨ts, now - ts.timeoutsLastTime, []⟩
  (c.timeouts, c.called)

/-! ## The image -/

/-- The definitions of `PIT0_IRQHandler` that are not weak. -/
inductive PitIsr
  /-- `PIT_SLOWTICK_HANDLER` in `source/main.cpp`. -/
  | slowtick
  /-- `LWIP_TIME_ISR` in `lwip/port/sys_arch.c`. -/
  | lwipTime
  deriving DecidableEq, Repr

/-- They stand in the objects in this order. -/
def definitions : List PitIsr := [.slowtick, .lwipTime]

/-- With `-z muldefs` the linker takes the first. -/
def linked : PitIsr := definitions.head (by decide)

/-- The firmware with the clock and the timeouts of the stack. -/
structure Image (F H : Type) where
  kernel : KernelCtx F
  timeNow : UInt32
  timeouts : Timeouts H

def sysNow (im : Image F H) : UInt32 := im.timeNow

/-- `SLOWTICK_INTERVAL`, in microseconds. -/
def slowtickInterval : ℕ := 200

variable [DoubleOps F]

/-- One interrupt of PIT channel 0. -/
def interrupt (isr : PitIsr) (im : Image F H) : Image F H :=
  match isr with
  | .slowtick => { im with kernel := pit im.kernel }
  | .lwipTime => { im with timeNow := im.timeNow + 1 }

/-! ## The clock -/

lemma sysNow_interrupt (isr : PitIsr) (im : Image F H) :
    sysNow (interrupt isr im) = if isr = .slowtick then sysNow im else sysNow im + 1 := by
  cases isr with
  | slowtick =>
      rw [if_pos rfl]
      dsimp only [interrupt, sysNow]
  | lwipTime =>
      rw [if_neg (by decide)]
      dsimp only [interrupt, sysNow]

lemma interrupt_timeouts (isr : PitIsr) (im : Image F H) :
    (interrupt isr im).timeouts = im.timeouts := by
  cases isr <;> dsimp only [interrupt]

lemma sysNow_slowtick (n : ℕ) (im : Image F H) :
    sysNow ((interrupt .slowtick)^[n] im) = sysNow im := by
  induction n with
  | zero => rfl
  | succ n ih =>
      rw [Function.iterate_succ_apply', sysNow_interrupt, if_pos rfl, ih]

lemma sysNow_lwipTime (n : ℕ) (im : Image F H) :
    sysNow ((interrupt .lwipTime)^[n] im) = sysNow im + UInt32.ofNat n := by
  induction n with
  | zero => exact (UInt32.add_zero _).symm
  | succ n ih =>
      rw [Function.iterate_succ_apply', sysNow_interrupt, if_neg (by decide), ih, UInt32.ofNat_add,
        UInt32.add_assoc]
      rfl

/-- The clock has advanced by the milliseconds that `n` interrupts take. -/
def Advanced (isr : PitIsr) (n : ℕ) (im : Image F H) : Prop :=
  sysNow ((interrupt isr)^[n] im) = sysNow im + UInt32.ofNat (n * slowtickInterval / 1000)

/-- The numbers of interrupts after which it has. -/
def OnTime (n : ℕ) : PitIsr → Prop
  | .slowtick => n / 5 % 2 ^ 32 = 0
  | .lwipTime => n % 2 ^ 32 = n / 5 % 2 ^ 32

lemma elapsed (n : ℕ) : n * slowtickInterval / 1000 = n / 5 := by
  rw [slowtickInterval]
  omega

lemma ofNat_inj_mod {a b : ℕ} : UInt32.ofNat a = UInt32.ofNat b ↔ a % 2 ^ 32 = b % 2 ^ 32 := by
  rw [← UInt32.toNat_inj, UInt32.toNat_ofNat', UInt32.toNat_ofNat']

lemma advanced_iff (isr : PitIsr) (n : ℕ) (im : Image F H) :
    Advanced isr n im ↔ OnTime n isr := by
  rw [Advanced, elapsed]
  cases isr with
  | slowtick =>
      rw [sysNow_slowtick, OnTime, ← Nat.zero_mod (2 ^ 32), ← ofNat_inj_mod]
      constructor
      · intro h
        exact (UInt32.left_eq_add.mp h)
      · intro h
        rw [h]
        exact (UInt32.add_zero _).symm
  | lwipTime =>
      rw [sysNow_lwipTime, OnTime, ← ofNat_inj_mod]
      exact UInt32.add_right_inj _

lemma onTime_all_iff (n : ℕ) : (∀ isr, OnTime n isr) ↔ 5 * 2 ^ 32 ∣ n := by
  constructor
  · intro h
    have h1 : n / 5 % 2 ^ 32 = 0 := h .slowtick
    have h2 : n % 2 ^ 32 = n / 5 % 2 ^ 32 := h .lwipTime
    omega
  · rintro ⟨k, rfl⟩ isr
    cases isr with
    | slowtick =>
        show 5 * 2 ^ 32 * k / 5 % 2 ^ 32 = 0
        omega
    | lwipTime =>
        show 5 * 2 ^ 32 * k % 2 ^ 32 = 5 * 2 ^ 32 * k / 5 % 2 ^ 32
        omega

/-! ## Timeouts in the image -/

/-- An interrupt, a call of `sys_check_timeouts`, or one of `sys_timeout` with some delay. -/
inductive Label (H : Type)
  | interrupt
  | check (turns : ℕ)
  | timeout (room : Bool) (msecs : { m : UInt32 // 0 < m }) (h : H)

/-- The firmware, and the handlers that `sys_check_timeouts` has called. -/
def step (isr : PitIsr) (call : H → Timeouts H → Timeouts H) (p : Image F H × List H) :
    Label H → Except Empty (Image F H × List H)
  | .interrupt => .ok (interrupt isr p.1, p.2)
  | .check turns =>
      let checked := sysCheckTimeouts call (sysNow p.1) turns p.1.timeouts
      .ok ({ p.1 with timeouts := checked.1 }, p.2 ++ checked.2)
  | .timeout room msecs h =>
      .ok ({ p.1 with timeouts := sysTimeout room msecs.val h p.1.timeouts }, p.2)

/-- `sys_timeouts_init`, before it sets up the first timeout. -/
def sysTimeoutsInit (im : Image F H) : Image F H × List H :=
  ({ im with timeouts := ⟨[], sysNow im⟩ }, [])

/-- The first timeout of the list is not due at once. -/
def Ahead (ts : List (SysTimeo H)) : Prop := ∀ t ∈ ts.head?, 0 < t.time

lemma Ahead.enlist {ts : List (SysTimeo H)} (hts : Ahead ts) {msecs : UInt32} (hm : 0 < msecs)
    (h : H) : Ahead (enlist h msecs ts) := by
  cases ts with
  | nil =>
      rintro t ht
      cases Option.mem_some.mp ht
      exact hm
  | cons t rest =>
      rw [Net.enlist]
      split
      · rintro u hu
        cases Option.mem_some.mp hu
        exact hm
      · rintro u hu
        exact hts u hu

/-- If no time has gone by the loop ends at once. -/
lemma checkTurns_idle (call : H → Timeouts H → Timeouts H) (now : UInt32) (n : ℕ) {c : Check H}
    (hd : c.diff = 0) (hc : Ahead c.timeouts.nextTimeout) : checkTurns call now n c = c := by
  cases n with
  | zero => rfl
  | succ n =>
      rw [checkTurns]
      split
      · rfl
      · next t rest ht =>
          have hpos : 0 < t.time := hc t (by rw [ht]; rfl)
          rw [if_neg]
          rw [hd]
          exact UInt32.not_le.mpr hpos

/-- The clock stands where it stood when the list was set up, and nothing was called. -/
structure Unfired (p : Image F H × List H) : Prop where
  clock : p.1.timeouts.timeoutsLastTime = sysNow p.1
  ahead : Ahead p.1.timeouts.nextTimeout
  called : p.2 = []

lemma Unfired.step {call : H → Timeouts H → Timeouts H} {p q : Image F H × List H} {l : Label H}
    (h : Unfired p) (hl : step linked call p l = .ok q) : Unfired q := by
  cases l with
  | interrupt =>
      obtain rfl := Except.ok.inj hl
      refine ⟨?_, ?_, h.called⟩
      · -- the handler in the image leaves the clock alone
        rw [interrupt_timeouts, h.clock, sysNow_interrupt]
        exact (if_pos rfl).symm
      · rw [interrupt_timeouts]
        exact h.ahead
  | check turns =>
      obtain rfl := Except.ok.inj hl
      have hidle : sysCheckTimeouts call (sysNow p.1) turns p.1.timeouts = (p.1.timeouts, []) := by
        rw [sysCheckTimeouts, checkTurns_idle call _ turns _ h.ahead]
        rw [h.clock]
        exact UInt32.sub_self _
      rw [hidle]
      exact ⟨h.clock, h.ahead, by rw [h.called]; rfl⟩
  | timeout room msecs handler =>
      obtain rfl := Except.ok.inj hl
      cases room with
      | false => exact h
      | true => exact ⟨h.clock, h.ahead.enlist msecs.property handler, h.called⟩

/-- **No timeout is ever found due**, however many interrupts there are and however often
`sys_check_timeouts` is called. -/
theorem unfired_run (call : H → Timeouts H → Timeouts H) (im : Image F H) (labels : List (Label H)) :
    AllStates (step linked call) (fun p => p.2 = []) (sysTimeoutsInit im) labels :=
  allStates_of_invariant (I := Unfired) (fun _ h => h.called) (fun _ _ _ h hl => h.step hl) labels
    ⟨rfl, nofun, rfl⟩

/-- **When the clock of the stack is right.**  After `n` interrupts of 200 microseconds it has
advanced by `n / 5`, whichever of the two handlers runs, exactly if `n` is a multiple of `5 * 2 ^ 32`:
with the one of `main.cpp` if `n / 5` is one of `2 ^ 32`, with the one of `sys_arch.c` if `n` and `n / 5`
are the same modulo `2 ^ 32`.  The image has the one of `main.cpp`, and no timeout of any delay ever
becomes due. -/
theorem sys_now_iff (n : ℕ) (im : Image F H) :
    ((∀ isr, Advanced isr n im) ↔ 5 * 2 ^ 32 ∣ n) ∧
      (∀ isr, Advanced isr n im ↔ OnTime n isr) ∧
      linked = .slowtick ∧
      ∀ (call : H → Timeouts H → Timeouts H) (labels : List (Label H)),
        AllStates (step linked call) (fun p => p.2 = []) (sysTimeoutsInit im) labels := by
  refine ⟨?_, fun isr => advanced_iff isr n im, rfl, fun call labels => unfired_run call im labels⟩
  rw [← onTime_all_iff]
  exact forall_congr' fun isr => advanced_iff isr n im

/-- A millisecond after power-up the clock still reads 0, and with the other handler it would read
5. -/
theorem five_interrupts :
    let im : Image ℚ Unit := ⟨⟨blank, .blank⟩, 0, ⟨[], 0⟩⟩
    sysNow ((interrupt linked)^[5] im) = 0 ∧ sysNow ((interrupt .lwipTime)^[5] im) = 5 ∧
      ∀ isr, ¬ Advanced isr 5 im := by
  intro im
  refine ⟨sysNow_slowtick 5 im, (sysNow_lwipTime 5 im).trans (by decide), fun isr h => ?_⟩
  have hon := (advanced_iff isr 5 im).mp h
  cases isr with
  | slowtick => exact absurd hon (by rw [OnTime]; decide)
  | lwipTime => exact absurd hon (by rw [OnTime]; decide)

end Lgt8.Net

import Mathlib.Tactic
import Lgt8.Sweep.Runs

/-!
# When the state machine meets an undefined transition

The generated machine answers a transition its current state does not define by raising
`TransitionUndefinedException`, which nothing in the firmware catches.  Its default map defines
`JobDone` only, so a tick in a search state is undefined, a `Park` outside `Idle`, and a `Park` in
`Idle` at which none of the three sensor guards — each of which reads the taps anew — is true.

* `fsmTick_undefined_iff`, `fsmPark_undefined_iff`, `fsmJobDone_ok` — per transition, for every
  state and every reading of the taps.
* **`undefined_iff_unhandled`** — a run raises the exception exactly if one of its turns is not
  `Handled`; `park_park_undefined` is the shortest run that does.
-/

namespace Lgt8.Sweep

open Library

variable {F : Type}

/-- The machine looks for the park position. -/
def Searching (sw : Sweep) : Prop := sw.fsm = .searchOut ∨ sw.fsm = .searchIn

/-- `Park` finds a guard that is true: the first reads the taps once, the others once more each. -/
def Parkable (s : SweepCtx F) : Prop :=
  s.obj.fsm = .idle ∧
    (((s.world.taps 0).intap = false ∧ (s.world.taps 0).outtap = false) ∨
      (s.world.taps 1).intap = true ∨ (s.world.taps 2).outtap = true)

/-! ## The transitions -/

lemma fsmTick_undefined_iff (s : SweepCtx F) :
    (∀ x, fsmTick s = .error x → ¬ x.Undefined) ↔ ¬ Searching s.obj := by
  rw [fsmTick, Searching]
  cases s.obj.fsm <;> simp [Fault.Undefined]

/-! The guards of `Park`, each after the reads of the ones before it. -/

lemma isParked_fst (s : SweepCtx F) : (isParked s).1 = true ↔
    (s.world.taps 0).intap = false ∧ (s.world.taps 0).outtap = false := by
  have h : (isParked s).1 = (!(s.world.taps 0).intap && !(s.world.taps 0).outtap) := rfl
  simp [h]

lemma isInside_fst (s : SweepCtx F) :
    (isInside (isParked s).2).1 = (s.world.taps 1).intap := rfl

lemma isOutside_fst (s : SweepCtx F) :
    (isOutside (isInside (isParked s).2).2).1 = (s.world.taps 2).outtap := rfl

lemma fsmPark_of_ne_idle {s : SweepCtx F} (h : s.obj.fsm ≠ .idle) :
    fsmPark s = .error (.transitionUndefined s.obj.fsm.name) := by
  rw [fsmPark]
  split
  · case h_1 hi => exact absurd hi h
  · rfl

lemma fsmPark_undefined_iff (s : SweepCtx F) :
    (∀ x, fsmPark s = .error x → ¬ x.Undefined) ↔ Parkable s := by
  by_cases h : s.obj.fsm = .idle
  · rw [Parkable, fsmPark, h]
    dsimp only
    rw [isInside_fst, isOutside_fst]
    split_ifs with hp hi ho
    · exact ⟨fun _ => ⟨rfl, Or.inl ((isParked_fst s).mp hp)⟩, fun _ x hx => nomatch hx⟩
    · exact ⟨fun _ => ⟨rfl, Or.inr (Or.inl hi)⟩, fun _ x hx => nomatch hx⟩
    · exact ⟨fun _ => ⟨rfl, Or.inr (Or.inr ho)⟩, fun _ x hx => nomatch hx⟩
    · refine ⟨fun hx => (hx _ rfl trivial).elim, ?_⟩
      rintro ⟨_, hg | hg | hg⟩
      · exact absurd ((isParked_fst s).mpr hg) hp
      · exact absurd hg hi
      · exact absurd hg ho
  · rw [fsmPark_of_ne_idle h]
    exact ⟨fun hx => (hx _ rfl trivial).elim, fun hp => absurd hp.1 h⟩

/-- `JobDone` is defined everywhere. -/
lemma fsmJobDone_ok (s : SweepCtx F) : ∃ t, fsmJobDone s = .ok t := by
  rw [fsmJobDone]
  split
  · dsimp only
    split_ifs <;> exact ⟨_, rfl⟩
  · dsimp only
    split_ifs <;> exact ⟨_, rfl⟩
  · exact ⟨_, rfl⟩

/-! ## Turns -/

/-- The next turn asks nothing of the state machine that it does not define. -/
def Handled (s : SweepCtx F) : Label → Prop
  | .turn =>
      (∀ e ∈ s.obj.events.head?, e.evtype = SigTypes.sweepResetSig.bits ∨
        e.evtype = SigTypes.sweepTickSig.bits → ¬ Searching s.obj) ∧
      (∀ m, frontMsg s = some m → m.cmd = Comands.sweepPark.code → Parkable s)
  | _ => True

/-- The errors of `x >>= f` when `f` has none are those of `x`. -/
lemma bind_error_iff {α β : Type} {x : Except Fault α} {f : α → Except Fault β}
    (hf : ∀ a, ∃ b, f a = .ok b) {e : Fault} : (x >>= f) = .error e ↔ x = .error e := by
  cases x with
  | error y =>
      have h : (Except.error y >>= f) = .error y := rfl
      rw [h]
      simp
  | ok a =>
      obtain ⟨b, hb⟩ := hf a
      have h : (Except.ok a >>= f) = .ok b := hb
      rw [h]
      simp

lemma serviceFront_error_iff {s : SweepCtx F} {e : Event} {rest : List Event}
    (h : s.obj.events = e :: rest) {x : Fault} :
    serviceFront s = .error x ↔ serviceEvent e s = .error x := by
  rw [serviceFront, h]
  exact bind_error_iff fun _ => ⟨_, rfl⟩

lemma serviceMsg_undefined_iff (m : AntaresMsg) (s : SweepCtx F) :
    (∀ x, serviceMsg m s = .error x → ¬ x.Undefined) ↔
      (m.cmd = Comands.sweepPark.code → Parkable s) := by
  rw [serviceMsg]
  split
  · case isTrue hp =>
      have hlog : Parkable (logMessage "Sweep Park requested\r\n" s) ↔ Parkable s := Iff.rfl
      rw [fsmPark_undefined_iff, hlog]
      exact ⟨fun h _ => h, fun h => h hp⟩
  · case isFalse hp =>
      refine ⟨fun _ h => absurd h hp, fun _ x hx => ?_⟩
      cases hx

lemma frontMsg_of_ne {s : SweepCtx F} {e : Event} {rest : List Event}
    (he : s.obj.events = e :: rest) (h : e.evtype ≠ SigTypes.sweepEthSig.bits) :
    frontMsg s = none := by
  rw [frontMsg, he, announced_of_ne h]

/-- A message event is serviced as its message says, or its message is gone. -/
lemma serviceEvent_eth {s : SweepCtx F} {e : Event} {rest : List Event}
    (he : s.obj.events = e :: rest) (h : e.evtype = SigTypes.sweepEthSig.bits) :
    (∃ m a, frontMsg s = some m ∧
      serviceEvent e s = serviceMsg m s >>= fun s => .ok (deleteMsg a s)) ∨
    (frontMsg s = none ∧ serviceEvent e s = .error (.dangling e.payload)) := by
  rw [frontMsg, he]
  obtain ⟨evtype, simple, payload⟩ := e
  obtain rfl : evtype = SigTypes.sweepEthSig.bits := h
  cases payload with
  | null => exact Or.inr ⟨rfl, by simp [serviceEvent]⟩
  | map i => exact Or.inr ⟨rfl, by simp [serviceEvent]⟩
  | msg a =>
      cases hlive : s.world.heap.cell a with
      | none => exact Or.inr ⟨hlive, by simp [serviceEvent, hlive]⟩
      | some m => exact Or.inl ⟨m, a, hlive, serviceEvent_msg s rfl rfl hlive⟩

/-- Events other than ticks, resets and messages are always serviced. -/
lemma serviceEvent_ok {e : Event} (hr : e.evtype ≠ SigTypes.sweepResetSig.bits)
    (ht : e.evtype ≠ SigTypes.sweepTickSig.bits) (he : e.evtype ≠ SigTypes.sweepEthSig.bits)
    (s : SweepCtx F) : ∃ t, serviceEvent e s = .ok t := by
  rw [serviceEvent, if_neg hr, if_neg he, if_neg ht]
  split_ifs
  · exact fsmJobDone_ok s
  · exact ⟨_, rfl⟩
  · exact ⟨_, rfl⟩

/-- **A turn raises the exception exactly if it is not handled.** -/
theorem serviceFront_undefined_iff (s : SweepCtx F) :
    (∀ x, serviceFront s = .error x → ¬ x.Undefined) ↔ Handled s .turn := by
  cases he : s.obj.events with
  | nil =>
      rw [serviceFront_nil he]
      simp [Handled, frontMsg, he]
  | cons e rest =>
      simp only [serviceFront_error_iff he, Handled, he, List.head?_cons, Option.mem_some_iff,
        forall_eq']
      by_cases htick : e.evtype = SigTypes.sweepResetSig.bits ∨
          e.evtype = SigTypes.sweepTickSig.bits
      · have hev : serviceEvent e s = fsmTick s :=
          htick.elim (serviceEvent_reset s) (serviceEvent_tick s)
        have hne : e.evtype ≠ SigTypes.sweepEthSig.bits := by
          rcases htick with h | h <;> rw [h] <;> decide
        rw [hev, fsmTick_undefined_iff, frontMsg_of_ne he hne]
        exact ⟨fun h => ⟨fun _ => h, by rintro m ⟨⟩⟩, fun h => h.1 htick⟩
      · rw [iff_true_intro (fun h => absurd h htick), true_and]
        by_cases heth : e.evtype = SigTypes.sweepEthSig.bits
        · rcases serviceEvent_eth he heth with ⟨m, a, hm, hev⟩ | ⟨hm, hev⟩
          · have hiff : ∀ x, serviceEvent e s = .error x ↔ serviceMsg m s = .error x := by
              intro x
              rw [hev]
              exact bind_error_iff fun _ => ⟨_, rfl⟩
            simp only [hiff, serviceMsg_undefined_iff, hm, Option.some.injEq, forall_eq']
          · rw [hm, hev]
            refine ⟨?_, fun _ x hx => ?_⟩
            · rintro - m ⟨⟩
            · cases hx
              exact id
        · obtain ⟨t, ht⟩ := serviceEvent_ok (fun h => htick (Or.inl h))
            (fun h => htick (Or.inr h)) heth s
          rw [frontMsg_of_ne he heth, ht]
          constructor
          · rintro - m ⟨⟩
          · rintro - x ⟨⟩

/-! ## Runs -/

/-- **A run raises the exception exactly if one of its turns is not handled**, for every sequence
of posted messages, pushed events, ticks and turns, and every reading of the taps. -/
theorem undefined_iff_unhandled (raw : Sweep) (w : World F) (labels : List Label) :
    (∀ x, run step (boot raw w) labels = .error x → ¬ x.Undefined) ↔
      AllSteps step Handled (boot raw w) labels := by
  refine run_fault_iff Fault.Undefined fun s l => ?_
  cases l with
  | tick => exact ⟨fun _ => nofun, fun _ => trivial⟩
  | post m => exact ⟨fun _ => nofun, fun _ => trivial⟩
  | push e => exact ⟨fun _ => nofun, fun _ => trivial⟩
  | turn => exact (serviceFront_undefined_iff s).symm

/-- `SWEEP_PARK`. -/
def park0 : AntaresMsg := .compose Comands.sweepPark.code 0 2 ""

/-- Two park commands in a row, with the carriage parked all the time: the second is serviced while
the machine still waits for the tick that ends the first. -/
theorem park_park_undefined :
    run step (boot blank .blank) [.post park0, .post park0, .turn, .turn, .turn]
      = .error (.transitionUndefined "Adm::setParked") := rfl

end Lgt8.Sweep

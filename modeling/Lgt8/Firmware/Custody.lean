import Mathlib.Tactic
import Lgt8.Library.Ledger
import Lgt8.Library.Runs
import Lgt8.Firmware.World

/-!
# Custody of the message objects

A message object is in the custody of the event that announces it: whoever takes that event out of
its queue has to delete the object or hand the event on.  `letters` lists the objects announced in
a queue, `Filed eth` says that an event is where it belongs — in a queue whose owner deletes the
messages of signal `eth` — and `Clears` is what a turn of such an owner's loop has to do.

* **`Clears.pass`** — a pass of turns that clear keeps the books balanced, and the only fault it
  can raise is an undefined transition.
-/

namespace Lgt8

open Library

/-- The signals under which messages travel. -/
def ethSigs : List SigTypes := [.ctrlEthSig, .sweepEthSig, .servoEthSig, .monitorEthSig]

/-- The event is under one of them. -/
def IsEth (e : Event) : Prop := ∃ sig ∈ ethSigs, e.evtype = sig.bits

instance (e : Event) : Decidable (IsEth e) :=
  inferInstanceAs (Decidable (∃ sig ∈ ethSigs, e.evtype = sig.bits))

/-- The object an event announces. -/
def letter (e : Event) : Option ℕ :=
  match e.payload with
  | .msg a => if IsEth e then some a else none
  | _ => none

/-- The objects announced in a queue. -/
def letters (es : List Event) : List ℕ := es.filterMap letter

/-- The event belongs in a queue whose owner deletes the messages of `eth`. -/
inductive Filed (eth : SigTypes) : Event → Prop
  | msg (n : UInt8) (a : ℕ) : Filed eth (.of eth n (.msg a))
  | own {e : Event} (h : ¬ IsEth e) : Filed eth e

@[simp] lemma letters_nil : letters [] = [] := rfl

@[simp] lemma letters_append (es fs : List Event) :
    letters (es ++ fs) = letters es ++ letters fs := List.filterMap_append

lemma letter_msg {eth : SigTypes} (heth : eth ∈ ethSigs) (n : UInt8) (a : ℕ) :
    letter (.of eth n (.msg a)) = some a := if_pos ⟨eth, heth, rfl⟩

lemma letter_own {e : Event} (h : ¬ IsEth e) : letter e = none := by
  rw [letter]
  split
  · exact if_neg h
  · rfl

lemma letters_cons_msg {eth : SigTypes} (heth : eth ∈ ethSigs) (n : UInt8) (a : ℕ)
    (es : List Event) : letters (.of eth n (.msg a) :: es) = a :: letters es :=
  List.filterMap_cons_some (letter_msg heth n a)

lemma letters_cons_own {e : Event} (h : ¬ IsEth e) (es : List Event) :
    letters (e :: es) = letters es := List.filterMap_cons_none (letter_own h)

/-- Under another signal an event in place announces nothing. -/
lemma Filed.letters_of_ne {eth : SigTypes} {e : Event} (h : Filed eth e)
    (hty : e.evtype ≠ eth.bits) : letters [e] = [] := by
  cases h with
  | msg n a => exact absurd rfl hty
  | own hn => exact letters_cons_own hn []

lemma Filed.letters_of_eq {eth : SigTypes} (heth : eth ∈ ethSigs) {e : Event} (h : Filed eth e)
    (hty : e.evtype = eth.bits) : ∃ a, letters [e] = [a] := by
  cases h with
  | msg n a => exact ⟨a, letters_cons_msg heth n a []⟩
  | own hn => exact absurd ⟨eth, heth, hty⟩ hn

/-- The queue has gained events that announce nothing. -/
def Gains (es es' : List Event) : Prop := ∃ own, es' = es ++ own ∧ ∀ e ∈ own, ¬ IsEth e

lemma Gains.refl (es : List Event) : Gains es es := ⟨[], by simp, nofun⟩

lemma Gains.letters {es es' : List Event} (h : Gains es es') : letters es' = letters es := by
  obtain ⟨own, rfl, hown⟩ := h
  rw [letters_append]
  induction own with
  | nil => exact List.append_nil _
  | cons e own ih =>
      rw [letters_cons_own (hown e (by simp))]
      exact ih fun f hf => hown f (by simp [hf])

lemma Gains.filed {eth : SigTypes} {es es' : List Event} (h : Gains es es')
    (hes : ∀ e ∈ es, Filed eth e) : ∀ e ∈ es', Filed eth e := by
  obtain ⟨own, rfl, hown⟩ := h
  intro e he
  rcases List.mem_append.mp he with he | he
  · exact hes e he
  · exact .own (hown e he)

/-! ## A module that clears its queue -/

section

variable {σ : Type} {eth : SigTypes} {queue : σ → List Event} {heap : σ → Heap}
  {turn : σ → Except Fault σ}

/-- A turn takes the front event out of the queue, deletes the message it announces if it announces
one, and queues nothing that does. -/
structure Clears (eth : SigTypes) (queue : σ → List Event) (heap : σ → Heap)
    (turn : σ → Except Fault σ) : Prop where
  msg : ∀ {s n a rest}, queue s = .of eth n (.msg a) :: rest → (heap s).cell a ≠ none →
    Yields (fun t => heap t = (heap s).delete a ∧ Gains rest (queue t)) Fault.Undefined (turn s)
  own : ∀ {s e rest}, queue s = e :: rest → ¬ IsEth e →
    Yields (fun t => heap t = heap s ∧ Gains rest (queue t)) Fault.Undefined (turn s)

/-- The books, with what is held elsewhere. -/
structure Balanced (eth : SigTypes) (queue : σ → List Event) (heap : σ → Heap)
    (others : List ℕ) (s : σ) : Prop where
  filed : ∀ e ∈ queue s, Filed eth e
  ledger : Ledger (heap s).live (letters (queue s) ++ others)

/-- **A turn keeps the books balanced.** -/
theorem Clears.keeps (h : Clears eth queue heap turn) (heth : eth ∈ ethSigs) {others : List ℕ}
    {s : σ} (hs : Balanced eth queue heap others s) (hq : queue s ≠ []) :
    Yields (Balanced eth queue heap others) Fault.Undefined (turn s) := by
  obtain ⟨e, rest, he⟩ := List.exists_cons_of_ne_nil hq
  have hfiled := he ▸ hs.filed
  have hrest : ∀ f ∈ rest, Filed eth f := fun f hf => hfiled f (List.mem_cons_of_mem _ hf)
  have hledger := he ▸ hs.ledger
  cases hfiled e List.mem_cons_self with
  | msg n a =>
      rw [letters_cons_msg heth, List.cons_append] at hledger
      have live : (heap s).cell a ≠ none := by
        have := hledger.live_head
        rw [Heap.live] at this
        exact Option.isSome_iff_ne_none.mp this
      refine (h.msg he live).imp ?_
      rintro t ⟨hheap, hgains⟩
      refine ⟨hgains.filed hrest, ?_⟩
      rw [hheap, Heap.live_delete, hgains.letters]
      exact hledger.release
  | own hown =>
      rw [letters_cons_own hown] at hledger
      refine (h.own he hown).imp ?_
      rintro t ⟨hheap, hgains⟩
      refine ⟨hgains.filed hrest, ?_⟩
      rw [hheap, hgains.letters]
      exact hledger

/-- **A pass keeps the books balanced.** -/
theorem Clears.pass (h : Clears eth queue heap turn) (heth : eth ∈ ethSigs) {others : List ℕ}
    {s : σ} (hs : Balanced eth queue heap others s) (n : ℕ) :
    Yields (Balanced eth queue heap others) Fault.Undefined
      (drain (fun s => !(queue s).isEmpty) turn n s) :=
  drain_yields (fun _ hI hp => h.keeps heth hI (by simpa using hp)) hs

end

end Lgt8

import Mathlib.Tactic

/-!
# Who owns what

A program makes objects and hands them about; `live` says which exist, and `held` lists the places
that are to give them back, one entry a place.  The books balance (`Ledger`) when every object that
exists is held in exactly one place and no other is held: then every object will be given back once,
and none is forgotten.

`Ledger.acquire` and `Ledger.release` are the two honest transactions.  The two dishonest ones leave
a state in which the books do not even agree on *which* objects exist: an object made and held
nowhere (`Ledger.not_exact_of_leak`), and a place given up without giving back what it held
(`Ledger.not_exact_of_loss`).
-/

namespace Library

variable {α : Type*} [DecidableEq α] {live : α → Bool} {held held' : List α} {a : α}

/-- What exists is held in exactly one place, and nothing else is. -/
def Ledger (live : α → Bool) (held : List α) : Prop :=
  ∀ a, held.count a = if live a then 1 else 0

/-- What exists is what is held. -/
def Exact (live : α → Bool) (held : List α) : Prop := ∀ a, live a = true ↔ a ∈ held

lemma Ledger.exact (h : Ledger live held) : Exact live held := by
  intro a
  have ha := h a
  rw [← List.count_pos_iff, ha]
  split
  · case isTrue hl => simp [hl]
  · case isFalse hl => simp [hl]

/-- Only the number of places counts, not their order. -/
lemma Ledger.of_count (h : Ledger live held) (hc : ∀ a, held'.count a = held.count a) :
    Ledger live held' := fun a => (hc a).trans (h a)

lemma Ledger.acquire (h : Ledger live held) (ha : live a = false) :
    Ledger (Function.update live a true) (a :: held) := by
  intro b
  by_cases hb : b = a
  · rw [hb, List.count_cons_self, h a, ha, Function.update_self]
    rfl
  · rw [List.count_cons_of_ne (Ne.symm hb), h b, Function.update_of_ne hb]

lemma Ledger.release (h : Ledger live (a :: held)) :
    Ledger (Function.update live a false) held := by
  intro b
  have hb := h b
  by_cases hba : b = a
  · rw [hba, List.count_cons_self] at hb
    rw [hba, Function.update_self]
    split at hb <;> simp <;> omega
  · rw [List.count_cons_of_ne (Ne.symm hba)] at hb
    rw [Function.update_of_ne hba, hb]

lemma Ledger.live_head (h : Ledger live (a :: held)) : live a = true :=
  (h.exact a).mpr List.mem_cons_self

/-- An object made and held nowhere. -/
lemma Ledger.not_exact_of_leak (h : Ledger live held) (ha : live a = false) :
    ¬ Exact (Function.update live a true) held := by
  intro he
  have hmem := (he a).mp (Function.update_self ..)
  rw [(h.exact a).mpr hmem] at ha
  cases ha

/-- A place given up with what it held. -/
lemma Ledger.not_exact_of_loss (h : Ledger live (a :: held)) : ¬ Exact live held := by
  intro he
  have hpos := List.count_pos_iff.mpr ((he a).mp h.live_head)
  have hc := h a
  rw [List.count_cons_self, h.live_head, if_pos rfl] at hc
  omega

end Library

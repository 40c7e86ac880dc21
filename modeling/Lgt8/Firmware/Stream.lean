import Mathlib.Tactic
import Lgt8.Library.Fields
import Lgt8.Firmware.Status

/-!
# The layout of the status stream

Slot `i` of the stream has the eleven bytes from `11 * i` on, flag `j` the byte at `110 + 2 * j` and
the one behind it.  A store writes the bytes of its own slot or flag and no others, so what the
layout says of one field survives every store of another.

* `SlotAt`, `FlagAt` — a field of the stream shows the remembered value.
* **`storeMonitorSlot_slotAt`**, **`storeMonitorFlag_flagAt`** — a store keeps every field.
* `Stores` — any number of stores; **`Stores.updated`** — none of them clears `status_updated`.
* **`initStatus_flagAt`**, **`initStatus_slotAt`** — after `initStatus` every slot and every flag but
  the last shows its value.
-/

namespace Lgt8.Status

open Library

variable {F : Type} [DoubleOps F]

/-! ## Fields -/

/-- The bytes of slot `i` are the text of its value and the comma, as far as eleven bytes go. -/
def SlotAt (i : ℕ) (st : Status F) : Prop :=
  ∀ k < 11, st.statusStream (11 * i + k)
    = (DoubleOps.sprintfE (st.statusvals i) ++ [44, 0]).getD k 0

/-- The character of flag `j` and the byte behind it. -/
def FlagAt (j : ℕ) (st : Status F) : Prop :=
  st.statusStream (110 + 2 * j) = (if st.statusflags j then 49 else 48) ∧
    st.statusStream (111 + 2 * j) = if j = 11 then 0 else 44

lemma statusflagsPtr_eq {j : ℕ} (h : j < 13) : statusflagsPtr.getD j 0 = 110 + 2 * j := by
  interval_cases j <;> rfl

/-! ## What a store writes -/

lemma storeMonitorSlot_unchanged {st : Status F} {i : ℕ} {v : F}
    (h : DoubleOps.eq (st.statusvals i) v = true) : st.storeMonitorSlot i v = st := if_pos h

lemma storeMonitorSlot_statusvals {st : Status F} {i : ℕ} {v : F}
    (h : DoubleOps.eq (st.statusvals i) v = false) :
    (st.storeMonitorSlot i v).statusvals = Function.update st.statusvals i v := by
  rw [storeMonitorSlot, h]
  rfl

@[simp] lemma storeMonitorSlot_statusflags (st : Status F) (i : ℕ) (v : F) :
    (st.storeMonitorSlot i v).statusflags = st.statusflags := by
  rw [storeMonitorSlot]
  split <;> rfl

lemma storeMonitorSlot_inside {st : Status F} {i k : ℕ} {v : F}
    (h : DoubleOps.eq (st.statusvals i) v = false) (hk : k < 11) :
    (st.storeMonitorSlot i v).statusStream (11 * i + k)
      = (DoubleOps.sprintfE v ++ [44, 0]).getD k 0 := by
  rw [storeMonitorSlot, h]
  simp only [Bool.false_eq_true, if_false, write, List.length_map, List.length_range]
  rw [if_pos (by omega), show 11 * i + k - (i * 10 + i) = k by omega]
  simp only [List.getD_eq_getElem?_getD, List.getElem?_map, List.getElem?_range hk]
  rfl

lemma storeMonitorSlot_outside (st : Status F) {i n : ℕ} (v : F)
    (h : n < 11 * i ∨ 11 * i + 11 ≤ n) :
    (st.storeMonitorSlot i v).statusStream n = st.statusStream n := by
  rw [storeMonitorSlot]
  split
  · rfl
  · simp only [write, List.length_map, List.length_range]
    rw [if_neg (by omega)]

omit [DoubleOps F] in
lemma storeMonitorFlag_unchanged {st : Status F} {j : ℕ} {b : Bool} (h : st.statusflags j = b) :
    st.storeMonitorFlag j b = st := if_pos h

omit [DoubleOps F] in
@[simp] lemma storeMonitorFlag_statusvals (st : Status F) (j : ℕ) (b : Bool) :
    (st.storeMonitorFlag j b).statusvals = st.statusvals := by
  rw [storeMonitorFlag]
  split <;> rfl

omit [DoubleOps F] in
/-- Whether or not anything was written, the flag is remembered. -/
@[simp] lemma storeMonitorFlag_statusflags (st : Status F) (j : ℕ) (b : Bool) :
    (st.storeMonitorFlag j b).statusflags = Function.update st.statusflags j b := by
  rw [storeMonitorFlag]
  split
  · next h => rw [← h, Function.update_eq_self]
  · rfl

omit [DoubleOps F] in
lemma storeMonitorFlag_inside {st : Status F} {j : ℕ} {b : Bool} (hj : j < 13)
    (h : st.statusflags j ≠ b) : FlagAt j (st.storeMonitorFlag j b) := by
  constructor
  · rw [storeMonitorFlag_statusflags, Function.update_self, storeMonitorFlag, if_neg h,
      statusflagsPtr_eq hj]
    simp [write]
  · rw [storeMonitorFlag, if_neg h, statusflagsPtr_eq hj]
    simp only [write, List.length_singleton]
    rw [if_pos (by omega), show 111 + 2 * j - (110 + 2 * j + 1) = 0 by omega]
    rfl

omit [DoubleOps F] in
lemma storeMonitorFlag_outside (st : Status F) {j n : ℕ} (b : Bool) (hj : j < 13)
    (h : n < 110 + 2 * j ∨ 110 + 2 * j + 2 ≤ n) :
    (st.storeMonitorFlag j b).statusStream n = st.statusStream n := by
  rw [storeMonitorFlag]
  split
  · rfl
  · rw [statusflagsPtr_eq hj]
    simp only [write, List.length_singleton]
    rw [if_neg (by omega), if_neg (by omega)]

/-! ## Stores keep the layout -/

/-- **A store of a slot keeps the slots.** -/
theorem storeMonitorSlot_slotAt {st : Status F} {i l : ℕ} (h : SlotAt l st) (v : F) :
    SlotAt l (st.storeMonitorSlot i v) := by
  cases heq : DoubleOps.eq (st.statusvals i) v with
  | true => rwa [storeMonitorSlot_unchanged heq]
  | false =>
      intro k hk
      rw [storeMonitorSlot_statusvals heq]
      by_cases hl : l = i
      · subst hl
        rw [storeMonitorSlot_inside heq hk, Function.update_self]
      · rw [storeMonitorSlot_outside st v (by omega), Function.update_of_ne hl]
        exact h k hk

lemma storeMonitorSlot_flagAt {st : Status F} {i j : ℕ} (h : FlagAt j st) (hi : i < 10) (v : F) :
    FlagAt j (st.storeMonitorSlot i v) := by
  rw [FlagAt, storeMonitorSlot_outside st v (by omega), storeMonitorSlot_outside st v (by omega),
    storeMonitorSlot_statusflags]
  exact h

omit [DoubleOps F] in
/-- **A store of a flag keeps the flags.** -/
theorem storeMonitorFlag_flagAt {st : Status F} {j l : ℕ} (h : FlagAt l st) (hj : j < 13)
    (b : Bool) : FlagAt l (st.storeMonitorFlag j b) := by
  by_cases heq : st.statusflags j = b
  · rwa [storeMonitorFlag_unchanged heq]
  · by_cases hl : l = j
    · subst hl
      exact storeMonitorFlag_inside hj heq
    · rw [FlagAt, storeMonitorFlag_outside st b hj (by omega),
        storeMonitorFlag_outside st b hj (by omega), storeMonitorFlag_statusflags,
        Function.update_of_ne hl]
      exact h

lemma storeMonitorFlag_slotAt {st : Status F} {i j : ℕ} (h : SlotAt i st) (hi : i < 10)
    (hj : j < 13) (b : Bool) : SlotAt i (st.storeMonitorFlag j b) := by
  intro k hk
  rw [storeMonitorFlag_outside st b hj (by omega), storeMonitorFlag_statusvals]
  exact h k hk

/-! ## Any number of stores -/

/-- The status `st'` comes from `st` by stores in slots and flags that exist. -/
inductive Stores (st : Status F) : Status F → Prop
  | refl : Stores st st
  | slot {st'} (h : Stores st st') {i : ℕ} (hi : i < 10) (v : F) :
      Stores st (st'.storeMonitorSlot i v)
  | flag {st'} (h : Stores st st') {j : ℕ} (hj : j < 13) (b : Bool) :
      Stores st (st'.storeMonitorFlag j b)

lemma Stores.trans {st st' st'' : Status F} (h : Stores st st') (h' : Stores st' st'') :
    Stores st st'' := by
  induction h' with
  | refl => exact h
  | slot _ hi v ih => exact ih.slot hi v
  | flag _ hj b ih => exact ih.flag hj b

/-- **Every flag stays shown.** -/
lemma Stores.flagAt {st st' : Status F} (h : Stores st st') {j : ℕ} (hj : FlagAt j st) :
    FlagAt j st' := by
  induction h with
  | refl => exact hj
  | slot _ hi v ih => exact storeMonitorSlot_flagAt ih hi v
  | flag _ hj b ih => exact storeMonitorFlag_flagAt ih hj b

/-- **Every slot stays shown.** -/
lemma Stores.slotAt {st st' : Status F} (h : Stores st st') {i : ℕ} (hi : i < 10)
    (hs : SlotAt i st) : SlotAt i st' := by
  induction h with
  | refl => exact hs
  | slot _ _ v ih => exact storeMonitorSlot_slotAt ih v
  | flag _ hj b ih => exact storeMonitorFlag_slotAt ih hi hj b

lemma storeMonitorSlot_updated (st : Status F) (i : ℕ) (v : F)
    (h : st.statusUpdated = true) : (st.storeMonitorSlot i v).statusUpdated = true := by
  rw [storeMonitorSlot]
  split
  · exact h
  · rfl

omit [DoubleOps F] in
lemma storeMonitorFlag_updated (st : Status F) (j : ℕ) (b : Bool)
    (h : st.statusUpdated = true) : (st.storeMonitorFlag j b).statusUpdated = true := by
  rw [storeMonitorFlag]
  split
  · exact h
  · rfl

/-- **`status_updated` is never cleared.** -/
lemma Stores.updated {st st' : Status F} (h : Stores st st') (hu : st.statusUpdated = true) :
    st'.statusUpdated = true := by
  induction h with
  | refl => exact hu
  | slot _ _ v ih => exact storeMonitorSlot_updated _ _ v ih
  | flag _ _ b ih => exact storeMonitorFlag_updated _ _ b ih

/-! ## `initStatus` -/

/-- The value `initStatus` stores in slot `i`. -/
def initVal (i : ℕ) : F :=
  DoubleOps.add (DoubleOps.mul (DoubleOps.ofInt i) (DoubleOps.ofInt 80))
    (DoubleOps.ofInt (i / 3 : ℕ))

/-- `initStatus` on slot `i`: another value is remembered first, so that the store writes. -/
def initSlot (st : Status F) (i : ℕ) : Status F :=
  { st with statusvals := Function.update st.statusvals i (DoubleOps.ofInt (-100000)) }
    |>.storeMonitorSlot i (initVal i)

/-- `initStatus` on flag `j`: the other value is remembered first, so that the store writes. -/
def initFlag (st : Status F) (j : ℕ) : Status F :=
  { st with statusflags := Function.update st.statusflags j false }.storeMonitorFlag j true

lemma initStatus_eq (st : Status F) :
    st.initStatus = (List.range 12).foldl initFlag ((List.range 10).foldl initSlot st) := rfl

omit [DoubleOps F] in
lemma initFlag_self (st : Status F) {j : ℕ} (hj : j < 12) :
    FlagAt j (initFlag st j) ∧ (initFlag st j).statusflags j = true := by
  constructor
  · exact storeMonitorFlag_inside (by omega) (by simp)
  · rw [initFlag, storeMonitorFlag_statusflags, Function.update_self]

omit [DoubleOps F] in
lemma initFlag_flagAt {st : Status F} {j l : ℕ} (h : FlagAt l st ∧ st.statusflags l = true)
    (hj : j < 12) : FlagAt l (initFlag st j) ∧ (initFlag st j).statusflags l = true := by
  by_cases hl : l = j
  · subst hl
    exact initFlag_self st hj
  · have hflags : (initFlag st j).statusflags l = st.statusflags l := by
      rw [initFlag, storeMonitorFlag_statusflags, Function.update_of_ne hl]
      exact Function.update_of_ne hl false st.statusflags
    refine ⟨?_, hflags.trans h.2⟩
    rw [FlagAt, hflags, initFlag, storeMonitorFlag_outside _ _ (by omega) (by omega),
      storeMonitorFlag_outside _ _ (by omega) (by omega)]
    exact h.1

/-- **After `initStatus` every flag but the last is shown, and is set.** -/
theorem initStatus_flagAt (st : Status F) {j : ℕ} (hj : j < 12) :
    FlagAt j st.initStatus ∧ st.initStatus.statusflags j = true := by
  rw [initStatus_eq]
  exact foldl_range_all (P := fun j st => FlagAt j st ∧ st.statusflags j = true)
    (fun s i hi => initFlag_self s hi) (fun s i l hi _ h => initFlag_flagAt h hi) _ j hj

omit [DoubleOps F] in
lemma initFlag_updated (st : Status F) (j : ℕ) : (initFlag st j).statusUpdated = true := by
  rw [initFlag, storeMonitorFlag, if_neg (by simp)]

/-- After `initStatus` the stream counts as changed. -/
lemma initStatus_updated (st : Status F) : st.initStatus.statusUpdated = true := by
  rw [initStatus_eq, List.range_succ, List.foldl_append, List.foldl_cons, List.foldl_nil]
  exact initFlag_updated _ 11

lemma initFlag_slotAt {st : Status F} {i j : ℕ} (h : SlotAt i st) (hi : i < 10) (hj : j < 12) :
    SlotAt i (initFlag st j) := by
  refine storeMonitorFlag_slotAt ?_ hi (by omega) true
  exact h

omit [DoubleOps F] in
lemma initFlag_statusvals (st : Status F) (j : ℕ) :
    (initFlag st j).statusvals = st.statusvals := by
  rw [initFlag, storeMonitorFlag_statusvals]

section

variable (hinit : ∀ i < 10, DoubleOps.eq (DoubleOps.ofInt (-100000)) (initVal i : F) = false)
include hinit

lemma initSlot_self (st : Status F) {i : ℕ} (hi : i < 10) :
    SlotAt i (initSlot st i) ∧ (initSlot st i).statusvals i = initVal i := by
  have hne : DoubleOps.eq (Function.update st.statusvals i (DoubleOps.ofInt (-100000)) i)
      (initVal i : F) = false := by
    rw [Function.update_self]
    exact hinit i hi
  have hval : (initSlot st i).statusvals i = initVal i := by
    rw [initSlot, storeMonitorSlot_statusvals hne, Function.update_self]
  refine ⟨?_, hval⟩
  intro k hk
  rw [hval, initSlot, storeMonitorSlot_inside hne hk]

lemma initSlot_slotAt {st : Status F} {i l : ℕ} (h : SlotAt l st ∧ st.statusvals l = initVal l)
    (hi : i < 10) : SlotAt l (initSlot st i) ∧ (initSlot st i).statusvals l = initVal l := by
  by_cases hl : l = i
  · subst hl
    exact initSlot_self hinit st hi
  · have hne : DoubleOps.eq (Function.update st.statusvals i (DoubleOps.ofInt (-100000)) i)
        (initVal i : F) = false := by
      rw [Function.update_self]
      exact hinit i hi
    have hval : (initSlot st i).statusvals l = st.statusvals l := by
      rw [initSlot, storeMonitorSlot_statusvals hne, Function.update_of_ne hl]
      exact Function.update_of_ne hl _ st.statusvals
    refine ⟨?_, hval.trans h.2⟩
    intro k hk
    rw [hval, initSlot, storeMonitorSlot_outside _ _ (by omega)]
    exact h.1 k hk

/-- **After `initStatus` every slot is shown**, with the value it was given. -/
theorem initStatus_slotAt (st : Status F) {i : ℕ} (hi : i < 10) :
    SlotAt i st.initStatus ∧ st.initStatus.statusvals i = initVal i := by
  have hslots := foldl_range_all (P := fun i st => SlotAt i st ∧ st.statusvals i = initVal i)
    (fun s i hi => initSlot_self hinit s hi) (fun s i l hi _ h => initSlot_slotAt hinit h hi) st i hi
  rw [initStatus_eq]
  exact foldl_range_keep (I := fun st => SlotAt i st ∧ st.statusvals i = initVal i)
    (fun s j hj h => ⟨initFlag_slotAt h.1 hi hj,
    (congrFun (initFlag_statusvals s j) i).trans h.2⟩) hslots

end

end Lgt8.Status

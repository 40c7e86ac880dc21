import Mathlib.Tactic
import Lgt8.Firmware.Printf
import Lgt8.Firmware.Stream

/-!
# What a client reads in the status stream

The slots hold finite values with their sign bit here, whose texts have a two-digit exponent
(`TwoDigit`).  A client takes the stream up to its NUL and splits it at the commas.

* `lastSlot`, `shownSlot` — the value a slot was last given, and the one whose text it shows.  They are
  equal, but a zero may show the sign of an earlier zero.
* `Reads n` — the fields the client finds are the ten slots and the first `n` flags, each as last
  stored.
* `fields_length` — there is one field for each slot that shows no sign, and twelve more.
* **`reads_iff`** — the last flag is never read, and the rest is read exactly when no slot shows a
  sign.
-/

namespace Lgt8.Status

open Library

/-! ## Stores and what they leave -/

/-- A call of one of the two functions. -/
inductive Store
  | slot (i : Fin 10) (v : Signed)
  | flag (k : StFlags) (b : Bool)

def store (st : Status Signed) : Store → Status Signed
  | .slot i v => st.storeMonitorSlot i v
  | .flag k b => st.storeMonitorFlag k.index b

/-- `initStatus`, and then the calls in order. -/
def stored (st : Status Signed) (calls : List Store) : Status Signed :=
  calls.foldl store st.initStatus

/-- The last value stored in slot `i` after one more call. -/
def slotAfter (i : ℕ) (v : Signed) : Store → Signed
  | .slot l w => if l = i then w else v
  | .flag _ _ => v

/-- The value slot `i` shows after one more call.  A value equal to the one shown changes nothing, so
of the two zeros the first one stays. -/
def shownAfter (i : ℕ) (v : Signed) : Store → Signed
  | .slot l w => if l = i ∧ v.value ≠ w.value then w else v
  | .flag _ _ => v

/-- The last value stored in flag `j` after one more call. -/
def flagAfter (j : ℕ) (b : Bool) : Store → Bool
  | .slot _ _ => b
  | .flag k c => if k.index = j then c else b

/-- The last value stored in slot `i`, by `initStatus` or a call. -/
def lastSlot (i : ℕ) (calls : List Store) : Signed := calls.foldl (slotAfter i) (initVal i)

/-- The value slot `i` shows: of the last values stored in it that were all equal, the first. -/
def shownSlot (i : ℕ) (calls : List Store) : Signed := calls.foldl (shownAfter i) (initVal i)

/-- The last value stored in flag `j`.  `initStatus` stores none in the last flag. -/
def lastFlag (st : Status Signed) (j : ℕ) (calls : List Store) : Bool :=
  calls.foldl (flagAfter j) (if j < 12 then true else st.statusflags j)

lemma shownAfter_value {i : ℕ} {v w : Signed} (h : v.value = w.value) (c : Store) :
    (shownAfter i v c).value = (slotAfter i w c).value := by
  cases c with
  | slot l x =>
      rw [shownAfter, slotAfter]
      by_cases hl : l = i
      · rw [if_pos hl]
        split_ifs with hx
        · rfl
        · exact not_not.mp fun hne => hx ⟨hl, hne⟩
      · rw [if_neg hl, if_neg fun hn => hl hn.1]
        exact h
  | flag k b => exact h

/-- What a slot shows is what was last stored in it, but for the sign of a zero. -/
lemma shownSlot_value (i : ℕ) (calls : List Store) :
    (shownSlot i calls).value = (lastSlot i calls).value :=
  foldl_track (fun v w : Signed => v.value = w.value) (fun _ _ c h => shownAfter_value h c) calls rfl

lemma store_slotAt {st : Status Signed} {i : ℕ} {v : Signed} (hi : i < 10)
    (h : SlotAt i st ∧ st.statusvals i = v) (c : Store) :
    SlotAt i (store st c) ∧ (store st c).statusvals i = shownAfter i v c := by
  cases c with
  | slot l w =>
      refine ⟨storeMonitorSlot_slotAt h.1 w, ?_⟩
      rw [store, shownAfter]
      by_cases heq : (st.statusvals l).value = w.value
      · have hsame : ¬ (l.val = i ∧ v.value ≠ w.value) := by
          rintro ⟨rfl, hne⟩
          exact hne (h.2 ▸ heq)
        rw [storeMonitorSlot_unchanged (decide_eq_true heq), h.2, if_neg hsame]
      · rw [storeMonitorSlot_statusvals (decide_eq_false heq), Function.update_apply, h.2]
        refine if_congr ⟨fun hi => ⟨hi.symm, ?_⟩, fun hl => hl.1.symm⟩ rfl rfl
        subst hi
        rw [← h.2]
        exact heq
  | flag k b =>
      refine ⟨storeMonitorFlag_slotAt h.1 hi k.index_lt b, ?_⟩
      rw [store, storeMonitorFlag_statusvals]
      exact h.2

lemma store_flagAt {st : Status Signed} {j : ℕ} {b : Bool}
    (h : FlagAt j st ∧ st.statusflags j = b) (c : Store) :
    FlagAt j (store st c) ∧ (store st c).statusflags j = flagAfter j b c := by
  cases c with
  | slot l w =>
      refine ⟨storeMonitorSlot_flagAt h.1 l.isLt w, ?_⟩
      rw [store, storeMonitorSlot_statusflags]
      exact h.2
  | flag k c =>
      refine ⟨storeMonitorFlag_flagAt h.1 k.index_lt c, ?_⟩
      rw [store, storeMonitorFlag_statusflags, flagAfter, Function.update_apply, h.2]
      simp only [eq_comm]

lemma value_ofInt (n : ℤ) : (DoubleOps.ofInt n : Signed).value = n := Signed.value_ofValue _ _

lemma value_mul (x y : Signed) : (DoubleOps.mul x y).value = x.value * y.value := by
  show Signed.value ⟨x.negative != y.negative, x.magnitude * y.magnitude⟩ = _
  rw [Signed.value, Signed.value, Signed.value]
  cases x.negative <;> cases y.negative <;> simp

/-- The values `initStatus` stores. -/
lemma initVal_value (i : ℕ) : (initVal i : Signed).value = 80 * i + (i / 3 : ℕ) := by
  refine (Signed.value_ofValue _ _).trans ?_
  rw [value_mul, value_ofInt, value_ofInt, value_ofInt, Int.cast_natCast, Int.cast_natCast,
    Int.cast_ofNat, mul_comm]

/-- `initStatus` shows every slot. -/
lemma initStatus_shows (st : Status Signed) {i : ℕ} (hi : i < 10) :
    SlotAt i st.initStatus ∧ st.initStatus.statusvals i = initVal i := by
  refine initStatus_slotAt (fun i _ => decide_eq_false (ne_of_lt ?_)) st hi
  have hpos : (0 : ℚ) ≤ 80 * i + (i / 3 : ℕ) := by positivity
  rw [initVal_value, value_ofInt]
  push_cast
  linarith

/-- **Every slot shows what it is to show.** -/
theorem stored_slotAt (st : Status Signed) (calls : List Store) {i : ℕ} (hi : i < 10) :
    SlotAt i (stored st calls) ∧ (stored st calls).statusvals i = shownSlot i calls :=
  foldl_track (fun st v => SlotAt i st ∧ st.statusvals i = v)
    (fun _ _ c h => store_slotAt hi h c) calls (initStatus_shows st hi)

/-- **Every flag but the last shows what was last stored in it.** -/
theorem stored_flagAt (st : Status Signed) (calls : List Store) {j : ℕ} (hj : j < 12) :
    FlagAt j (stored st calls) ∧ (stored st calls).statusflags j = lastFlag st j calls := by
  rw [lastFlag, if_pos hj]
  exact foldl_track (fun st b => FlagAt j st ∧ st.statusflags j = b)
    (fun _ _ c h => store_flagAt h c) calls (initStatus_flagAt st hj)

/-! ## The text -/

/-- The stream up to its NUL. -/
def text (st : Status Signed) : List UInt8 :=
  ((List.range 150).map st.statusStream).takeWhile fun b => b ≠ 0

/-- The bytes of a slot: the comma is there unless a sign took its place. -/
def slotField (x : Signed) : List UInt8 := DoubleOps.sprintfE x ++ if x.negative then [] else [44]

def flagField (b : Bool) : List UInt8 := [if b then 49 else 48]

lemma sprintfE_length {x : Signed} (h : TwoDigit x.value) :
    (DoubleOps.sprintfE x).length = if x.negative then 11 else 10 := by
  rw [sprintfE_signed, signedText_length _ h]

lemma slot_bytes {st : Status Signed} {i : ℕ} (h : SlotAt i st)
    (htwo : TwoDigit (st.statusvals i).value) :
    ((List.range 11).map fun k => st.statusStream (11 * i + k)) = slotField (st.statusvals i) := by
  have hlen := sprintfE_length htwo
  have hcells : ((List.range 11).map fun k => st.statusStream (11 * i + k)) = (List.range 11).map
      fun k => (DoubleOps.sprintfE (st.statusvals i) ++ [44, 0]).getD k 0 :=
    List.map_congr_left fun k hk => h k (List.mem_range.mp hk)
  rw [hcells, map_range_getD 0 (by rw [List.length_append, hlen]; split <;> decide), slotField,
    List.take_append, hlen]
  split_ifs at hlen ⊢
  · rw [List.take_of_length_le hlen.le]
    rfl
  · rw [List.take_of_length_le (by omega)]
    rfl

lemma flag_bytes {st : Status Signed} {j : ℕ} (h : FlagAt j st) :
    ((List.range 2).map fun k => st.statusStream (110 + (2 * j + k)))
      = flagField (st.statusflags j) ++ [if j = 11 then 0 else 44] := by
  rw [flagField, ← h.1, ← h.2, List.range_succ, List.range_succ, List.range_zero]
  simp only [List.nil_append, List.map_append, List.map_cons, List.map_nil]
  rw [show 110 + (2 * j + 0) = 110 + 2 * j by ring, show 110 + (2 * j + 1) = 111 + 2 * j by ring]

/-- The fields of a stream, slots and flags. -/
def fieldsText (slots : ℕ → Signed) (flags : ℕ → Bool) : List UInt8 :=
  ((List.range 10).flatMap fun i => slotField (slots i))
    ++ (((List.range 11).flatMap fun j => flagField (flags j) ++ [44]) ++ flagField (flags 11))

lemma mem_sprintfE {x : Signed} {b : UInt8} (h : b ∈ DoubleOps.sprintfE x) : b ≠ 44 ∧ b ≠ 0 := by
  rw [sprintfE_signed] at h
  exact mem_signedText h

lemma ne_zero_of_mem_fieldsText {slots : ℕ → Signed} {flags : ℕ → Bool} {b : UInt8}
    (h : b ∈ fieldsText slots flags) : b ≠ 0 := by
  have hflag : ∀ c, b ∈ flagField c → b ≠ 0 := by
    intro c hb
    rw [List.mem_singleton.mp hb]
    cases c <;> decide
  rw [fieldsText, List.mem_append, List.mem_append] at h
  rcases h with h | h | h
  · obtain ⟨i, -, hi⟩ := List.mem_flatMap.mp h
    rcases List.mem_append.mp hi with hb | hb
    · exact (mem_sprintfE hb).2
    · split_ifs at hb
      · cases hb
      · rw [List.mem_singleton.mp hb]
        decide
  · obtain ⟨j, -, hj⟩ := List.mem_flatMap.mp h
    rcases List.mem_append.mp hj with hb | hb
    · exact hflag _ hb
    · rw [List.mem_singleton.mp hb]
      decide
  · exact hflag _ h

/-- **The text of the stream**: ten slots and twelve flags. -/
theorem text_eq {st : Status Signed}
    (hslots : ∀ i < 10, SlotAt i st ∧ TwoDigit (st.statusvals i).value)
    (hflags : ∀ j < 12, FlagAt j st) : text st = fieldsText st.statusvals st.statusflags := by
  have hfirst : ((List.range 10).flatMap fun i => (List.range 11).map fun k =>
      st.statusStream (11 * i + k)) = (List.range 10).flatMap fun i => slotField (st.statusvals i) :=
    List.flatMap_congr fun i hi =>
      slot_bytes (hslots i (List.mem_range.mp hi)).1 (hslots i (List.mem_range.mp hi)).2
  have hsecond : ((List.range 11).flatMap fun j => (List.range 2).map fun k =>
      st.statusStream (110 + (2 * j + k)))
        = (List.range 11).flatMap fun j => flagField (st.statusflags j) ++ [44] :=
    List.flatMap_congr fun j hj => by
      have := List.mem_range.mp hj
      rw [flag_bytes (hflags j (by omega)), if_neg (by omega)]
  have hlast := flag_bytes (hflags 11 (by decide))
  rw [text, show 150 = 10 * 11 + (12 * 2 + 16) by norm_num, map_range_add, map_range_mul, hfirst,
    map_range_add, map_range_mul, List.range_succ (n := 11), List.flatMap_append,
    List.flatMap_singleton, hsecond, hlast, if_pos rfl]
  have hsplit : ∀ rest : List UInt8, ((List.range 10).flatMap fun i => slotField (st.statusvals i))
      ++ (((List.range 11).flatMap fun j => flagField (st.statusflags j) ++ [44])
        ++ (flagField (st.statusflags 11) ++ [0]) ++ rest)
      = fieldsText st.statusvals st.statusflags ++ 0 :: rest := by
    intro rest
    simp [fieldsText]
  rw [hsplit, List.takeWhile_append_of_pos fun b hb => by
    simpa using ne_zero_of_mem_fieldsText hb]
  simp

/-! ## The fields -/

/-- What a client finds when it splits the text at the commas. -/
def fields (st : Status Signed) : List (List UInt8) := (text st).splitOn 44

/-- The client finds the ten slots and the first `n` flags, as last stored, and nothing else. -/
structure Reads (n : ℕ) (st : Status Signed) (slots : ℕ → Signed) (flags : ℕ → Bool) : Prop where
  length : (fields st).length = 10 + n
  slot : ∀ i < 10, parseDecimal ((fields st).getD i []) = some (round5 (slots i).value)
  flag : ∀ j < n, (fields st).getD (10 + j) [] = flagField (flags j)

lemma comma_notMem_sprintfE (x : Signed) : (44 : UInt8) ∉ DoubleOps.sprintfE x :=
  fun h => (mem_sprintfE h).1 rfl

lemma comma_notMem_flagField (b : Bool) : (44 : UInt8) ∉ flagField b := by
  cases b <;> decide

lemma count_slotField (x : Signed) :
    (slotField x).count 44 = if x.negative = false then 1 else 0 := by
  rw [slotField, List.count_append, List.count_eq_zero.mpr (comma_notMem_sprintfE x)]
  cases x.negative <;> rfl

/-- **How many fields there are.** -/
lemma fields_length (slots : ℕ → Signed) (flags : ℕ → Bool) :
    ((fieldsText slots flags).splitOn 44).length
      = ((List.range 10).countP fun i => (slots i).negative = false) + 12 := by
  have hflags : ((List.range 11).flatMap fun j => flagField (flags j) ++ [44]).count 44
      = (List.range 11).countP fun _ => True := by
    refine count_fields (p := fun _ => True) fun j _ => ?_
    rw [List.count_append, List.count_eq_zero.mpr (comma_notMem_flagField _)]
    rfl
  rw [length_splitOn, fieldsText, List.count_append, List.count_append, hflags,
    count_fields (p := fun i => (slots i).negative = false) fun i _ => count_slotField (slots i),
    List.count_eq_zero.mpr (comma_notMem_flagField _)]
  rfl

/-- Without a sign the fields are the texts of the slots and the flags. -/
lemma fields_of_unsigned {slots : ℕ → Signed} (flags : ℕ → Bool)
    (h : ∀ i < 10, (slots i).negative = false) :
    (fieldsText slots flags).splitOn 44
      = ((List.range 10).map fun i => DoubleOps.sprintfE (slots i))
        ++ (List.range 12).map fun j => flagField (flags j) := by
  have hslots : ((List.range 10).flatMap fun i => slotField (slots i))
      = ((List.range 10).map fun i => DoubleOps.sprintfE (slots i)).flatMap fun m => m ++ [44] := by
    rw [List.flatMap_map]
    refine List.flatMap_congr fun i hi => ?_
    rw [slotField, h i (List.mem_range.mp hi)]
    rfl
  have hflags : ((List.range 11).flatMap fun j => flagField (flags j) ++ [44])
      = ((List.range 11).map fun j => flagField (flags j)).flatMap fun m => m ++ [44] := by
    rw [List.flatMap_map]
  rw [fieldsText, hslots, hflags, ← List.append_assoc, ← List.flatMap_append,
    splitOn_terminated (comma_notMem_flagField _), List.append_assoc,
    List.range_succ (n := 11), List.map_append, List.map_singleton]
  intro m hm
  rcases List.mem_append.mp hm with hm | hm
  · obtain ⟨i, -, rfl⟩ := List.mem_map.mp hm
    exact comma_notMem_sprintfE _
  · obtain ⟨j, -, rfl⟩ := List.mem_map.mp hm
    exact comma_notMem_flagField _

section

variable {st : Status Signed} {slots : ℕ → Signed} {flags : ℕ → Bool}

lemma fields_eq (hslots : ∀ i < 10, SlotAt i st ∧ st.statusvals i = slots i)
    (hflags : ∀ j < 12, FlagAt j st ∧ st.statusflags j = flags j)
    (htwo : ∀ i < 10, TwoDigit (slots i).value) :
    fields st = (fieldsText slots flags).splitOn 44 := by
  have hs : ((List.range 10).flatMap fun i => slotField (st.statusvals i))
      = (List.range 10).flatMap fun i => slotField (slots i) :=
    List.flatMap_congr fun i hi => by rw [(hslots i (List.mem_range.mp hi)).2]
  have hf : ((List.range 11).flatMap fun j => flagField (st.statusflags j) ++ [44])
      = (List.range 11).flatMap fun j => flagField (flags j) ++ [44] :=
    List.flatMap_congr fun j hj => by
      have := List.mem_range.mp hj
      rw [(hflags j (by omega)).2]
  rw [fields, text_eq (fun i hi => ⟨(hslots i hi).1, by rw [(hslots i hi).2]; exact htwo i hi⟩)
    fun j hj => (hflags j hj).1, fieldsText, hs, hf, (hflags 11 (by decide)).2, fieldsText]

/-- The thirteenth flag lies behind the terminator. -/
lemma not_reads_all (hslots : ∀ i < 10, SlotAt i st ∧ st.statusvals i = slots i)
    (hflags : ∀ j < 12, FlagAt j st ∧ st.statusflags j = flags j)
    (htwo : ∀ i < 10, TwoDigit (slots i).value) : ¬ Reads 13 st slots flags := by
  intro h
  have hlen := h.length
  rw [fields_eq hslots hflags htwo, fields_length] at hlen
  have hle := List.countP_le_length (p := fun i => decide ((slots i).negative = false))
    (l := List.range 10)
  rw [List.length_range] at hle
  omega

lemma reads_iff_unsigned (hslots : ∀ i < 10, SlotAt i st ∧ st.statusvals i = slots i)
    (hflags : ∀ j < 12, FlagAt j st ∧ st.statusflags j = flags j)
    (htwo : ∀ i < 10, TwoDigit (slots i).value) :
    Reads 12 st slots flags ↔ ∀ i < 10, (slots i).negative = false := by
  constructor
  · intro h i hi
    have hlen := h.length
    rw [fields_eq hslots hflags htwo, fields_length] at hlen
    have hall : (List.range 10).countP (fun i => decide ((slots i).negative = false))
        = (List.range 10).length := by
      rw [List.length_range]
      omega
    exact of_decide_eq_true (List.countP_eq_length.mp hall i (List.mem_range.mpr hi))
  · intro h
    have heq := (fields_eq hslots hflags htwo).trans (fields_of_unsigned flags h)
    refine ⟨?_, fun i hi => ?_, fun j hj => ?_⟩
    · rw [heq]
      simp
    · rw [heq, List.getD_eq_getElem?_getD, List.getElem?_append_left (by simpa using hi),
        List.getElem?_map, List.getElem?_range hi]
      exact parseDecimal_sprintfE (slots i)
    · rw [heq, List.getD_eq_getElem?_getD, List.getElem?_append_right (by simp),
        List.getElem?_map, List.length_map, List.length_range, Nat.add_sub_cancel_left,
        List.getElem?_range hj]
      rfl

/-- The slots may be given by other values, if they are equal. -/
lemma Reads.congr {n : ℕ} {slots' : ℕ → Signed} (h : ∀ i, (slots i).value = (slots' i).value) :
    Reads n st slots flags ↔ Reads n st slots' flags := by
  have hround : ∀ i, round5 (slots i).value = round5 (slots' i).value := fun i => by rw [h i]
  constructor
  · exact fun hr => ⟨hr.length, fun i hi => hround i ▸ hr.slot i hi, hr.flag⟩
  · exact fun hr => ⟨hr.length, fun i hi => (hround i).symm ▸ hr.slot i hi, hr.flag⟩

end

/-! ## Over any sequence of calls -/

lemma initVal_twoDigit {i : ℕ} (hi : i < 10) : TwoDigit (initVal i : Signed).value := by
  rw [initVal_value]
  rcases Nat.eq_zero_or_pos i with h0 | hpos
  · subst h0
    simp [TwoDigit, printed]
  · have hlo : (1 : ℚ) ≤ i := by exact_mod_cast hpos
    have hhi : (i : ℚ) < 10 := by exact_mod_cast hi
    have hthird : ((i / 3 : ℕ) : ℚ) ≤ i := by exact_mod_cast Nat.div_le_self i 3
    have hpos' : (0 : ℚ) ≤ ((i / 3 : ℕ) : ℚ) := by positivity
    refine twoDigit_of_one_le ?_ ?_
    · rw [abs_of_nonneg (by linarith)]
      linarith
    · rw [abs_of_nonneg (by linarith)]
      norm_num
      linarith

/-- The values stored have two-digit exponents, and so have those `initStatus` stores. -/
lemma shownSlot_twoDigit {calls : List Store}
    (htwo : ∀ i v, Store.slot i v ∈ calls → TwoDigit v.value) {i : ℕ} (hi : i < 10) :
    TwoDigit (shownSlot i calls).value := by
  refine List.foldlRecOn calls (motive := fun v : Signed => TwoDigit v.value) _ (initVal_twoDigit hi)
    fun v hv c hc => ?_
  cases c with
  | slot l w =>
      rw [shownAfter]
      split
      · exact htwo l w hc
      · exact hv
  | flag k b => exact hv

/-- **What a client reads after any sequence of stores.**  It never reads all thirteen flags; it
reads the ten slots and the other twelve flags exactly if no slot shows a sign. -/
theorem reads_iff (st : Status Signed) (calls : List Store)
    (htwo : ∀ i v, Store.slot i v ∈ calls → TwoDigit v.value) :
    ¬ Reads 13 (stored st calls) (fun i => lastSlot i calls) (fun j => lastFlag st j calls) ∧
      (Reads 12 (stored st calls) (fun i => lastSlot i calls) (fun j => lastFlag st j calls)
        ↔ ∀ i < 10, (shownSlot i calls).negative = false) := by
  have hslots : ∀ i < 10, _ := fun _ hi => stored_slotAt st calls hi
  have hflags : ∀ j < 12, _ := fun _ hj => stored_flagAt st calls hj
  have hshown : ∀ i < 10, TwoDigit (shownSlot i calls).value :=
    fun _ hi => shownSlot_twoDigit htwo hi
  rw [← Reads.congr (shownSlot_value · calls), ← Reads.congr (shownSlot_value · calls)]
  exact ⟨not_reads_all hslots hflags hshown, reads_iff_unsigned hslots hflags hshown⟩

/-- Cleared memory. -/
def clear : Status Signed := ⟨fun _ => ⟨false, 0⟩, fun _ => false, fun _ => 0, false⟩

/-- Slot 3 is given `-0.0` and then `0.0`, which compares equal and so is not written. -/
def storeZeros : List Store := [.slot 3 ⟨true, 0⟩, .slot 3 ⟨false, 0⟩]

/-- The text of the first zero stays, with its sign. -/
theorem reads_iff_zeros :
    (Reads 12 (stored clear storeZeros) (fun i => lastSlot i storeZeros)
        (fun j => lastFlag clear j storeZeros)
      ↔ ∀ i < 10, (shownSlot i storeZeros).negative = false) ∧
    ¬ Reads 12 (stored clear storeZeros) (fun i => lastSlot i storeZeros)
        (fun j => lastFlag clear j storeZeros) := by
  have htwo : ∀ i v, Store.slot i v ∈ storeZeros → TwoDigit v.value := by
    intro i v hv
    have hzero : v.value = 0 := by
      simp only [storeZeros, List.mem_cons, List.not_mem_nil, or_false, Store.slot.injEq] at hv
      rcases hv with ⟨-, rfl⟩ | ⟨-, rfl⟩
      · exact neg_zero
      · rfl
    rw [hzero]
    decide
  have hiff := (reads_iff clear storeZeros htwo).2
  refine ⟨hiff, fun h => ?_⟩
  exact absurd (hiff.mp h 3 (by decide)) (by decide +kernel)

/-- One negative value. -/
def storeNegative : List Store := [.slot 1 ⟨true, 3 / 2⟩]

/-- A negative value in slot 1: the text of its field takes the place of the comma, and neither
the thirteen flags of the source nor the twelve in front of the terminator are read. -/
theorem negative_unreadable :
    ¬ Reads 13 (stored clear storeNegative) (fun i => lastSlot i storeNegative)
        (fun j => lastFlag clear j storeNegative) ∧
      ¬ Reads 12 (stored clear storeNegative) (fun i => lastSlot i storeNegative)
        (fun j => lastFlag clear j storeNegative) := by
  have htwo : ∀ i v, Store.slot i v ∈ storeNegative → TwoDigit v.value := by
    intro i v hv
    cases List.mem_singleton.mp hv
    exact twoDigit_of_one_le (by norm_num [Signed.value]) (by norm_num [Signed.value])
  have hslots : ∀ i < 10, _ := fun _ hi => stored_slotAt clear storeNegative hi
  have hflags : ∀ j < 12, _ := fun _ hj => stored_flagAt clear storeNegative hj
  have hshown : ∀ i < 10, TwoDigit (shownSlot i storeNegative).value :=
    fun _ hi => shownSlot_twoDigit htwo hi
  rw [← Reads.congr (shownSlot_value · storeNegative),
    ← Reads.congr (shownSlot_value · storeNegative)]
  refine ⟨not_reads_all hslots hflags hshown, fun h => ?_⟩
  have hneg := (reads_iff_unsigned hslots hflags hshown).mp h 1 (by decide)
  exact absurd hneg (by decide +kernel)

end Lgt8.Status

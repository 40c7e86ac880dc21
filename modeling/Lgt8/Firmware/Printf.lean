import Mathlib.Tactic
import Lgt8.Library.Decimal
import Lgt8.Firmware.Double

/-!
# What `"%6.4E"` prints

A finite `double` is a rational with a sign bit, and `sprintfE` prints one the way the C library
does: a minus if the bit is set, five significant digits with the point after the first, and an
exponent of at least two digits.

* `scientific_spec` — the five digits and the exponent make the rounded value.
* `signedText` — the text, with the sign and the value apart.
* **`parseDecimal_sprintfE`** — reading the text gives the value rounded to five significant digits.
* `signedText_length` — with a two-digit exponent the text takes ten bytes, and one more for a sign.
-/

namespace Lgt8

open Library

/-! ## Rounding -/

lemma roundHalfEven_cases (q : ℚ) :
    roundHalfEven q = ⌊q⌋ ∨ roundHalfEven q = ⌊q⌋ + 1 ∧ (⌊q⌋ : ℚ) < q := by
  rw [roundHalfEven]
  split_ifs with h1 h2 h3
  · exact Or.inl rfl
  · exact Or.inr ⟨rfl, by linarith⟩
  · exact Or.inl rfl
  · exact Or.inr ⟨rfl, by linarith⟩

lemma roundHalfEven_le {q : ℚ} {n : ℤ} (h : q ≤ n) : roundHalfEven q ≤ n := by
  rcases roundHalfEven_cases q with hq | ⟨hq, hlt⟩ <;> rw [hq]
  · exact_mod_cast (Int.floor_le q).trans h
  · have : (⌊q⌋ : ℚ) < n := hlt.trans_le h
    exact_mod_cast this

lemma le_roundHalfEven {q : ℚ} {n : ℤ} (h : (n : ℚ) ≤ q) : n ≤ roundHalfEven q := by
  have hfloor := Int.le_floor.mpr h
  rcases roundHalfEven_cases q with hq | ⟨hq, -⟩ <;> omega

/-- A value rounded to five significant digits. -/
def round5 (v : ℚ) : ℚ :=
  (if v < 0 then -1 else 1) *
    (roundHalfEven (|v| * 10 ^ (4 - Int.log 10 |v|)) * 10 ^ (Int.log 10 |v| - 4))

/-- A positive value scaled to five digits before the point. -/
lemma scaled_bounds {q : ℚ} (hq : 0 < q) :
    (10000 : ℤ) ≤ q * 10 ^ (4 - Int.log 10 q) ∧ q * 10 ^ (4 - Int.log 10 q) ≤ (100000 : ℤ) := by
  have hlo := Int.zpow_log_le_self (b := 10) (by norm_num) hq
  have hhi := (Int.lt_zpow_succ_log_self (b := 10) (by norm_num) q).le
  have hpos : (0 : ℚ) < 10 ^ (4 - Int.log 10 q) := by positivity
  have hne : (10 : ℚ) ≠ 0 := by norm_num
  constructor
  · calc ((10000 : ℤ) : ℚ) = 10 ^ Int.log 10 q * 10 ^ (4 - Int.log 10 q) := by
          rw [← zpow_add₀ hne, add_sub_cancel]
          norm_num
      _ ≤ q * 10 ^ (4 - Int.log 10 q) := mul_le_mul_of_nonneg_right (by exact_mod_cast hlo) hpos.le
  · calc q * 10 ^ (4 - Int.log 10 q)
        ≤ 10 ^ (Int.log 10 q + 1) * 10 ^ (4 - Int.log 10 q) :=
          mul_le_mul_of_nonneg_right (by exact_mod_cast hhi) hpos.le
      _ = ((100000 : ℤ) : ℚ) := by
          rw [← zpow_add₀ hne, show Int.log 10 q + 1 + (4 - Int.log 10 q) = 5 by ring]
          norm_num

/-- **Five digits and an exponent make the rounded value.** -/
theorem scientific_spec {q : ℚ} (hq : 0 < q) :
    (scientific q).1 < 100000 ∧
      ((scientific q).1 : ℚ) * 10 ^ ((scientific q).2 - 4)
        = roundHalfEven (q * 10 ^ (4 - Int.log 10 q)) * 10 ^ (Int.log 10 q - 4) := by
  obtain ⟨hlo, hhi⟩ := scaled_bounds hq
  have hm1 := le_roundHalfEven hlo
  have hm2 := roundHalfEven_le hhi
  rw [scientific]
  split_ifs with h
  · -- rounding went up to the next power of ten
    have hm : roundHalfEven (q * 10 ^ (4 - Int.log 10 q)) = 100000 := by omega
    refine ⟨by norm_num, ?_⟩
    rw [hm, show Int.log 10 q + 1 - 4 = Int.log 10 q - 4 + 1 by ring,
      zpow_add_one₀ (by norm_num : (10 : ℚ) ≠ 0)]
    push_cast
    ring
  · have hcast : (((roundHalfEven (q * 10 ^ (4 - Int.log 10 q))).toNat : ℕ) : ℚ)
        = roundHalfEven (q * 10 ^ (4 - Int.log 10 q)) := by
      have := Int.toNat_of_nonneg (by omega : 0 ≤ roundHalfEven (q * 10 ^ (4 - Int.log 10 q)))
      exact_mod_cast congrArg (Int.cast (R := ℚ)) this
    exact ⟨by omega, by rw [hcast]⟩

/-! ## The text -/

/-- The digits and the exponent printed for `v`. -/
def printed (v : ℚ) : ℕ × ℤ := if v = 0 then (0, 0) else scientific |v|

lemma printed_lt (v : ℚ) : (printed v).1 < 100000 := by
  rw [printed]
  split
  · decide
  · next h => exact (scientific_spec (abs_pos.mpr h)).1

lemma printed_value (v : ℚ) :
    round5 v = (if v < 0 then -1 else 1) * (((printed v).1 : ℚ) * 10 ^ ((printed v).2 - 4)) := by
  rw [round5, printed]
  by_cases h0 : v = 0
  · subst h0
    simp [roundHalfEven]
  · rw [if_neg h0, (scientific_spec (abs_pos.mpr h0)).2]

lemma decimalDigits_eq (width n : ℕ) : decimalDigits width n
    = List.replicate (width - (natDigits n).length) 48 ++ natDigits n := rfl

lemma isDigit_decimalDigits (width n : ℕ) : ∀ b ∈ decimalDigits width n, IsDigit b := by
  intro b hb
  rw [decimalDigits_eq] at hb
  rcases List.mem_append.mp hb with hb | hb
  · rw [List.eq_of_mem_replicate hb]
    decide
  · exact isDigit_natDigits n b hb

lemma digitsVal_decimalDigits (width n : ℕ) : digitsVal (decimalDigits width n) = n := by
  rw [decimalDigits_eq, digitsVal_zeros, digitsVal_natDigits]

lemma decimalDigits_length (width : ℕ) {n : ℕ} (hw : 0 < width) (hn : n < 10 ^ width) :
    (decimalDigits width n).length = width := by
  have := (natDigits_length_le hw).mpr hn
  rw [decimalDigits_eq, List.length_append, List.length_replicate]
  omega

lemma decimalDigits_ne_nil (width n : ℕ) : decimalDigits width n ≠ [] := by
  have := natDigits_length_pos n
  rw [decimalDigits_eq]
  intro h
  rw [List.append_eq_nil_iff.mp h |>.2] at this
  exact absurd this (by simp)

/-- The exponent, with its sign. -/
def exponentText (e : ℤ) : List UInt8 := (if e < 0 then 45 else 43) :: decimalDigits 2 e.natAbs

lemma parseExponent_text (e : ℤ) : parseExponent (exponentText e) = some e := by
  have h := parseNat_of_digits (decimalDigits_ne_nil 2 e.natAbs) (isDigit_decimalDigits 2 _)
  rw [exponentText]
  split
  · next he =>
      rw [parseExponent, h, Option.map_some, digitsVal_decimalDigits, Int.ofNat_natAbs_of_nonpos he.le,
        neg_neg]
  · next he =>
      rw [parseExponent, h, Option.map_some, digitsVal_decimalDigits,
        Int.natAbs_of_nonneg (not_lt.mp he)]

/-- The text of a value, without its sign. -/
def magnitudeText (v : ℚ) : List UInt8 :=
  (decimalDigits 5 (printed v).1).take 1 ++ 46 :: (decimalDigits 5 (printed v).1).drop 1
    ++ 69 :: exponentText (printed v).2

/-- The text of a value, with the sign given. -/
def signedText (negative : Bool) (v : ℚ) : List UInt8 :=
  (if negative then [45] else []) ++ magnitudeText v

lemma sprintfE_eq (v : ℚ) : sprintfE v = signedText (decide (v < 0)) v := by
  rw [sprintfE, signedText, magnitudeText, exponentText, printed]
  simp only [decide_eq_true_eq]
  split_ifs <;> simp

lemma Signed.abs_value (x : Signed) : |x.value| = x.magnitude := by
  have hpos : (0 : ℚ) ≤ x.magnitude := x.magnitude.coe_nonneg
  rw [Signed.value]
  split
  · rw [abs_neg, abs_of_nonneg hpos]
  · exact abs_of_nonneg hpos

/-- The digits are those of the magnitude. -/
lemma printed_abs (v : ℚ) : printed |v| = printed v := by
  rw [printed, printed, abs_abs]
  exact if_congr abs_eq_zero rfl rfl

/-- With a sign bit the text is that of the value, and the bit decides about the minus. -/
lemma sprintfE_signed (x : Signed) : DoubleOps.sprintfE x = signedText x.negative x.value := by
  have hpos : ¬ (x.magnitude : ℚ) < 0 := not_lt.mpr x.magnitude.coe_nonneg
  show (if x.negative then [45] else []) ++ sprintfE x.magnitude = _
  rw [sprintfE_eq, decide_eq_false hpos, signedText, signedText, magnitudeText, magnitudeText,
    ← x.abs_value, printed_abs]
  rfl

/-! ## Reading it back -/

/-- The five digits, first and others. -/
lemma digits_split (v : ℚ) :
    (decimalDigits 5 (printed v).1).take 1 ≠ [] ∧
      ((decimalDigits 5 (printed v).1).drop 1).length = 4 := by
  have hlen := decimalDigits_length 5 (by decide) (printed_lt v)
  constructor
  · intro h
    have := congrArg List.length h
    rw [List.length_take, hlen] at this
    exact absurd this (by decide)
  · rw [List.length_drop, hlen]

lemma isDigit_of_mem_exponentText {e : ℤ} {b : UInt8} (h : b ∈ exponentText e) :
    b = 45 ∨ b = 43 ∨ IsDigit b := by
  rw [exponentText] at h
  rcases List.mem_cons.mp h with h | h
  · rw [h]
    split
    · exact Or.inl rfl
    · exact Or.inr (Or.inl rfl)
  · exact Or.inr (Or.inr (isDigit_decimalDigits _ _ b h))

lemma parseUnsigned_magnitude (v : ℚ) :
    parseUnsigned (magnitudeText v)
      = some (((printed v).1 : ℚ) * 10 ^ ((printed v).2 - 4)) := by
  obtain ⟨hne, hfour⟩ := digits_split v
  have hdigit := isDigit_decimalDigits 5 (printed v).1
  have hE : (69 : UInt8) ∉ exponentText (printed v).2 := by
    intro h
    rcases isDigit_of_mem_exponentText h with h | h | h
    · exact absurd h (by decide)
    · exact absurd h (by decide)
    · exact absurd h (by decide)
  rw [magnitudeText, parseUnsigned_mantissa hne (by
      intro h
      rw [h] at hfour
      exact absurd hfour (by decide))
    (fun b hb => hdigit b (List.mem_of_mem_take hb))
    (fun b hb => hdigit b (List.mem_of_mem_drop hb)) hE (parseExponent_text _),
    List.take_append_drop, digitsVal_decimalDigits, hfour,
    zpow_sub₀ (by norm_num : (10 : ℚ) ≠ 0)]
  congr 1
  norm_num
  ring

/-- A text without a sign begins with a digit. -/
lemma magnitudeText_cons (v : ℚ) : ∃ b bs, IsDigit b ∧ magnitudeText v = b :: bs := by
  obtain ⟨hne, -⟩ := digits_split v
  obtain ⟨b, bs, hb⟩ := List.exists_cons_of_ne_nil hne
  refine ⟨b, bs ++ 46 :: (decimalDigits 5 (printed v).1).drop 1 ++ 69 :: exponentText (printed v).2,
    isDigit_decimalDigits 5 _ b (List.mem_of_mem_take (hb ▸ List.mem_cons_self)), ?_⟩
  rw [magnitudeText, hb]
  simp

lemma parseDecimal_signedText (negative : Bool) (v : ℚ) : parseDecimal (signedText negative v)
    = some ((if negative then -1 else 1) * (((printed v).1 : ℚ) * 10 ^ ((printed v).2 - 4))) := by
  have hmag := parseUnsigned_magnitude v
  cases negative with
  | true =>
      show parseDecimal (45 :: magnitudeText v) = some (-1 * _)
      rw [parseDecimal, hmag, Option.map_some, neg_one_mul]
  | false =>
      obtain ⟨b, bs, hb, heq⟩ := magnitudeText_cons v
      show parseDecimal (magnitudeText v) = some (1 * _)
      rw [one_mul, heq, parseDecimal_of_digit hb, ← heq, hmag]

/-- **Reading what was printed** gives the value rounded to five significant digits. -/
theorem parseDecimal_sprintfE (x : Signed) :
    parseDecimal (DoubleOps.sprintfE x) = some (round5 x.value) := by
  rw [sprintfE_signed, parseDecimal_signedText, printed_value]
  by_cases h0 : x.value = 0
  · -- either sign of zero reads as zero
    rw [h0]
    simp [printed]
  · have hsign : x.value < 0 ↔ x.negative = true := by
      have hpos : (0 : ℚ) < x.magnitude := by
        rw [← x.abs_value]
        exact abs_pos.mpr h0
      rw [Signed.value]
      cases x.negative with
      | true => simpa using hpos
      | false => simp
    rw [if_congr hsign rfl rfl]

/-! ## Its width -/

/-- The decimal exponent printed for `v` has two digits. -/
def TwoDigit (v : ℚ) : Prop := (printed v).2.natAbs < 100

instance (v : ℚ) : Decidable (TwoDigit v) := inferInstanceAs (Decidable (_ < _))

lemma twoDigit_of_one_le {v : ℚ} (hlo : 1 ≤ |v|) (hhi : |v| < 10 ^ 10) : TwoDigit v := by
  have hpos : 0 < |v| := by linarith
  have h0 : 0 ≤ Int.log 10 |v| :=
    (Int.zpow_le_iff_le_log (b := 10) (by norm_num) hpos).mp (by simpa using hlo)
  have h10 : Int.log 10 |v| < 10 :=
    (Int.lt_zpow_iff_log_lt (b := 10) (by norm_num) hpos).mp (by exact_mod_cast hhi)
  rw [TwoDigit, printed, if_neg (abs_pos.mp hpos), scientific]
  split_ifs <;> dsimp only <;> omega

lemma magnitudeText_length {v : ℚ} (h : TwoDigit v) : (magnitudeText v).length = 10 := by
  have hfive := decimalDigits_length 5 (by decide) (printed_lt v)
  have htwo := decimalDigits_length 2 (by decide) h
  simp [magnitudeText, exponentText, hfive, htwo]

/-- **Ten bytes, and one more for a sign.** -/
theorem signedText_length (negative : Bool) {v : ℚ} (h : TwoDigit v) :
    (signedText negative v).length = if negative then 11 else 10 := by
  rw [signedText, List.length_append, magnitudeText_length h]
  cases negative <;> rfl

/-- Whatever the exponent, the text takes ten bytes at least. -/
lemma le_length_signedText (negative : Bool) (v : ℚ) : 10 ≤ (signedText negative v).length := by
  have hdigits : ∀ width n, width ≤ (decimalDigits width n).length := by
    intro width n
    rw [decimalDigits_eq, List.length_append, List.length_replicate]
    omega
  have hfive := decimalDigits_length 5 (by decide) (printed_lt v)
  have htwo := hdigits 2 (printed v).2.natAbs
  rw [signedText, magnitudeText, exponentText]
  simp only [List.length_append, List.length_cons, List.length_take, List.length_drop, hfive]
  omega

lemma mem_magnitudeText {v : ℚ} {b : UInt8} (h : b ∈ magnitudeText v) :
    b = 45 ∨ b = 43 ∨ b = 46 ∨ b = 69 ∨ IsDigit b := by
  have hdigit := isDigit_decimalDigits 5 (printed v).1
  rw [magnitudeText, List.mem_append, List.mem_append, List.mem_cons, List.mem_cons] at h
  rcases h with (h | h | h) | h | h
  · exact Or.inr (Or.inr (Or.inr (Or.inr (hdigit b (List.mem_of_mem_take h)))))
  · exact Or.inr (Or.inr (Or.inl h))
  · exact Or.inr (Or.inr (Or.inr (Or.inr (hdigit b (List.mem_of_mem_drop h)))))
  · exact Or.inr (Or.inr (Or.inr (Or.inl h)))
  · rcases isDigit_of_mem_exponentText h with h | h | h
    · exact Or.inl h
    · exact Or.inr (Or.inl h)
    · exact Or.inr (Or.inr (Or.inr (Or.inr h)))

/-- Neither a separator nor a terminator is printed. -/
lemma mem_signedText {negative : Bool} {v : ℚ} {b : UInt8} (h : b ∈ signedText negative v) :
    b ≠ 44 ∧ b ≠ 0 := by
  have hb : b = 45 ∨ b ∈ magnitudeText v := by
    rw [signedText, List.mem_append] at h
    rcases h with h | h
    · split_ifs at h
      · exact Or.inl (List.mem_singleton.mp h)
      · cases h
    · exact Or.inr h
  rcases hb with hb | hb
  · subst hb
    decide
  · rcases mem_magnitudeText hb with rfl | rfl | rfl | rfl | h
    · decide
    · decide
    · decide
    · decide
    · exact ⟨h.ne (by decide), h.ne (by decide)⟩

end Lgt8

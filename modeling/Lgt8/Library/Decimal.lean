import Mathlib.Tactic

/-!
# Decimal texts

Texts are lists of ASCII bytes.  `digitsVal` is the number a string of digits stands for,
`parseDecimal` reads a number in scientific notation the way `strtod` does: an optional sign,
digits with a point in them, `E`, and a signed exponent.

* **`digitsVal_natDigits`** — printing a natural number and reading it gives it back.
* **`parseUnsigned_mantissa`** — the value of a text of the shape `d.ddddE±dd`.
-/

namespace Library

/-! ## Digits -/

def IsDigit (b : UInt8) : Prop := 48 ≤ b ∧ b ≤ 57

instance (b : UInt8) : Decidable (IsDigit b) := inferInstanceAs (Decidable (_ ∧ _))

lemma IsDigit.ne {b c : UInt8} (h : IsDigit b) (hc : ¬ IsDigit c) : b ≠ c :=
  fun hbc => hc (hbc ▸ h)

/-- The number a string of digits stands for. -/
def digitsVal (ds : List UInt8) : ℕ := ds.foldl (fun v b => 10 * v + (b.toNat - 48)) 0

lemma foldl_digits (ds : List UInt8) (v : ℕ) :
    ds.foldl (fun v b => 10 * v + (b.toNat - 48)) v = v * 10 ^ ds.length + digitsVal ds := by
  induction ds generalizing v with
  | nil => simp [digitsVal]
  | cons b ds ih =>
      rw [digitsVal, List.foldl_cons, List.foldl_cons, ih, ih (10 * 0 + (b.toNat - 48)),
        List.length_cons]
      ring

lemma digitsVal_append (ds es : List UInt8) :
    digitsVal (ds ++ es) = digitsVal ds * 10 ^ es.length + digitsVal es := by
  rw [digitsVal, List.foldl_append, foldl_digits]
  rfl

/-- Leading zeros do not count. -/
lemma digitsVal_zeros (k : ℕ) (ds : List UInt8) :
    digitsVal (List.replicate k 48 ++ ds) = digitsVal ds := by
  have h0 : digitsVal (List.replicate k 48) = 0 := by
    induction k with
    | zero => rfl
    | succ k ih =>
        rw [List.replicate_succ', digitsVal_append, ih]
        rfl
  rw [digitsVal_append, h0, Nat.zero_mul, Nat.zero_add]

/-- The digits of a natural number, as bytes. -/
def natDigits (n : ℕ) : List UInt8 := (Nat.toDigits 10 n).map fun c => UInt8.ofNat c.toNat

lemma toNat_digitChar {d : ℕ} (h : d < 10) : (UInt8.ofNat d.digitChar.toNat).toNat = 48 + d := by
  rw [Nat.toNat_digitChar_of_lt_ten h, UInt8.toNat_ofNat']
  omega

lemma natDigits_eq (n : ℕ) : natDigits n =
    if n < 10 then [UInt8.ofNat n.digitChar.toNat]
    else natDigits (n / 10) ++ [UInt8.ofNat (n % 10).digitChar.toNat] := by
  rw [natDigits, Nat.toDigits_eq_if (by decide)]
  split
  · rfl
  · rw [List.map_append]
    rfl

/-- **Reading what was printed.** -/
theorem digitsVal_natDigits (n : ℕ) : digitsVal (natDigits n) = n := by
  induction n using Nat.strong_induction_on with
  | _ n ih =>
      rw [natDigits_eq]
      split
      · next h =>
          rw [digitsVal, List.foldl_cons, List.foldl_nil, toNat_digitChar h]
          omega
      · next h =>
          rw [digitsVal_append, ih (n / 10) (by omega), digitsVal, List.foldl_cons,
            List.foldl_nil, toNat_digitChar (by omega), List.length_singleton]
          omega

lemma isDigit_natDigits (n : ℕ) : ∀ b ∈ natDigits n, IsDigit b := by
  have hdigit : ∀ d : ℕ, d < 10 → IsDigit (UInt8.ofNat d.digitChar.toNat) := by
    intro d hd
    have := toNat_digitChar hd
    constructor
    · rw [UInt8.le_iff_toNat_le, this]
      simp
    · rw [UInt8.le_iff_toNat_le, this]
      simp
      omega
  induction n using Nat.strong_induction_on with
  | _ n ih =>
      rw [natDigits_eq]
      split
      · next h =>
          intro b hb
          rw [List.mem_singleton.mp hb]
          exact hdigit n h
      · next h =>
          intro b hb
          rcases List.mem_append.mp hb with hb | hb
          · exact ih (n / 10) (by omega) b hb
          · rw [List.mem_singleton.mp hb]
            exact hdigit (n % 10) (by omega)

lemma natDigits_length_pos (n : ℕ) : 0 < (natDigits n).length := by
  rw [natDigits, List.length_map]
  exact Nat.length_toDigits_pos

lemma natDigits_length_le {n k : ℕ} (hk : 0 < k) : (natDigits n).length ≤ k ↔ n < 10 ^ k := by
  rw [natDigits, List.length_map]
  exact Nat.length_toDigits_le_iff (by decide) hk

/-! ## Scientific notation -/

/-- A non-empty string of digits. -/
def parseNat : List UInt8 → Option ℕ
  | [] => none
  | d :: ds =>
      if (d :: ds).all fun b => decide (IsDigit b) then some (digitsVal (d :: ds)) else none

/-- Digits with a point in them. -/
def parseMantissa (bs : List UInt8) : Option ℚ :=
  match bs.splitOn 46 with
  | [whole, fraction] => do
      let w ← parseNat whole
      let f ← parseNat fraction
      return w + f / 10 ^ fraction.length
  | _ => none

/-- An exponent with its sign. -/
def parseExponent : List UInt8 → Option ℤ
  | 43 :: ds => (parseNat ds).map fun n : ℕ => (n : ℤ)
  | 45 :: ds => (parseNat ds).map fun n : ℕ => -(n : ℤ)
  | _ => none

def parseUnsigned (bs : List UInt8) : Option ℚ :=
  match bs.splitOn 69 with
  | [mantissa, exponent] => do
      let m ← parseMantissa mantissa
      let e ← parseExponent exponent
      return m * 10 ^ e
  | _ => none

/-- The number in scientific notation a text stands for. -/
def parseDecimal : List UInt8 → Option ℚ
  | 45 :: bs => (parseUnsigned bs).map fun q => -q
  | bs => parseUnsigned bs

lemma parseNat_of_digits {ds : List UInt8} (hne : ds ≠ []) (hds : ∀ b ∈ ds, IsDigit b) :
    parseNat ds = some (digitsVal ds) := by
  obtain ⟨d, ds, rfl⟩ := List.exists_cons_of_ne_nil hne
  exact if_pos (List.all_eq_true.mpr fun b hb => decide_eq_true (hds b hb))

lemma parseMantissa_digits {ds es : List UInt8} (hd : ds ≠ []) (he : es ≠ [])
    (hds : ∀ b ∈ ds, IsDigit b) (hes : ∀ b ∈ es, IsDigit b) :
    parseMantissa (ds ++ 46 :: es) = some ((digitsVal (ds ++ es) : ℚ) / 10 ^ es.length) := by
  have hpoint : ∀ {xs : List UInt8}, (∀ b ∈ xs, IsDigit b) → (46 : UInt8) ∉ xs :=
    fun hxs h => (hxs _ h).ne (by decide) rfl
  have hsplit : (ds ++ 46 :: es).splitOn 46 = [ds, es] := by
    rw [List.splitOn_append_cons_self_of_not_mem (hpoint hds),
      List.splitOn_eq_singleton (hpoint hes)]
  have hpow : (10 : ℚ) ^ es.length ≠ 0 := by positivity
  rw [parseMantissa, hsplit]
  simp only [parseNat_of_digits hd hds, parseNat_of_digits he hes, digitsVal_append]
  simp only [Option.bind_eq_bind, Option.bind_some, Option.pure_def]
  congr 1
  push_cast
  field_simp

/-- **The value of a text in scientific notation.** -/
theorem parseUnsigned_mantissa {ds es xs : List UInt8} {x : ℤ} (hd : ds ≠ []) (he : es ≠ [])
    (hds : ∀ b ∈ ds, IsDigit b) (hes : ∀ b ∈ es, IsDigit b) (hE : (69 : UInt8) ∉ xs)
    (hx : parseExponent xs = some x) :
    parseUnsigned (ds ++ 46 :: es ++ 69 :: xs)
      = some ((digitsVal (ds ++ es) : ℚ) / 10 ^ es.length * 10 ^ x) := by
  have hmant : (69 : UInt8) ∉ ds ++ 46 :: es := by
    intro h
    rcases List.mem_append.mp h with h | h
    · exact (hds _ h).ne (by decide) rfl
    · rcases List.mem_cons.mp h with h | h
      · exact absurd h (by decide)
      · exact (hes _ h).ne (by decide) rfl
  have hsplit : (ds ++ 46 :: es ++ 69 :: xs).splitOn 69 = [ds ++ 46 :: es, xs] := by
    rw [List.splitOn_append_cons_self_of_not_mem hmant, List.splitOn_eq_singleton hE]
  rw [parseUnsigned, hsplit]
  simp only [parseMantissa_digits hd he hds hes, hx]
  rfl

/-- A text that begins with a digit has no sign. -/
lemma parseDecimal_of_digit {b : UInt8} {bs : List UInt8} (hb : IsDigit b) :
    parseDecimal (b :: bs) = parseUnsigned (b :: bs) := by
  rw [parseDecimal]
  rintro _ h
  cases h
  exact absurd hb (by decide)

end Library

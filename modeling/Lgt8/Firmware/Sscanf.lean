import Mathlib.Tactic
import Lgt8.Library.Word

/-!
# Reading decimal integers out of a message (`sscanf` with `%d`)

The commands carry their arguments as text in the data area of the message.  `sscanfInts n bs` is
what `sscanf(bs, "%d … %d", …)` with `n` conversions assigns: the integers it converts, in order,
up to the first conversion that fails.  Arguments past the end of this list are *not assigned* by
the call, which is why the callers read it with a default for each destination.

`%d` skips white space, takes an optional sign and the longest run of digits, and saturates at the
ends of `int` as the C library's `strtol` does.  A NUL byte is neither white space nor a digit, so
nothing behind it is read.
-/

namespace Lgt8

/-- `isspace` of the C locale. -/
def isSpace (b : UInt8) : Bool := b == 32 || (9 ≤ b && b ≤ 13)

def isDigit (b : UInt8) : Bool := 48 ≤ b && b ≤ 57

/-- The value of a run of decimal digits. -/
def digitsValue (ds : List UInt8) : ℕ := ds.foldl (fun n d => 10 * n + (d.toNat - 48)) 0

/-- Saturation at the ends of a 32-bit `long`. -/
def saturate (x : ℤ) : ℤ := max (-2147483648) (min 2147483647 x)

/-- An optional sign in front of the digits. -/
def scanSign : List UInt8 → ℤ × List UInt8
  | 45 :: bs => (-1, bs)
  | 43 :: bs => (1, bs)
  | bs => (1, bs)

/-- One `%d`: the value and the text behind it, or `none` when no digit is found. -/
def scanInt (bs : List UInt8) : Option (ℤ × List UInt8) :=
  let signed := scanSign (bs.dropWhile isSpace)
  let digits := signed.2.takeWhile isDigit
  if digits = [] then none
  else some (saturate (signed.1 * digitsValue digits), signed.2.dropWhile isDigit)

/-- The integers `n` conversions assign. -/
def sscanfInts : ℕ → List UInt8 → List ℤ
  | 0, _ => []
  | n + 1, bs =>
      match scanInt bs with
      | none => []
      | some (v, rest) => v :: sscanfInts n rest

lemma saturate_lower (x : ℤ) : -2147483648 ≤ saturate x := by
  simp only [saturate]
  omega

lemma saturate_upper (x : ℤ) : saturate x < 2147483648 := by
  simp only [saturate]
  omega

/-- **Every assigned value is an `int`.** -/
theorem sscanfInts_range : ∀ {n : ℕ} {bs : List UInt8} {v : ℤ},
    v ∈ sscanfInts n bs → -2147483648 ≤ v ∧ v < 2147483648
  | 0, _, _, h => by simp [sscanfInts] at h
  | n + 1, bs, v, h => by
      rw [sscanfInts] at h
      cases hs : scanInt bs with
      | none => simp [hs] at h
      | some r =>
          obtain ⟨w, rest⟩ := r
          simp only [hs, List.mem_cons] at h
          rcases h with rfl | h
          · simp only [scanInt] at hs
            split at hs
            · cases hs
            · simp only [Option.some.injEq, Prod.mk.injEq] at hs
              rw [← hs.1]
              exact ⟨saturate_lower _, saturate_upper _⟩
          · exact sscanfInts_range h

example : sscanfInts 3 [52, 48, 32, 45, 55, 0, 57] = [40, -7] := by decide

end Lgt8

import Mathlib.Tactic
import Lgt8.Tcp.Model

/-!
# Cutting a chain of buffers (`pbuf_header` and `pbuf_realloc` in `core/pbuf.c`)

A segment is in as many buffers of the pool as it needs.  What the application has already had is
cut off in front, what the window has no room for behind.  In front no buffer is given back, since
the segment is freed by its first one: those that are passed over are left without a byte.

* `pbufHeader`, `pbufRealloc` — the functions, for a payload that is made shorter.
* `trim` — the first edge, in `tcp_receive`.
* **`trim_spec`**, **`pbufRealloc_spec`** — either leaves a chain with the other bytes, and with
  `tot_len` right in each buffer.
-/

namespace Lgt8.Tcp

open Library

/-! ## Numbers -/

lemma u16_natCast {n : ℕ} (h : n < 65536) : u16 n = n := by
  simp only [u16]
  omega

lemma u16_of_range {x : ℤ} (hlo : 0 ≤ x) (hhi : x < 65536) : (u16 x : ℤ) = x := by
  simp only [u16]
  omega

lemma u16_sub {m n : ℕ} (h : n ≤ m) (hm : m < 65536) : u16 (m - n) = m - n := by
  simp only [u16]
  omega

lemma u16_lt (x : ℤ) : u16 x < 65536 := by
  simp only [u16]
  omega

/-! ## Chains -/

@[simp] lemma bytes_nil : bytes [] = [] := rfl

@[simp] lemma bytes_cons (b : Buf) (bs : List Buf) : bytes (b :: bs) = b.data ++ bytes bs := rfl

lemma Counted.head {b : Buf} {bs : List Buf} (h : Counted (b :: bs)) :
    b.totLen = b.data.length + (bytes bs).length := by
  rw [h.1, bytes_cons, List.length_append]

/-! ## The first edge -/

/-- `pbuf_header` with a negative increment. -/
def pbufHeader (magnitude : ℕ) (b : Buf) : Option Buf :=
  if magnitude ≤ b.data.length then some ⟨b.data.drop magnitude, u16 (b.totLen - magnitude)⟩
  else none

/-- The offset as `pbuf_header` gets it. -/
def headerOff (off : ℤ) : ℕ := (-s16 (-off)).toNat

/-- `pbuf_header` on the first buffer, which is asserted to succeed. -/
def headerFirst (off : ℤ) : List Buf → Except Fault (List Buf)
  | [] => .error .dangling
  | b :: bs =>
      match pbufHeader (headerOff off) b with
      | none => .error (.assertion .pbufHeader)
      | some b => .ok (b :: bs)

/-- The loop that passes over buffers, with `pbuf_header` behind it. -/
def trimLoop (newTotLen : ℕ) : ℤ → List Buf → Except Fault (List Buf)
  | _, [] => .error .dangling
  | off, b :: bs =>
      if (b.data.length : ℤ) < off then
        (⟨[], newTotLen⟩ :: ·) <$> trimLoop newTotLen (off - b.data.length) bs
      else headerFirst off (b :: bs)

/-- `off` bytes are cut off in front. -/
def trim (off : ℤ) : List Buf → Except Fault (List Buf)
  | [] => .error .dangling
  | b :: bs => do
      assert .insaneOffset (off < 0x7fff)
      if (b.data.length : ℤ) < off then
        assert .pbufTooShort (off ≤ b.totLen)
        trimLoop (u16 (b.totLen - off)) off (b :: bs)
      else headerFirst off (b :: bs)

lemma headerOff_natCast {n : ℕ} (h : n < 0x7fff) : headerOff n = n := by
  simp only [headerOff, s16, Int.bmod]
  split <;> omega

/-- `p'` is what is left of `p` without its first `n` bytes. -/
structure Dropped (n : ℕ) (p p' : List Buf) : Prop where
  bytes_eq : bytes p' = (bytes p).drop n
  counted : Counted p'
  length_eq : p'.length = p.length

lemma headerFirst_spec {n : ℕ} {b : Buf} {bs : List Buf} (hc : Counted (b :: bs))
    (htot : b.totLen < 65536) (hlen : n ≤ b.data.length) (hn : n < 0x7fff) :
    ∃ p', headerFirst n (b :: bs) = .ok p' ∧ Dropped n (b :: bs) p' := by
  have htl := hc.head
  refine ⟨⟨b.data.drop n, u16 (b.totLen - n)⟩ :: bs, ?_, ?_, ⟨?_, hc.2⟩, rfl⟩
  · rw [headerFirst, headerOff_natCast hn, pbufHeader, if_pos hlen]
  · rw [bytes_cons, bytes_cons, List.drop_append_of_le_length hlen]
  · rw [u16_sub (by omega) htot, bytes_cons, List.length_append, List.length_drop]
    show b.totLen - n = b.data.length - n + (bytes bs).length
    omega

lemma trimLoop_spec {m : ℕ} : ∀ {n : ℕ} {p : List Buf}, Counted p → (bytes p).length < 65536 →
    0 < n → n ≤ (bytes p).length → n < 0x7fff → m = (bytes p).length - n →
    ∃ p', trimLoop m n p = .ok p' ∧ Dropped n p p'
  | n, [], _, _, hpos, hle, _, _ => by
      rw [bytes_nil, List.length_nil] at hle
      omega
  | n, b :: bs, hc, hlt, hpos, hle, hn, hm => by
      have htl := hc.head
      rw [bytes_cons, List.length_append] at hlt hle hm
      by_cases hb : b.data.length < n
      · have hsub : ((n : ℤ) - b.data.length) = ((n - b.data.length : ℕ) : ℤ) := by omega
        obtain ⟨p', hp', hd⟩ := trimLoop_spec (m := m) (n := n - b.data.length) (p := bs) hc.2
          (by omega) (by omega) (by omega) (by omega) (by omega)
        refine ⟨⟨[], m⟩ :: p', ?_, ?_, ⟨?_, hd.counted⟩, ?_⟩
        · rw [trimLoop, if_pos (by exact_mod_cast hb), hsub, hp']
          rfl
        · rw [bytes_cons, bytes_cons, hd.bytes_eq, List.nil_append,
            List.drop_append, List.drop_eq_nil_of_le hb.le, List.nil_append]
        · rw [bytes_cons, List.nil_append, hd.bytes_eq, List.length_drop]
          show m = _
          omega
        · rw [List.length_cons, List.length_cons, hd.length_eq]
      · rw [trimLoop, if_neg (by exact_mod_cast hb)]
        exact headerFirst_spec hc (by omega) (by omega) hn

/-- **The first edge.**  Fewer than `0x7fff` bytes that are there are cut off. -/
theorem trim_spec {n : ℕ} {p : List Buf} (hc : Counted p) (hne : p ≠ [])
    (hlt : (bytes p).length < 65536) (hpos : 0 < n) (hle : n ≤ (bytes p).length) (hn : n < 0x7fff) :
    ∃ p', trim n p = .ok p' ∧ Dropped n p p' := by
  obtain ⟨b, bs, rfl⟩ := List.exists_cons_of_ne_nil hne
  have htl := hc.head
  have hlen : (bytes (b :: bs)).length = b.totLen := hc.1.symm
  have ha : assert .insaneOffset ((n : ℤ) < 0x7fff) = .ok () := if_pos (by exact_mod_cast hn)
  by_cases hb : b.data.length < n
  · have hshort : assert .pbufTooShort ((n : ℤ) ≤ b.totLen) = .ok () := if_pos (by omega)
    obtain ⟨p', hp', hd⟩ := trimLoop_spec (m := u16 (b.totLen - n)) (n := n) hc hlt hpos hle hn
      (by rw [u16_sub (by omega) (by omega)]; omega)
    refine ⟨p', ?_, hd⟩
    simp only [trim, ha, hshort, if_pos (show (b.data.length : ℤ) < n by exact_mod_cast hb)]
    exact hp'
  · obtain ⟨p', hp', hd⟩ := headerFirst_spec (n := n) hc (by omega) (by omega) hn
    refine ⟨p', ?_, hd⟩
    simp only [trim, ha, if_neg (show ¬ (b.data.length : ℤ) < n by exact_mod_cast hb)]
    exact hp'

/-! ## The other edge -/

/-- The loop of `pbuf_realloc`, and what it does to the buffer it stops at. -/
def reallocLoop (grow : ℤ) : ℕ → List Buf → Except Fault (List Buf)
  | _, [] => .error (.assertion .pbufRealloc)
  | remLen, b :: bs =>
      if remLen > b.data.length then
        ({ b with totLen := u16 (b.totLen + grow) } :: ·) <$>
          reallocLoop grow (remLen - b.data.length) bs
      else .ok [⟨b.data.take remLen, remLen⟩]

/-- `pbuf_realloc`, of buffers of the pool. -/
def pbufRealloc (newLen : ℕ) : List Buf → Except Fault (List Buf)
  | [] => .error .dangling
  | b :: bs =>
      if b.totLen ≤ newLen then .ok (b :: bs)
      else reallocLoop (newLen - b.totLen) newLen (b :: bs)

/-- `p'` is what is left of `p` without all but its first `n` bytes. -/
structure Taken (n : ℕ) (p p' : List Buf) : Prop where
  bytes_eq : bytes p' = (bytes p).take n
  counted : Counted p'
  ne_nil : p' ≠ []

lemma reallocLoop_spec {g : ℤ} : ∀ {n : ℕ} {p : List Buf}, Counted p → p ≠ [] →
    (bytes p).length < 65536 → n ≤ (bytes p).length → g = n - (bytes p).length →
    ∃ p', reallocLoop g n p = .ok p' ∧ Taken n p p'
  | n, [], _, hne, _, _, _ => absurd rfl hne
  | n, b :: bs, hc, _, hlt, hle, hg => by
      have htl := hc.head
      rw [bytes_cons, List.length_append] at hlt hle hg
      by_cases hb : b.data.length < n
      · have hbs : bs ≠ [] := by
          rintro rfl
          rw [bytes_nil, List.length_nil] at hle
          omega
        obtain ⟨p', hp', ht⟩ := reallocLoop_spec (g := g) (n := n - b.data.length) (p := bs)
          hc.2 hbs (by omega) (by omega) (by omega)
        refine ⟨{ b with totLen := u16 (b.totLen + g) } :: p', ?_, ?_, ⟨?_, ht.counted⟩,
          List.cons_ne_nil _ _⟩
        · rw [reallocLoop, if_pos hb, hp']
          rfl
        · rw [bytes_cons, bytes_cons, ht.bytes_eq, List.take_append, List.take_of_length_le hb.le]
        · rw [bytes_cons, ht.bytes_eq, List.length_append, List.length_take]
          have := u16_of_range (x := b.totLen + g) (by omega) (by omega)
          show u16 (b.totLen + g) = b.data.length + min (n - b.data.length) (bytes bs).length
          omega
      · refine ⟨[⟨b.data.take n, n⟩], ?_, ?_, ⟨?_, trivial⟩, List.cons_ne_nil _ _⟩
        · rw [reallocLoop, if_neg hb]
        · rw [bytes_cons, bytes_cons, bytes_nil, List.append_nil,
            List.take_append_of_le_length (by omega)]
        · rw [bytes_cons, bytes_nil, List.append_nil, List.length_take]
          show n = _
          omega

/-- **The other edge.**  Of a chain that is longer, `n` bytes are left. -/
theorem pbufRealloc_spec {n : ℕ} {p : List Buf} (hc : Counted p) (hne : p ≠ [])
    (hlt : (bytes p).length < 65536) : ∃ p', pbufRealloc n p = .ok p' ∧ Taken n p p' := by
  obtain ⟨b, bs, rfl⟩ := List.exists_cons_of_ne_nil hne
  have hlen : (bytes (b :: bs)).length = b.totLen := hc.1.symm
  by_cases h : b.totLen ≤ n
  · refine ⟨b :: bs, if_pos h, ?_, hc, hne⟩
    rw [List.take_of_length_le (by omega)]
  · obtain ⟨p', hp', ht⟩ := reallocLoop_spec (g := n - b.totLen) (n := n) hc hne hlt (by omega)
      (by omega)
    exact ⟨p', by rw [pbufRealloc, if_neg h, hp'], ht⟩

end Lgt8.Tcp

import Mathlib.Tactic
import Lgt8.Library.Tiles
import Lgt8.Lwip.Mem

/-!
# The blocks of the heap

The headers in the memory of the heap cut it into tiles.  `Tiled d h ts` says that they cut it into
`ts` — each tile has a header of eight bytes that leads to the next and back to the one before it —
that no free tiles are neighbours, that `lfree` is the lowest of them, and that the used ones hold
the bytes of `d`.

* `Head`, `Heads`, `Upto` — one header, a row of them, and a row that reaches to the end of the heap.
* `tiled_memInit` — the heap that `memInit` makes is one free tile.
* **`memFree_tiled`**, **`memTrim_tiled`**, **`memMalloc_tiled`** — what the functions do to the
  tiles.  They do not fault on them.
-/

namespace Lgt8.Mem

open Library Library.Tile

variable {d m m' : Memory} {p q o e n s x : ℕ} {t : Tile} {ts pre post : List Tile} {h : Heap}

/-! ## Headers -/

/-- The header at `o` is that of the tile `t`; the one before it lies at `p`. -/
structure Head (d m : Memory) (p o : ℕ) (t : Tile) : Prop where
  next : structMem.get .next o m = o + span 8 t
  prev : structMem.get .prev o m = p
  used : structMem.get .used o m = 0 ↔ t.used = false
  least : 12 ≤ t.size
  whole : 4 ∣ t.size
  data : t.used = true → ∀ i, o + 8 ≤ i → i < o + span 8 t → m i = d i

/-- The headers of the tiles `ts`, which begin at `o`. -/
def Heads (d m : Memory) : ℕ → ℕ → List Tile → Prop
  | _, _, [] => True
  | p, o, t :: ts => Head d m p o t ∧ Heads d m o (o + span 8 t) ts

/-- The tiles `ts` reach to the end of the heap, which looks used. -/
def Upto (d m : Memory) : ℕ → ℕ → List Tile → Prop
  | _, o, [] => o = 6144 ∧ structMem.get .used o m ≠ 0
  | p, o, t :: ts => Head d m p o t ∧ Upto d m o (o + span 8 t) ts

/-- Where the last header lies, or `p` if there is none. -/
def lastHead : ℕ → ℕ → List Tile → ℕ
  | p, _, [] => p
  | _, o, t :: ts => lastHead o (o + span 8 t) ts

lemma upto_append : Upto d m p o (pre ++ post) ↔
    Heads d m p o pre ∧ Upto d m (lastHead p o pre) (o + total 8 pre) post := by
  induction pre generalizing p o with
  | nil => simp [Heads, lastHead]
  | cons t pre ih =>
      rw [List.cons_append, Upto, Heads, ih, lastHead, total_cons, Nat.add_assoc, and_assoc]

lemma Upto.total_eq (hu : Upto d m p o ts) : o + total 8 ts = 6144 := by
  induction ts generalizing p o with
  | nil => exact hu.1
  | cons t ts ih => rw [total_cons, ← Nat.add_assoc, ih hu.2]

lemma Upto.ending (hu : Upto d m p o ts) : structMem.get .used 6144 m ≠ 0 := by
  induction ts generalizing p o with
  | nil =>
      obtain ⟨rfl, hused⟩ := hu
      exact hused
  | cons t ts ih => exact ih hu.2

lemma Upto.length (hu : Upto d m p o ts) : o + ts.length ≤ 6144 := by
  induction ts generalizing p o with
  | nil => exact hu.1.le
  | cons t ts ih =>
      have hlen := ih hu.2
      simp only [span, List.length_cons] at hlen ⊢
      omega

lemma Heads.whole (hh : Heads d m p o ts) : 4 ∣ total 8 ts := by
  induction ts generalizing p o with
  | nil => exact dvd_zero 4
  | cons t ts ih =>
      have hwhole := hh.1.whole
      have hrest := ih hh.2
      rw [total_cons, span]
      omega

/-- What is behind a tile looks used unless it is a free tile. -/
lemma Upto.used_iff (hu : Upto d m p o ts) :
    structMem.get .used o m = 0 ↔ ∃ r ts', ts = ⟨r, false⟩ :: ts' := by
  cases ts with
  | nil => simp [hu.2]
  | cons t ts =>
      obtain ⟨r, u⟩ := t
      rw [hu.1.used]
      simp

lemma Upto.lt_of_cons (hu : Upto d m p o (t :: ts)) : o + span 8 t ≤ 6144 := by
  have htotal := hu.total_eq
  rw [total_cons] at htotal
  omega

lemma Head.congr (hh : Head d m p o t) (heq : ∀ i, o ≤ i → i < o + span 8 t → m' i = m i) :
    Head d m' p o t := by
  have hget (f : Field) : structMem.get f o m' = structMem.get f o m :=
    Record.get_congr fun i hi hi' => heq i hi (by
      simp only [structMem, sizeofStructMem, span] at *
      omega)
  exact {
    next := (hget _).trans hh.next
    prev := (hget _).trans hh.prev
    used := by rw [hget, hh.used]
    least := hh.least
    whole := hh.whole
    data := fun hu i hi hi' => (heq i (by omega) hi').trans (hh.data hu i hi hi') }

lemma Heads.congr (hh : Heads d m p o ts) (heq : ∀ i, o ≤ i → i < o + total 8 ts → m' i = m i) :
    Heads d m' p o ts := by
  induction ts generalizing p o with
  | nil => trivial
  | cons t ts ih =>
      rw [total_cons] at heq
      exact ⟨hh.1.congr fun i hi hi' => heq i hi (by omega),
        ih hh.2 fun i hi hi' => heq i (by omega) (by omega)⟩

lemma Upto.congr (hu : Upto d m p o ts) (heq : ∀ i, o ≤ i → i < 6152 → m' i = m i) :
    Upto d m' p o ts := by
  induction ts generalizing p o with
  | nil =>
      obtain ⟨rfl, hused⟩ := hu
      refine ⟨rfl, ?_⟩
      rwa [Record.get_congr (r := structMem) fun i hi hi' => heq i hi hi']
  | cons t ts ih =>
      have hle := hu.lt_of_cons
      exact ⟨hu.1.congr fun i hi hi' => heq i hi (by omega),
        ih hu.2 fun i hi hi' => heq i (by omega) hi'⟩

/-- The tile at `o` gets another one before it. -/
lemma Upto.relink (hu : Upto d m p o ts) (hq : q < 2 ^ 16)
    (heq : ∀ i, o ≤ i → i < 6152 → m' i = m i) : Upto d (structMem.set .prev o q m') q o ts := by
  have hu' := hu.congr heq
  cases ts with
  | nil => exact ⟨hu'.1, by rw [Record.get_set_of_ne (by decide)]; exact hu'.2⟩
  | cons t ts =>
      obtain ⟨hh, hts⟩ := hu'
      refine ⟨⟨?_, Record.get_set_self hq, ?_, hh.least, hh.whole, fun hused i hi hi' => ?_⟩, ?_⟩
      · rw [Record.get_set_of_ne (by decide), hh.next]
      · rw [Record.get_set_of_ne (by decide), hh.used]
      · rw [Record.set_of_outside (Or.inr hi), hh.data hused i hi hi']
      · refine hts.congr fun i hi _ => Record.set_of_outside (Or.inr ?_)
        simp only [structMem, sizeofStructMem, span] at *
        omega

/-- What `d` holds elsewhere does not matter. -/
lemma Upto.self (hu : Upto d m p o ts) : Upto m m p o ts := by
  induction ts generalizing p o with
  | nil => exact hu
  | cons t ts ih => exact ⟨{ hu.1 with data := fun _ _ _ _ => rfl }, ih hu.2⟩

/-- What is live holds what `d` says. -/
lemma Upto.data {y : ℕ × ℕ} {i : ℕ} (hu : Upto d m p o ts) (hy : y ∈ live 8 o ts) (hi : y.1 ≤ i)
    (hi' : i < y.1 + y.2) : m i = d i := by
  induction ts generalizing p o with
  | nil => cases hy
  | cons t ts ih =>
      rw [live] at hy
      split at hy
      · next hused =>
          rcases List.mem_cons.mp hy with rfl | hy
          · exact hu.1.data hused i hi (by simpa only [span, Nat.add_assoc] using hi')
          · exact ih hu.2 hy
      · exact ih hu.2 hy

/-- What is written where something is live changes no header. -/
lemma Upto.write (hu : Upto d m p o ts) (heq : ∀ i, o ≤ i →
    (∀ y ∈ live 8 o ts, i < y.1 ∨ y.1 + y.2 ≤ i) → m' i = m i) : Upto m' m' p o ts := by
  induction ts generalizing p o with
  | nil =>
      refine ⟨hu.1, ?_⟩
      rw [Record.get_congr (r := structMem) fun i hi _ => heq i hi nofun]
      exact hu.2
  | cons t ts ih =>
      obtain ⟨hh, hts⟩ := hu
      have hget (f : Field) : structMem.get f o m' = structMem.get f o m := by
        refine Record.get_congr fun i hi hi' => heq i hi fun y hy => Or.inl ?_
        have hin := (live_inside y hy).1
        simp only [structMem, sizeofStructMem] at hi'
        omega
      refine ⟨⟨(hget _).trans hh.next, (hget _).trans hh.prev, ?_, hh.least, hh.whole,
        fun _ _ _ _ => rfl⟩, ih hts fun i hi hout => heq i (by omega) fun y hy => ?_⟩
      · rw [hget, hh.used]
      · rw [live] at hy
        split at hy
        · rcases List.mem_cons.mp hy with rfl | hy
          · refine Or.inr ?_
            simp only [span] at hi ⊢
            omega
          · exact hout y hy
        · exact hout y hy

/-! ## The heap -/

/-- The heap is cut into `ts`. -/
structure Tiled (d : Memory) (h : Heap) (ts : List Tile) : Prop where
  upto : Upto d h.ram 0 0 ts
  lfree : h.lfree = lowestFree 8 0 ts
  separated : Separated ts

lemma Tiled.self (hh : Tiled d h ts) : Tiled h.ram h ts := { hh with upto := hh.upto.self }

lemma Tiled.total_eq (hh : Tiled d h ts) : total 8 ts = 6144 := by
  have htotal := hh.upto.total_eq
  omega

/-- `mem_init` makes one free tile. -/
lemma tiled_memInit (m : Memory) : Tiled d (memInit m) [⟨6136, false⟩] := by
  refine ⟨⟨⟨?_, ?_, ?_, by decide, by decide, nofun⟩, rfl, ?_⟩, rfl, List.isChain_singleton _⟩
  · simp only [memInit]
    repeat rw [Record.get_set_of_apart (Or.inl (by decide))]
    repeat rw [Record.get_set_of_ne (by decide)]
    exact Record.get_set_self (by decide)
  · simp only [memInit]
    repeat rw [Record.get_set_of_apart (Or.inl (by decide))]
    rw [Record.get_set_of_ne (by decide)]
    exact Record.get_set_self (by decide)
  · simp only [memInit]
    repeat rw [Record.get_set_of_apart (Or.inl (by decide))]
    rw [Record.get_set_self (by decide)]
    simp
  · rw [show 0 + span 8 ⟨6136, false⟩ = memSizeAligned from rfl]
    simp only [memInit]
    repeat rw [Record.get_set_of_ne (by decide)]
    rw [Record.get_set_self (by decide)]
    decide

/-! ## Giving a block back -/

/-- Two free tiles, made one by the two writes of `plug_holes`. -/
lemma Upto.absorb {r : ℕ} (hu : Upto d m p o (⟨s, false⟩ :: ⟨r, false⟩ :: ts)) :
    Upto d (structMem.set .prev (o + 8 + s + 8 + r) o
      (structMem.set .next o (o + 8 + s + 8 + r) m)) p o (⟨s + 8 + r, false⟩ :: ts) := by
  have htotal := hu.total_eq
  obtain ⟨hh, hh', hts⟩ := hu
  simp only [total_cons, span] at htotal hts
  have hend : o + (8 + s) + (8 + r) = o + 8 + s + 8 + r := by omega
  have hspan : o + span 8 ⟨s + 8 + r, false⟩ = o + 8 + s + 8 + r := by
    simp only [span]
    omega
  rw [hend] at hts
  have hleast := hh.least
  have hwhole := hh.whole
  have hwhole' := hh'.whole
  dsimp only at hleast hwhole hwhole'
  have hx : o + structMem.size ≤ o + 8 + s + 8 + r := by
    simp only [structMem, sizeofStructMem]
    omega
  refine ⟨⟨?_, ?_, ?_, ?_, ?_, fun hu => absurd hu Bool.false_ne_true⟩, ?_⟩
  · rw [hspan, Record.get_set_of_apart (Or.inl hx)]
    exact Record.get_set_self (show _ < 256 ^ 2 by omega)
  · rw [Record.get_set_of_apart (Or.inl hx), Record.get_set_of_ne (by decide), hh.prev]
  · rw [Record.get_set_of_apart (Or.inl hx), Record.get_set_of_ne (by decide), hh.used]
  · dsimp only
    omega
  · dsimp only
    omega
  · rw [hspan]
    exact hts.relink (by omega) fun i hi _ => Record.set_of_outside (Or.inr (by omega))

lemma plugForward_upto (hu : Upto d h.ram p o (⟨s, false⟩ :: post)) (hlow : h.lfree ≤ o) :
    ∃ m', plugForward o h = ⟨m', h.lfree⟩ ∧ Upto d m' p o (join 8 ⟨s, false⟩ post) ∧
      ∀ i, i < o → m' i = h.ram i := by
  obtain ⟨hh, hpost⟩ := hu
  have hnext := hh.next
  have hused := hpost.used_iff
  simp only [span] at hnext hused
  by_cases hfree : ∃ r ts', post = ⟨r, false⟩ :: ts'
  · obtain ⟨r, ts, rfl⟩ := hfree
    have hle := hpost.lt_of_cons
    have hnext' := hpost.1.next
    simp only [span] at hle hnext'
    have hkept : structMem.get .next (o + (8 + s))
        (structMem.set .next o (o + (8 + s) + (8 + r)) h.ram) = o + (8 + s) + (8 + r) := by
      rw [Record.get_set_of_apart (Or.inr _), hnext']
      simp only [structMem, sizeofStructMem]
      omega
    refine ⟨_, ?_, Upto.absorb ⟨hh, hpost⟩, fun i hi => ?_⟩
    · rw [plugForward]
      simp only [hnext, hnext', hkept]
      rw [if_pos ⟨by omega, hused.mpr ⟨r, ts, rfl⟩, by simp only [memSizeAligned]; omega⟩,
        if_neg (by omega)]
      simp only [← Nat.add_assoc]
    · rw [Record.set_of_outside (Or.inl (by omega)), Record.set_of_outside (Or.inl hi)]
  · refine ⟨h.ram, ?_, ?_, fun _ _ => rfl⟩
    · rw [plugForward]
      simp only [hnext]
      rw [if_neg fun hc => hfree (hused.mp hc.2.1)]
    · rcases join_cases (g := 8) ⟨s, false⟩ post with ⟨hj, -⟩ | ⟨-, r, ts, -, rfl, -⟩
      · rw [hj]
        exact ⟨hh, hpost⟩
      · exact (hfree ⟨r, ts, rfl⟩).elim

/-- A tile with nothing before it is at the start of the heap. -/
lemma plugBackward_first (hu : Upto d h.ram 0 0 (t :: post)) : plugBackward 0 h = h := by
  rw [plugBackward]
  simp only [hu.1.prev]
  exact if_neg fun hc => hc.1 rfl

lemma plugBackward_upto {t' : Tile}
    (hu : Upto d h.ram p o (pre ++ t' :: ⟨s, false⟩ :: post))
    (hlow : t'.used = false → h.lfree ≤ o + total 8 pre) :
    ∃ m', plugBackward (o + total 8 pre + span 8 t') h = ⟨m', h.lfree⟩ ∧
      Upto d m' p o (pre ++ join 8 t' (⟨s, false⟩ :: post)) := by
  have hall := hu
  rw [upto_append] at hu
  obtain ⟨hpre, hu⟩ := hu
  generalize hq : o + total 8 pre = q at *
  obtain ⟨hh', hh, hpost⟩ := hu
  obtain ⟨r, u⟩ := t'
  cases u with
  | true =>
      refine ⟨h.ram, ?_, hall⟩
      rw [plugBackward]
      simp only [hh.prev]
      rw [if_neg fun hc => absurd (hh'.used.mp hc.2) nofun]
  | false =>
      have hnext := hh.next
      simp only [span] at hnext hh ⊢
      have hkept : structMem.get .next (q + (8 + r))
          (structMem.set .next q (q + (8 + r) + (8 + s)) h.ram) = q + (8 + r) + (8 + s) := by
        rw [Record.get_set_of_apart (Or.inr _), hnext]
        simp only [structMem, sizeofStructMem]
        omega
      have habs := Upto.absorb ⟨hh', hh, hpost⟩
      simp only [← Nat.add_assoc] at hkept hnext habs ⊢
      refine ⟨_, ?_, upto_append.mpr ⟨hpre.congr fun i _ hi => ?_, by rw [hq]; exact habs⟩⟩
      · rw [plugBackward]
        simp only [← Nat.add_assoc] at hh
        simp only [hh.prev, hnext, hkept]
        rw [if_pos ⟨by omega, hh'.used.mpr rfl⟩, if_neg (by have := hlow rfl; omega)]
      · rw [hq] at hi
        rw [Record.set_of_outside (Or.inl (by omega)), Record.set_of_outside (Or.inl hi)]

/-- The tile `t` gets another mark, and nothing else changes. -/
lemma Upto.mark {v : ℕ} {u : Bool} (hu : Upto d m p o (pre ++ t :: post))
    (hv : v < 2 ^ 8) (hmark : v = 0 ↔ u = false)
    (hdata : u = true → ∀ i, o + total 8 pre + 8 ≤ i → i < o + total 8 pre + span 8 t → m i = d i) :
    Upto d (structMem.set .used (o + total 8 pre) v m) p o (pre ++ ⟨t.size, u⟩ :: post) := by
  rw [upto_append] at hu ⊢
  obtain ⟨hpre, hh, hpost⟩ := hu
  have hout (i : ℕ) (hi : i < o + total 8 pre ∨ o + total 8 pre + 8 ≤ i) :
      structMem.set .used (o + total 8 pre) v m i = m i := Record.set_of_outside hi
  refine ⟨hpre.congr fun i _ hi => hout i (Or.inl hi), ⟨?_, ?_, ?_, hh.least, hh.whole, ?_⟩, ?_⟩
  · rw [Record.get_set_of_ne (by decide), hh.next]
    rfl
  · rw [Record.get_set_of_ne (by decide), hh.prev]
  · rw [Record.get_set_self (show _ < 256 ^ 1 by omega), hmark]
  · intro hused i hi hi'
    rw [hout i (Or.inr hi), hdata hused i hi hi']
  · refine hpost.congr fun i hi _ => hout i (Or.inr ?_)
    simp only [span] at hi
    omega

lemma plugHoles_tiled (hu : Upto d h.ram 0 0 (pre ++ ⟨s, false⟩ :: post))
    (hlow : h.lfree = lowestFree 8 0 (pre ++ ⟨s, false⟩ :: post)) (hpre : Separated pre)
    (hpost : Separated post) :
    ∃ h', plugHoles (total 8 pre) h = .ok h' ∧
      Tiled d h' (settle 8 (pre ++ ⟨s, false⟩ :: post)) := by
  obtain ⟨hheads, htail⟩ := upto_append.mp hu
  simp only [Nat.zero_add] at htail
  have hle := htail.lt_of_cons
  have hlow' : h.lfree ≤ total 8 pre := by
    rw [hlow, lowestFree_free, Nat.zero_add]
    exact min_le_left _ _
  obtain ⟨m₁, hforward, htail₁, hbelow⟩ := plugForward_upto htail hlow'
  have hjoined : ∃ r ts, join 8 ⟨s, false⟩ post = ⟨r, false⟩ :: ts := by
    rcases join_cases (g := 8) ⟨s, false⟩ post with ⟨hj, -⟩ | ⟨k, r, ts, -, -, hj⟩
    · exact ⟨s, post, hj⟩
    · exact ⟨_, ts, hj⟩
  obtain ⟨r, ts, hj⟩ := hjoined
  have hu₁ : Upto d m₁ 0 0 (pre ++ ⟨r, false⟩ :: ts) := by
    rw [upto_append, ← hj, Nat.zero_add]
    exact ⟨hheads.congr fun i _ hi => hbelow i (by omega), htail₁⟩
  have hback : ∃ m₂, plugBackward (total 8 pre) ⟨m₁, h.lfree⟩ = ⟨m₂, h.lfree⟩ ∧
      Upto d m₂ 0 0 (settle 8 (pre ++ ⟨s, false⟩ :: post)) := by
    rcases List.eq_nil_or_concat pre with rfl | ⟨pre', t', rfl⟩
    · refine ⟨m₁, plugBackward_first hu₁, ?_⟩
      rw [List.nil_append, settle_cons, settle_of_separated hpost, hj]
      exact hu₁
    · simp only [List.concat_eq_append, List.append_assoc, List.singleton_append] at *
      have hlow₁ (hfree : t'.used = false) : h.lfree ≤ 0 + total 8 pre' := by
        obtain ⟨k, u⟩ := t'
        cases hfree
        rw [hlow, lowestFree_free]
        exact min_le_left _ _
      obtain ⟨m₂, hm₂, hu₂⟩ := plugBackward_upto (h := ⟨m₁, h.lfree⟩) hu₁ hlow₁
      refine ⟨m₂, ?_, ?_⟩
      · rwa [total_append, total_cons, total_nil, Nat.add_zero, ← Nat.zero_add (total 8 pre')]
      · rw [settle_middle hpre hpost, hj]
        exact hu₂
  obtain ⟨m₂, hm₂, hu₂⟩ := hback
  refine ⟨⟨m₂, h.lfree⟩, ?_, hu₂, by rw [lowestFree_settle]; exact hlow, separated_settle _⟩
  have hnext := htail.1.next
  have hlt : total 8 pre < memSizeAligned := by
    simp only [span, memSizeAligned] at hle ⊢
    omega
  rw [plugHoles, if_pos ⟨hlt, htail.1.used.mpr rfl, hnext.trans_le hle⟩, hforward, hm₂]

/-- **`mem_free` of a used block.** -/
theorem memFree_tiled (hh : Tiled d h (pre ++ ⟨s, true⟩ :: post)) :
    ∃ h', memFree (some (total 8 pre + 8)) h = .ok h' ∧
      Tiled d h' (settle 8 (pre ++ ⟨s, false⟩ :: post)) := by
  obtain ⟨hu, hlow, hsep⟩ := hh
  obtain ⟨hpre, hpost⟩ := separated_used_iff.mp hsep
  obtain ⟨hheads, htail⟩ := upto_append.mp hu
  simp only [Nat.zero_add] at htail
  have hle := htail.lt_of_cons
  have hwhole := hheads.whole
  have hleast := htail.1.least
  simp only [span] at hle hleast
  have hlow' : (if total 8 pre < h.lfree then total 8 pre else h.lfree) =
      lowestFree 8 0 (pre ++ ⟨s, false⟩ :: post) := by
    rw [lowestFree_free, ← hlow, Nat.zero_add]
    split <;> omega
  have hfreed := hu.mark (v := 0) (u := false) (by decide) (by simp)
    fun hu => absurd hu Bool.false_ne_true
  simp only [Nat.zero_add] at hfreed
  obtain ⟨h', hplug, hh'⟩ := plugHoles_tiled (h := ⟨_, _⟩) hfreed hlow' hpre hpost
  refine ⟨h', ?_, hh'⟩
  rw [memFree]
  dsimp only
  rw [if_pos ⟨by omega, by simp only [memSizeAligned]; omega⟩,
    if_neg (by simp only [sizeofStructMem]; omega),
    show total 8 pre + 8 - sizeofStructMem = total 8 pre from Nat.add_sub_cancel _ _,
    if_neg fun hc => Bool.false_ne_true (htail.1.used.mp hc).symm]
  exact hplug

/-! ## Cutting a block -/

/-- What is behind the new header leads back to it. -/
lemma backLink_upto (hnext : structMem.get .next x m = e) (hx : x < 2 ^ 16)
    (hpost : Upto d m q e post) :
    Upto d (backLink x m) x e post ∧ ∀ i, i < e → backLink x m i = m i := by
  rw [backLink]
  simp only [hnext]
  by_cases he : e = memSizeAligned
  · rw [if_neg (not_not.mpr he)]
    refine ⟨?_, fun _ _ => rfl⟩
    cases post with
    | nil => exact hpost
    | cons t post =>
        have hle := hpost.lt_of_cons
        simp only [span, memSizeAligned] at hle he
        omega
  · rw [if_pos he]
    exact ⟨hpost.relink hx fun _ _ _ => rfl, fun i hi => Record.set_of_outside (Or.inl hi)⟩

lemma newMem_outside {i : ℕ} (ho : i < o ∨ o + 8 ≤ i) (hx : i < x ∨ x + 8 ≤ i) :
    newMem o x e m i = m i := by
  rw [newMem]
  rw [Record.set_of_outside ho, Record.set_of_outside hx, Record.set_of_outside hx,
    Record.set_of_outside hx]

/-- The tile at `o` ends at a new free one behind its first `n` bytes. -/
lemma upto_carve {r : ℕ} {u : Bool} (hprev : structMem.get .prev o m = p)
    (hused : structMem.get .used o m = 0 ↔ u = false)
    (hdata : u = true → ∀ i, o + 8 ≤ i → i < o + 8 + n → m i = d i)
    (hn : 12 ≤ n ∧ 4 ∣ n) (hr : 12 ≤ r ∧ 4 ∣ r) (hpost : Upto d m q (o + 8 + n + 8 + r) post) :
    ∃ m', m' = backLink (o + 8 + n) (newMem o (o + 8 + n) (o + 8 + n + 8 + r) m) ∧
      Upto d m' p o (⟨n, u⟩ :: ⟨r, false⟩ :: post) ∧ ∀ i, i < o → m' i = m i := by
  have htotal := hpost.total_eq
  generalize hx : o + 8 + n = x at *
  have hox : o + structMem.size ≤ x := by
    simp only [structMem, sizeofStructMem]
    omega
  set m₁ := newMem o x (x + 8 + r) m with hm₁
  have hnext : structMem.get .next x m₁ = x + 8 + r := by
    rw [hm₁, newMem, Record.get_set_of_apart (Or.inr hox), Record.get_set_of_ne (by decide)]
    exact Record.get_set_self (show _ < 256 ^ 2 by omega)
  obtain ⟨hpost', hbelow⟩ := backLink_upto (x := x) (m := m₁) hnext (by omega)
    (hpost.congr fun i hi _ => newMem_outside (Or.inr (by omega)) (Or.inr (by omega)))
  have hhead : Head d m₁ p o ⟨n, u⟩ := by
    refine ⟨?_, ?_, ?_, hn.1, hn.2, fun hu i hi hi' => ?_⟩
    · rw [hm₁, newMem, Record.get_set_self (show _ < 256 ^ 2 by omega), span]
      dsimp only
      omega
    · rw [hm₁, newMem, Record.get_set_of_ne (by decide)]
      repeat rw [Record.get_set_of_apart (Or.inl hox)]
      exact hprev
    · rw [hm₁, newMem, Record.get_set_of_ne (by decide)]
      repeat rw [Record.get_set_of_apart (Or.inl hox)]
      exact hused
    · simp only [span] at hi'
      rw [hm₁, newMem_outside (Or.inr hi) (Or.inl (by omega))]
      exact hdata hu i hi (by omega)
  have hhead' : Head d m₁ o x ⟨r, false⟩ := by
    refine ⟨by rw [hnext, span, Nat.add_assoc], ?_, ?_, hr.1, hr.2,
      fun hu => absurd hu Bool.false_ne_true⟩
    · rw [hm₁, newMem, Record.get_set_of_apart (Or.inr hox)]
      exact Record.get_set_self (show _ < 256 ^ 2 by omega)
    · rw [hm₁, newMem, Record.get_set_of_apart (Or.inr hox), Record.get_set_of_ne (by decide),
        Record.get_set_of_ne (by decide), Record.get_set_self (by decide)]
      simp
  have hspan : o + span 8 ⟨n, u⟩ = x := by
    simp only [span]
    omega
  have hspan' : x + span 8 ⟨r, false⟩ = x + 8 + r := by rw [span, Nat.add_assoc]
  refine ⟨_, rfl, ⟨hhead.congr fun i _ hi => hbelow i (by omega), ?_, ?_⟩, fun i hi => ?_⟩
  · rw [hspan]
    exact hhead'.congr fun i _ hi => hbelow i (by omega)
  · rw [hspan, hspan']
    exact hpost'
  · rw [hbelow i (by omega), hm₁, newMem_outside (Or.inl hi) (Or.inl (by omega))]

/-- The size asked for is a multiple of four, and no less than twelve. -/
lemma rounded_spec (n : ℕ) : 12 ≤ rounded n ∧ 4 ∣ rounded n := by
  rw [rounded, memSizeT, alignSize, minSizeAligned]
  split <;> omega

/-- The tiles before `o` stay if nothing changes there. -/
lemma Heads.upto (hh : Heads d m p o pre) (heq : ∀ i, i < o + total 8 pre → m' i = m i)
    (hu : Upto d m' (lastHead p o pre) (o + total 8 pre) ts) : Upto d m' p o (pre ++ ts) :=
  upto_append.mpr ⟨hh.congr fun i _ hi => heq i hi, hu⟩

/-- What `mem_trim` does to the tiles, the last part of it. -/
lemma shrink_tiled (hh : Tiled d h (pre ++ ⟨s, true⟩ :: post)) (hn : 12 ≤ n ∧ 4 ∣ n) (hlt : n < s) :
    Tiled d (shrink (total 8 pre) n s h) (pre ++ trimmed 8 12 n s post) := by
  obtain ⟨hu, hlow, hsep⟩ := hh
  suffices hparts : Upto d (shrink (total 8 pre) n s h).ram 0 0 (pre ++ trimmed 8 12 n s post) ∧
      (shrink (total 8 pre) n s h).lfree = lowestFree 8 0 (pre ++ trimmed 8 12 n s post) from
    ⟨hparts.1, hparts.2, separated_trimmed hsep⟩
  obtain ⟨hheads, hhead, hpost⟩ := upto_append.mp hu
  simp only [Nat.zero_add] at hhead hpost
  have hnext := hhead.next
  have hwhole := hhead.whole
  have hle := hpost.total_eq
  have hused := hpost.used_iff
  have hdata (i : ℕ) (hi : total 8 pre + 8 ≤ i) (hi' : i < total 8 pre + 8 + n) : h.ram i = d i :=
    hhead.data rfl i hi (by simp only [span]; omega)
  have hcarve {r q : ℕ} {ts : List Tile} (hr : 12 ≤ r ∧ 4 ∣ r)
      (hts : Upto d h.ram q (total 8 pre + 8 + n + 8 + r) ts) :=
    upto_carve hhead.prev hhead.used (fun _ => hdata) hn hr hts
  simp only [span] at hnext hle hused hpost hwhole
  have hptr : memSizeT (total 8 pre + sizeofStructMem + n) = total 8 pre + 8 + n := by
    rw [memSizeT, sizeofStructMem]
    omega
  rw [shrink]
  simp only [hnext, hptr]
  by_cases hfree : ∃ r ts', post = ⟨r, false⟩ :: ts'
  · obtain ⟨r, ts, rfl⟩ := hfree
    obtain ⟨hhead', hts⟩ := hpost
    have hnext' := hhead'.next
    have hleast := hhead'.least
    have hwhole' := hhead'.whole
    simp only [span] at hnext' hleast hwhole' hts
    have hend : total 8 pre + (8 + s) + (8 + r) = total 8 pre + 8 + n + 8 + (r + (s - n)) := by
      omega
    rw [hend] at hts hnext'
    obtain ⟨m', hm', hu', hbelow⟩ := hcarve (by omega) hts
    rw [if_pos (hused.mpr ⟨r, ts, rfl⟩), hnext', ← hm']
    refine ⟨hheads.upto (fun i hi => hbelow i (by omega)) (by rwa [Nat.zero_add]), ?_⟩
    rw [hlow, trimmed]
    rcases all_used_or pre with hall | hsome
    · rw [lowestFree_of_used hall, lowestFree_of_used hall]
      simp only [lowestFree, span, if_true, Bool.false_eq_true, if_false, Nat.zero_add,
        Nat.add_assoc]
    · obtain ⟨-, hbefore⟩ := lowestFree_of_free (g := 8) (o := 0) hsome []
      rw [(lowestFree_of_free hsome _).1, (lowestFree_of_free hsome _).1, if_neg (by omega)]
  · rw [if_neg fun hc => hfree (hused.mp hc), trimmed_of_not_free hfree, taken]
    by_cases hroom : n + sizeofStructMem + minSizeAligned ≤ s
    · have hroom' : n + 8 + 12 ≤ s := hroom
      rw [if_pos hroom, if_pos hroom']
      have hend : total 8 pre + (8 + s) = total 8 pre + 8 + n + 8 + (s - n - 8) := by omega
      rw [hend] at hpost ⊢
      obtain ⟨m', hm', hu', hbelow⟩ := hcarve (by omega) hpost
      rw [← hm']
      refine ⟨hheads.upto (fun i hi => hbelow i (by omega)) (by rwa [Nat.zero_add]), ?_⟩
      have hmin : lowestFree 8 0 ((pre ++ [⟨n, true⟩]) ++ ⟨s - n - 8, false⟩ :: post) =
          min (total 8 pre + 8 + n) h.lfree := by
        rw [lowestFree_free, List.append_assoc, List.singleton_append,
          lowestFree_split (by omega : n + 8 + (s - n - 8) = s), ← hlow]
        simp only [total_append, total_cons, total_nil, span, Nat.zero_add, Nat.add_zero,
          Nat.add_assoc]
      simp only [List.append_assoc, List.singleton_append] at hmin
      rw [List.cons_append, List.cons_append, List.nil_append, hmin]
      dsimp only
      split <;> omega
    · rw [if_neg hroom, if_neg (show ¬ n + 8 + 12 ≤ s from hroom)]
      exact ⟨hu, hlow⟩

/-- **`mem_trim` of a used block** to a size it has. -/
theorem memTrim_tiled (hh : Tiled d h (pre ++ ⟨s, true⟩ :: post)) (hn : rounded n ≤ s) :
    ∃ h', memTrim (total 8 pre + 8) n h = .ok (some (total 8 pre + 8), h') ∧
      Tiled d h' (pre ++ trimmed 8 12 (rounded n) s post) := by
  obtain ⟨-, htail⟩ := upto_append.mp hh.upto
  simp only [Nat.zero_add] at htail
  have hle := htail.lt_of_cons
  have hnext := htail.1.next
  have hleast := htail.1.least
  simp only [span] at hle hnext hleast
  have hsize : memSizeT (structMem.get .next (total 8 pre) h.ram + 2 ^ 32 - total 8 pre -
      sizeofStructMem) = s := by
    rw [hnext, memSizeT, sizeofStructMem]
    omega
  have htrim : memTrim (total 8 pre + 8) n h = if rounded n = s then
      .ok (some (total 8 pre + 8), h)
      else .ok (some (total 8 pre + 8), shrink (total 8 pre) (rounded n) s h) := by
    rw [memTrim, if_neg (by simp only [memSizeAligned]; omega),
      if_neg (by simp only [memSizeAligned]; omega), if_neg (by simp only [sizeofStructMem]; omega),
      show total 8 pre + 8 - sizeofStructMem = total 8 pre from Nat.add_sub_cancel _ _]
    dsimp only
    rw [hsize, if_neg (by omega)]
  rw [htrim]
  split
  · next hsame =>
      refine ⟨h, rfl, ?_⟩
      rwa [hsame, trimmed_self (by decide)]
  · exact ⟨_, rfl, shrink_tiled hh (rounded_spec n) (by omega)⟩

/-! ## Taking a block -/

/-- The loop of `mem_malloc` stops at the first tile that fits. -/
lemma scan_upto {f : ℕ} (hu : Upto d m p o ts) (hfuel : ts.length < f) :
    (∃ pre s post, ts = pre ++ ⟨s, false⟩ :: post ∧ n ≤ s ∧ (∀ t ∈ pre, ¬ Fits n t) ∧
      scan n m f o = .ok (some (o + total 8 pre))) ∨
    (∀ t ∈ ts, ¬ Fits n t) ∧ scan n m f o = .ok none := by
  induction ts generalizing p o f with
  | nil =>
      obtain ⟨k, rfl⟩ := Nat.exists_eq_succ_of_ne_zero (Nat.ne_zero_of_lt hfuel)
      refine Or.inr ⟨nofun, ?_⟩
      rw [scan, if_neg]
      rw [hu.1, memSizeAligned]
      omega
  | cons t ts ih =>
      obtain ⟨k, rfl⟩ := Nat.exists_eq_succ_of_ne_zero (Nat.ne_zero_of_lt hfuel)
      have htotal := hu.total_eq
      rw [scan]
      by_cases hlast : o < memSizeAligned - n
      · have hle := hu.lt_of_cons
        have hroom : room o m = t.size := by
          rw [room, hu.1.next, sizeofStructMem]
          simp only [span] at hle ⊢
          omega
        rw [if_pos hlast, hroom]
        by_cases hfits : Fits n t
        · obtain ⟨s, u⟩ := t
          obtain ⟨rfl, hns⟩ := hfits
          refine Or.inl ⟨[], s, ts, rfl, hns, nofun, ?_⟩
          rw [if_pos ⟨hu.1.used.mpr rfl, hns⟩]
          rfl
        · rw [if_neg fun hc => hfits ⟨hu.1.used.mp hc.1, hc.2⟩, hu.1.next]
          rcases ih hu.2 (Nat.lt_of_succ_lt_succ hfuel) with
            ⟨pre, s, post, rfl, hns, hpre, hscan⟩ | ⟨hnone, hscan⟩
          · refine Or.inl ⟨t :: pre, s, post, rfl, hns, ?_, ?_⟩
            · exact List.forall_mem_cons.mpr ⟨hfits, hpre⟩
            · rw [hscan, total_cons, Nat.add_assoc]
          · exact Or.inr ⟨List.forall_mem_cons.mpr ⟨hfits, hnone⟩, hscan⟩
      · refine Or.inr ⟨fun t' ht' hfits => hlast ?_, if_neg hlast⟩
        have hspan := span_le_total (g := 8) ht'
        have hns := hfits.2
        simp only [span, memSizeAligned] at *
        omega

lemma lowest_upto {f : ℕ} (hu : Upto d m p o ts) (hfuel : ts.length < f) :
    lowest m f o = .ok (lowestFree 8 o ts) ∧ (lowestFree 8 o ts = memSizeAligned ∨
      structMem.get .used (lowestFree 8 o ts) m = 0) := by
  induction ts generalizing p o f with
  | nil =>
      obtain ⟨k, rfl⟩ := Nat.exists_eq_succ_of_ne_zero (Nat.ne_zero_of_lt hfuel)
      rw [lowest, if_neg fun hc => hc.2 hu.1]
      exact ⟨rfl, Or.inl hu.1⟩
  | cons t ts ih =>
      obtain ⟨k, rfl⟩ := Nat.exists_eq_succ_of_ne_zero (Nat.ne_zero_of_lt hfuel)
      have hle := hu.lt_of_cons
      have hused := hu.1.used
      rw [lowest, lowestFree]
      by_cases ht : t.used = true
      · have hne : o ≠ memSizeAligned := by
          simp only [span, memSizeAligned] at hle ⊢
          omega
        rw [if_pos ⟨fun hc => by simp [ht] at hused; exact hused hc, hne⟩, if_pos ht, hu.1.next]
        exact ih hu.2 (Nat.lt_of_succ_lt_succ hfuel)
      · have hzero := hused.mpr (by simpa using ht)
        rw [if_neg fun hc => hc.1 hzero, if_neg ht]
        exact ⟨rfl, Or.inr hzero⟩

/-- Once the tile behind `pre` is taken, `lfree` is put right. -/
lemma adjustLfree_upto (rest : List Tile) (hu : Upto d m 0 0 (pre ++ post)) :
    adjustLfree (total 8 pre) (lowestFree 8 0 (pre ++ ⟨s, false⟩ :: rest)) m =
      .ok (lowestFree 8 0 (pre ++ post)) := by
  have htail := (upto_append.mp hu).2
  have hlen := hu.length
  rw [adjustLfree]
  rcases all_used_or pre with hall | hsome
  · have hfuel : post.length < turns := by
      simp only [turns, memSizeAligned, List.length_append] at hlen ⊢
      omega
    obtain ⟨hlowest, hend⟩ := lowest_upto htail hfuel
    rw [lowestFree_of_used hall, lowestFree_of_used hall, lowestFree, if_neg Bool.false_ne_true,
      if_pos (Nat.zero_add _).symm, hlowest]
    exact if_pos hend
  · obtain ⟨-, hbefore⟩ := lowestFree_of_free (g := 8) (o := 0) hsome []
    rw [(lowestFree_of_free hsome _).1, (lowestFree_of_free hsome _).1, if_neg (by omega)]

lemma newMem_mark (hox : o + 8 ≤ x) :
    structMem.set .used o 1 (newMem o x e m) = newMem o x e (structMem.set .used o 1 m) := by
  have hapart : o + structMem.size ≤ x := hox
  simp only [newMem]
  rw [Record.set_comm_of_ne (by decide),
    Record.set_comm_of_apart (f := .used) (g := .prev) (Or.inl hapart),
    Record.set_comm_of_apart (f := .used) (g := .next) (Or.inl hapart),
    Record.set_comm_of_apart (f := .used) (g := .used) (Or.inl hapart)]

lemma takeMem_upto (hu : Upto d m 0 0 (pre ++ ⟨s, false⟩ :: post)) (hn : 12 ≤ n ∧ 4 ∣ n)
    (hns : n ≤ s) :
    Upto m (takeMem n (total 8 pre) m) 0 0 (pre ++ (taken 8 12 n s ++ post)) := by
  have hself := hu.self
  obtain ⟨hheads, hhead, hpost⟩ := upto_append.mp hself
  have hmarked := hself.mark (v := 1) (u := true) (by decide) (by simp) fun _ _ _ _ => rfl
  simp only [Nat.zero_add] at hhead hpost hmarked
  have hnext := hhead.next
  have hwhole := hhead.whole
  have hle := hpost.total_eq
  simp only [span] at hnext hpost hwhole hle
  have hroom : room (total 8 pre) m = s := by
    rw [room, hnext, sizeofStructMem]
    omega
  rw [takeMem, hroom, taken]
  by_cases hsplit : n + sizeofStructMem + minSizeAligned ≤ s
  · have hsplit' : n + 8 + 12 ≤ s := hsplit
    have hptr : memSizeT (total 8 pre + sizeofStructMem + n) = total 8 pre + 8 + n := by
      rw [memSizeT, sizeofStructMem]
      omega
    have hend : total 8 pre + (8 + s) = total 8 pre + 8 + n + 8 + (s - n - 8) := by omega
    obtain ⟨hheads', hhead', hpost'⟩ := upto_append.mp hmarked
    simp only [Nat.zero_add, span] at hhead' hpost'
    rw [hend] at hpost' hnext
    obtain ⟨m', hm', hu', hbelow⟩ := upto_carve (d := m) (u := true) hhead'.prev hhead'.used
      (fun _ i hi _ => Record.set_of_outside (Or.inr hi)) hn (by omega) hpost'
    rw [if_pos hsplit, if_pos hsplit']
    simp only [hptr, hnext]
    rw [newMem_mark (by omega), ← hm']
    refine hheads'.upto (fun i hi => hbelow i (by omega)) ?_
    rwa [Nat.zero_add]
  · rw [if_neg hsplit, if_neg (show ¬ n + 8 + 12 ≤ s from hsplit)]
    exact hmarked

/-- **`mem_malloc`** takes the first tile that fits, and fails only if none does. -/
theorem memMalloc_tiled (hh : Tiled d h ts) (hn : n ≠ 0) :
    (∃ pre s post h', ts = pre ++ ⟨s, false⟩ :: post ∧ rounded n ≤ s ∧
      (∀ t ∈ pre, ¬ Fits (rounded n) t) ∧
      memMalloc n h = .ok (some (total 8 pre + 8), h') ∧
      Tiled h.ram h' (pre ++ (taken 8 12 (rounded n) s ++ post))) ∨
    (∀ t ∈ ts, ¬ Fits (rounded n) t) ∧ memMalloc n h = .ok (none, h) := by
  obtain ⟨hu, hlow, hsep⟩ := hh
  rw [memMalloc, if_neg hn]
  by_cases hbig : memSizeAligned < rounded n
  · refine Or.inr ⟨fun t ht hfits => ?_, if_pos hbig⟩
    have hspan := span_le_total (g := 8) ht
    have htotal := hu.total_eq
    have hns := hfits.2
    simp only [span, memSizeAligned] at *
    omega
  · obtain ⟨pre₀, rest, rfl, hall, hlow₀⟩ := exists_lowestFree (g := 8) 0 ts
    have hnot : ∀ t ∈ pre₀, ¬ Fits (rounded n) t := fun t ht hfits =>
      absurd (hall t ht) (by simp [hfits.1])
    have hlen := hu.length
    have hfuel : rest.length < turns := by
      simp only [turns, memSizeAligned, List.length_append] at hlen ⊢
      omega
    have hlfree : h.lfree = 0 + total 8 pre₀ := by rw [hlow, hlow₀]
    rcases scan_upto (n := rounded n) (upto_append.mp hu).2 hfuel with
      ⟨pre₁, s, post, rfl, hns, hpre, hscan⟩ | ⟨hnone, hscan⟩
    · have hplace : 0 + total 8 pre₀ + total 8 pre₁ = total 8 (pre₀ ++ pre₁) := by
        rw [total_append, Nat.zero_add]
      rw [← List.append_assoc] at hu hsep hlow
      obtain ⟨hheads, hhead, hpost⟩ := upto_append.mp hu
      simp only [Nat.zero_add, span] at hpost hhead
      have htaken := takeMem_upto hu (rounded_spec n) hns
      have hadjust := adjustLfree_upto (s := s) post htaken
      have hwhole := hheads.whole
      have hle := hpost.total_eq
      obtain ⟨hpre', hpost', -, hhead'⟩ := separated_free_iff.mp hsep
      refine Or.inl ⟨pre₀ ++ pre₁, s, post, ⟨takeMem (rounded n) (total 8 (pre₀ ++ pre₁)) h.ram,
          lowestFree 8 0 (pre₀ ++ pre₁ ++ (taken 8 12 (rounded n) s ++ post))⟩,
        (List.append_assoc ..).symm, hns, List.forall_mem_append.mpr ⟨hnot, hpre⟩, ?_, htaken, rfl,
        separated_taken hpre' hpost' hhead'⟩
      rw [if_neg hbig, hlfree, hscan, hplace]
      dsimp only [bind, Except.bind]
      rw [← hlfree, hlow, hadjust]
      dsimp only
      have hend : total 8 (pre₀ ++ pre₁) + sizeofStructMem + rounded n ≤ memSizeAligned := by
        simp only [sizeofStructMem, memSizeAligned]
        omega
      rw [if_pos ⟨hend, by omega⟩]
      rfl
    · refine Or.inr ⟨List.forall_mem_append.mpr ⟨hnot, hnone⟩, ?_⟩
      rw [if_neg hbig, hlfree, hscan]
      rfl

end Lgt8.Mem

import Mathlib.Tactic

/-!
# A stretch cut into tiles

A stretch of memory is cut into tiles that lie one behind the other; each has a head of `g` cells and
`size` cells behind it, and is used or free.  This is what an allocator keeps track of.

* `span`, `total`, `live` — the cells of a tile, of all of them, and the used ones with where their
  cells lie; `live_apart`, `live_inside` — these lie apart, and inside the stretch.
* `Separated` — no two free tiles are neighbours.
* `join`, `settle` — neighbouring free tiles made one.  It keeps what is live (**`live_settle`**) and
  where the lowest free tile lies, and leaves none to be made (**`separated_settle`**).
* **`eq_singleton_of_live_nil`** — once nothing is live, a separated stretch is one tile again.
-/

namespace Library

structure Tile where
  size : ℕ
  used : Bool

namespace Tile

variable {g : ℕ} {o s : ℕ} {t : Tile} {ts pre post : List Tile}

/-- A tile with its head. -/
def span (g : ℕ) (t : Tile) : ℕ := g + t.size

def total (g : ℕ) (ts : List Tile) : ℕ := (ts.map (span g)).sum

@[simp] lemma total_nil : total g [] = 0 := rfl

@[simp] lemma total_cons : total g (t :: ts) = span g t + total g ts := by
  simp [total]

@[simp] lemma total_append : total g (pre ++ post) = total g pre + total g post := by
  simp [total]

lemma span_le_total (h : t ∈ ts) : span g t ≤ total g ts :=
  List.le_sum_of_mem (List.mem_map_of_mem h)

/-- A free tile with room for `n` cells. -/
def Fits (n : ℕ) (t : Tile) : Prop := t.used = false ∧ n ≤ t.size

/-! ## What is live -/

/-- The used tiles of a stretch that begins at `o`: where the cells behind the head lie, and how many
they are. -/
def live (g : ℕ) : ℕ → List Tile → List (ℕ × ℕ)
  | _, [] => []
  | o, t :: ts =>
      if t.used then (o + g, t.size) :: live g (o + span g t) ts else live g (o + span g t) ts

lemma live_append : live g o (pre ++ post) = live g o pre ++ live g (o + total g pre) post := by
  induction pre generalizing o with
  | nil => simp [live]
  | cons t pre ih =>
      rw [List.cons_append, live, live, total_cons, ih, Nat.add_assoc]
      split <;> rfl

lemma live_inside : ∀ {o : ℕ} {ts : List Tile}, ∀ p ∈ live g o ts,
    o + g ≤ p.1 ∧ p.1 + p.2 ≤ o + total g ts
  | o, t :: ts, p, hp => by
      have htail : ∀ p ∈ live g (o + span g t) ts, o + g ≤ p.1 ∧ p.1 + p.2 ≤ o + total g (t :: ts) := by
        intro p hp
        have h := live_inside p hp
        rw [total_cons]
        simp only [span] at *
        omega
      rw [live] at hp
      split at hp
      · rcases List.mem_cons.mp hp with rfl | hp
        · rw [total_cons, span]
          dsimp only
          omega
        · exact htail p hp
      · exact htail p hp

/-- Between two used tiles there is a head. -/
lemma live_apart : ∀ {o : ℕ} {ts : List Tile},
    (live g o ts).Pairwise fun p q => p.1 + p.2 + g ≤ q.1
  | _, [] => List.Pairwise.nil
  | o, t :: ts => by
      rw [live]
      split
      · refine List.pairwise_cons.mpr ⟨fun q hq => ?_, live_apart⟩
        have h := (live_inside q hq).1
        simp only [span] at h ⊢
        omega
      · exact live_apart

/-- A used tile, and what lies on either side of it. -/
lemma mem_live_iff {p : ℕ} : (p, s) ∈ live g o ts ↔
    ∃ pre post, ts = pre ++ ⟨s, true⟩ :: post ∧ p = o + total g pre + g := by
  constructor
  · intro h
    induction ts generalizing o with
    | nil => cases h
    | cons t ts ih =>
        have hrest : (p, s) ∈ live g (o + span g t) ts →
            ∃ pre post, t :: ts = pre ++ ⟨s, true⟩ :: post ∧ p = o + total g pre + g := by
          intro h
          obtain ⟨pre, post, rfl, rfl⟩ := ih h
          exact ⟨t :: pre, post, rfl, by rw [total_cons, Nat.add_assoc o]⟩
        obtain ⟨r, u⟩ := t
        cases u with
        | false => exact hrest h
        | true =>
            rcases List.mem_cons.mp h with h | h
            · cases h
              exact ⟨[], ts, rfl, rfl⟩
            · exact hrest h
  · rintro ⟨pre, post, rfl, rfl⟩
    rw [live_append]
    exact List.mem_append_right _ (List.mem_cons_self ..)

/-- Two used tiles are one, or lie apart with a head between them. -/
lemma live_apart_of_mem {x y : ℕ × ℕ} (hx : x ∈ live g o ts) (hy : y ∈ live g o ts) :
    x = y ∨ x.1 + x.2 + g ≤ y.1 ∨ y.1 + y.2 + g ≤ x.1 := by
  refine live_apart.imp (fun h => Or.inr (Or.inl h)) |>.forall_of_forall_of_flip
    (R := fun p q => p = q ∨ p.1 + p.2 + g ≤ q.1 ∨ q.1 + q.2 + g ≤ p.1)
    (fun _ _ => Or.inl rfl) (live_apart.imp fun h => Or.inr (Or.inr h)) hx hy

lemma live_free : live g o (pre ++ ⟨s, false⟩ :: post) =
    live g o pre ++ live g (o + total g pre + (g + s)) post := by
  rw [live_append]
  rfl

/-- What is live beside one tile that is not. -/
lemma live_free_apart {x : ℕ × ℕ} (hx : x ∈ live g o (pre ++ ⟨s, false⟩ :: post)) :
    x.1 + x.2 ≤ o + total g pre ∨ o + total g pre + (g + s) + g ≤ x.1 := by
  rw [live_free, List.mem_append] at hx
  rcases hx with hx | hx
  · exact Or.inl (live_inside x hx).2
  · exact Or.inr (live_inside x hx).1

lemma mem_live_used {x : ℕ × ℕ} : x ∈ live g o (pre ++ ⟨s, true⟩ :: post) ↔
    x = (o + total g pre + g, s) ∨ x ∈ live g o (pre ++ ⟨s, false⟩ :: post) := by
  rw [live_append, live_free, live, if_pos rfl, List.mem_append, List.mem_cons, List.mem_append]
  tauto

/-! ## Neighbours -/

/-- No two free tiles are neighbours. -/
def Separated (ts : List Tile) : Prop := ts.IsChain fun a b => a.used = true ∨ b.used = true

lemma Separated.tail (h : Separated (t :: ts)) : Separated ts := List.IsChain.of_cons h

lemma Separated.right (h : Separated (pre ++ post)) : Separated post :=
  List.IsChain.right_of_append h

lemma Separated.left (h : Separated (pre ++ post)) : Separated pre :=
  List.IsChain.left_of_append h

/-- A used tile separates what is on its sides. -/
lemma separated_used_iff :
    Separated (pre ++ ⟨s, true⟩ :: post) ↔ Separated pre ∧ Separated post := by
  rw [Separated, List.isChain_append, List.isChain_cons]
  simp [Separated]

/-- A free tile is separated from what is on its sides if these are. -/
lemma separated_free_iff : Separated (pre ++ ⟨s, false⟩ :: post) ↔
    Separated pre ∧ Separated post ∧ (∀ t ∈ pre.getLast?, t.used = true) ∧
      ∀ t ∈ post.head?, t.used = true := by
  rw [Separated, List.isChain_append, List.isChain_cons]
  simp [Separated]
  tauto

/-- A tile in front, made one with the tile behind it if both are free. -/
def join (g : ℕ) : Tile → List Tile → List Tile
  | ⟨s, false⟩, ⟨r, false⟩ :: ts => ⟨s + g + r, false⟩ :: ts
  | t, ts => t :: ts

lemma join_cases (t : Tile) (ts : List Tile) :
    (join g t ts = t :: ts ∧ (t.used = true ∨ ∀ u ∈ ts.head?, u.used = true)) ∨
    ∃ s r ts', t = ⟨s, false⟩ ∧ ts = ⟨r, false⟩ :: ts' ∧
      join g t ts = ⟨s + g + r, false⟩ :: ts' := by
  obtain ⟨s, u⟩ := t
  cases u with
  | true => exact Or.inl ⟨by rw [join]; simp, Or.inl rfl⟩
  | false =>
      cases ts with
      | nil => exact Or.inl ⟨rfl, Or.inr nofun⟩
      | cons v ts =>
          obtain ⟨r, w⟩ := v
          cases w with
          | true => exact Or.inl ⟨rfl, Or.inr (by simp)⟩
          | false => exact Or.inr ⟨s, r, ts, rfl, rfl, rfl⟩

lemma live_join (o : ℕ) (t : Tile) (ts : List Tile) :
    live g o (join g t ts) = live g o (t :: ts) := by
  rcases join_cases (g := g) t ts with ⟨h, -⟩ | ⟨s, r, ts', rfl, rfl, h⟩
  · rw [h]
  · rw [h]
    simp only [live, span, Bool.false_eq_true, if_false]
    congr 1
    omega

lemma Separated.join (h : Separated ts) (t : Tile) : Separated (join g t ts) := by
  rcases join_cases (g := g) t ts with ⟨hj, hu⟩ | ⟨s, r, ts', rfl, rfl, hj⟩
  · rw [hj, Separated, List.isChain_cons]
    refine ⟨fun u hu' => ?_, h⟩
    rcases hu with hu | hu
    · exact Or.inl hu
    · exact Or.inr (hu u hu')
  · rw [hj, Separated, List.isChain_cons]
    exact ⟨(List.isChain_cons.mp h).1, h.tail⟩

/-- Every row of free neighbours made one tile. -/
def settle (g : ℕ) (ts : List Tile) : List Tile := ts.foldr (join g) []

lemma settle_cons : settle g (t :: ts) = join g t (settle g ts) := rfl

/-- **What is live stays where it is.** -/
theorem live_settle (o : ℕ) (ts : List Tile) : live g o (settle g ts) = live g o ts := by
  induction ts generalizing o with
  | nil => rfl
  | cons t ts ih => rw [settle_cons, live_join, live, live, ih]

/-- **No free neighbours are left.** -/
theorem separated_settle (ts : List Tile) : Separated (settle g ts) := by
  induction ts with
  | nil => exact List.isChain_nil
  | cons t ts ih => exact ih.join t

/-- There is nothing to do where no free tiles are neighbours. -/
lemma join_of_separated (h : Separated (t :: ts)) : join g t ts = t :: ts := by
  rcases join_cases (g := g) t ts with ⟨hj, -⟩ | ⟨s, r, ts', rfl, rfl, -⟩
  · exact hj
  · simp [Separated] at h

lemma settle_append_of_separated (h : Separated (pre ++ settle g post)) :
    settle g (pre ++ post) = pre ++ settle g post := by
  induction pre with
  | nil => rfl
  | cons t pre ih =>
      rw [List.cons_append, settle_cons, ih h.tail, List.cons_append]
      exact join_of_separated h

lemma settle_of_separated (h : Separated ts) : settle g ts = ts := by
  have hnil : settle g [] = [] := rfl
  have hs : settle g (ts ++ []) = ts ++ settle g [] :=
    settle_append_of_separated (by rwa [hnil, List.append_nil])
  rwa [hnil, List.append_nil] at hs

/-! ## The lowest free tile -/

/-- Where the first free tile of a stretch from `o` on lies, or where the stretch ends. -/
def lowestFree (g : ℕ) : ℕ → List Tile → ℕ
  | o, [] => o
  | o, t :: ts => if t.used then lowestFree g (o + span g t) ts else o

lemma lowestFree_of_used (h : ∀ t ∈ pre, t.used = true) :
    lowestFree g o (pre ++ post) = lowestFree g (o + total g pre) post := by
  induction pre generalizing o with
  | nil => rfl
  | cons t pre ih =>
      obtain ⟨ht, hpre⟩ := List.forall_mem_cons.mp h
      rw [List.cons_append, lowestFree, if_pos ht, ih hpre, total_cons, Nat.add_assoc]

lemma lowestFree_of_free (h : ∃ t ∈ pre, t.used = false) (post : List Tile) :
    lowestFree g o (pre ++ post) = lowestFree g o pre ∧
      lowestFree g o pre + g ≤ o + total g pre := by
  induction pre generalizing o with
  | nil => simp at h
  | cons t pre ih =>
      rw [List.cons_append, lowestFree, lowestFree, total_cons]
      split
      · next hu =>
          have hpre : ∃ t ∈ pre, t.used = false := by
            obtain ⟨u, hu', hf⟩ := h
            rcases List.mem_cons.mp hu' with rfl | hmem
            · rw [hf] at hu
              cases hu
            · exact ⟨u, hmem, hf⟩
          obtain ⟨heq, hle⟩ := ih (o := o + span g t) hpre
          exact ⟨heq, by omega⟩
      · exact ⟨rfl, by simp only [span]; omega⟩

lemma le_lowestFree (o : ℕ) (ts : List Tile) : o ≤ lowestFree g o ts := by
  induction ts generalizing o with
  | nil => exact le_rfl
  | cons t ts ih =>
      rw [lowestFree]
      split
      · exact (Nat.le_add_right o _).trans (ih _)
      · exact le_rfl

lemma lowestFree_join (o : ℕ) (t : Tile) (ts : List Tile) :
    lowestFree g o (join g t ts) = lowestFree g o (t :: ts) := by
  rcases join_cases (g := g) t ts with ⟨h, -⟩ | ⟨s, r, ts', rfl, rfl, h⟩
  · rw [h]
  · rw [h]
    rfl

lemma lowestFree_settle (o : ℕ) (ts : List Tile) :
    lowestFree g o (settle g ts) = lowestFree g o ts := by
  induction ts generalizing o with
  | nil => rfl
  | cons t ts ih => rw [settle_cons, lowestFree_join, lowestFree, lowestFree, ih]

/-- The lowest free tile has only used ones before it. -/
lemma exists_lowestFree (o : ℕ) (ts : List Tile) : ∃ pre post, ts = pre ++ post ∧
    (∀ t ∈ pre, t.used = true) ∧ lowestFree g o ts = o + total g pre := by
  induction ts generalizing o with
  | nil => exact ⟨[], [], rfl, nofun, rfl⟩
  | cons t ts ih =>
      by_cases hu : t.used = true
      · obtain ⟨pre, post, rfl, hpre, hlow⟩ := ih (o + span g t)
        refine ⟨t :: pre, post, rfl, List.forall_mem_cons.mpr ⟨hu, hpre⟩, ?_⟩
        rw [lowestFree, if_pos hu, hlow, total_cons, Nat.add_assoc]
      · exact ⟨[], t :: ts, rfl, nofun, by rw [lowestFree, if_neg hu]; rfl⟩

lemma all_used_or (pre : List Tile) :
    (∀ t ∈ pre, t.used = true) ∨ ∃ t ∈ pre, t.used = false := by
  by_cases h : ∀ t ∈ pre, t.used = true
  · exact Or.inl h
  · push Not at h
    obtain ⟨t, ht, hu⟩ := h
    exact Or.inr ⟨t, ht, by simpa using hu⟩

/-- A tile made free is the lowest one if it lies below the one that was. -/
lemma lowestFree_free : lowestFree g o (pre ++ ⟨s, false⟩ :: post) =
    min (o + total g pre) (lowestFree g o (pre ++ ⟨s, true⟩ :: post)) := by
  rcases all_used_or pre with h | h
  · rw [lowestFree_of_used h, lowestFree_of_used h]
    exact (min_eq_left (le_lowestFree _ _)).symm
  · obtain ⟨heq, hle⟩ := lowestFree_of_free (g := g) (o := o) h (⟨s, false⟩ :: post)
    rw [heq, (lowestFree_of_free h _).1]
    omega

/-- A used tile in two parts. -/
lemma lowestFree_split {n k : ℕ} (h : n + g + k = s) :
    lowestFree g o (pre ++ ⟨n, true⟩ :: ⟨k, true⟩ :: post) =
      lowestFree g o (pre ++ ⟨s, true⟩ :: post) := by
  have htail (o : ℕ) : lowestFree g o (⟨n, true⟩ :: ⟨k, true⟩ :: post) =
      lowestFree g o (⟨s, true⟩ :: post) := by
    simp only [lowestFree, if_true, span]
    congr 1
    omega
  rcases all_used_or pre with hpre | hpre
  · rw [lowestFree_of_used hpre, lowestFree_of_used hpre, htail]
  · rw [(lowestFree_of_free hpre _).1, (lowestFree_of_free hpre _).1]

/-! ## Taking and cutting -/

/-- A free tile of `s` cells taken for `n` of them.  What is left is a tile of its own if it has room
for a head and `least` cells. -/
def taken (g least n s : ℕ) : List Tile :=
  if n + g + least ≤ s then [⟨n, true⟩, ⟨s - n - g, false⟩] else [⟨s, true⟩]

/-- A used tile of `s` cells cut to `n`, with the tiles behind it: a free one there grows to the
left. -/
def trimmed (g least n s : ℕ) : List Tile → List Tile
  | ⟨r, false⟩ :: ts => ⟨n, true⟩ :: ⟨r + (s - n), false⟩ :: ts
  | ts => taken g least n s ++ ts

variable {least n : ℕ}

lemma trimmed_of_not_free (h : ¬ ∃ r ts', ts = ⟨r, false⟩ :: ts') :
    trimmed g least n s ts = taken g least n s ++ ts := by
  rw [trimmed.eq_def]
  split
  · exact (h ⟨_, _, rfl⟩).elim
  · rfl

lemma trimmed_self (h : 0 < g + least) : trimmed g least s s ts = ⟨s, true⟩ :: ts := by
  rw [trimmed.eq_def]
  split
  · rw [Nat.sub_self, Nat.add_zero]
  · rw [taken, if_neg (by omega)]
    rfl

/-- What is live once a tile is taken: the tile, with no more cells than need be. -/
lemma mem_live_taken (g o least n s : ℕ) (pre post : List Tile) :
    ∃ k, (k = n ∨ k = s ∧ s < n + g + least) ∧
      ∀ x, x ∈ live g o (pre ++ (taken g least n s ++ post)) ↔
      x = (o + total g pre + g, k) ∨ x ∈ live g o (pre ++ ⟨s, false⟩ :: post) := by
  rw [taken]
  split
  · refine ⟨n, Or.inl rfl, fun x => ?_⟩
    have hend : o + total g pre + (g + n) + (g + (s - n - g)) = o + total g pre + (g + s) := by
      omega
    simp only [live_append, live, if_true, Bool.false_eq_true, if_false,
      List.cons_append, List.nil_append, List.mem_append, List.mem_cons, span, hend]
    tauto
  · next hroom => exact ⟨s, Or.inr ⟨rfl, not_le.mp hroom⟩, fun x => mem_live_used⟩

/-- What is live once a tile is cut. -/
lemma mem_live_trimmed (g o least : ℕ) (pre post : List Tile) (h : n ≤ s) :
    ∃ k, (k = n ∨ k = s ∧ s < n + g + least) ∧
      ∀ x, x ∈ live g o (pre ++ trimmed g least n s post) ↔
      x = (o + total g pre + g, k) ∨ x ∈ live g o (pre ++ ⟨s, false⟩ :: post) := by
  rw [trimmed.eq_def]
  split
  · next r ts =>
      refine ⟨n, Or.inl rfl, fun x => ?_⟩
      have hend : o + total g pre + (g + n) + (g + (r + (s - n))) =
          o + total g pre + (g + s) + (g + r) := by
        omega
      simp only [live_append, live, if_true, Bool.false_eq_true, if_false,
        List.mem_append, List.mem_cons, span, hend]
      tauto
  · exact mem_live_taken ..

lemma separated_taken (hpre : Separated pre) (hpost : Separated post)
    (hhead : ∀ t ∈ post.head?, t.used = true) :
    Separated (pre ++ (taken g least n s ++ post)) := by
  rw [taken]
  split
  · have hrest : Separated ([] ++ ⟨s - n - g, false⟩ :: post) :=
      separated_free_iff.mpr ⟨List.isChain_nil, hpost, nofun, hhead⟩
    exact separated_used_iff.mpr ⟨hpre, hrest⟩
  · exact separated_used_iff.mpr ⟨hpre, hpost⟩

lemma separated_trimmed (h : Separated (pre ++ ⟨s, true⟩ :: post)) :
    Separated (pre ++ trimmed g least n s post) := by
  obtain ⟨hpre, hpost⟩ := separated_used_iff.mp h
  rw [trimmed.eq_def]
  split
  · exact separated_used_iff.mpr ⟨hpre, List.isChain_cons.mpr (List.isChain_cons.mp hpost)⟩
  · next hne =>
      refine separated_taken hpre hpost fun t ht => ?_
      obtain ⟨r, u⟩ := t
      cases u with
      | true => rfl
      | false =>
          obtain ⟨ts, rfl⟩ := List.head?_eq_some_iff.mp ht
          exact (hne r ts rfl).elim

/-- The tiles on both sides of one that is given back need no look further. -/
lemma settle_middle {t : Tile} (hpre : Separated (pre ++ [t])) (hpost : Separated post) :
    settle g (pre ++ t :: ⟨s, false⟩ :: post) = pre ++ join g t (join g ⟨s, false⟩ post) := by
  have hsettle : settle g (t :: ⟨s, false⟩ :: post) = join g t (join g ⟨s, false⟩ post) := by
    rw [settle_cons, settle_cons, settle_of_separated hpost]
  rw [settle_append_of_separated, hsettle]
  rw [hsettle, Separated, List.isChain_append]
  refine ⟨hpre.left, (hpost.join _).join _, fun u hu v hv => ?_⟩
  have huv := (List.isChain_append.mp hpre).2.2 u hu t rfl
  have hv' : v.used = t.used := by
    rcases join_cases (g := g) t (join g ⟨s, false⟩ post) with ⟨h, -⟩ | ⟨r, k, ts', rfl, -, h⟩
    · rw [h] at hv
      cases hv
      rfl
    · rw [h] at hv
      cases hv
      rfl
  rwa [hv']

/-! ## Nothing live -/

lemma live_eq_nil_iff : live g o ts = [] ↔ ∀ t ∈ ts, t.used = false := by
  induction ts generalizing o with
  | nil => simp [live]
  | cons t ts ih =>
      obtain ⟨s, u⟩ := t
      cases u with
      | true => simp [live]
      | false => simp [live, ih]

/-- **Once nothing is live, all is one free tile.** -/
theorem eq_singleton_of_live_nil (h : Separated ts) (hne : ts ≠ []) (hlive : live g o ts = []) :
    ts = [⟨total g ts - g, false⟩] := by
  have hfree := live_eq_nil_iff.mp hlive
  match ts, hne with
  | [⟨s, u⟩], _ =>
      have hu : u = false := hfree _ (List.mem_singleton_self _)
      subst hu
      simp [span]
  | t :: u :: ts, _ =>
      have ht := hfree t (by simp)
      have hu := hfree u (by simp)
      simp [Separated, ht, hu] at h

/-- **Free tiles are few**: if none of them has more than `b` cells, there is one between any two
used ones at the most. -/
theorem total_le {b : ℕ} : ∀ {ts : List Tile} (o : ℕ), Separated ts →
    (∀ t ∈ ts, t.used = false → span g t ≤ b) →
    total g ts ≤ ((live g o ts).map fun x => g + x.2).sum + ((live g o ts).length + 1) * b
  | [], _, _, _ => by simp
  | ⟨s, true⟩ :: ts, o, h, hb => by
      have ih := total_le (o + span g ⟨s, true⟩) h.tail fun t ht => hb t (List.mem_cons_of_mem _ ht)
      simp only [live, if_true, total_cons, List.map_cons, List.sum_cons, List.length_cons,
        span] at ih ⊢
      rw [Nat.add_mul, Nat.one_mul]
      omega
  | [⟨s, false⟩], o, _, hb => by
      have hs := hb _ (List.mem_singleton_self _) rfl
      simpa [live] using hs
  | ⟨s, false⟩ :: ⟨r, true⟩ :: ts, o, h, hb => by
      have ih := total_le (o + span g ⟨s, false⟩ + span g ⟨r, true⟩) h.tail.tail fun t ht =>
        hb t (List.mem_cons_of_mem _ (List.mem_cons_of_mem _ ht))
      have hs := hb ⟨s, false⟩ (List.mem_cons_self ..) rfl
      simp only [live, if_true, Bool.false_eq_true, if_false, total_cons, List.map_cons,
        List.sum_cons, List.length_cons, span] at ih hs ⊢
      rw [Nat.add_mul, Nat.one_mul]
      omega
  | ⟨s, false⟩ :: ⟨r, false⟩ :: ts, o, h, _ => by simp [Separated] at h

end Tile

end Library

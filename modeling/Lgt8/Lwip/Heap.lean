import Mathlib.Tactic
import Lgt8.Library.Runs
import Lgt8.Lwip.Blocks

/-!
# Whoever uses the heap

A client takes blocks, gives them back, cuts them and writes in them, in any order.  It keeps to what
it was given: it gives back and cuts only what it has, writes only inside it, and asks for no more
than 65532 bytes at once, since the size that `mem_malloc` rounds up would not fit a `mem_size_t`.

* `Client`, `Call`, `step`, `Fair` — the heap beside what the client believes is in its blocks.
* `Sound` — the heap is cut into tiles, the used ones are the client's, and hold what it believes.
* **`client_safe`** — no run of such calls faults, and its blocks are apart and keep their contents.
* **`mem_malloc_succeeds`** — how much room is enough, whatever the order the blocks came and went in.
* **`mem_malloc_of_emptied`** — once everything is given back, the heap is whole again.
* **`mem_calloc_sound_iff`**, **`mem_malloc_room_iff`** — up to what size a block is as large as what
  was asked for, and `mem_calloc` clears nothing else.
-/

namespace Lgt8.Mem

open Library Library.Tile

/-- What the client has: the contents of its blocks, by their pointers. -/
structure Client where
  heap : Heap
  blocks : ℕ → Option (List UInt8)

inductive Call
  | malloc (size : ℕ)
  | calloc (count size : ℕ)
  | free (rmem : Option ℕ)
  | trim (rmem newsize : ℕ)
  | write (rmem i : ℕ) (b : UInt8)

namespace Client

def start (m : Memory) : Client := ⟨memInit m, fun _ => none⟩

/-- A block that holds `data`, if there is one. -/
def gain (c : Client) (r : Option ℕ × Heap) (data : ℕ → List UInt8) : Client where
  heap := r.2
  blocks :=
    match r.1 with
    | none => c.blocks
    | some p => Function.update c.blocks p (some (data p))

def step (c : Client) : Call → Except Fault Client
  | .malloc size =>
      memMalloc size c.heap >>= fun r => .ok (c.gain r fun p => r.2.ram.load p size)
  | .calloc count size =>
      memCalloc count size c.heap >>= fun r =>
        .ok (c.gain r fun _ => List.replicate (count * size) 0)
  | .free none => memFree none c.heap >>= fun h => .ok { c with heap := h }
  | .free (some p) =>
      memFree (some p) c.heap >>= fun h => .ok ⟨h, Function.update c.blocks p none⟩
  | .trim p newsize =>
      memTrim p newsize c.heap >>= fun r =>
        .ok ⟨r.2, if r.1 = none then c.blocks
          else Function.update c.blocks p ((c.blocks p).map (List.take newsize))⟩
  | .write p i b =>
      .ok ⟨{ c.heap with ram := c.heap.ram.store (p + i) [b] },
        Function.update c.blocks p ((c.blocks p).map fun data => data.set i b)⟩

/-- The client keeps to what it was given. -/
def Fair (c : Client) : Call → Prop
  | .malloc size => size ≤ 65532
  | .calloc count size => count * size ≤ 65532
  | .free rmem => ∀ p, rmem = some p → c.blocks p ≠ none
  | .trim p newsize => ∃ data, c.blocks p = some data ∧ newsize ≤ data.length
  | .write p i _ => ∃ data, c.blocks p = some data ∧ i < data.length

instance (c : Client) : ∀ call, Decidable (Fair c call)
  | .malloc size => inferInstanceAs (Decidable (size ≤ 65532))
  | .calloc count size => inferInstanceAs (Decidable (count * size ≤ 65532))
  | .free none => .isTrue nofun
  | .free (some p) => decidable_of_iff (c.blocks p ≠ none)
      ⟨fun h _ hq => Option.some.inj hq ▸ h, fun h => h p rfl⟩
  | .trim p newsize => decidable_of_iff (∃ data ∈ c.blocks p, newsize ≤ data.length) Iff.rfl
  | .write p i _ => decidable_of_iff (∃ data ∈ c.blocks p, i < data.length) Iff.rfl

/-- The used tiles are the client's blocks. -/
structure Sound (c : Client) (ts : List Tile) : Prop where
  tiled : Tiled c.heap.ram c.heap ts
  owned : ∀ p, c.blocks p ≠ none ↔ ∃ k, (p, k) ∈ live 8 0 ts
  held : ∀ p data k, c.blocks p = some data → (p, k) ∈ live 8 0 ts →
    c.heap.ram.load p data.length = data
  fits : ∀ p data k, c.blocks p = some data → (p, k) ∈ live 8 0 ts →
    data.length ≤ k ∧ rounded data.length ≤ k ∧ k ≤ rounded data.length + 16

variable {c : Client} {h h' : Heap} {ts ts' pre post : List Tile} {p k n s : ℕ}
  {v : Option (List UInt8)} {data : List UInt8}

lemma start_sound (m : Memory) : Sound (start m) [⟨6136, false⟩] where
  tiled := tiled_memInit m
  owned p := by simp [start, live]
  held _ _ _ hp _ := nomatch hp
  fits _ _ _ hp _ := nomatch hp

/-- Only the block `p` is another one. -/
lemma Sound.update (hs : Sound c ts) (htiled : Tiled h.ram h ts')
    (hsame : ∀ q, q ≠ p → ∀ k, (q, k) ∈ live 8 0 ts' ↔ (q, k) ∈ live 8 0 ts)
    (hkept : ∀ q, q ≠ p → ∀ k, (q, k) ∈ live 8 0 ts → ∀ i, q ≤ i → i < q + k →
      h.ram i = c.heap.ram i)
    (howned : v ≠ none ↔ ∃ k, (p, k) ∈ live 8 0 ts')
    (hheld : ∀ data k, v = some data → (p, k) ∈ live 8 0 ts' → h.ram.load p data.length = data ∧
      data.length ≤ k ∧ rounded data.length ≤ k ∧ k ≤ rounded data.length + 16) :
    Sound ⟨h, Function.update c.blocks p v⟩ ts' := by
  refine ⟨htiled, fun q => ?_, fun q data k hq hk => ?_, fun q data k hq hk => ?_⟩
  all_goals by_cases hqp : q = p
  · subst hqp
    simpa only [Function.update_self] using howned
  · simp only [Function.update_of_ne hqp, hsame q hqp, hs.owned]
  · subst hqp
    simp only [Function.update_self] at hq
    exact (hheld data k hq hk).1
  · simp only [Function.update_of_ne hqp] at hq
    rw [hsame q hqp] at hk
    rw [← hs.held q data k hq hk, Memory.length_load]
    have hle := (hs.fits q data k hq hk).1
    refine List.map_congr_left fun i hi => hkept q hqp k hk _ (by omega) ?_
    have := List.mem_range.mp hi
    omega
  · subst hqp
    simp only [Function.update_self] at hq
    exact (hheld data k hq hk).2
  · simp only [Function.update_of_ne hqp] at hq
    exact hs.fits q data k hq ((hsame q hqp k).mp hk)

/-- A pointer of the client's is that of a tile. -/
lemma Sound.tile (hs : Sound c ts) (hp : c.blocks p ≠ none) :
    ∃ pre s post, ts = pre ++ ⟨s, true⟩ :: post ∧ p = total 8 pre + 8 := by
  obtain ⟨k, hk⟩ := (hs.owned p).mp hp
  obtain ⟨pre, post, hts, hpre⟩ := mem_live_iff.mp hk
  exact ⟨pre, k, post, hts, by rwa [Nat.zero_add] at hpre⟩

/-- Nothing else is live where a tile is not. -/
lemma ne_of_mem_live_free {x : ℕ × ℕ} (hx : x ∈ live 8 0 (pre ++ ⟨s, false⟩ :: post)) :
    x.1 ≠ total 8 pre + 8 := by
  have hapart := live_free_apart hx
  omega

/-- Up to here the size rounded up fits a `mem_size_t`. -/
lemma rounded_eq (hn : n ≤ 65532) : rounded n = max 12 ((n + 3) / 4 * 4) := by
  rw [rounded, memSizeT, alignSize, minSizeAligned]
  split <;> omega

/-- The three sizes above it are rounded up to zero, and so to the least size there is. -/
lemma rounded_wide (hlo : 65532 < n) (hhi : n < 2 ^ 16) : rounded n = 12 := by
  rw [rounded, memSizeT, alignSize, minSizeAligned]
  split <;> omega

lemma rounded_le (hnk : n ≤ k) (hk : k ≤ 65532) : rounded n ≤ rounded k ∧ n ≤ rounded n := by
  rw [rounded_eq hk, rounded_eq (hnk.trans hk)]
  omega

lemma free_sound (hs : Sound c ts) (hp : c.blocks p ≠ none) :
    ∃ c', step c (.free (some p)) = .ok c' ∧ ∃ ts', Sound c' ts' := by
  obtain ⟨pre, s, post, rfl, rfl⟩ := hs.tile hp
  obtain ⟨h, hfree, htiled⟩ := memFree_tiled hs.tiled
  have hlive (x : ℕ × ℕ) (hx : x.1 ≠ total 8 pre + 8) :
      x ∈ live 8 0 (settle 8 (pre ++ ⟨s, false⟩ :: post)) ↔
        x ∈ live 8 0 (pre ++ ⟨s, true⟩ :: post) := by
    rw [live_settle, mem_live_used, Nat.zero_add]
    refine (or_iff_right fun hxp => hx ?_).symm
    rw [hxp]
  refine ⟨_, by rw [step, hfree]; rfl, _, hs.update (v := none) htiled.self
    (fun q hq k => hlive _ hq) ?_ ?_
    fun _ _ hv _ => nomatch hv⟩
  · exact fun q hq k hk i hi hi' => htiled.upto.data ((hlive _ hq).mpr hk) hi hi'
  · refine iff_of_false (not_not.mpr rfl) fun hk => ?_
    obtain ⟨k, hk⟩ := hk
    rw [live_settle] at hk
    exact ne_of_mem_live_free hk rfl

/-- What is live under the pointer of a tile that was taken or cut. -/
lemma eq_of_mem_live {x : ℕ × ℕ} (hx : x = (total 8 pre + 8, s) ∨
    x ∈ live 8 0 (pre ++ ⟨n, false⟩ :: post)) (hp : x.1 = total 8 pre + 8) : x.2 = s := by
  rcases hx with rfl | hx
  · rfl
  · exact absurd hp (ne_of_mem_live_free hx)

lemma trim_sound (hs : Sound c ts) (hp : c.blocks p = some data) (hn : n ≤ data.length) :
    ∃ c', step c (.trim p n) = .ok c' ∧ ∃ ts', Sound c' ts' := by
  obtain ⟨pre, s, post, rfl, rfl⟩ := hs.tile (by rw [hp]; nofun)
  have hmem : (total 8 pre + 8, s) ∈ live 8 0 (pre ++ ⟨s, true⟩ :: post) :=
    mem_live_used.mpr (Or.inl (by rw [Nat.zero_add]))
  obtain ⟨hlen, hroom, -⟩ := hs.fits _ data s hp hmem
  have hspan := span_le_total (g := 8) (List.mem_append_right pre (List.mem_cons_self ..) :
    (⟨s, true⟩ : Tile) ∈ pre ++ ⟨s, true⟩ :: post)
  rw [hs.tiled.total_eq] at hspan
  simp only [span] at hspan
  have hwhole : 4 ∣ s := (upto_append.mp hs.tiled.upto).2.1.whole
  obtain ⟨hmono, hself⟩ := rounded_le (n := n) (k := data.length) hn (by omega)
  obtain ⟨h, htrim, htiled⟩ := memTrim_tiled (n := n) hs.tiled (by omega)
  obtain ⟨k, hk, hlive⟩ := mem_live_trimmed 8 0 12 pre post (by omega : rounded n ≤ s)
  have hround := (rounded_spec n).2
  rw [Nat.zero_add] at hlive
  have hsame (x : ℕ × ℕ) (hx : x.1 ≠ total 8 pre + 8) :
      x ∈ live 8 0 (pre ++ trimmed 8 12 (rounded n) s post) ↔
        x ∈ live 8 0 (pre ++ ⟨s, true⟩ :: post) := by
    have hne (j : ℕ) : x ≠ (total 8 pre + 8, j) := fun hxp => hx (by rw [hxp])
    rw [hlive, mem_live_used, Nat.zero_add, or_iff_right (hne k), or_iff_right (hne s)]
  have hload : h.ram.load (total 8 pre + 8) n = data.take n := by
    rw [← hs.held _ data s hp hmem]
    refine List.ext_getElem (by simp [hn]) fun i hi hi' => ?_
    rw [Memory.length_load] at hi
    have hbyte := htiled.upto.data ((hlive _).mpr (Or.inl rfl)) (Nat.le_add_right _ i) (by
      dsimp only
      omega)
    simpa [Memory.load] using hbyte
  refine ⟨_, by rw [step, htrim]; rfl, _, hs.update htiled.self (fun q hq k => hsame _ hq) ?_ ?_ ?_⟩
  · exact fun q hq k hk i hi hi' => htiled.upto.data ((hsame _ hq).mpr hk) hi hi'
  · rw [hp]
    exact iff_of_true (Option.some_ne_none _) ⟨k, (hlive _).mpr (Or.inl rfl)⟩
  · intro data' k' hdata' hk'
    rw [hp] at hdata'
    cases hdata'
    obtain rfl : k' = k := eq_of_mem_live ((hlive _).mp hk') rfl
    rw [List.length_take, min_eq_left hn]
    exact ⟨hload, by omega⟩

/-- A byte written in the middle of what is loaded. -/
lemma load_store_byte {m : Memory} {a i : ℕ} {b : UInt8} :
    (m.store (a + i) [b]).load a n = (m.load a n).set i b := by
  refine List.ext_getElem (by simp) fun j hj hj' => ?_
  rw [List.getElem_set]
  by_cases hij : i = j
  · subst hij
    rw [if_pos rfl]
    simp [Memory.load, Memory.store]
  · rw [if_neg hij]
    simp only [Memory.load, List.getElem_map, List.getElem_range, Memory.store]
    rw [if_neg]
    simp only [List.length_singleton]
    omega

lemma write_sound {i : ℕ} (hs : Sound c ts) (hp : c.blocks p = some data) (hi : i < data.length)
    (b : UInt8) : ∃ c', step c (.write p i b) = .ok c' ∧ ∃ ts', Sound c' ts' := by
  obtain ⟨k, hk⟩ := (hs.owned p).mp (by rw [hp]; nofun)
  have hlen := (hs.fits p data k hp hk).1
  have hout (x : ℕ × ℕ) (hx : x ∈ live 8 0 ts) (hne : x.1 ≠ p) (j : ℕ) (hj : x.1 ≤ j)
      (hj' : j < x.1 + x.2) : c.heap.ram.store (p + i) [b] j = c.heap.ram j := by
    rcases live_apart_of_mem hx hk with rfl | h | h
    · exact absurd rfl hne
    · exact Memory.store_of_lt (by dsimp only at h; omega)
    · exact Memory.store_of_le (by dsimp only at h; simp only [List.length_singleton]; omega)
  have hupto : Upto (c.heap.ram.store (p + i) [b]) (c.heap.ram.store (p + i) [b]) 0 0 ts := by
    refine hs.tiled.upto.write fun j _ hj => ?_
    rcases hj _ hk with h | h
    · exact Memory.store_of_lt (by dsimp only at h; omega)
    · exact Memory.store_of_le (by dsimp only at h; simp only [List.length_singleton]; omega)
  refine ⟨_, rfl, ts, hs.update ⟨hupto, hs.tiled.lfree, hs.tiled.separated⟩ (fun _ _ _ => Iff.rfl)
    (fun q hq k hk j hj hj' => hout _ hk hq j hj hj') ?_ ?_⟩
  · rw [hp]
    exact iff_of_true nofun ⟨k, hk⟩
  · intro data' k' hdata' hk'
    rw [hp] at hdata'
    cases hdata'
    obtain ⟨-, hfits⟩ := hs.fits p data k' hp hk'
    rw [List.length_set, load_store_byte, hs.held p data k hp hk]
    exact ⟨rfl, (hs.fits p data k' hp hk').1, hfits⟩

/-- What `mem_malloc` does for a client: nothing, or a new tile of about the size asked for. -/
lemma memMalloc_sound (hs : Sound c ts) (hn : n ≤ 65532) :
    memMalloc n c.heap = .ok (none, c.heap) ∨
    ∃ p k h ts', memMalloc n c.heap = .ok (some p, h) ∧ Tiled c.heap.ram h ts' ∧
      (∀ x, x ∈ live 8 0 ts' ↔ x = (p, k) ∨ x ∈ live 8 0 ts) ∧ (∀ x ∈ live 8 0 ts, x.1 ≠ p) ∧
      n ≤ k ∧ rounded n ≤ k ∧ k ≤ rounded n + 16 := by
  by_cases hzero : n = 0
  · exact Or.inl (by rw [memMalloc, if_pos hzero])
  rcases memMalloc_tiled hs.tiled hzero with
    ⟨pre, s, post, h, rfl, hns, -, hmalloc, htiled⟩ | ⟨-, hmalloc⟩
  · obtain ⟨k, hk, hlive⟩ := mem_live_taken 8 0 12 (rounded n) s pre post
    have hwhole : 4 ∣ s := (upto_append.mp hs.tiled.upto).2.1.whole
    have hround := (rounded_spec n).2
    have hself := (rounded_le le_rfl hn).2
    rw [Nat.zero_add] at hlive
    exact Or.inr ⟨total 8 pre + 8, k, h, _, hmalloc, htiled, hlive,
      fun x hx => ne_of_mem_live_free hx, by omega, by omega, by omega⟩
  · exact Or.inl hmalloc

/-- A new block with `data` in it. -/
lemma gain_sound (data : List UInt8) (hs : Sound c ts) (htiled : Tiled c.heap.ram h ts')
    (hlive : ∀ x, x ∈ live 8 0 ts' ↔ x = (p, k) ∨ x ∈ live 8 0 ts)
    (hnew : ∀ x ∈ live 8 0 ts, x.1 ≠ p)
    (hk : data.length ≤ k ∧ rounded data.length ≤ k ∧ k ≤ rounded data.length + 16) :
    Sound ⟨{ h with ram := h.ram.store p data }, Function.update c.blocks p (some data)⟩ ts' := by
  have hmem : (p, k) ∈ live 8 0 ts' := (hlive _).mpr (Or.inl rfl)
  have hupto : Upto (h.ram.store p data) (h.ram.store p data) 0 0 ts' := by
    refine htiled.upto.write fun j _ hj => ?_
    rcases hj _ hmem with h | h
    · exact Memory.store_of_lt h
    · exact Memory.store_of_le (by dsimp only at h; omega)
  have hsame (q : ℕ) (hq : q ≠ p) (j : ℕ) : (q, j) ∈ live 8 0 ts' ↔ (q, j) ∈ live 8 0 ts := by
    rw [hlive, or_iff_right fun hqp => hq (congrArg Prod.fst hqp)]
  refine hs.update ⟨hupto, htiled.lfree, htiled.separated⟩ hsame (fun q hq j hj i hi hi' => ?_)
    (iff_of_true nofun ⟨k, hmem⟩) fun data' k' hdata' hk' => ?_
  · have hj' := (hsame q hq j).mpr hj
    rw [← htiled.upto.data hj' hi hi']
    rcases live_apart_of_mem hj' hmem with h | h | h
    · exact absurd (congrArg Prod.fst h) hq
    · exact Memory.store_of_lt (by dsimp only at h; omega)
    · exact Memory.store_of_le (by dsimp only at h; omega)
  · cases hdata'
    rcases (hlive _).mp hk' with h | h
    · cases h
      exact ⟨Memory.load_store, hk⟩
    · exact absurd rfl (hnew _ h)

/-- What is in a block may be stored there again. -/
lemma store_load (a n : ℕ) (m : Memory) : m.store a (m.load a n) = m := by
  funext i
  by_cases hi : a ≤ i ∧ i < a + n
  · obtain ⟨j, rfl⟩ := Nat.exists_eq_add_of_le hi.1
    have hj : j < (m.load a n).length := by
      rw [Memory.length_load]
      omega
    rw [Memory.store_apply hj]
    simp [Memory.load]
  · rw [Memory.store, Memory.length_load, if_neg hi]

lemma malloc_sound (hs : Sound c ts) (hn : n ≤ 65532) :
    ∃ c', step c (.malloc n) = .ok c' ∧ ∃ ts', Sound c' ts' := by
  rcases memMalloc_sound hs hn with hmalloc | ⟨p, k, h, ts', hmalloc, htiled, hlive, hnew, hk⟩
  · exact ⟨c, by rw [step, hmalloc]; rfl, ts, hs⟩
  · have hgain := gain_sound (h.ram.load p n) hs htiled hlive hnew
      (by rwa [Memory.length_load])
    rw [store_load] at hgain
    exact ⟨_, by rw [step, hmalloc]; rfl, ts', hgain⟩

/-- A cleared block is a new one. -/
lemma memCalloc_sound {count size : ℕ} (hs : Sound c ts) (hn : count * size ≤ 65532) :
    memCalloc count size c.heap = .ok (none, c.heap) ∨
    ∃ p h ts', memCalloc count size c.heap = .ok (some p, h) ∧ c.blocks p = none ∧
      Sound ⟨h, Function.update c.blocks p (some (List.replicate (count * size) 0))⟩ ts' := by
  have hcut : memSizeT (count * size) = count * size := Nat.mod_eq_of_lt (by omega)
  rcases memMalloc_sound hs hn with hmalloc | ⟨p, k, h, ts', hmalloc, htiled, hlive, hnew, hk⟩
  · exact Or.inl (by rw [memCalloc, hcut, hmalloc]; rfl)
  · have hgain := gain_sound (List.replicate (count * size) 0) hs htiled hlive hnew
      (by rwa [List.length_replicate])
    refine Or.inr ⟨p, _, ts', by rw [memCalloc, hcut, hmalloc]; rfl, ?_, hgain⟩
    by_contra hp
    obtain ⟨j, hj⟩ := (hs.owned p).mp hp
    exact hnew _ hj rfl

lemma calloc_sound {count size : ℕ} (hs : Sound c ts) (hn : count * size ≤ 65532) :
    ∃ c', step c (.calloc count size) = .ok c' ∧ ∃ ts', Sound c' ts' := by
  rcases memCalloc_sound hs hn with hcalloc | ⟨p, h, ts', hcalloc, -, hgain⟩
  · exact ⟨c, by rw [step, hcalloc]; rfl, ts, hs⟩
  · exact ⟨_, by rw [step, hcalloc]; rfl, ts', hgain⟩

lemma step_sound (c : Client) (call : Call) (hs : ∃ ts, Sound c ts) (hfair : Fair c call) :
    ∃ c', step c call = .ok c' ∧ ∃ ts', Sound c' ts' := by
  obtain ⟨ts, hs⟩ := hs
  cases call with
  | malloc n => exact malloc_sound hs hfair
  | calloc count size => exact calloc_sound hs hfair
  | free rmem =>
      cases rmem with
      | none => exact ⟨c, rfl, ts, hs⟩
      | some p => exact free_sound hs (hfair p rfl)
  | trim p n =>
      obtain ⟨data, hp, hn⟩ := hfair
      exact trim_sound hs hp hn
  | write p i b =>
      obtain ⟨data, hp, hi⟩ := hfair
      exact write_sound hs hp hi b

/-- What a client can count on of its blocks: where they lie, that they are apart, and that they
hold what it believes. -/
def Intact (c : Client) : Prop :=
  (∀ p data, c.blocks p = some data → 8 ≤ p ∧ p % 4 = 0 ∧ p + data.length ≤ 6144 ∧
    c.heap.ram.load p data.length = data) ∧
  ∀ p q data data', p ≠ q → c.blocks p = some data → c.blocks q = some data' →
    p + data.length ≤ q ∨ q + data'.length ≤ p

lemma Sound.intact (hs : Sound c ts) : Intact c := by
  refine ⟨fun p data hp => ?_, fun p q data data' hpq hp hq => ?_⟩
  · obtain ⟨k, hk⟩ := (hs.owned p).mp (by rw [hp]; nofun)
    obtain ⟨pre, post, rfl, rfl⟩ := mem_live_iff.mp hk
    have hwhole := (upto_append.mp hs.tiled.upto).1.whole
    have hin := live_inside _ hk
    have hlen := (hs.fits _ data k hp hk).1
    rw [hs.tiled.total_eq] at hin
    dsimp only at hin
    exact ⟨by omega, by omega, by omega, hs.held _ data k hp hk⟩
  · obtain ⟨k, hk⟩ := (hs.owned p).mp (by rw [hp]; nofun)
    obtain ⟨j, hj⟩ := (hs.owned q).mp (by rw [hq]; nofun)
    have hlen := (hs.fits p data k hp hk).1
    have hlen' := (hs.fits q data' j hq hj).1
    rcases live_apart_of_mem hk hj with h | h | h
    · exact absurd (congrArg Prod.fst h) hpq
    · exact Or.inl (by dsimp only at h; omega)
    · exact Or.inr (by dsimp only at h; omega)

lemma run_sound (m : Memory) {calls : List Call} (hfair : AllSteps step Fair (start m) calls) :
    ∃ c, run step (start m) calls = .ok c ∧ ∃ ts, Sound c ts :=
  run_ok step_sound ⟨_, start_sound m⟩ hfair

/-- **The heap does not fault, and blocks keep apart and keep their contents.** -/
theorem client_safe (m : Memory) {calls : List Call} (hfair : AllSteps step Fair (start m) calls) :
    ∃ c, run step (start m) calls = .ok c ∧ Intact c := by
  obtain ⟨c, hrun, ts, hs⟩ := run_sound m hfair
  exact ⟨c, hrun, hs.intact⟩

/-- Take five bytes and a hundred, write in the second block, give back the first, cut the second. -/
theorem client_safe_five : ∃ c, run step (start fun _ => 0)
    [.malloc 5, .malloc 100, .write 28 2 7, .free (some 8), .trim 28 3, .calloc 2 3] = .ok c ∧
      Intact c :=
  client_safe (fun _ => 0) (by decide +kernel)

/-! ## How much room there is -/

/-- `mem_malloc` on a heap that is one free tile. -/
lemma memMalloc_single {d : Memory} (htiled : Tiled d h [⟨6136, false⟩]) (hn : n ≠ 0) :
    ∃ h', memMalloc n h = .ok (if rounded n ≤ 6136 then some 8 else none, h') := by
  rcases memMalloc_tiled htiled hn with ⟨pre, s, post, h', hts, hns, -, hmalloc, -⟩ | ⟨hnone, hmalloc⟩
  · cases pre with
    | nil =>
        obtain ⟨hs, -⟩ := List.cons.inj hts
        cases hs
        exact ⟨h', by rw [hmalloc, if_pos hns]; rfl⟩
    | cons t pre =>
        have hnil := (List.cons.inj hts).2
        simp at hnil
  · have hbig : ¬ rounded n ≤ 6136 := fun hle =>
      hnone ⟨6136, false⟩ (List.mem_singleton_self _) ⟨rfl, hle⟩
    exact ⟨h, by rw [hmalloc, if_neg hbig]⟩

/-- The free tiles are smaller than what did not fit. -/
lemma span_le_of_not_fits (hs : Sound c ts) (hnone : ∀ t ∈ ts, ¬ Fits (rounded n) t) :
    ∀ t ∈ ts, t.used = false → span 8 t ≤ rounded n + 4 := by
  intro t ht hfree
  obtain ⟨pre, post, rfl⟩ := List.mem_iff_append.mp ht
  have hwhole := (upto_append.mp hs.tiled.upto).2.1.whole
  have hround := (rounded_spec n).2
  have hsmall : ¬ rounded n ≤ t.size := fun hle => hnone t ht ⟨hfree, hle⟩
  simp only [span]
  omega

/-- What a block takes at the most, its header included. -/
def cost (c : Client) (p : ℕ) : ℕ := 24 + rounded ((c.blocks p).getD []).length

/-- The used tiles take no more than their blocks may. -/
lemma Sound.cost_le (hs : Sound c ts) {l : Finset ℕ} (hl : ∀ p, p ∈ l ↔ c.blocks p ≠ none) :
    ((live 8 0 ts).map fun x => 8 + x.2).sum ≤ ∑ p ∈ l, cost c p ∧
      (live 8 0 ts).length = l.card := by
  have hnodup : ((live 8 0 ts).map Prod.fst).Nodup := by
    refine List.pairwise_map.mpr (live_apart.imp fun h hxy => ?_)
    omega
  have hfinset : l = ((live 8 0 ts).map Prod.fst).toFinset := by
    ext p
    simp [hl, hs.owned]
  have hbound : ∀ x ∈ live 8 0 ts, 8 + x.2 ≤ cost c x.1 := by
    rintro ⟨p, k⟩ hx
    obtain ⟨data, hdata⟩ := Option.ne_none_iff_exists'.mp ((hs.owned p).mpr ⟨k, hx⟩)
    have hk := (hs.fits p data k hdata hx).2.2
    rw [cost, hdata, Option.getD_some]
    dsimp only
    omega
  constructor
  · rw [hfinset, List.sum_toFinset _ hnodup, List.map_map]
    exact List.sum_le_sum hbound
  · rw [hfinset, List.toFinset_card_of_nodup hnodup, List.length_map]

/-- **Enough room is found**, whatever was taken and given back before: a header and sixteen bytes
beside every block, and a gap too small behind each and in front, is all that can be lost. -/
theorem mem_malloc_succeeds (m : Memory) {calls : List Call}
    (hfair : AllSteps step Fair (start m) calls) (hrun : run step (start m) calls = .ok c)
    {l : Finset ℕ} (hl : ∀ p, p ∈ l ↔ c.blocks p ≠ none) (hn : n ≠ 0)
    (hroom : ∑ p ∈ l, cost c p + (l.card + 1) * (rounded n + 4) < 6144) :
    ∃ p h, memMalloc n c.heap = .ok (some p, h) := by
  obtain ⟨c', hrun', ts, hs⟩ := run_sound m hfair
  cases hrun.symm.trans hrun'
  rcases memMalloc_tiled hs.tiled hn with ⟨pre, s, post, h, -, -, -, hmalloc, -⟩ | ⟨hnone, -⟩
  · exact ⟨_, h, hmalloc⟩
  · obtain ⟨hcost, hcard⟩ := hs.cost_le hl
    have htotal := total_le 0 hs.tiled.separated (span_le_of_not_fits hs hnone)
    rw [hs.tiled.total_eq, hcard] at htotal
    omega

/-- Behind a block of five bytes there are three thousand more. -/
theorem mem_malloc_succeeds_behind_five : ∃ c p h,
    run step (start fun _ => 0) [.malloc 5] = .ok c ∧ memMalloc 3000 c.heap = .ok (some p, h) := by
  obtain ⟨h, hmalloc⟩ := memMalloc_single (n := 5) (tiled_memInit (d := fun _ => 0) fun _ => 0)
    (by decide)
  have hrun : run step (start fun _ => 0) [.malloc 5] =
      .ok ((start fun _ => 0).gain (some 8, h) fun p => h.ram.load p 5) := by
    rw [run_cons, step, start, hmalloc]
    rfl
  obtain ⟨p, h', hfound⟩ := mem_malloc_succeeds (n := 3000) (l := {8}) (fun _ => 0)
    (by decide +kernel) hrun (by simp [gain, start, Function.update]) (by decide)
    (by simp [cost, gain, start, rounded, memSizeT, alignSize, minSizeAligned])
  exact ⟨_, p, h', hrun, hfound⟩

/-- **Nothing is lost for good.**  The three largest sizes wrap when they are rounded, and are served
with the least size. -/
theorem mem_malloc_of_emptied (m : Memory) {calls : List Call}
    (hfair : AllSteps step Fair (start m) calls) (hrun : run step (start m) calls = .ok c)
    (hempty : ∀ p, c.blocks p = none) (hn : n < 2 ^ 16) :
    ∃ h, memMalloc n c.heap
      = .ok (if n ≠ 0 ∧ (n ≤ 6136 ∨ 65532 < n) then some 8 else none, h) := by
  obtain ⟨c', hrun', ts, hs⟩ := run_sound m hfair
  cases hrun.symm.trans hrun'
  have hlive : live 8 0 ts = [] := by
    refine List.eq_nil_iff_forall_not_mem.mpr fun x hx => ?_
    exact (hs.owned x.1).mpr ⟨x.2, hx⟩ (hempty x.1)
  have htotal := hs.tiled.total_eq
  have hne : ts ≠ [] := by
    rintro rfl
    cases htotal
  have hone := eq_singleton_of_live_nil hs.tiled.separated hne hlive
  rw [htotal] at hone
  by_cases hzero : n = 0
  · exact ⟨c.heap, by rw [memMalloc, if_pos hzero, if_neg fun hc => hc.1 hzero]⟩
  have hiff : rounded n ≤ 6136 ↔ n ≠ 0 ∧ (n ≤ 6136 ∨ 65532 < n) := by
    rcases Nat.lt_or_ge 65532 n with hwide | hsmall
    · have hround := rounded_wide hwide hn
      omega
    · have hround := rounded_eq hsmall
      omega
  obtain ⟨h, hmalloc⟩ := memMalloc_single (hone ▸ hs.tiled) hzero
  exact ⟨h, by simpa only [hiff] using hmalloc⟩

/-- A block taken and given back. -/
theorem mem_malloc_of_emptied_five : ∃ c h,
    run step (start fun _ => 0) [.malloc 5, .free (some 8)] = .ok c ∧
      memMalloc 6136 c.heap = .ok (some 8, h) := by
  have hfair : AllSteps step Fair (start fun _ => 0) [.malloc 5, .free (some 8)] := by
    decide +kernel
  obtain ⟨c, hrun, -⟩ := run_sound _ hfair
  obtain ⟨h, hmalloc⟩ : ∃ h, memMalloc 5 (memInit fun _ => 0) = .ok (some 8, h) :=
    memMalloc_single (tiled_memInit (d := fun _ => 0) fun _ => 0) (by decide)
  have hempty : ∀ p, c.blocks p = none := by
    obtain ⟨c₁, hstep, hrun₁⟩ := run_cons_ok hrun
    rw [step, start, hmalloc] at hstep
    cases hstep
    obtain ⟨c₂, hstep, hrun₂⟩ := run_cons_ok hrun₁
    cases hrun₂
    rw [step] at hstep
    cases hfree : memFree (some 8) h with
    | error x =>
        rw [gain] at hstep
        simp only [hfree] at hstep
        cases hstep
    | ok h' =>
        rw [gain] at hstep
        simp only [hfree] at hstep
        cases hstep
        simp [Function.update]
  obtain ⟨h', hfound⟩ := mem_malloc_of_emptied (n := 6136) _ hfair hrun hempty (by decide)
  exact ⟨c, h', hrun, hfound⟩

/-! ## Sizes that do not fit -/

lemma memCalloc_some {count size : ℕ} (hcalloc : memCalloc count size h = .ok (some p, h')) :
    ∃ h₀, memMalloc (memSizeT (count * size)) h = .ok (some p, h₀) ∧
      h' = { h₀ with ram := h₀.ram.store p (List.replicate (count * size) 0) } := by
  rw [memCalloc] at hcalloc
  cases hmalloc : memMalloc (memSizeT (count * size)) h with
  | error x => rw [hmalloc] at hcalloc; cases hcalloc
  | ok r =>
      rw [hmalloc] at hcalloc
      obtain ⟨q, h₀⟩ := r
      cases q with
      | none => cases hcalloc
      | some q =>
          cases hcalloc
          exact ⟨h₀, rfl, rfl⟩

/-- Bytes cleared from a block on up to the end of the heap and over it. -/
lemma used_of_cleared {m : Memory} (hp : p ≤ 6148) (hn : 6148 < p + n) :
    structMem.get .used 6144 (m.store p (List.replicate n 0)) = 0 := by
  obtain ⟨k, hk⟩ := Nat.exists_eq_add_of_le hp
  have hbyte : m.store p (List.replicate n 0) 6148 = 0 := by
    rw [hk, Memory.store_apply (by rw [List.length_replicate]; omega), List.getElem_replicate]
  show leNat [m.store p (List.replicate n 0) 6148] = 0
  rw [hbyte]
  rfl

lemma not_tiled_of_wide {count size : ℕ} (hs : Sound c ts) (hwide : 65532 < count * size)
    (hcalloc : memCalloc count size c.heap = .ok (some p, h)) : ¬ ∃ ts, Tiled h.ram h ts := by
  rintro ⟨ts', htiled⟩
  obtain ⟨h₀, hmalloc, rfl⟩ := memCalloc_some hcalloc
  have hzero : memSizeT (count * size) ≠ 0 := fun hzero => by
    rw [memMalloc, if_pos hzero] at hmalloc
    cases hmalloc
  rcases memMalloc_tiled hs.tiled hzero with ⟨pre, s, post, h₁, rfl, -, -, hmalloc', -⟩ | ⟨-, hmalloc'⟩
  · cases hmalloc.symm.trans hmalloc'
    have htotal := hs.tiled.total_eq
    rw [total_append, total_cons, span] at htotal
    exact htiled.upto.ending (used_of_cleared (by omega) (by omega))
  · cases hmalloc.symm.trans hmalloc'

/-- **What `mem_calloc` clears** lies in its block up to 65532 bytes, and the client's other blocks
hold what they did; above, it clears the end of the heap as well. -/
theorem mem_calloc_sound_iff (m : Memory) {calls : List Call} {count size p : ℕ}
    (hfair : AllSteps step Fair (start m) calls) (hrun : run step (start m) calls = .ok c)
    (hcalloc : memCalloc count size c.heap = .ok (some p, h)) :
    ((∃ ts, Tiled h.ram h ts) ↔ count * size ≤ 65532) ∧
      (count * size ≤ 65532 →
        ∀ q data, c.blocks q = some data → h.ram.load q data.length = data) := by
  obtain ⟨c', hrun', ts, hs⟩ := run_sound m hfair
  cases hrun.symm.trans hrun'
  have hcleared : count * size ≤ 65532 → c.blocks p = none ∧ ∃ ts',
      Sound ⟨h, Function.update c.blocks p (some (List.replicate (count * size) 0))⟩ ts' := by
    intro hsmall
    rcases memCalloc_sound hs hsmall with hnone | ⟨q, h₁, ts', hcalloc', hq, hgain⟩
    · cases hcalloc.symm.trans hnone
    · cases hcalloc.symm.trans hcalloc'
      exact ⟨hq, ts', hgain⟩
  refine ⟨⟨fun htiled => ?_, fun hsmall => ?_⟩, fun hsmall q data hq => ?_⟩
  · by_contra hwide
    exact not_tiled_of_wide hs (not_le.mp hwide) hcalloc htiled
  · obtain ⟨-, ts', hgain⟩ := hcleared hsmall
    exact ⟨ts', hgain.tiled⟩
  · obtain ⟨hp, ts', hgain⟩ := hcleared hsmall
    have hqp : q ≠ p := fun heq => Option.some_ne_none data (hq.symm.trans (heq ▸ hp))
    exact (hgain.intact.1 q data ((Function.update_of_ne hqp _ _).trans hq)).2.2.2

/-- Behind five bytes `mem_calloc(2, 3)` leaves them as they were, and `mem_calloc(256, 257)`, which
gets a block of 256 bytes and clears 65792, leaves no heap. -/
theorem mem_calloc_sound_iff_wide : ∃ c,
    run step (start fun _ => 0) [.malloc 5, .write 8 0 7] = .ok c ∧
    (∃ h, memCalloc 2 3 c.heap = .ok (some 28, h) ∧ (∃ ts, Tiled h.ram h ts) ∧
      h.ram.load 8 5 = [7, 0, 0, 0, 0]) ∧
    ∃ h, memCalloc 256 257 c.heap = .ok (some 28, h) ∧ ¬ ∃ ts, Tiled h.ram h ts := by
  have hfair : AllSteps step Fair (start fun _ => 0) [.malloc 5, .write 8 0 7] := by decide +kernel
  obtain ⟨c, hrun, -⟩ := run_sound _ hfair
  have hfound : ∀ count size, (run step (start fun _ => 0) [.malloc 5, .write 8 0 7] >>= fun c =>
      memCalloc count size c.heap).map Prod.fst = .ok (some 28) →
      ∃ h, memCalloc count size c.heap = .ok (some 28, h) := by
    intro count size hfst
    rw [hrun] at hfst
    obtain ⟨⟨q, h⟩, hcalloc, hq⟩ := ok_of_map hfst
    cases hq
    exact ⟨h, hcalloc⟩
  have hblock : c.blocks 8 = some [7, 0, 0, 0, 0] := by
    have hmap : (run step (start fun _ => 0) [.malloc 5, .write 8 0 7]).map (fun c => c.blocks 8)
      = .ok (some [7, 0, 0, 0, 0]) := by decide +kernel
    rw [hrun] at hmap
    exact Except.ok.inj hmap
  obtain ⟨h, hsmall⟩ := hfound 2 3 (by decide +kernel)
  obtain ⟨h', hwide⟩ := hfound 256 257 (by decide +kernel)
  have hkept := mem_calloc_sound_iff (fun _ => 0) hfair hrun hsmall
  have hlost := mem_calloc_sound_iff (fun _ => 0) hfair hrun hwide
  exact ⟨c, hrun, ⟨h, hsmall, hkept.1.mpr (by decide), hkept.2 (by decide) 8 _ hblock⟩, h', hwide,
    fun htiled => absurd (hlost.1.mp htiled) (by decide)⟩

/-- **A block has room for what was asked for** up to 65532 bytes; above, the size that is rounded up
starts from zero again. -/
theorem mem_malloc_room_iff (m : Memory) {calls : List Call}
    (hfair : AllSteps step Fair (start m) calls) (hrun : run step (start m) calls = .ok c)
    (hn : n < 2 ^ 16) (hmalloc : memMalloc n c.heap = .ok (some p, h)) :
    ∃ ts k, Tiled h.ram h ts ∧ (p, k) ∈ live 8 0 ts ∧ (n ≤ k ↔ n ≤ 65532) := by
  obtain ⟨c', hrun', ts, hs⟩ := run_sound m hfair
  cases hrun.symm.trans hrun'
  have hzero : n ≠ 0 := fun hzero => by
    rw [memMalloc, if_pos hzero] at hmalloc
    cases hmalloc
  rcases memMalloc_tiled hs.tiled hzero with
    ⟨pre, s, post, h₁, rfl, hns, -, hmalloc', htiled⟩ | ⟨-, hmalloc'⟩
  · cases hmalloc.symm.trans hmalloc'
    obtain ⟨k, hk, hlive⟩ := mem_live_taken 8 0 12 (rounded n) s pre post
    have htotal := hs.tiled.total_eq
    rw [total_append, total_cons, span] at htotal
    dsimp only at htotal
    refine ⟨_, k, htiled.self, (hlive _).mpr (Or.inl (by rw [Nat.zero_add])), fun hle => ?_,
      fun hle => ?_⟩
    · omega
    · have hself := (rounded_le le_rfl hle).2
      omega
  · cases hmalloc.symm.trans hmalloc'

/-- 65533 bytes are asked for, and twelve are given. -/
theorem mem_malloc_room_iff_wide : ∃ h ts k, memMalloc 65533 (memInit fun _ => 0) = .ok (some 8, h) ∧
    Tiled h.ram h ts ∧ (8, k) ∈ live 8 0 ts ∧ k < 65533 := by
  obtain ⟨h, hmalloc⟩ := memMalloc_single (n := 65533) (tiled_memInit (d := fun _ => 0) fun _ => 0)
    (by decide)
  have hnone : AllSteps step Fair (start fun _ => 0) [] := trivial
  obtain ⟨ts, k, htiled, hk, hiff⟩ := mem_malloc_room_iff (fun _ => 0) hnone rfl (by decide) hmalloc
  exact ⟨h, ts, k, hmalloc, htiled, hk, by omega⟩

end Client

end Lgt8.Mem

import Mathlib.Tactic
import Lgt8.Library.Runs
import Lgt8.Net.Pbuf

/-!
# Packet buffers in memory (`pbuf_free`, `pbuf_ref`, `pbuf_cat` and `pbuf_chain` in `core/pbuf.c`)

The model of the echo server has a chain of buffers as a list of values.  Here a buffer is a
structure at its address, with a pointer to the next one and a count of sixteen bits.  One that is
deallocated is no longer there: code that follows a pointer to it faults, and so does code that
gives up a reference nobody has.

* `Cell`, `Pbufs` — the structures, and which are allocated.
* `pbufFree`, `pbufRef`, `pbufCat`, `pbufChain` — the functions, with their loops and assertions.
* `Holds` — the memory holds a chain of the other model.
* **`pbufFree_holds`**, `pbufRef_holds`, **`pbufChain_holds`** — then the functions do what
  `Pbuf.free`, `Pbuf.addRef` and `Pbuf.chain` do to the chain.  They end, do not fault, and touch no
  other buffer.
-/

namespace Lgt8.Cells

open Library

/-- `struct pbuf`, as far as these functions go. -/
structure Cell where
  next : ℕ
  totLen : UInt16
  len : UInt16
  ref : UInt16

/-- The buffers that are allocated, by their addresses; 0 is `NULL`. -/
abbrev Pbufs := ℕ → Option Cell

inductive Fault
  /-- The pointer is to a buffer that is not allocated. -/
  | dangling (a : ℕ)
  /-- `LWIP_ASSERT` does not return. -/
  | assertion
  /-- A loop does not end. -/
  | unfinished

/-- How many addresses there are.  A loop along the links that takes more turns does not end. -/
def addresses : ℕ := 2 ^ 32

def load (a : ℕ) (m : Pbufs) : Except Fault Cell :=
  match m a with
  | some c => .ok c
  | none => .error (.dangling a)

def store (a : ℕ) (c : Cell) (m : Pbufs) : Pbufs := Function.update m a (some c)

def dealloc (a : ℕ) (m : Pbufs) : Pbufs := Function.update m a none

lemma store_self (a : ℕ) (c : Cell) (m : Pbufs) : store a c m a = some c := Function.update_self ..

lemma store_of_ne {a b : ℕ} (h : b ≠ a) (c : Cell) (m : Pbufs) : store a c m b = m b :=
  Function.update_of_ne h ..

lemma dealloc_self (a : ℕ) (m : Pbufs) : dealloc a m a = none := Function.update_self ..

lemma dealloc_of_ne {a b : ℕ} (h : b ≠ a) (m : Pbufs) : dealloc a m b = m b :=
  Function.update_of_ne h ..

/-! ## The functions -/

/-- The locals of `pbuf_free`, and the memory. -/
structure Freeing where
  p : ℕ
  count : UInt8
  cells : Pbufs

/-- The test of the loop of `pbuf_free`. -/
def Freeing.more (s : Freeing) : Bool := s.p != 0

/-- One turn of it. -/
def freeTurn (s : Freeing) : Except Fault Freeing :=
  load s.p s.cells >>= fun c =>
    if c.ref = 0 then .error .assertion
    else
      let ref := c.ref - 1
      if ref = 0 then .ok ⟨c.next, s.count + 1, dealloc s.p s.cells⟩
      else .ok ⟨0, s.count, store s.p { c with ref := ref } s.cells⟩

/-- `pbuf_free`: the number of buffers deallocated. -/
def pbufFree (p : ℕ) (m : Pbufs) : Except Fault (UInt8 × Pbufs) :=
  if p = 0 then .error .assertion
  else
    (loop Freeing.more freeTurn .unfinished addresses ⟨p, 0, m⟩).map
      fun s => (s.count, s.cells)

def pbufRef (p : ℕ) (m : Pbufs) : Except Fault Pbufs :=
  if p = 0 then .ok m
  else load p m >>= fun c => .ok (store p { c with ref := c.ref + 1 } m)

/-- The test of the loop of `pbuf_cat`; a pointer that dangles is left to the turn. -/
def hasNext (s : ℕ × Pbufs) : Bool :=
  match s.2 s.1 with
  | some c => c.next != 0
  | none => true

/-- One turn of it. -/
def catTurn (t : ℕ) (s : ℕ × Pbufs) : Except Fault (ℕ × Pbufs) :=
  load s.1 s.2 >>= fun p => load t s.2 >>= fun tail =>
    .ok (p.next, store s.1 { p with totLen := p.totLen + tail.totLen } s.2)

/-- What `pbuf_cat` does with the last buffer of the first chain. -/
def catLast (t : ℕ) (s : ℕ × Pbufs) : Except Fault Pbufs :=
  load s.1 s.2 >>= fun p =>
    if p.totLen ≠ p.len ∨ p.next ≠ 0 then .error .assertion
    else
      load t s.2 >>= fun tail =>
        .ok (store s.1 { p with totLen := p.totLen + tail.totLen, next := t } s.2)

def pbufCat (h t : ℕ) (m : Pbufs) : Except Fault Pbufs :=
  if h = 0 ∨ t = 0 then .error .assertion
  else loop hasNext (catTurn t) .unfinished addresses (h, m) >>= catLast t

def pbufChain (h t : ℕ) (m : Pbufs) : Except Fault Pbufs := pbufCat h t m >>= pbufRef t

/-! ## Chains -/

/-- The pointer to a chain. -/
def first (c : List Pbuf) : ℕ := (Pbuf.addrs c).headD 0

lemma first_append {c : List Pbuf} (h : c ≠ []) (d : List Pbuf) : first (c ++ d) = first c := by
  cases c with
  | nil => exact absurd rfl h
  | cons q qs => rfl

def total (c : List Pbuf) : ℕ := (c.map Pbuf.len).sum

/-- The structure of the buffer `q`, with `qs` behind it. -/
def cell (q : Pbuf) (qs : List Pbuf) : Cell where
  next := first qs
  totLen := .ofNat (total (q :: qs))
  len := .ofNat q.len
  ref := .ofNat q.ref

/-- Every buffer of the chain is allocated, with the links, lengths and count it should have. -/
def Holds (m : Pbufs) : List Pbuf → Prop
  | [] => True
  | q :: qs => m q.addr = some (cell q qs) ∧ Holds m qs

/-- The buffers are different ones, at addresses. -/
structure Placed (c : List Pbuf) : Prop where
  nodup : (Pbuf.addrs c).Nodup
  pointers : ∀ a ∈ Pbuf.addrs c, a ≠ 0 ∧ a < addresses

lemma Holds.congr {m m' : Pbufs} :
    ∀ {c : List Pbuf}, Holds m c → (∀ a ∈ Pbuf.addrs c, m' a = m a) → Holds m' c
  | [], _, _ => trivial
  | _ :: _, h, heq =>
      ⟨(heq _ (List.mem_cons_self ..)).trans h.1,
        h.2.congr fun a ha => heq a (List.mem_cons_of_mem _ ha)⟩

/-- A buffer that is not of the chain may change. -/
lemma Holds.update {m : Pbufs} {c : List Pbuf} (h : Holds m c) {a : ℕ} (ha : a ∉ Pbuf.addrs c)
    (x : Option Cell) : Holds (Function.update m a x) c :=
  h.congr fun _ hb => Function.update_of_ne (ne_of_mem_of_not_mem hb ha) ..

lemma Holds.of_append {m : Pbufs} {d : List Pbuf} :
    ∀ {c : List Pbuf}, Holds m (c ++ d) → Holds m d
  | [], h => h
  | _ :: _, h => Holds.of_append h.2

/-- What the memory holds of a chain is determined by it. -/
lemma Holds.eq_of_mem {m m' : Pbufs} :
    ∀ {c : List Pbuf}, Holds m c → Holds m' c → ∀ a ∈ Pbuf.addrs c, m' a = m a
  | q :: qs, h, h', a, ha => by
      rcases List.mem_cons.mp ha with rfl | ha
      · exact h'.1.trans h.1.symm
      · exact h.2.eq_of_mem h'.2 a ha

lemma Placed.tail {q : Pbuf} {qs : List Pbuf} (h : Placed (q :: qs)) : Placed qs :=
  ⟨(List.nodup_cons.mp h.nodup).2, fun a ha => h.pointers a (List.mem_cons_of_mem _ ha)⟩

lemma Placed.notMem {q : Pbuf} {qs : List Pbuf} (h : Placed (q :: qs)) :
    q.addr ∉ Pbuf.addrs qs :=
  (List.nodup_cons.mp h.nodup).1

lemma Placed.ne_zero {q : Pbuf} {qs : List Pbuf} (h : Placed (q :: qs)) : q.addr ≠ 0 :=
  (h.pointers _ (List.mem_cons_self ..)).1

/-- A chain is no longer than there are addresses. -/
lemma Placed.length_le {c : List Pbuf} (h : Placed c) : c.length ≤ addresses := by
  have hsub : (Pbuf.addrs c).toFinset ⊆ Finset.range addresses := fun a ha =>
    Finset.mem_range.mpr (h.pointers a (List.mem_toFinset.mp ha)).2
  have hcard := Finset.card_le_card hsub
  rwa [List.toFinset_card_of_nodup h.nodup, Finset.card_range, Pbuf.addrs, List.length_map] at hcard

lemma addrs_append (c d : List Pbuf) : Pbuf.addrs (c ++ d) = Pbuf.addrs c ++ Pbuf.addrs d :=
  List.map_append

lemma Placed.right {c d : List Pbuf} (h : Placed (c ++ d)) : Placed d := by
  have hn := h.nodup
  rw [addrs_append] at hn
  refine ⟨(List.nodup_append.mp hn).2.1, fun a ha => h.pointers a ?_⟩
  rw [addrs_append]
  exact List.mem_append_right _ ha

lemma Placed.apart {c d : List Pbuf} (h : Placed (c ++ d)) {a : ℕ} (ha : a ∈ Pbuf.addrs c) :
    a ∉ Pbuf.addrs d := by
  have hn := h.nodup
  rw [addrs_append] at hn
  exact List.disjoint_of_nodup_append hn ha

lemma load_of_some {m : Pbufs} {a : ℕ} {c : Cell} (h : m a = some c) : load a m = .ok c := by
  rw [load, h]

/-! ## `pbuf_free` -/

lemma ofNat_eq_zero_iff {n : ℕ} (h : n < 65536) : UInt16.ofNat n = 0 ↔ n = 0 := by
  rw [← UInt16.toNat_inj, UInt16.toNat_ofNat']
  show n % 65536 = 0 ↔ n = 0
  omega

section

variable {m : Pbufs} {q : Pbuf} {qs : List Pbuf}

/-- A turn gives up one reference, and what becomes of the buffer depends on whether it was the
last. -/
lemma freeTurn_eq (hm : Holds m (q :: qs)) (href : q.ref < 65536) (k : UInt8) :
    freeTurn ⟨q.addr, k, m⟩ =
      if q.ref = 1 then .ok ⟨first qs, k + 1, dealloc q.addr m⟩
      else .ok ⟨0, k, store q.addr { cell q qs with ref := .ofNat (q.ref - 1) } m⟩ := by
  have hpos := q.pos
  have hsome : ¬ UInt16.ofNat q.ref = 0 := by
    rw [ofNat_eq_zero_iff href]
    omega
  have hsub : UInt16.ofNat q.ref - 1 = UInt16.ofNat (q.ref - 1) := (UInt16.ofNat_sub hpos).symm
  have hzero : UInt16.ofNat (q.ref - 1) = 0 ↔ q.ref = 1 := by
    rw [ofNat_eq_zero_iff (by omega)]
    omega
  have hturn : freeTurn ⟨q.addr, k, m⟩ =
      if UInt16.ofNat q.ref = 0 then .error .assertion
      else if UInt16.ofNat q.ref - 1 = 0 then .ok ⟨first qs, k + 1, dealloc q.addr m⟩
      else .ok ⟨0, k, store q.addr { cell q qs with ref := .ofNat q.ref - 1 } m⟩ := by
    rw [freeTurn, load_of_some hm.1]
    rfl
  rw [hturn, if_neg hsome, hsub]
  simp only [hzero]

end

/-- From `m` to `m'` the chain `c` became `d`, the buffers `freed` were deallocated, and no other
buffer was touched. -/
structure Became (m m' : Pbufs) (c d : List Pbuf) (freed : List ℕ) : Prop where
  holds : Holds m' d
  gone : ∀ a ∈ freed, m' a = none
  others : ∀ a, a ∉ Pbuf.addrs c → m' a = m a

/-- One thing after another, the second within the first. -/
lemma Became.trans {m m' m'' : Pbufs} {c d d' e : List Pbuf} {freed : List ℕ}
    (h : Became m m' c d []) (h' : Became m' m'' d' e freed)
    (hsub : Pbuf.addrs d' ⊆ Pbuf.addrs c) : Became m m'' c e freed where
  holds := h'.holds
  gone := h'.gone
  others a ha := (h'.others a fun hd => ha (hsub hd)).trans (h.others a ha)

/-- The first buffer is deallocated, and then the rest. -/
lemma Became.cons {m m' : Pbufs} {q : Pbuf} {qs d : List Pbuf} {freed : List ℕ}
    (h : Became (dealloc q.addr m) m' qs d freed) (hq : q.addr ∉ Pbuf.addrs qs) :
    Became m m' (q :: qs) d (q.addr :: freed) := by
  refine ⟨h.holds, fun a ha => ?_, fun a ha => ?_⟩
  · rcases List.mem_cons.mp ha with rfl | ha
    · exact (h.others q.addr hq).trans (dealloc_self ..)
    · exact h.gone a ha
  · rw [Pbuf.addrs_cons, List.mem_cons, not_or] at ha
    exact (h.others a ha.2).trans (dealloc_of_ne ha.1 m)

/-- A new structure for the first buffer. -/
lemma became_store {m : Pbufs} {q r : Pbuf} {qs : List Pbuf} (hm : Holds m (q :: qs))
    (hc : Placed (q :: qs)) (hr : r.addr = q.addr) :
    Became m (store q.addr (cell r qs) m) (q :: qs) (r :: qs) [] := by
  refine ⟨⟨?_, hm.2.update hc.notMem _⟩, nofun, fun a ha => ?_⟩
  · rw [hr]
    exact store_self ..
  · rw [Pbuf.addrs_cons, List.mem_cons, not_or] at ha
    exact store_of_ne ha.1 ..

lemma freeLoop_holds {c : List Pbuf} {m : Pbufs} (hm : Holds m c) (hc : Placed c)
    (href : ∀ q ∈ c, q.ref < 65536) {n : ℕ} (hn : c.length ≤ n) (k : UInt8) :
    ∃ m', loop Freeing.more freeTurn .unfinished n ⟨first c, k, m⟩
        = .ok ⟨0, k + .ofNat (Pbuf.free c).1.length, m'⟩ ∧
      Became m m' c (Pbuf.free c).2 (Pbuf.free c).1 := by
  induction c generalizing m n k with
  | nil =>
      have hk : k + UInt8.ofNat (Pbuf.free []).1.length = k := UInt8.add_zero k
      refine ⟨m, ?_, trivial, nofun, fun _ _ => rfl⟩
      rw [loop_done rfl, hk]
      rfl
  | cons q qs ih =>
      obtain ⟨n, rfl⟩ : ∃ i, n = i + 1 := ⟨n - 1, by rw [List.length_cons] at hn; omega⟩
      have hmore : Freeing.more ⟨q.addr, k, m⟩ = true := bne_iff_ne.mpr hc.ne_zero
      have hturn := freeTurn_eq hm (href q (List.mem_cons_self ..)) k
      by_cases h1 : q.ref = 1
      · -- the buffer goes, and with it its reference to the next one
        rw [if_pos h1] at hturn
        have hlen : qs.length ≤ n := by
          rw [List.length_cons] at hn
          omega
        obtain ⟨m', hloop, hbec⟩ := ih (hm.2.update hc.notMem none) hc.tail
          (fun r hr => href r (List.mem_cons_of_mem _ hr)) hlen (k + 1)
        have hfree : Pbuf.free (q :: qs) = (q.addr :: (Pbuf.free qs).1, (Pbuf.free qs).2) := by
          rw [Pbuf.free, dif_pos h1]
        have hk : k + UInt8.ofNat ((Pbuf.free qs).1.length + 1)
            = k + 1 + UInt8.ofNat (Pbuf.free qs).1.length := by
          rw [Nat.add_comm, UInt8.ofNat_add, ← UInt8.add_assoc]
          rfl
        rw [hfree]
        refine ⟨m', ?_, hbec.cons hc.notMem⟩
        rw [List.length_cons, hk]
        exact (loop_turn hmore hturn _ n).trans hloop
      · rw [if_neg h1] at hturn
        let r : Pbuf := { q with ref := q.ref - 1, pos := by have := q.pos; omega }
        have hfree : Pbuf.free (q :: qs) = ([], r :: qs) := by
          rw [Pbuf.free, dif_neg h1]
        have hk : k + UInt8.ofNat ([] : List ℕ).length = k := UInt8.add_zero k
        rw [hfree]
        refine ⟨store q.addr (cell r qs) m, (loop_turn hmore hturn _ n).trans ?_,
          became_store hm hc rfl⟩
        rw [loop_done rfl, hk]
        rfl

/-- **`pbuf_free`** is `Pbuf.free`. -/
theorem pbufFree_holds {c : List Pbuf} {m : Pbufs} (hm : Holds m c) (hc : Placed c) (hne : c ≠ [])
    (href : ∀ q ∈ c, q.ref < 65536) :
    ∃ m', pbufFree (first c) m = .ok (.ofNat (Pbuf.free c).1.length, m') ∧
      Became m m' c (Pbuf.free c).2 (Pbuf.free c).1 := by
  obtain ⟨m', hloop, hbec⟩ := freeLoop_holds hm hc href hc.length_le 0
  obtain ⟨q, qs, rfl⟩ := List.exists_cons_of_ne_nil hne
  refine ⟨m', ?_, hbec⟩
  have hptr : first (q :: qs) ≠ 0 := hc.ne_zero
  rw [pbufFree, if_neg hptr, hloop, UInt8.zero_add]
  rfl

/-! ## `pbuf_ref` -/

/-- The structures in front do not depend on the counts behind. -/
lemma cell_addRef (q : Pbuf) (qs d : List Pbuf) :
    cell q (qs ++ Pbuf.addRef d) = cell q (qs ++ d) := by
  cases d with
  | nil => rfl
  | cons r d => simp [cell, first, total, Pbuf.addRef, Pbuf.addrs]

lemma addrs_addRef (c : List Pbuf) : Pbuf.addrs (Pbuf.addRef c) = Pbuf.addrs c := by
  cases c with
  | nil => rfl
  | cons q qs => rfl

/-- The structures of the buffers in front are as they were. -/
lemma Holds.addRef {m m' : Pbufs} {d : List Pbuf} (hd : Holds m' (Pbuf.addRef d)) :
    ∀ {c : List Pbuf}, Holds m (c ++ d) → (∀ a ∈ Pbuf.addrs c, m' a = m a) →
      Holds m' (c ++ Pbuf.addRef d)
  | [], _, _ => hd
  | q :: qs, h, heq => by
      refine ⟨(heq _ (List.mem_cons_self ..)).trans (h.1.trans ?_), ?_⟩
      · exact congrArg some (cell_addRef q qs d).symm
      · exact Holds.addRef hd h.2 fun a ha => heq a (List.mem_cons_of_mem _ ha)

/-- **`pbuf_ref`** is `Pbuf.addRef`, also in the middle of a chain. -/
theorem pbufRef_holds {c d : List Pbuf} {m : Pbufs} (hm : Holds m (c ++ d))
    (hc : Placed (c ++ d)) :
    ∃ m', pbufRef (first d) m = .ok m' ∧ Became m m' (c ++ d) (c ++ Pbuf.addRef d) [] := by
  cases d with
  | nil => exact ⟨m, rfl, hm, nofun, fun _ _ => rfl⟩
  | cons q qs =>
      have hd : Holds m (q :: qs) := hm.of_append
      have hptr : first (q :: qs) ≠ 0 := hc.right.ne_zero
      let r : Pbuf := { q with ref := q.ref + 1, pos := Nat.succ_pos _ }
      have hbec : Became m (store q.addr (cell r qs) m) (q :: qs) (Pbuf.addRef (q :: qs)) [] :=
        became_store hd hc.right rfl
      refine ⟨store q.addr (cell r qs) m, ?_, ?_, nofun, fun a ha => ?_⟩
      · rw [pbufRef, if_neg hptr]
        show (load q.addr m >>= _) = _
        rw [load_of_some hd.1]
        exact congrArg (fun i => Except.ok (store q.addr { cell q qs with ref := i } m))
          (UInt16.ofNat_add q.ref 1).symm
      · exact Holds.addRef hbec.holds hm fun a ha => hbec.others a (hc.apart ha)
      · rw [addrs_append, List.mem_append, not_or] at ha
        exact hbec.others a ha.2

/-! ## `pbuf_chain` -/

lemma total_append (c d : List Pbuf) : total (c ++ d) = total c + total d := by
  rw [total, List.map_append, List.sum_append]
  rfl

/-- The total length of a buffer, with that of the second chain added. -/
lemma totLen_append (q : Pbuf) (qs : List Pbuf) (t : Pbuf) (ts : List Pbuf) :
    (cell q qs).totLen + (cell t ts).totLen = (cell q (qs ++ t :: ts)).totLen := by
  have htotal : total (q :: (qs ++ t :: ts)) = total (q :: qs) + total (t :: ts) :=
    total_append (q :: qs) (t :: ts)
  show UInt16.ofNat _ + UInt16.ofNat _ = UInt16.ofNat _
  rw [htotal, UInt16.ofNat_add]

section

variable {m : Pbufs} {q r t : Pbuf} {qs ts : List Pbuf}

lemma hasNext_eq (hm : Holds m (q :: qs)) : hasNext (q.addr, m) = (first qs != 0) := by
  rw [hasNext]
  dsimp only
  rw [hm.1]
  rfl

lemma catTurn_eq (hm : Holds m (q :: r :: qs)) (ht : Holds m (t :: ts)) :
    catTurn t.addr (q.addr, m) =
      .ok (r.addr, store q.addr (cell q (r :: qs ++ t :: ts)) m) := by
  have hcell : ({ cell q (r :: qs) with
      totLen := (cell q (r :: qs)).totLen + (cell t ts).totLen } : Cell)
        = cell q (r :: qs ++ t :: ts) := by
    rw [totLen_append]
    rfl
  rw [catTurn]
  dsimp only
  rw [load_of_some hm.1, load_of_some ht.1]
  exact congrArg (fun c => Except.ok (r.addr, store q.addr c m)) hcell

/-- The assertions about the last buffer of a chain hold. -/
lemma catLast_eq (hm : Holds m [q]) (ht : Holds m (t :: ts)) :
    catLast t.addr (q.addr, m) = .ok (store q.addr (cell q (t :: ts)) m) := by
  have hlast : ¬ ((cell q []).totLen ≠ (cell q []).len ∨ (cell q []).next ≠ 0) := by
    simp [cell, total, first]
  have hcell : ({ cell q [] with
      totLen := (cell q []).totLen + (cell t ts).totLen
      next := t.addr } : Cell) = cell q (t :: ts) := by
    rw [totLen_append]
    rfl
  rw [catLast]
  dsimp only
  rw [load_of_some hm.1, load_of_some ht.1]
  show (if _ then _ else _) = _
  rw [if_neg hlast]
  exact congrArg (fun c => Except.ok (store q.addr c m)) hcell

end

/-- The loop of `pbuf_cat` goes along the first chain and adds, and the second is then linked to its
last buffer. -/
lemma catLoop_holds {t : Pbuf} {ts qs : List Pbuf} {q : Pbuf} {m : Pbufs}
    (hm : Holds m (q :: qs)) (ht : Holds m (t :: ts)) (hc : Placed (q :: qs ++ t :: ts)) {n : ℕ}
    (hn : (q :: qs).length ≤ n) :
    ∃ m', (loop hasNext (catTurn t.addr) .unfinished n (q.addr, m) >>= catLast t.addr) = .ok m' ∧
      Became m m' (q :: qs ++ t :: ts) (q :: qs ++ t :: ts) [] := by
  induction qs generalizing q m n with
  | nil =>
      refine ⟨store q.addr (cell q (t :: ts)) m, ?_, ⟨store_self .., ht.update hc.notMem _⟩, nofun,
        fun a ha => ?_⟩
      · rw [loop_done (hasNext_eq hm)]
        exact catLast_eq hm ht
      · obtain ⟨hq, -⟩ := not_or.mp fun h => ha (List.mem_cons.mpr h)
        exact store_of_ne hq ..
  | cons r qs ih =>
      obtain ⟨n, rfl⟩ : ∃ i, n = i + 1 := ⟨n - 1, by rw [List.length_cons] at hn; omega⟩
      have hnext : hasNext (q.addr, m) = true :=
        (hasNext_eq hm).trans (bne_iff_ne.mpr hc.tail.ne_zero)
      have happ : q.addr ∉ Pbuf.addrs (r :: qs) ++ Pbuf.addrs (t :: ts) := by
        rw [← addrs_append]
        exact hc.notMem
      obtain ⟨hnot, hnot'⟩ := not_or.mp fun h => happ (List.mem_append.mpr h)
      have hlen : (r :: qs).length ≤ n := by
        rw [List.length_cons] at hn
        omega
      obtain ⟨m', hloop, hbec⟩ := ih (hm.2.update hnot _) (ht.update hnot' _) hc.tail hlen
      refine ⟨m', ?_, ⟨?_, hbec.holds⟩, nofun, fun a ha => ?_⟩
      · rw [loop_turn hnext (catTurn_eq hm ht)]
        exact hloop
      · exact (hbec.others _ hc.notMem).trans (store_self ..)
      · obtain ⟨hq, hrest⟩ := not_or.mp fun h => ha (List.mem_cons.mpr h)
        exact (hbec.others a hrest).trans (store_of_ne hq ..)

/-- **`pbuf_chain`** is `Pbuf.chain`. -/
theorem pbufChain_holds {c d : List Pbuf} {m : Pbufs} (hm : Holds m c) (hd : Holds m d)
    (hne : c ≠ []) (hne' : d ≠ []) (hc : Placed (c ++ d)) :
    ∃ m', pbufChain (first c) (first d) m = .ok m' ∧
      Became m m' (c ++ d) (Pbuf.chain c d) [] := by
  obtain ⟨q, qs, rfl⟩ := List.exists_cons_of_ne_nil hne
  obtain ⟨t, ts, rfl⟩ := List.exists_cons_of_ne_nil hne'
  have hlen : (q :: qs).length ≤ addresses := by
    have := hc.length_le
    rw [List.length_append] at this
    omega
  obtain ⟨m₁, hcat, hbec⟩ := catLoop_holds hm hd hc hlen
  obtain ⟨m', href, hbec'⟩ := pbufRef_holds hbec.holds hc
  have hptr : ¬ (q.addr = 0 ∨ t.addr = 0) := by
    rintro (h | h)
    · exact hc.ne_zero h
    · exact hc.right.ne_zero h
  refine ⟨m', ?_, hbec.trans hbec' (List.Subset.refl _)⟩
  show (pbufCat q.addr t.addr m >>= pbufRef t.addr) = _
  rw [pbufCat, if_neg hptr, hcat]
  exact href

end Lgt8.Cells

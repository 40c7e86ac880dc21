import Mathlib.Tactic
import Lgt8.Library.Runs
import Lgt8.Net.Pool

/-!
# Received frames (`ethernetif_input` in `port/ethernetif.c`)

For a frame of `length` bytes the driver takes a chain from the pool, and then sets the length of
the first buffer to `length` and has the whole frame copied to its payload, though there is room for
600 bytes.  The rest overwrites what lies behind that buffer: the next element of the pool, whoever
has it, or what the linker has put behind the pool.

* `readFrame`, `ethernetifInput` — the driver, up to the call of `netif->input` and what follows it.
* `step` — a frame comes, or the rest of the stack allocates, frees or writes to an element it has.
* `Contained` — a frame is written to its own chain only, and the lengths in the chain agree.
* **`frames_contained_iff`** — all frames of a run are, exactly if each is at most 600 bytes long or
  finds too few free elements.
-/

namespace Lgt8.Ethernetif

open Library Net

/-- `ENET_FRAME_MAX_FRAMELEN`. -/
def enetFrameMaxFramelen : ℕ := 1518

/-- The frames the MAC delivers. -/
abbrev Frame : Type := {bs : List UInt8 // 0 < bs.length ∧ bs.length ≤ enetFrameMaxFramelen}

/-- The chain allocated for a frame, and where the frame was copied to. -/
structure Taken where
  chain : List ℕ
  receivedDataBuffer : ℕ

/-- The pool, and the elements the stack has been given. -/
structure State where
  pool : Pool
  lent : List ℕ

inductive Fault
  /-- `LWIP_ASSERT` does not return. -/
  | assertion

/-- From `pbuf_alloc` to `ENET_ReadFrame`.  A frame of legal length lies in one receive buffer of
the MAC, so it is copied at once. -/
def readFrame (data : List UInt8) (s : Pool) : Option Taken × Pool :=
  match pbufAlloc data.length s with
  | (none, s) => (none, s)
  | (some chain, s) =>
      let packetBuffer := chain.headD 0
      let payload := structPbuf.get .payload packetBuffer s.mem
      if payload = 0 then (none, s)
      else
        let m := structPbuf.set .len packetBuffer data.length s.mem
        (some ⟨chain, payload⟩, { s with mem := m.store payload data })

/-- `ETHTYPE_IP` or `ETHTYPE_ARP`, in network order behind the two addresses. -/
def ipOrArp (ethhdr : ℕ) (m : Memory) : Bool :=
  m (ethhdr + 12) == 8 && (m (ethhdr + 13) == 0 || m (ethhdr + 13) == 6)

/-- What has become of a frame. -/
inductive Outcome
  | stopped
  | passedUp (t : Taken)
  | dropped (t : Taken)

/-- `ethernetif_input`, for one frame; `accepted` is whether `netif->input` returns `ERR_OK`. -/
def ethernetifInput (accepted : Bool) (data : List UInt8) (s : State) : Outcome × State :=
  match readFrame data s.pool with
  | (none, pool) => (.stopped, { s with pool := pool })
  | (some t, pool) =>
      let packetBuffer := t.chain.headD 0
      if ipOrArp (structPbuf.get .payload packetBuffer pool.mem) pool.mem && accepted then
        (.passedUp t, ⟨pool, t.chain ++ s.lent⟩)
      else (.dropped t, { s with pool := pbufFree pbufPoolSize packetBuffer pool })

/-- What happens to the pool: a frame comes, or the rest of the stack takes an element, gives one
back, or writes into one it has. -/
inductive Call
  | frame (f : Frame) (accepted : Bool)
  | malloc
  | free (a : ℕ)
  | write (a k : ℕ) (b : UInt8)

def step (s : State) : Call → Except Fault State
  | .frame f accepted =>
      match ethernetifInput accepted f.1 s with
      | (.stopped, _) => .error .assertion
      | (_, s) => .ok s
  | .malloc =>
      match mempMalloc s.pool with
      | (none, _) => .ok s
      | (some a, pool) => .ok ⟨pool, a :: s.lent⟩
  | .free a => .ok (if a ∈ s.lent then ⟨mempFree a s.pool, s.lent.erase a⟩ else s)
  | .write a k b =>
      .ok (if a ∈ s.lent ∧ k < elementSize then
        { s with pool := { s.pool with mem := s.pool.mem.store (a + k) [b] } } else s)

/-- `memp_init` links the elements, each before the others. -/
def mempInit (ar : Arena) (m : Memory) : State :=
  ⟨(List.range pbufPoolSize).foldl (fun s j => mempFree (ar.element j) s) ⟨m, 0⟩, []⟩

/-! ## What is asked of a frame -/

/-- Each buffer's `tot_len` is its `len` and the next one's `tot_len`. -/
def TotLens (m : Memory) : List ℕ → Prop
  | [] => True
  | [a] => structPbuf.get .totLen a m = structPbuf.get .len a m
  | a :: b :: as =>
      structPbuf.get .totLen a m = structPbuf.get .len a m + structPbuf.get .totLen b m ∧
        TotLens m (b :: as)

/-- The byte at `i` is data of the buffer at `a`. -/
def InPayload (a i : ℕ) : Prop := a + sizeofStructPbuf ≤ i ∧ i < a + elementSize

def Outcome.taken : Outcome → Option Taken
  | .stopped => none
  | .passedUp t => some t
  | .dropped t => some t

/-- **The frame stays in its chain.** -/
structure Contained (ar : Arena) (accepted : Bool) (data : List UInt8) (s : State) : Prop where
  /-- Every byte of it is written to the data of a buffer of the chain. -/
  within : ∀ t ∈ (ethernetifInput accepted data s).1.taken, ∀ k < data.length,
    ∃ a ∈ t.chain, InPayload a (t.receivedDataBuffer + k)
  /-- The elements the stack has are as before. -/
  spared : ∀ a ∈ s.lent, ∀ k < elementSize,
    (ethernetifInput accepted data s).2.pool.mem (a + k) = s.pool.mem (a + k)
  /-- So is the memory around the pool. -/
  outside : ∀ i, i < ar.base ∨ ar.base + pbufPoolSize * elementSize ≤ i →
    (ethernetifInput accepted data s).2.pool.mem i = s.pool.mem i
  /-- A chain passed up is one by its links, and its lengths agree. -/
  totLens : ∀ t, (ethernetifInput accepted data s).1 = .passedUp t →
    Linked (ethernetifInput accepted data s).2.pool.mem (t.chain.headD 0) t.chain ∧
      TotLens (ethernetifInput accepted data s).2.pool.mem t.chain

/-- The elements that can be had from `tab`, at most `n` of them. -/
def freeElements (m : Memory) : ℕ → ℕ → List ℕ
  | 0, _ => []
  | n + 1, tab => if tab = 0 then [] else tab :: freeElements m n (structPbuf.get .next tab m)

/-- The frame goes into one buffer, or no chain is allocated for it. -/
def Fits (data : List UInt8) (s : Pool) : Prop :=
  data.length ≤ pbufPoolBufsize ∨
    (freeElements s.mem pbufPoolSize s.mempTab).length < buffers data.length

/-- The free elements are linked, and they and those the stack has are different ones. -/
def Intact (ar : Arena) (s : State) : Prop :=
  ∃ fs, Linked s.pool.mem s.pool.mempTab fs ∧ (fs ++ s.lent).Nodup ∧
    ∀ a ∈ fs ++ s.lent, IsElement ar a

variable {ar : Arena}

/-- The walk finds the free elements. -/
lemma freeElements_eq {m : Memory} :
    ∀ {fs : List ℕ} {tab n : ℕ}, Linked m tab fs → (∀ a ∈ fs, IsElement ar a) → fs.length ≤ n →
      freeElements m n tab = fs
  | [], tab, n, h, _, _ => by
      cases n with
      | zero => rfl
      | succ n => exact if_pos h
  | a :: fs, tab, 0, _, _, hn => absurd hn (by simp)
  | a :: fs, tab, n + 1, h, hel, hn => by
      obtain ⟨rfl, hrest⟩ := h
      have ha : IsElement ar tab := hel tab (by simp)
      have ih := freeElements_eq hrest (fun b hb => hel b (by simp [hb]))
        (Nat.le_of_succ_le_succ hn)
      rw [freeElements, if_neg ha.ne_zero, ih]

/-! ## The start -/

lemma nodup_range_element (ar : Arena) (n : ℕ) : ((List.range n).map ar.element).Nodup := by
  refine List.nodup_range.map fun i j h => ?_
  simp only [Arena.element, elementSize, sizeofStructPbuf, pbufPoolBufsize] at h
  omega

lemma linked_foldl_mempFree (ar : Arena) (m : Memory) {n : ℕ} (hn : n ≤ pbufPoolSize) :
    Linked ((List.range n).foldl (fun s j => mempFree (ar.element j) s) ⟨m, 0⟩).mem
      ((List.range n).foldl (fun s j => mempFree (ar.element j) s) ⟨m, 0⟩).mempTab
      ((List.range n).map ar.element).reverse := by
  induction n with
  | zero => rfl
  | succ n ih =>
      have hnodup := nodup_range_element ar (n + 1)
      rw [List.range_succ, List.foldl_append, List.map_append, List.reverse_append]
      rw [List.range_succ, List.map_append, List.nodup_append] at hnodup
      refine mempFree_linked (ih (by omega)) ?_ ⟨n, hn, rfl⟩ ?_
      · intro b hb
        obtain ⟨j, hj, rfl⟩ := List.mem_map.mp (List.mem_reverse.mp hb)
        exact ⟨j, (List.mem_range.mp hj).trans (by omega), rfl⟩
      · intro hmem
        exact hnodup.2.2 _ (List.mem_reverse.mp hmem) _ (List.mem_singleton_self _) rfl

lemma isElement_range (ar : Arena) :
    ∀ a ∈ ((List.range pbufPoolSize).map ar.element).reverse, IsElement ar a := by
  intro a ha
  obtain ⟨j, hj, rfl⟩ := List.mem_map.mp (List.mem_reverse.mp ha)
  exact ⟨j, List.mem_range.mp hj, rfl⟩

lemma linked_mempInit (ar : Arena) (m : Memory) :
    Linked (mempInit ar m).pool.mem (mempInit ar m).pool.mempTab
      ((List.range pbufPoolSize).map ar.element).reverse :=
  linked_foldl_mempFree ar m le_rfl

lemma intact_mempInit (ar : Arena) (m : Memory) : Intact ar (mempInit ar m) := by
  refine ⟨_, linked_mempInit ar m, ?_, ?_⟩
  · rw [mempInit, List.append_nil, List.nodup_reverse]
    exact nodup_range_element ar _
  · rw [mempInit, List.append_nil]
    exact isElement_range ar

/-! ## A frame that fits in one buffer -/

/-- The memory with the frame in the buffer at `p`. -/
def filled (p : ℕ) (data : List UInt8) (m : Memory) : Memory :=
  (structPbuf.set .len p data.length (structPbuf.set .flags p 0 (structPbuf.set .ref p 1
    (setUp p (p + sizeofStructPbuf) data.length data.length m)))).store (p + sizeofStructPbuf) data

lemma keeps_filled {p : ℕ} {data : List UInt8} (h : data.length ≤ pbufPoolBufsize) (m : Memory) :
    Keeps [p] m (filled p data m) :=
  ((((keeps_setUp p _ _ _ m).trans (keeps_set .ref p 1 _)).trans (keeps_set .flags p 0 _)).trans
    (keeps_set .len p _ _)).trans (keeps_store (Nat.add_le_add_left h _) _)

/-- Behind the header, the frame does not touch it. -/
lemma get_filled (f : PbufField) (p : ℕ) (data : List UInt8) (m : Memory) :
    structPbuf.get f p (filled p data m) = structPbuf.get f p (structPbuf.set .len p data.length
      (structPbuf.set .flags p 0 (structPbuf.set .ref p 1
        (setUp p (p + sizeofStructPbuf) data.length data.length m)))) :=
  Record.get_congr fun _ _ hi => Memory.store_of_lt hi

lemma get_filled_eq {p : ℕ} {data : List UInt8} (hp : IsElement ar p)
    (h : data.length ≤ pbufPoolBufsize) (m : Memory) (f : PbufField) :
    structPbuf.get f p (filled p data m) = match f with
      | .next => 0
      | .payload => p + sizeofStructPbuf
      | .totLen => data.length
      | .len => data.length
      | .type => pbufPool
      | .flags => 0
      | .ref => 1 := by
  have hlen : data.length < 2 ^ 16 := h.trans_lt (by decide)
  have hset : ∀ f, structPbuf.get f p (setUp p _ _ _ m) = _ := get_setUp hp.payload_lt hlen hlen m
  rw [get_filled]
  cases f with
  | len => exact Record.get_set_self hlen
  | flags => exact (Record.get_set_of_ne (by decide)).trans (Record.get_set_self (by decide))
  | ref =>
      exact ((Record.get_set_of_ne (by decide)).trans (Record.get_set_of_ne (by decide))).trans
        (Record.get_set_self (by decide))
  | next | payload | totLen | type =>
      rw [Record.get_set_of_ne (by decide), Record.get_set_of_ne (by decide),
        Record.get_set_of_ne (by decide), hset]

lemma readFrame_of_le {data : List UInt8} {p : ℕ} {fs : List ℕ} {s : Pool}
    (h : data.length ≤ pbufPoolBufsize) (hp : IsElement ar p)
    (hfree : Linked s.mem s.mempTab (p :: fs)) :
    readFrame data s =
      (some ⟨[p], p + sizeofStructPbuf⟩, ⟨filled p data s.mem, structPbuf.get .next p s.mem⟩) := by
  have hlen : data.length < 2 ^ 16 := h.trans_lt (by decide)
  have hpay : structPbuf.get .payload p (structPbuf.set .flags p 0 (structPbuf.set .ref p 1
      (setUp p (p + sizeofStructPbuf) data.length data.length s.mem))) = p + sizeofStructPbuf := by
    rw [Record.get_set_of_ne (by decide), Record.get_set_of_ne (by decide)]
    exact get_setUp hp.payload_lt hlen hlen s.mem .payload
  rw [readFrame, pbufAlloc_of_le h hp hfree]
  dsimp only
  rw [List.headD_cons, hpay, if_neg (by simp [sizeofStructPbuf])]
  rfl

/-! ## What is left alone -/

lemma Keeps.spared {fs lent : List ℕ} {m m' : Memory} (hk : Keeps fs m m')
    (hel : ∀ a ∈ fs ++ lent, IsElement ar a) (hn : (fs ++ lent).Nodup) :
    ∀ a ∈ lent, ∀ k < elementSize, m' (a + k) = m (a + k) := by
  intro a ha k hk'
  refine hk _ fun c hc => ?_
  have hne : c ≠ a := fun he => List.disjoint_of_nodup_append hn hc (he ▸ ha)
  have hap : Net.Apart c a := (hel c (by simp [hc])).apart (hel a (by simp [ha])) hne
  rcases hap with h | h
  · exact Or.inr (by omega)
  · exact Or.inl (by omega)

lemma Keeps.outside {fs : List ℕ} {m m' : Memory} (hk : Keeps fs m m')
    (hel : ∀ a ∈ fs, IsElement ar a) :
    ∀ i, i < ar.base ∨ ar.base + pbufPoolSize * elementSize ≤ i → m' i = m i := by
  intro i hi
  refine hk i fun c hc => ?_
  obtain ⟨j, hj, rfl⟩ := hel c hc
  simp only [Arena.element, elementSize, sizeofStructPbuf, pbufPoolBufsize, pbufPoolSize] at *
  omega

lemma ethernetifInput_of_some (accepted : Bool) {data : List UInt8} {s : State} {t : Taken}
    {pool : Pool} (h : readFrame data s.pool = (some t, pool)) :
    ethernetifInput accepted data s =
      if ipOrArp (structPbuf.get .payload (t.chain.headD 0) pool.mem) pool.mem && accepted then
        (.passedUp t, ⟨pool, t.chain ++ s.lent⟩)
      else (.dropped t, { s with pool := pbufFree pbufPoolSize (t.chain.headD 0) pool }) := by
  rw [ethernetifInput, h]

/-- What holds of a frame that fits, and finds `p` free. -/
structure Placed (ar : Arena) (accepted : Bool) (data : List UInt8) (s : State) (p : ℕ)
    (fs : List ℕ) : Prop where
  taken : (ethernetifInput accepted data s).1.taken = some ⟨[p], p + sizeofStructPbuf⟩
  keeps : Keeps (p :: fs) s.pool.mem (ethernetifInput accepted data s).2.pool.mem
  intact : Intact ar (ethernetifInput accepted data s).2
  totLens : ∀ t, (ethernetifInput accepted data s).1 = .passedUp t →
    Linked (ethernetifInput accepted data s).2.pool.mem (t.chain.headD 0) t.chain ∧
      TotLens (ethernetifInput accepted data s).2.pool.mem t.chain

lemma placed {accepted : Bool} {data : List UInt8} {s : State} {p : ℕ} {fs : List ℕ}
    (h : data.length ≤ pbufPoolBufsize) (hfree : Linked s.pool.mem s.pool.mempTab (p :: fs))
    (hn : (p :: fs ++ s.lent).Nodup) (hel : ∀ a ∈ p :: fs ++ s.lent, IsElement ar a) :
    Placed ar accepted data s p fs := by
  have hp : IsElement ar p := hel p (by simp)
  have hfs : ∀ a ∈ fs, IsElement ar a := fun a ha => hel a (by simp [ha])
  have hpfs : p ∉ fs := by
    rw [List.cons_append, List.nodup_cons, List.mem_append] at hn
    exact fun hmem => hn.1 (Or.inl hmem)
  have hkeep : Keeps [p] s.pool.mem (filled p data s.pool.mem) := keeps_filled h _
  have hget := get_filled_eq hp h s.pool.mem
  have hrest : Linked (filled p data s.pool.mem) (structPbuf.get .next p s.pool.mem) fs :=
    hfree.2.keeps hkeep (apart_singleton hp hfs hpfs)
  have hin := ethernetifInput_of_some accepted (readFrame_of_le h hp hfree)
  rw [List.headD_cons] at hin
  by_cases hup : (ipOrArp (structPbuf.get .payload p (filled p data s.pool.mem))
      (filled p data s.pool.mem) && accepted) = true
  · rw [if_pos hup] at hin
    refine ⟨by rw [hin]; rfl, by rw [hin]; exact hkeep.mono (by simp), ?_, ?_⟩
    · rw [hin]
      exact ⟨fs, hrest, List.nodup_middle.mpr hn, fun a ha => hel a (List.perm_middle.subset ha)⟩
    · intro t ht
      rw [hin] at ht ⊢
      cases ht
      exact ⟨⟨rfl, hget .next⟩, (hget .totLen).trans (hget .len).symm⟩
  · rw [if_neg hup] at hin
    have hchain : Chained (filled p data s.pool.mem) 0 [p] :=
      ⟨hget .ref, hget .type, hget .next, trivial⟩
    let pool : Pool := ⟨filled p data s.pool.mem, structPbuf.get .next p s.pool.mem⟩
    have hn' : (p :: fs).Nodup := (List.nodup_append.mp hn).1
    obtain ⟨hl, hk⟩ := pbufFree_spec (s := pool) (show 1 ≤ pbufPoolSize by decide)
      (fun a ha => hel a (List.mem_append_left _ ha)) hn' hchain hrest
    refine ⟨by rw [hin]; rfl, ?_, ?_, ?_⟩
    · rw [hin]
      exact (hkeep.trans hk).mono (by simp)
    · rw [hin]
      exact ⟨p :: fs, hl, hn, hel⟩
    · intro t ht
      rw [hin] at ht
      cases ht

/-! ## Every frame -/

/-- Without a chain the driver stops. -/
lemma ethernetifInput_of_none (accepted : Bool) {data : List UInt8} {s : State}
    (h : (pbufAlloc data.length s.pool).1 = none) :
    ethernetifInput accepted data s
      = (.stopped, { s with pool := (pbufAlloc data.length s.pool).2 }) := by
  rw [ethernetifInput, readFrame]
  cases hr : pbufAlloc data.length s.pool with
  | mk r pool =>
      rw [hr] at h
      cases h
      rfl

lemma contained_of_none {accepted : Bool} {data : List UInt8} {s : State} {fs : List ℕ}
    (hel : ∀ a ∈ fs ++ s.lent, IsElement ar a) (hn : (fs ++ s.lent).Nodup)
    (hkeep : Keeps fs s.pool.mem (pbufAlloc data.length s.pool).2.mem)
    (h : (pbufAlloc data.length s.pool).1 = none) : Contained ar accepted data s := by
  have hin := ethernetifInput_of_none accepted h
  constructor
  · intro t ht
    rw [hin] at ht
    cases ht
  · rw [hin]
    exact Keeps.spared hkeep hel hn
  · rw [hin]
    exact Keeps.outside hkeep fun a ha => hel a (List.mem_append_left _ ha)
  · intro t ht
    rw [hin] at ht
    cases ht

lemma Placed.contained {accepted : Bool} {data : List UInt8} {s : State} {p : ℕ} {fs : List ℕ}
    (h : Placed ar accepted data s p fs) (hle : data.length ≤ pbufPoolBufsize)
    (hel : ∀ a ∈ p :: fs ++ s.lent, IsElement ar a) (hn : (p :: fs ++ s.lent).Nodup) :
    Contained ar accepted data s := by
  refine ⟨?_, Keeps.spared h.keeps hel hn,
    Keeps.outside h.keeps fun a ha => hel a (List.mem_append_left _ ha), h.totLens⟩
  intro t ht k hk
  rw [h.taken] at ht
  cases ht
  refine ⟨p, List.mem_singleton_self p, ?_⟩
  simp only [InPayload, elementSize]
  omega

/-- The byte behind a buffer is no data of any. -/
lemma not_inPayload {p a : ℕ} (hp : IsElement ar p) (ha : IsElement ar a) :
    ¬ InPayload a (p + sizeofStructPbuf + pbufPoolBufsize) := by
  obtain ⟨i, hi, rfl⟩ := hp
  obtain ⟨j, hj, rfl⟩ := ha
  simp only [InPayload, Arena.element, elementSize, sizeofStructPbuf, pbufPoolBufsize]
  omega

/-- A longer frame for which there is a chain goes on behind the first buffer: what lies there is
overwritten with the rest of it. -/
lemma readFrame_of_lt {data : List UInt8} {fs : List ℕ} {s : Pool}
    (hmax : data.length ≤ enetFrameMaxFramelen) (hlt : pbufPoolBufsize < data.length)
    (hroom : buffers data.length ≤ fs.length) (hel : ∀ a ∈ fs, IsElement ar a) (hn : fs.Nodup)
    (hfree : Linked s.mem s.mempTab fs) :
    ∃ p ∈ fs, (readFrame data s).1
        = some ⟨fs.take (buffers data.length), p + sizeofStructPbuf⟩ ∧
      ∀ k (hk : pbufPoolBufsize + k < data.length),
        (readFrame data s).2.mem (p + elementSize + k) = data[pbufPoolBufsize + k] := by
  have hlen : data.length < 2 ^ 16 := hmax.trans_lt (by decide)
  obtain ⟨hchain, hpay⟩ := (pbufAlloc_spec (by omega) hlen hel hn hfree).2.2 hroom
  have hpos : 0 < buffers data.length := by
    rw [buffers_step (by omega)]
    exact Nat.succ_pos _
  obtain ⟨n, hn'⟩ : ∃ n, buffers data.length = n + 1 := ⟨_, (Nat.succ_pred_eq_of_pos hpos).symm⟩
  cases fs with
  | nil => exact absurd hroom (by rw [List.length_nil]; omega)
  | cons p fs =>
      refine ⟨p, List.mem_cons_self .., ?_⟩
      cases hr : pbufAlloc data.length s with
      | mk r pool =>
          rw [hr] at hchain hpay
          cases hchain
          rw [readFrame, hr, hn', List.take_succ_cons]
          dsimp only
          rw [List.headD_cons] at hpay ⊢
          rw [hpay, if_neg (by simp [sizeofStructPbuf])]
          refine ⟨rfl, fun k hk => ?_⟩
          have hbehind : p + elementSize + k = p + sizeofStructPbuf + (pbufPoolBufsize + k) := by
            rw [elementSize]
            omega
          rw [hbehind]
          exact Memory.store_apply hk

lemma not_contained {accepted : Bool} {data : List UInt8} {s : State} {fs : List ℕ}
    (hmax : data.length ≤ enetFrameMaxFramelen) (hlt : pbufPoolBufsize < data.length)
    (hroom : buffers data.length ≤ fs.length) (hel : ∀ a ∈ fs, IsElement ar a) (hn : fs.Nodup)
    (hfree : Linked s.pool.mem s.pool.mempTab fs) : ¬ Contained ar accepted data s := by
  obtain ⟨p, hp, htaken, -⟩ := readFrame_of_lt hmax hlt hroom hel hn hfree
  intro h
  have hin : (ethernetifInput accepted data s).1.taken
      = some ⟨fs.take (buffers data.length), p + sizeofStructPbuf⟩ := by
    cases hr : readFrame data s.pool with
    | mk r pool =>
        rw [hr] at htaken
        rw [ethernetifInput_of_some accepted (hr.trans (Prod.ext htaken rfl))]
        split <;> rfl
  obtain ⟨a, ha, hbyte⟩ := h.within _ hin pbufPoolBufsize hlt
  exact not_inPayload (hel p hp) (hel a (List.mem_of_mem_take ha)) hbyte

/-- A frame that fits stays in its chain, and the pool intact. -/
lemma fits_spec (accepted : Bool) {data : List UInt8} {s : State} (hpos : 0 < data.length)
    (hmax : data.length ≤ enetFrameMaxFramelen) (hs : Intact ar s) (h : Fits data s.pool) :
    Contained ar accepted data s ∧ ((ethernetifInput accepted data s).1 = .stopped ∨
      Intact ar (ethernetifInput accepted data s).2) := by
  obtain ⟨fs, hfree, hn, hel⟩ := hs
  have hfs : ∀ a ∈ fs, IsElement ar a := fun a ha => hel a (List.mem_append_left _ ha)
  have hn' : fs.Nodup := (List.nodup_append.mp hn).1
  have hlen : data.length < 2 ^ 16 := hmax.trans_lt (by decide)
  rw [Fits, freeElements_eq hfree hfs (length_le_pool hfs hn')] at h
  rcases lt_or_ge fs.length (buffers data.length) with hlt | hge
  · obtain ⟨hkeep, hnone, -⟩ := pbufAlloc_spec hpos hlen hfs hn' hfree
    refine ⟨contained_of_none hel hn hkeep (hnone hlt), Or.inl ?_⟩
    rw [ethernetifInput_of_none accepted (hnone hlt)]
  · have hle : data.length ≤ pbufPoolBufsize := h.resolve_right (not_lt.mpr hge)
    cases fs with
    | nil =>
        rw [buffers_step hpos] at hge
        exact absurd hge (by simp)
    | cons p fs =>
        have hplaced : Placed ar accepted data s p fs := placed hle hfree hn hel
        exact ⟨hplaced.contained hle hel hn, Or.inr hplaced.intact⟩

/-- **One frame.** -/
theorem contained_iff {accepted : Bool} {data : List UInt8} {s : State} (hpos : 0 < data.length)
    (hmax : data.length ≤ enetFrameMaxFramelen) (hs : Intact ar s) :
    Contained ar accepted data s ↔ Fits data s.pool := by
  refine ⟨fun h => ?_, fun h => (fits_spec accepted hpos hmax hs h).1⟩
  obtain ⟨fs, hfree, hn, hel⟩ := hs
  have hfs : ∀ a ∈ fs, IsElement ar a := fun a ha => hel a (List.mem_append_left _ ha)
  have hn' : fs.Nodup := (List.nodup_append.mp hn).1
  rw [Fits, freeElements_eq hfree hfs (length_le_pool hfs hn')]
  by_contra hfit
  rw [not_or, not_le, not_lt] at hfit
  exact not_contained hmax hfit.1 hfit.2 hfs hn' hfree h

/-! ## Runs -/

/-- A frame of a run stays in its chain. -/
def StaysIn (ar : Arena) (s : State) : Call → Prop
  | .frame f accepted => Contained ar accepted f.1 s
  | _ => True

/-- A frame of a run goes into one buffer, or none is taken for it. -/
def FrameFits (s : State) : Call → Prop
  | .frame f _ => Fits f.1 s.pool
  | _ => True

lemma intact_frame {s t : State} {f : Frame} {accepted : Bool} (hs : Intact ar s)
    (h : Fits f.1 s.pool) (ht : step s (.frame f accepted) = .ok t) : Intact ar t := by
  have hspec := (fits_spec accepted f.2.1 f.2.2 hs h).2
  rw [step] at ht
  cases hr : ethernetifInput accepted f.1 s with
  | mk o u =>
      rw [hr] at ht hspec
      cases o with
      | stopped => cases ht
      | passedUp | dropped =>
          cases ht
          exact hspec.resolve_left nofun

lemma intact_step {s t : State} {c : Call} (hs : Intact ar s) (h : FrameFits s c)
    (ht : step s c = .ok t) : Intact ar t := by
  cases c with
  | frame f accepted => exact intact_frame hs h ht
  | malloc =>
      obtain ⟨fs, hfree, hn, hel⟩ := hs
      rw [step] at ht
      cases fs with
      | nil =>
          rw [mempMalloc_nil hfree] at ht
          cases ht
          exact ⟨[], hfree, hn, hel⟩
      | cons p fs =>
          rw [mempMalloc_cons hfree (hel p (by simp))] at ht
          cases ht
          exact ⟨fs, hfree.2, List.nodup_middle.mpr hn, fun a ha =>
            hel a (List.perm_middle.subset ha)⟩
  | free a =>
      obtain ⟨fs, hfree, hn, hel⟩ := hs
      cases ht
      by_cases ha : a ∈ s.lent
      · rw [if_pos ha]
        have hperm : (a :: fs ++ s.lent.erase a).Perm (fs ++ s.lent) :=
          List.perm_middle.symm.trans ((List.perm_cons_erase ha).symm.append_left fs)
        have haf : a ∉ fs := fun hmem => List.disjoint_of_nodup_append hn hmem ha
        exact ⟨a :: fs, mempFree_linked hfree (fun b hb => hel b (List.mem_append_left _ hb))
          (hel a (List.mem_append_right _ ha)) haf, hperm.nodup_iff.mpr hn, fun b hb =>
          hel b (hperm.subset hb)⟩
      · rw [if_neg ha]
        exact ⟨fs, hfree, hn, hel⟩
  | write a k b =>
      obtain ⟨fs, hfree, hn, hel⟩ := hs
      cases ht
      by_cases h : a ∈ s.lent ∧ k < elementSize
      · rw [if_pos h]
        have haf : a ∉ fs := fun hmem => List.disjoint_of_nodup_append hn hmem h.1
        refine ⟨fs, hfree.keeps (keeps_store h.2 _) ?_, hn, hel⟩
        exact apart_singleton (hel a (List.mem_append_right _ h.1))
          (fun b hb => hel b (List.mem_append_left _ hb)) haf
      · rw [if_neg h]
        exact ⟨fs, hfree, hn, hel⟩

/-- **The frames of a run stay in their chains** exactly if each is at most 600 bytes long, or needs
more buffers than are free. -/
theorem frames_contained_iff (ar : Arena) (m : Memory) (calls : List Call) :
    AllSteps step (StaysIn ar) (mempInit ar m) calls ↔
      AllSteps step FrameFits (mempInit ar m) calls := by
  refine allSteps_congr_of (fun s c hs => ?_) (fun s c t hs => intact_step hs)
    (intact_mempInit ar m)
  cases c with
  | frame f accepted => exact contained_iff f.2.1 f.2.2 hs
  | malloc | free | write => exact Iff.rfl

/-! ## A long frame -/

def sram : Arena where
  base := 0x20000000
  pos := by decide
  aligned := by decide
  fits := by decide

def zeros (n : ℕ) (h : 0 < n ∧ n ≤ enetFrameMaxFramelen) : Frame :=
  ⟨List.replicate n 0, by rwa [List.length_replicate]⟩

lemma length_zeros {n : ℕ} (h : 0 < n ∧ n ≤ enetFrameMaxFramelen) : (zeros n h).1.length = n :=
  List.length_replicate

/-- The longest frame, into a pool nobody has used. -/
theorem long_frame_overruns :
    ¬ AllSteps step (StaysIn sram) (mempInit sram fun _ => 0)
        [.frame (zeros enetFrameMaxFramelen (by decide)) true] := by
  rintro ⟨h, -⟩
  refine not_contained (zeros _ _).2.2 ?_ ?_ (isElement_range sram)
    (List.nodup_reverse.mpr (nodup_range_element sram _)) (linked_mempInit sram _) h
  · rw [length_zeros]
    decide
  · rw [length_zeros, List.length_reverse, List.length_map, List.length_range]
    decide

end Lgt8.Ethernetif

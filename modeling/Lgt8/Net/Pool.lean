import Mathlib.Tactic
import Lgt8.Library.Record

/-!
# The pool of packet buffers (`core/memp.c`, `pbuf_alloc` and `pbuf_free` in `core/pbuf.c`)

The pool is an array of ten elements, each a `struct pbuf` with 600 bytes of data behind it.  Free
elements are linked through their first word, and a chain of buffers through the same word, so both
are only as good as the memory they lie in.

* `Arena`, `IsElement` — where the pool lies, and its elements.
* `structPbuf` — the fields of a `struct pbuf` in memory; `Keeps`, `Keeps.get` — what is left alone.
* `mempMalloc`, `mempFree`, `pbufAlloc`, `pbufFree` — the four functions.
* `Linked` — the free elements, as a walk along the links finds them.
* **`allocTail_spec`**, **`pbufFree_spec`** — a chain is taken from the front of the free elements, or
  they do not suffice and nothing else is touched.
-/

namespace Lgt8.Net

open Library

def pbufPoolSize : ℕ := 10

/-- `PBUF_POOL_BUFSIZE`, a multiple of four as it stands. -/
def pbufPoolBufsize : ℕ := 600

def sizeofStructPbuf : ℕ := 16

/-- What `memp_sizes` has for the pool. -/
def elementSize : ℕ := sizeofStructPbuf + pbufPoolBufsize

/-- Where the linker has put the pool. -/
structure Arena where
  base : ℕ
  pos : 0 < base
  aligned : 4 ∣ base
  fits : base + pbufPoolSize * elementSize ≤ 2 ^ 32

variable {ar : Arena}

def Arena.element (ar : Arena) (i : ℕ) : ℕ := ar.base + elementSize * i

def IsElement (ar : Arena) (a : ℕ) : Prop := ∃ i < pbufPoolSize, a = ar.element i

/-- The elements at `a` and `b` do not overlap. -/
def Apart (a b : ℕ) : Prop := a + elementSize ≤ b ∨ b + elementSize ≤ a

lemma Apart.symm {a b : ℕ} (h : Apart a b) : Apart b a := Or.symm h

lemma IsElement.apart {a b : ℕ} (ha : IsElement ar a) (hb : IsElement ar b) (h : a ≠ b) :
    Apart a b := by
  obtain ⟨i, hi, rfl⟩ := ha
  obtain ⟨j, hj, rfl⟩ := hb
  simp only [Apart, Arena.element, elementSize, sizeofStructPbuf, pbufPoolBufsize] at h ⊢
  omega

lemma IsElement.ne_zero {a : ℕ} (ha : IsElement ar a) : a ≠ 0 := by
  obtain ⟨i, hi, rfl⟩ := ha
  have := ar.pos
  simp only [Arena.element]
  omega

lemma IsElement.lt {a : ℕ} (ha : IsElement ar a) : a < 2 ^ 32 := by
  obtain ⟨i, hi, rfl⟩ := ha
  have := ar.fits
  simp only [Arena.element, elementSize, sizeofStructPbuf, pbufPoolBufsize, pbufPoolSize] at *
  omega

lemma IsElement.payload_lt {a : ℕ} (ha : IsElement ar a) : a + sizeofStructPbuf < 2 ^ 32 := by
  obtain ⟨i, hi, rfl⟩ := ha
  have := ar.fits
  simp only [Arena.element, elementSize, sizeofStructPbuf, pbufPoolBufsize, pbufPoolSize] at *
  omega

/-! ## Fields -/

inductive PbufField
  | next | payload | totLen | len | type | flags | ref
  deriving DecidableEq

/-- `struct pbuf`: one field behind the other, without padding. -/
def structPbuf : Record PbufField where
  off
    | .next => 0
    | .payload => 4
    | .totLen => 8
    | .len => 10
    | .type => 12
    | .flags => 13
    | .ref => 14
  width
    | .next => 4
    | .payload => 4
    | .totLen => 2
    | .len => 2
    | .type => 1
    | .flags => 1
    | .ref => 2
  size := sizeofStructPbuf
  inside f := by cases f <;> decide
  apart f g h := by cases f <;> cases g <;> first | exact absurd rfl h | decide

/-! ## What is left alone -/

/-- The address is in none of the elements `as`. -/
def Outside (as : List ℕ) (i : ℕ) : Prop := ∀ a ∈ as, i < a ∨ a + elementSize ≤ i

/-- From `m` to `m'` only the elements `as` have changed. -/
def Keeps (as : List ℕ) (m m' : Memory) : Prop := ∀ i, Outside as i → m' i = m i

lemma Keeps.refl (as : List ℕ) (m : Memory) : Keeps as m m := fun _ _ => rfl

lemma Keeps.trans {as : List ℕ} {m m' m'' : Memory} (h : Keeps as m m') (h' : Keeps as m' m'') :
    Keeps as m m'' :=
  fun i hi => (h' i hi).trans (h i hi)

lemma Keeps.mono {as bs : List ℕ} {m m' : Memory} (h : Keeps as m m') (hs : as ⊆ bs) :
    Keeps bs m m' :=
  fun i hi => h i fun a ha => hi a (hs ha)

lemma keeps_store {a k : ℕ} {src : List UInt8} (h : k + src.length ≤ elementSize) (m : Memory) :
    Keeps [a] m (m.store (a + k) src) := by
  intro i hi
  rcases hi a (List.mem_singleton_self a) with hlt | hge
  · exact Memory.store_of_lt (by omega)
  · exact Memory.store_of_le (by omega)

lemma keeps_set (f : PbufField) (a v : ℕ) (m : Memory) : Keeps [a] m (structPbuf.set f a v m) := by
  refine fun i hi => Record.set_of_outside ?_
  have hi' := hi a (List.mem_singleton_self a)
  simp only [elementSize, structPbuf] at hi' ⊢
  omega

/-- The fields of another element. -/
lemma Keeps.get {as : List ℕ} {m m' : Memory} (h : Keeps as m m') {b : ℕ}
    (hb : ∀ a ∈ as, Apart a b) (f : PbufField) : structPbuf.get f b m' = structPbuf.get f b m := by
  refine Record.get_congr fun i hi hi' => h i fun a ha => ?_
  simp only [structPbuf] at hi'
  rcases hb a ha with hab | hab <;>
    simp only [elementSize] at hab ⊢ <;> omega

lemma get_set_of_apart {a b : ℕ} (h : Apart a b) (f g : PbufField) (v : ℕ) (m : Memory) :
    structPbuf.get f b (structPbuf.set g a v m) = structPbuf.get f b m :=
  (keeps_set g a v m).get (fun _ hc => List.mem_singleton.mp hc ▸ h) f

/-! ## The free elements -/

/-- The pool's memory, and the first free element (`memp_tab[MEMP_PBUF_POOL]`; 0 is `NULL`). -/
structure Pool where
  mem : Memory
  mempTab : ℕ

/-- The elements `as` are linked, the first one at `tab`. -/
def Linked (m : Memory) : ℕ → List ℕ → Prop
  | tab, [] => tab = 0
  | tab, a :: as => tab = a ∧ Linked m (structPbuf.get .next a m) as

lemma Linked.keeps {m m' : Memory} {cs : List ℕ} (hk : Keeps cs m m') :
    ∀ {as : List ℕ} {tab : ℕ}, (∀ a ∈ as, ∀ c ∈ cs, Apart c a) → Linked m tab as →
      Linked m' tab as
  | [], _, _, h => h
  | a :: as, _, hap, h => by
      refine ⟨h.1, ?_⟩
      rw [hk.get (hap a (List.mem_cons_self ..))]
      exact Linked.keeps hk (fun b hb => hap b (List.mem_cons_of_mem _ hb)) h.2

/-- The link to elements of the pool is a pointer. -/
lemma Linked.lt {m : Memory} {tab : ℕ} {as : List ℕ} (h : Linked m tab as)
    (has : ∀ a ∈ as, IsElement ar a) : tab < 2 ^ 32 := by
  cases as with
  | nil =>
      rw [h]
      decide
  | cons a as =>
      rw [h.1]
      exact (has a (List.mem_cons_self ..)).lt

/-- `memp_malloc`. -/
def mempMalloc (s : Pool) : Option ℕ × Pool :=
  if s.mempTab = 0 then (none, s)
  else (some s.mempTab, { s with mempTab := structPbuf.get .next s.mempTab s.mem })

/-- `memp_free`. -/
def mempFree (a : ℕ) (s : Pool) : Pool := ⟨structPbuf.set .next a s.mempTab s.mem, a⟩

lemma mempMalloc_nil {s : Pool} (h : Linked s.mem s.mempTab []) : mempMalloc s = (none, s) :=
  if_pos h

lemma mempMalloc_cons {s : Pool} {a : ℕ} {as : List ℕ} (h : Linked s.mem s.mempTab (a :: as))
    (ha : IsElement ar a) :
    mempMalloc s = (some a, { s with mempTab := structPbuf.get .next a s.mem }) := by
  have htab : s.mempTab = a := h.1
  rw [mempMalloc, htab, if_neg ha.ne_zero]

lemma mempFree_linked {s : Pool} {a : ℕ} {as : List ℕ} (h : Linked s.mem s.mempTab as)
    (has : ∀ b ∈ as, IsElement ar b) (ha : IsElement ar a) (hn : a ∉ as) :
    Linked (mempFree a s).mem (mempFree a s).mempTab (a :: as) := by
  refine ⟨rfl, ?_⟩
  rw [mempFree]
  dsimp only
  rw [Record.get_set_self (h.lt has)]
  refine h.keeps (keeps_set .next a _ _) fun b hb c hc => ?_
  rw [List.mem_singleton.mp hc]
  exact ha.apart (has b hb) fun hab => hn (hab ▸ hb)

/-- A list of different elements is no longer than the pool. -/
lemma length_le_pool {as : List ℕ} (has : ∀ a ∈ as, IsElement ar a) (hn : as.Nodup) :
    as.length ≤ pbufPoolSize := by
  have hsub : as.toFinset ⊆ (Finset.range pbufPoolSize).image ar.element := by
    intro a ha
    obtain ⟨i, hi, rfl⟩ := has a (List.mem_toFinset.mp ha)
    exact Finset.mem_image_of_mem _ (Finset.mem_range.mpr hi)
  have hcard := (Finset.card_le_card hsub).trans Finset.card_image_le
  rwa [List.toFinset_card_of_nodup hn, Finset.card_range] at hcard

/-! ## `pbuf_free` -/

/-- The value of `PBUF_POOL`. -/
def pbufPool : ℕ := 3

/-- `pbuf_free`, for at most `n` buffers.  One of the pool is never a custom one, and one of another
type goes to another allocator. -/
def pbufFree : ℕ → ℕ → Pool → Pool
  | 0, _, s => s
  | n + 1, p, s =>
      if p = 0 then s
      -- the assertion that there is a reference stops the firmware
      else if structPbuf.get .ref p s.mem = 0 then s
      else
        let s := { s with mem := structPbuf.set .ref p (structPbuf.get .ref p s.mem - 1) s.mem }
        if structPbuf.get .ref p s.mem = 0 then
          let q := structPbuf.get .next p s.mem
          pbufFree n q (if structPbuf.get .type p s.mem = pbufPool then mempFree p s else s)
        else s

/-- Buffers of the pool with one reference each, chained, the last one to `e`. -/
def Chained (m : Memory) (e : ℕ) : List ℕ → Prop
  | [] => True
  | a :: as => structPbuf.get .ref a m = 1 ∧ structPbuf.get .type a m = pbufPool ∧
      structPbuf.get .next a m = as.headD e ∧ Chained m e as

lemma Chained.keeps {m m' : Memory} {cs : List ℕ} {e : ℕ} (hk : Keeps cs m m') :
    ∀ {as : List ℕ}, (∀ a ∈ as, ∀ c ∈ cs, Apart c a) → Chained m e as → Chained m' e as
  | [], _, _ => trivial
  | a :: as, hap, ⟨href, htype, hnext, hrest⟩ => by
      have ha := hap a (List.mem_cons_self ..)
      refine ⟨(hk.get ha _).trans href, (hk.get ha _).trans htype, (hk.get ha _).trans hnext, ?_⟩
      exact Chained.keeps hk (fun b hb => hap b (List.mem_cons_of_mem _ hb)) hrest

lemma apart_singleton {a : ℕ} {as : List ℕ} (ha : IsElement ar a) (has : ∀ b ∈ as, IsElement ar b)
    (hn : a ∉ as) : ∀ b ∈ as, ∀ c ∈ [a], Apart c b := by
  intro b hb c hc
  rw [List.mem_singleton.mp hc]
  exact ha.apart (has b hb) fun hab => hn (hab ▸ hb)

/-- One buffer whose only reference is given up. -/
lemma pbufFree_succ {s : Pool} {a : ℕ} (ha : IsElement ar a)
    (href : structPbuf.get .ref a s.mem = 1)
    (htype : structPbuf.get .type a s.mem = pbufPool) (n : ℕ) :
    pbufFree (n + 1) a s
      = pbufFree n (structPbuf.get .next a s.mem)
          (mempFree a { s with mem := structPbuf.set .ref a 0 s.mem }) := by
  have hzero : structPbuf.get .ref a (structPbuf.set .ref a 0 s.mem) = 0 :=
    Record.get_set_self (by decide)
  rw [pbufFree, if_neg ha.ne_zero, if_neg (by rw [href]; decide), href]
  dsimp only
  rw [if_pos hzero, Record.get_set_of_ne (by decide), Record.get_set_of_ne (by decide),
    if_pos htype]

/-- **A chain that nobody else refers to is freed whole**, and nothing else is touched. -/
theorem pbufFree_spec {chain fs : List ℕ} {n : ℕ} {s : Pool} (hn : chain.length ≤ n)
    (hel : ∀ a ∈ chain ++ fs, IsElement ar a) (hnodup : (chain ++ fs).Nodup)
    (hchain : Chained s.mem 0 chain) (hfree : Linked s.mem s.mempTab fs) :
    Linked (pbufFree n (chain.headD 0) s).mem (pbufFree n (chain.headD 0) s).mempTab
        (chain.reverse ++ fs) ∧
      Keeps chain s.mem (pbufFree n (chain.headD 0) s).mem := by
  induction chain generalizing n s fs with
  | nil =>
      have hs : pbufFree n (([] : List ℕ).headD 0) s = s := by
        cases n with
        | zero => rfl
        | succ n => exact if_pos rfl
      rw [hs]
      exact ⟨hfree, .refl _ _⟩
  | cons a chain ih =>
      obtain ⟨href, htype, hnext, hrest⟩ := hchain
      obtain ⟨n, rfl⟩ : ∃ k, n = k + 1 := ⟨n - 1, by rw [List.length_cons] at hn; omega⟩
      have ha : IsElement ar a := hel a (by simp)
      have hel' : ∀ b ∈ chain ++ a :: fs, IsElement ar b := fun b hb => hel b (by
        simp only [List.mem_append, List.mem_cons] at hb ⊢
        tauto)
      rw [List.cons_append, List.nodup_cons] at hnodup
      have hnodup' : (chain ++ a :: fs).Nodup := List.nodup_middle.mpr (List.nodup_cons.mpr hnodup)
      have hnotin : a ∉ chain ∧ a ∉ fs := by simpa using hnodup.1
      have hfs : ∀ b ∈ fs, IsElement ar b := fun b hb => hel b (by simp [hb])
      have hcs : ∀ b ∈ chain, IsElement ar b := fun b hb => hel b (by simp [hb])
      have hkref : Keeps [a] s.mem (structPbuf.set .ref a 0 s.mem) := keeps_set .ref a 0 s.mem
      let s' : Pool := mempFree a { s with mem := structPbuf.set .ref a 0 s.mem }
      have hk : Keeps [a] s.mem s'.mem := hkref.trans (keeps_set .next a _ _)
      have hfree' : Linked s'.mem s'.mempTab (a :: fs) :=
        mempFree_linked (s := { s with mem := structPbuf.set .ref a 0 s.mem })
          (hfree.keeps hkref (apart_singleton ha hfs hnotin.2)) hfs ha hnotin.2
      have hchain' : Chained s'.mem 0 chain := hrest.keeps hk (apart_singleton ha hcs hnotin.1)
      have hlen : chain.length ≤ n := by
        rw [List.length_cons] at hn
        omega
      have hhead : [a] ⊆ a :: chain := by simp
      obtain ⟨hl, hkeep⟩ := ih hlen hel' hnodup' hchain' hfree'
      rw [List.headD_cons, pbufFree_succ ha href htype, hnext]
      refine ⟨?_, (hk.mono hhead).trans (hkeep.mono (List.subset_cons_self _ _))⟩
      rw [List.reverse_cons, List.append_assoc]
      exact hl

/-! ## `pbuf_alloc` -/

/-- `LWIP_MEM_ALIGN`, with `MEM_ALIGNMENT` 4. -/
def memAlign (a : ℕ) : ℕ := (a + 3) / 4 * 4

lemma memAlign_payload {a : ℕ} (ha : IsElement ar a) :
    memAlign (a + sizeofStructPbuf) = a + sizeofStructPbuf := by
  obtain ⟨i, hi, rfl⟩ := ha
  obtain ⟨c, hc⟩ := ar.aligned
  simp only [memAlign, Arena.element, elementSize, sizeofStructPbuf, pbufPoolBufsize, hc]
  omega

/-- What `pbuf_alloc` sets in each buffer, in one order for the head and another for the rest. -/
def setUp (q payload totLen len : ℕ) (m : Memory) : Memory :=
  let m := structPbuf.set .type q pbufPool m
  let m := structPbuf.set .next q 0 m
  let m := structPbuf.set .payload q payload m
  let m := structPbuf.set .totLen q totLen m
  let m := structPbuf.set .len q len m
  structPbuf.set .ref q 1 m

lemma keeps_setUp (q payload totLen len : ℕ) (m : Memory) :
    Keeps [q] m (setUp q payload totLen len m) :=
  (((((keeps_set _ q _ _).trans (keeps_set _ q _ _)).trans (keeps_set _ q _ _)).trans
    (keeps_set _ q _ _)).trans (keeps_set _ q _ _)).trans (keeps_set _ q _ _)

lemma keeps_flags_setUp (q payload totLen len : ℕ) (m : Memory) :
    Keeps [q] m (setUp q payload totLen len (structPbuf.set .flags q 0 m)) :=
  (keeps_set .flags q 0 m).trans (keeps_setUp q _ _ _ _)

lemma get_setUp {q payload totLen len : ℕ} (hp : payload < 2 ^ 32) (ht : totLen < 2 ^ 16)
    (hl : len < 2 ^ 16) (m : Memory) (f : PbufField) :
    structPbuf.get f q (setUp q payload totLen len m) = match f with
      | .next => 0
      | .payload => payload
      | .totLen => totLen
      | .len => len
      | .type => pbufPool
      | .flags => structPbuf.get .flags q m
      | .ref => 1 := by
  cases f <;>
    simp only [setUp, Record.get_set_of_ne, ne_eq, reduceCtorEq, not_false_eq_true] <;>
    exact Record.get_set_self (by first | exact hp | exact ht | exact hl | decide)

/-- The loop of `pbuf_alloc`: `taken` are the buffers so far, from `p` to `r`. -/
def allocTail (s : Pool) (p r : ℕ) (taken : List ℕ) (remLen : ℕ) : Option (List ℕ) × Pool :=
  if h : 0 < remLen then
    match mempMalloc s with
    | (none, s) => (none, pbufFree pbufPoolSize p s)
    | (some q, s) =>
        let len := min remLen pbufPoolBufsize
        let m := setUp q (q + sizeofStructPbuf) remLen len (structPbuf.set .flags q 0 s.mem)
        have : remLen - len < remLen := by
          simp only [len, pbufPoolBufsize]
          omega
        allocTail { s with mem := structPbuf.set .next r q m } p q (taken ++ [q]) (remLen - len)
  else (some taken, s)
termination_by remLen

/-- `pbuf_alloc(PBUF_RAW, length, PBUF_POOL)`: the buffers of the chain. -/
def pbufAlloc (length : ℕ) (s : Pool) : Option (List ℕ) × Pool :=
  match mempMalloc s with
  | (none, s) => (none, s)
  | (some p, s) =>
      let len := min length pbufPoolBufsize
      let m := setUp p (memAlign (p + sizeofStructPbuf)) length len s.mem
      match allocTail { s with mem := m } p p [p] (length - len) with
      | (none, s) => (none, s)
      | (some chain, s) =>
          (some chain, { s with mem := structPbuf.set .flags p 0 (structPbuf.set .ref p 1 s.mem) })

/-- The buffers that `length` bytes take. -/
def buffers (length : ℕ) : ℕ := (length + pbufPoolBufsize - 1) / pbufPoolBufsize

lemma buffers_zero : buffers 0 = 0 := rfl

lemma buffers_step {n : ℕ} (h : 0 < n) : buffers n = buffers (n - min n pbufPoolBufsize) + 1 := by
  simp only [buffers, pbufPoolBufsize]
  omega

lemma Chained.append {m : Memory} {q e : ℕ} :
    ∀ {as : List ℕ}, Chained m q as → Chained m e [q] → Chained m e (as ++ [q])
  | [], _, h => h
  | a :: as, ⟨href, htype, hnext, hrest⟩, h => by
      refine ⟨href, htype, ?_, Chained.append hrest h⟩
      rw [hnext]
      cases as <;> rfl

/-- The last buffer of the chain is given a new successor. -/
lemma Chained.link {m : Memory} {e q r : ℕ} (hq : q < 2 ^ 32) :
    ∀ {as : List ℕ}, (∀ a ∈ as, Apart r a) → Chained m e (as ++ [r]) →
      Chained (structPbuf.set .next r q m) q (as ++ [r])
  | [], _, ⟨href, htype, _, _⟩ =>
      ⟨(Record.get_set_of_ne (by decide)).trans href, (Record.get_set_of_ne (by decide)).trans htype,
        Record.get_set_self hq, trivial⟩
  | a :: as, hap, ⟨href, htype, hnext, hrest⟩ => by
      have ha := hap a (List.mem_cons_self ..)
      refine ⟨(get_set_of_apart ha ..).trans href, (get_set_of_apart ha ..).trans htype,
        (get_set_of_apart ha ..).trans (hnext.trans ?_), ?_⟩
      · cases as <;> rfl
      · exact Chained.link hq (fun b hb => hap b (List.mem_cons_of_mem _ hb)) hrest

/-- The memory after one more buffer was taken. -/
def extended (q r remLen : ℕ) (m : Memory) : Memory :=
  structPbuf.set .next r q (setUp q (q + sizeofStructPbuf) remLen (min remLen pbufPoolBufsize)
    (structPbuf.set .flags q 0 m))

lemma keeps_extended (q r remLen : ℕ) (m : Memory) :
    Keeps [r, q] m (extended q r remLen m) := by
  have hq := keeps_flags_setUp q (q + sizeofStructPbuf) remLen (min remLen pbufPoolBufsize) m
  exact (hq.mono (by simp)).trans ((keeps_set .next r q _).mono (by simp))

lemma Chained.extended {m : Memory} {q r remLen : ℕ} {taken : List ℕ} (hr : remLen < 2 ^ 16)
    (hel : ∀ a ∈ taken ++ [r], IsElement ar a) (hq : IsElement ar q) (hn : (taken ++ [r]).Nodup)
    (hqn : q ∉ taken ++ [r]) (h : Chained m 0 (taken ++ [r])) :
    Chained (extended q r remLen m) 0 (taken ++ [r] ++ [q]) := by
  have hrel : IsElement ar r := hel r (by simp)
  have hkeep := keeps_flags_setUp q (q + sizeofStructPbuf) remLen (min remLen pbufPoolBufsize) m
  have hlen : min remLen pbufPoolBufsize < 2 ^ 16 := (min_le_left _ _).trans_lt hr
  have hrq : Apart r q := hrel.apart hq fun he => hqn (he ▸ by simp)
  refine .append (.link hq.lt ?_ (h.keeps hkeep (apart_singleton hq hel hqn))) ?_
  · intro a ha
    refine hrel.apart (hel a (List.mem_append_left _ ha)) fun he => ?_
    exact List.disjoint_of_nodup_append hn ha (he ▸ List.mem_singleton_self r)
  · rw [Net.extended]
    refine ⟨?_, ?_, ?_, trivial⟩ <;> rw [get_set_of_apart hrq, get_setUp hq.payload_lt hr hlen]
    rfl

lemma extended_payload {p q r : ℕ} (hp : IsElement ar p) (hq : IsElement ar q)
    (hr : IsElement ar r) (hpq : p ≠ q) (remLen : ℕ) (m : Memory) :
    structPbuf.get .payload p (extended q r remLen m) = structPbuf.get .payload p m := by
  have hkeep := keeps_flags_setUp q (q + sizeofStructPbuf) remLen (min remLen pbufPoolBufsize) m
  have hpay := hkeep.get (b := p) (fun a ha => by
    rw [List.mem_singleton.mp ha]
    exact hq.apart hp (Ne.symm hpq)) .payload
  rw [extended, ← hpay]
  by_cases hpr : r = p
  · rw [hpr]
    exact Record.get_set_of_ne (by decide)
  · exact get_set_of_apart (hr.apart hp hpr) ..

/-- **The loop of `pbuf_alloc`.**  If there are enough free elements it takes them in turn; else it
takes none.  It touches nothing but the chain and the free elements. -/
theorem allocTail_spec {p r remLen : ℕ} {taken fs : List ℕ} {s : Pool} (hrem : remLen < 2 ^ 16)
    (hel : ∀ a ∈ taken ++ [r] ++ fs, IsElement ar a) (hnodup : (taken ++ [r] ++ fs).Nodup)
    (hp : (taken ++ [r]).headD 0 = p) (hchain : Chained s.mem 0 (taken ++ [r]))
    (hfree : Linked s.mem s.mempTab fs) :
    Keeps (taken ++ [r] ++ fs) s.mem (allocTail s p r (taken ++ [r]) remLen).2.mem ∧
    (fs.length < buffers remLen → (allocTail s p r (taken ++ [r]) remLen).1 = none) ∧
    (buffers remLen ≤ fs.length →
      (allocTail s p r (taken ++ [r]) remLen).1
          = some (taken ++ [r] ++ fs.take (buffers remLen)) ∧
        structPbuf.get .payload p (allocTail s p r (taken ++ [r]) remLen).2.mem
          = structPbuf.get .payload p s.mem) := by
  induction remLen using Nat.strong_induction_on generalizing r taken fs s with
  | _ remLen ih =>
      rw [allocTail]
      rcases Nat.eq_zero_or_pos remLen with h0 | hpos
      · subst h0
        rw [dif_neg (by decide), buffers_zero]
        exact ⟨.refl _ _, fun h => absurd h (Nat.not_lt_zero _), fun _ => ⟨by simp, rfl⟩⟩
      · rw [dif_pos hpos, buffers_step hpos]
        cases fs with
        | nil =>
            rw [mempMalloc_nil hfree]
            simp only [List.append_nil] at hel hnodup ⊢
            have hfreed := pbufFree_spec (length_le_pool hel hnodup)
              (by simpa using hel) (by simpa using hnodup) hchain hfree
            rw [hp] at hfreed
            exact ⟨hfreed.2, fun _ => trivial, fun h => absurd h (by simp)⟩
        | cons q fs =>
            have hq : IsElement ar q := hel q (by simp)
            have hr : IsElement ar r := hel r (by simp)
            have hsplit : taken ++ [r] ++ q :: fs = taken ++ [r] ++ [q] ++ fs := by simp
            rw [hsplit] at hel hnodup ⊢
            have hold : (taken ++ [r] ++ [q]).Nodup := (List.nodup_append.mp hnodup).1
            have hqn : q ∉ taken ++ [r] := fun hmem =>
              List.disjoint_of_nodup_append hold hmem (List.mem_singleton_self q)
            have hqfs : q ∉ fs := List.disjoint_of_nodup_append hnodup (by simp)
            have hrfs : r ∉ fs := List.disjoint_of_nodup_append hnodup (by simp)
            have hfs : ∀ a ∈ fs, IsElement ar a := fun a ha => hel a (by simp [ha])
            have hkeep := keeps_extended q r remLen s.mem
            have hfree' : Linked (extended q r remLen s.mem) (structPbuf.get .next q s.mem) fs := by
              refine hfree.2.keeps hkeep fun a ha c hc => ?_
              rcases List.mem_pair.mp hc with rfl | rfl
              · exact hr.apart (hfs a ha) fun he => hrfs (he ▸ ha)
              · exact hq.apart (hfs a ha) fun he => hqfs (he ▸ ha)
            have hchain' := hchain.extended hrem (fun a ha => hel a (by simp at ha ⊢; tauto)) hq
              (List.nodup_append.mp hold).1 hqn
            have hp' : (taken ++ [r] ++ [q]).headD 0 = p := by
              rw [← hp]
              cases taken <;> rfl
            have hlt : remLen - min remLen pbufPoolBufsize < remLen := by
              simp only [pbufPoolBufsize]
              omega
            let s' : Pool := ⟨extended q r remLen s.mem, structPbuf.get .next q s.mem⟩
            obtain ⟨hk, hnone, hsome⟩ := ih _ hlt (s := s') (hlt.trans hrem) hel hnodup hp' hchain'
              hfree'
            have hpmem : p ∈ taken ++ [r] := by
              rw [← hp]
              cases taken <;> simp
            have hpay := extended_payload (hel p (by simp at hpmem ⊢; tauto)) hq hr
              (fun he => hqn (he ▸ hpmem)) remLen s.mem
            rw [mempMalloc_cons hfree hq]
            refine ⟨(hkeep.mono ?_).trans hk, ?_, ?_⟩
            · simp
            · intro hlen
              exact hnone (by rw [List.length_cons] at hlen; omega)
            · intro hlen
              obtain ⟨h1, h2⟩ := hsome (by rw [List.length_cons] at hlen; omega)
              refine ⟨h1.trans ?_, h2.trans hpay⟩
              rw [List.take_succ_cons, List.append_assoc, List.append_assoc, List.append_assoc]
              rfl

/-- **`pbuf_alloc`.**  The chain is the first free elements, as many as `length` bytes take. -/
theorem pbufAlloc_spec {length : ℕ} {fs : List ℕ} {s : Pool} (hpos : 0 < length)
    (hlen : length < 2 ^ 16) (hel : ∀ a ∈ fs, IsElement ar a) (hnodup : fs.Nodup)
    (hfree : Linked s.mem s.mempTab fs) :
    Keeps fs s.mem (pbufAlloc length s).2.mem ∧
    (fs.length < buffers length → (pbufAlloc length s).1 = none) ∧
    (buffers length ≤ fs.length →
      (pbufAlloc length s).1 = some (fs.take (buffers length)) ∧
        structPbuf.get .payload (fs.headD 0) (pbufAlloc length s).2.mem
          = fs.headD 0 + sizeofStructPbuf) := by
  rw [buffers_step hpos]
  cases fs with
  | nil =>
      rw [pbufAlloc, mempMalloc_nil hfree]
      exact ⟨.refl _ _, fun _ => rfl, fun h => absurd h (by simp)⟩
  | cons p fs =>
      have hp : IsElement ar p := hel p (by simp)
      have hpfs : p ∉ fs := (List.nodup_cons.mp hnodup).1
      have hfs : ∀ a ∈ fs, IsElement ar a := fun a ha => hel a (by simp [ha])
      have hmin : min length pbufPoolBufsize < 2 ^ 16 := (min_le_left _ _).trans_lt hlen
      have hget : ∀ f, structPbuf.get f p (setUp p _ _ _ s.mem) = _ :=
        get_setUp hp.payload_lt hlen hmin s.mem
      let s' : Pool := ⟨setUp p (p + sizeofStructPbuf) length (min length pbufPoolBufsize) s.mem,
        structPbuf.get .next p s.mem⟩
      have hkeep : Keeps [p] s.mem s'.mem := keeps_setUp p _ _ _ _
      have hfree' : Linked s'.mem s'.mempTab fs :=
        hfree.2.keeps hkeep (apart_singleton hp hfs hpfs)
      have hchain : Chained s'.mem 0 ([] ++ [p]) := ⟨hget .ref, hget .type, hget .next, trivial⟩
      have hrem : length - min length pbufPoolBufsize < 2 ^ 16 := by omega
      obtain ⟨hk, hnone, hsome⟩ := allocTail_spec (s := s') (p := p) hrem (by simpa using hel)
        (by simpa using hnodup) rfl hchain hfree'
      have hkk : Keeps (p :: fs) s.mem
          (allocTail s' p p [p] (length - min length pbufPoolBufsize)).2.mem :=
        (hkeep.mono (by simp)).trans (hk.mono (by simp))
      rw [pbufAlloc, mempMalloc_cons hfree hp]
      dsimp only
      rw [memAlign_payload hp, List.length_cons]
      by_cases hroom : buffers (length - min length pbufPoolBufsize) ≤ fs.length
      · obtain ⟨hchain, hpayload⟩ := hsome hroom
        cases hr : allocTail s' p p [p] (length - min length pbufPoolBufsize) with
        | mk r t =>
            rw [List.nil_append, hr] at hchain hpayload
            rw [hr] at hkk
            cases hchain
            dsimp only
            have hset : Keeps [p] t.mem (structPbuf.set .flags p 0 (structPbuf.set .ref p 1 t.mem)) :=
              (keeps_set _ p _ _).trans (keeps_set _ p _ _)
            refine ⟨hkk.trans (hset.mono (by simp)), fun h => absurd h (by omega), fun _ => ?_⟩
            refine ⟨rfl, ?_⟩
            rw [List.headD_cons, Record.get_set_of_ne (by decide),
              Record.get_set_of_ne (by decide), hpayload]
            exact hget .payload
      · have hfail := hnone (not_le.mp hroom)
        cases hr : allocTail s' p p [p] (length - min length pbufPoolBufsize) with
        | mk r t =>
            rw [List.nil_append, hr] at hfail
            rw [hr] at hkk
            cases hfail
            exact ⟨hkk, fun _ => rfl, fun h => absurd h (by omega)⟩

/-- One buffer is enough. -/
lemma pbufAlloc_of_le {length p : ℕ} {fs : List ℕ} {s : Pool} (hle : length ≤ pbufPoolBufsize)
    (hp : IsElement ar p) (hfree : Linked s.mem s.mempTab (p :: fs)) :
    pbufAlloc length s = (some [p], {
      mem := structPbuf.set .flags p 0
        (structPbuf.set .ref p 1 (setUp p (p + sizeofStructPbuf) length length s.mem))
      mempTab := structPbuf.get .next p s.mem }) := by
  rw [pbufAlloc, mempMalloc_cons hfree hp]
  dsimp only
  rw [min_eq_left hle, Nat.sub_self, allocTail, dif_neg (by decide), memAlign_payload hp]

end Lgt8.Net

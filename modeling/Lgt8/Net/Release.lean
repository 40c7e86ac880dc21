import Mathlib.Tactic
import Lgt8.Net.Cells
import Lgt8.Net.Echo

/-!
# The release loop of `echo_send`, in memory (`lwip/httpd.c`)

When TCP has taken a buffer's bytes, `echo_send` moves `es->p` on, takes a reference to the rest of
the chain, and calls `pbuf_free` until it has deallocated something.  The buffers are chained by
`pbuf_chain`, which leaves a second reference at each joint, and `pbuf_free` goes on down the chain
from a buffer it deallocates.  So the loop is right if it ends, and if it stops in time.

* `untilFreed`, `release` — the loop, and what it is the end of.
* `echoSend`, `echoRecv` — the server, as far as the buffers go, with `struct pbuf`s in memory.
* **`release_chop`** — the release is `Pbuf.chop`, whatever references the first buffer has.
* **`send_releases`** — in every state a run of the server reaches, the loop ends in at most two
  calls, deallocates the first buffer of the chain, and nothing else in the memory changes.
-/

namespace Lgt8.Cells

open Library

/-- `struct echo_state`, as far as the buffers go, and the memory. -/
structure EchoState where
  state : EchoStates
  p : ℕ
  cells : Pbufs

/-! ## The server -/

/-- `freed == 0`. -/
def noneFreed (s : UInt8 × Pbufs) : Bool := s.1 == 0

/-- `do { freed = pbuf_free(ptr); } while (freed == 0);`, with at most `n` calls after the first. -/
def untilFreed (n : ℕ) (ptr : ℕ) (m : Pbufs) : Except Fault Pbufs :=
  pbufFree ptr m >>= fun s =>
    (loop noneFreed (fun s => pbufFree ptr s.2) .unfinished n s).map Prod.snd

/-- What `echo_send` does with the first buffer once TCP has taken its bytes. -/
def release (n : ℕ) (s : EchoState) : Except Fault EchoState :=
  load s.p s.cells >>= fun ptr =>
    (if ptr.next ≠ 0 then pbufRef ptr.next s.cells else .ok s.cells) >>= fun m =>
      (untilFreed n s.p m).map fun m => { s with p := ptr.next, cells := m }

/-- How many references a buffer can count. -/
def counts : ℕ := 2 ^ 16

/-- What `echo_send` does when `tcp_write` has returned. -/
def written (wrErr : Err) (s : EchoState) : Except Fault EchoState :=
  match wrErr with
  | .ok => release counts s
  | .mem => .ok { s with p := s.p }
  | .other => .ok s

/-- `echo_send`: what `tcp_sndbuf` and `tcp_write` answer, turn by turn of its loop.  Where the
answers end is where we look at the state. -/
def echoSend : List (UInt16 × Err) → EchoState → Except Fault EchoState
  | [], s => .ok s
  | (room, wrErr) :: answers, s =>
      if s.p = 0 then .ok s
      else
        load s.p s.cells >>= fun ptr =>
          if ptr.len ≤ room then
            written wrErr s >>= fun s => if wrErr = .ok then echoSend answers s else .ok s
          else .ok s

/-- `pbuf_free` of a chunk, with `es->p` forgotten. -/
def trash (p : ℕ) (s : EchoState) : Except Fault EchoState :=
  (pbufFree p s.cells).map fun r => { s with p := 0, cells := r.2 }

/-- `echo_recv`, up to its calls of `echo_send`. -/
def echoRecv (p : ℕ) (err : Err) (s : EchoState) : Except Fault EchoState :=
  if p = 0 then .ok { s with state := .closing }
  else if err ≠ .ok then trash p s
  else
    match s.state with
    | .accepted => .ok { s with state := .received, p := p }
    | .received =>
        if s.p = 0 then .ok { s with p := p }
        else (pbufChain s.p p s.cells).map fun m => { s with cells := m }
    | .closing => trash p s
    | .none => trash p s

/-- `echo_accept`, whatever is in memory. -/
def echoAccept (m : Pbufs) : EchoState := ⟨.accepted, 0, m⟩

/-! ## Runs -/

/-- lwIP has put a chunk into memory. -/
def deliver : List Pbuf → Pbufs → Pbufs
  | [], m => m
  | q :: qs, m => store q.addr (cell q qs) (deliver qs m)

/-- What happens to a connection: a chunk comes, or `echo_send` is called. -/
inductive Event
  | recv (chunk : List Pbuf) (err : Err)
  | send (answers : List (UInt16 × Err))

def step (s : EchoState) : Event → Except Fault EchoState
  | .recv chunk err => echoRecv (first chunk) err { s with cells := deliver chunk s.cells }
  | .send answers => echoSend answers s

/-- lwIP delivers different buffers, with one reference to each, and none that is allocated. -/
structure Fresh (m : Pbufs) (chunk : List Pbuf) : Prop where
  placed : Placed chunk
  once : ∀ q ∈ chunk, q.ref = 1
  unused : ∀ q ∈ chunk, m q.addr = none

def Delivers (s : EchoState) : Event → Prop
  | .recv chunk _ => Fresh s.cells chunk
  | .send _ => True

/-- The chain `c` waits at `es->p`: its buffers are live, and have one reference or two. -/
structure Waits (s : EchoState) (c : List Pbuf) : Prop where
  pointer : s.p = first c
  holds : Holds s.cells c
  placed : Placed c
  refs : ∀ q ∈ c, q.ref = 1 ∨ q.ref = 2

/-- From `s` to `t` the buffer `q` was deallocated and nothing else changed in memory; the rest of
the chain waits, with a reference to every buffer. -/
structure Released (q : Pbuf) (qs : List Pbuf) (s t : EchoState) : Prop where
  cells : t.cells = dealloc q.addr s.cells
  waits : Waits t qs
  counted : ∀ r ∈ qs, ∃ x, t.cells r.addr = some x ∧ 0 < x.ref

/-! ## The release -/

section

variable {ptr : ℕ} {m m' : Pbufs}

lemma untilFreed_done {k : UInt8} (h : pbufFree ptr m = .ok (k, m')) (hk : k ≠ 0) (n : ℕ) :
    untilFreed n ptr m = .ok m' := by
  have hpending : noneFreed (k, m') = false := beq_eq_false_iff_ne.mpr hk
  rw [untilFreed, h]
  show (loop _ _ _ n (k, m')).map _ = _
  rw [loop_done hpending]
  rfl

lemma untilFreed_again (h : pbufFree ptr m = .ok (0, m')) (n : ℕ) :
    untilFreed (n + 1) ptr m = untilFreed n ptr m' := by
  have hpending : noneFreed (0, m') = true := rfl
  rw [untilFreed, untilFreed, h]
  show (loop _ _ _ (n + 1) (0, m')).map _ = _
  rw [loop, if_pos hpending]
  dsimp only
  cases pbufFree ptr m' with
  | error x => rfl
  | ok s => rfl

end

lemma Placed.congr {c d : List Pbuf} (h : Placed c) (heq : Pbuf.addrs d = Pbuf.addrs c) :
    Placed d := by
  constructor
  · rw [heq]
    exact h.nodup
  · rw [heq]
    exact h.pointers

lemma Placed.addRef {q : Pbuf} {qs : List Pbuf} (h : Placed (q :: qs)) :
    Placed (q :: Pbuf.addRef qs) :=
  h.congr (congrArg (List.cons q.addr) (addrs_addRef qs))

/-- The loop takes as many calls as the buffer has references.  The last of them goes on to the next
buffer, and gives up the reference `echo_send` has just taken. -/
lemma untilFreed_holds {k : ℕ} {q : Pbuf} {qs : List Pbuf} {m : Pbufs} (hk : q.ref = k + 1)
    (hm : Holds m (q :: Pbuf.addRef qs)) (hc : Placed (q :: Pbuf.addRef qs))
    (href : ∀ r ∈ q :: Pbuf.addRef qs, r.ref < 65536) :
    ∃ m', (∀ n, k ≤ n → untilFreed n q.addr m = .ok m') ∧
      Became m m' (q :: Pbuf.addRef qs) qs [q.addr] := by
  induction k generalizing q m with
  | zero =>
      have hfree : Pbuf.free (q :: Pbuf.addRef qs) = ([q.addr], qs) := by
        rw [Pbuf.free, dif_pos hk, Pbuf.free_addRef]
      obtain ⟨m', hcall, hbec⟩ := pbufFree_holds hm hc (List.cons_ne_nil _ _) href
      rw [hfree] at hcall hbec
      have hone : UInt8.ofNat [q.addr].length ≠ 0 := fun h => absurd h (by decide : (1 : UInt8) ≠ 0)
      exact ⟨m', fun n _ => untilFreed_done hcall hone n, hbec⟩
  | succ k ih =>
      let r : Pbuf := { q with ref := q.ref - 1, pos := by omega }
      have hfree : Pbuf.free (q :: Pbuf.addRef qs) = ([], r :: Pbuf.addRef qs) := by
        rw [Pbuf.free, dif_neg (by omega)]
      obtain ⟨m₁, hcall, hbec⟩ := pbufFree_holds hm hc (List.cons_ne_nil _ _) href
      rw [hfree] at hcall hbec
      have hr : r.ref = k + 1 := by
        show q.ref - 1 = k + 1
        omega
      have hbound : ∀ x ∈ r :: Pbuf.addRef qs, x.ref < 65536 := by
        obtain ⟨hq, hqs⟩ := List.forall_mem_cons.mp href
        exact List.forall_mem_cons.mpr ⟨lt_of_le_of_lt (Nat.sub_le ..) hq, hqs⟩
      obtain ⟨m', hloop, hbec'⟩ := ih hr hbec.holds ⟨hc.nodup, hc.pointers⟩ hbound
      refine ⟨m', fun n hn => ?_, hbec.trans hbec' (List.Subset.refl _)⟩
      obtain ⟨n, rfl⟩ : ∃ i, n = i + 1 := ⟨n - 1, by omega⟩
      exact (untilFreed_again hcall n).trans (hloop n (by omega))

/-- **The release is `Pbuf.chop`**, and ends after as many calls as the buffer has references. -/
theorem release_chop {s : EchoState} {q : Pbuf} {qs : List Pbuf} (hp : s.p = q.addr)
    (hm : Holds s.cells (q :: qs)) (hc : Placed (q :: qs))
    (href : ∀ r ∈ q :: qs, r.ref < 65535) :
    ∃ m, (∀ n, q.ref ≤ n + 1 → release n s = .ok { s with p := first qs, cells := m }) ∧
      Became s.cells m (q :: qs) (Pbuf.chop q qs).2 (Pbuf.chop q qs).1 := by
  obtain ⟨hq, hqs⟩ := List.forall_mem_cons.mp href
  obtain ⟨m₁, hcall, hbec⟩ := pbufRef_holds (c := [q]) hm hc
  have hbound : ∀ r ∈ q :: Pbuf.addRef qs, r.ref < 65536 := by
    refine List.forall_mem_cons.mpr ⟨by omega, ?_⟩
    cases qs with
    | nil => nofun
    | cons r qs =>
        obtain ⟨hr, hrest⟩ := List.forall_mem_cons.mp hqs
        exact List.forall_mem_cons.mpr
          ⟨Nat.succ_lt_succ hr, fun x hx => (hrest x hx).trans_le (by omega)⟩
  have hpos := q.pos
  obtain ⟨m, hloop, hbec'⟩ :=
    untilFreed_holds (k := q.ref - 1) (by omega) hbec.holds hc.addRef hbound
  have haddrs : Pbuf.addrs (q :: Pbuf.addRef qs) = Pbuf.addrs (q :: qs) :=
    congrArg (List.cons q.addr) (addrs_addRef qs)
  have hguard : (if first qs ≠ 0 then pbufRef (first qs) s.cells else .ok s.cells) = .ok m₁ := by
    rw [← hcall]
    split
    · rfl
    · next h => rw [not_not.mp h]; rfl
  rw [Pbuf.chop_eq]
  refine ⟨m, fun n hn => ?_, hbec.trans hbec' fun _ h => haddrs ▸ h⟩
  rw [release, hp, load_of_some hm.1]
  show ((if first qs ≠ 0 then pbufRef (first qs) s.cells else .ok s.cells) >>= _) = _
  rw [hguard]
  show (untilFreed n q.addr m₁).map _ = _
  rw [hloop n (by omega)]
  rfl

/-! ## The chain that waits -/

lemma Holds.live {m : Pbufs} :
    ∀ {c : List Pbuf}, Holds m c → ∀ q ∈ c, ∃ x, m q.addr = some x ∧ x.ref = .ofNat q.ref
  | p :: ps, h, q, hq => by
      rcases List.mem_cons.mp hq with rfl | hq
      · exact ⟨cell q ps, h.1, rfl⟩
      · exact h.2.live q hq

/-- A chunk behind the chain gets a second reference to its first buffer. -/
lemma refs_chain {c p : List Pbuf} (hc : ∀ q ∈ c, q.ref = 1 ∨ q.ref = 2)
    (hp : ∀ q ∈ p, q.ref = 1) : ∀ q ∈ Pbuf.chain c p, q.ref = 1 ∨ q.ref = 2 := by
  intro q hq
  rcases List.mem_append.mp hq with hq | hq
  · exact hc q hq
  · cases p with
    | nil => cases hq
    | cons r rs =>
        rcases List.mem_cons.mp hq with rfl | hq
        · exact Or.inr (congrArg (· + 1) (hp r (List.mem_cons_self ..)))
        · exact Or.inl (hp q (List.mem_cons_of_mem _ hq))

lemma waits_nil {s : EchoState} (h : s.p = 0) : Waits s [] :=
  ⟨h, trivial, ⟨List.nodup_nil, nofun⟩, nofun⟩

section

variable {s : EchoState} {c : List Pbuf}

lemma Waits.small (hw : Waits s c) : ∀ q ∈ c, q.ref < 65535 := fun q hq => by
  have := hw.refs q hq
  omega

lemma Waits.p_eq_zero_iff (hw : Waits s c) : s.p = 0 ↔ c = [] := by
  rw [hw.pointer]
  cases c with
  | nil => exact iff_of_true rfl rfl
  | cons q qs => exact iff_of_false hw.placed.ne_zero (List.cons_ne_nil _ _)

/-- One release. -/
theorem Waits.release {q : Pbuf} {qs : List Pbuf} (hw : Waits s (q :: qs)) :
    ∃ t, (∀ n, 1 ≤ n → release n s = .ok t) ∧ Released q qs s t := by
  obtain ⟨hq, hqs⟩ := List.forall_mem_cons.mp hw.refs
  obtain ⟨m, hrun, hbec⟩ := release_chop hw.pointer hw.holds hw.placed hw.small
  rw [Pbuf.chop_eq] at hbec
  refine ⟨_, fun n hn => hrun n (by omega), ?_, ⟨rfl, hbec.holds, hw.placed.tail, hqs⟩, ?_⟩
  · funext a
    by_cases ha : a = q.addr
    · rw [ha]
      exact (hbec.gone q.addr (List.mem_singleton_self _)).trans (dealloc_self ..).symm
    · have hrest : m a = s.cells a := by
        by_cases hmem : a ∈ Pbuf.addrs qs
        · exact hw.holds.2.eq_of_mem hbec.holds a hmem
        · exact hbec.others a (List.not_mem_cons_of_ne_of_not_mem ha hmem)
      exact hrest.trans (dealloc_of_ne ha _).symm
  · intro r hr
    obtain ⟨x, hx, href⟩ := Holds.live hbec.holds r hr
    refine ⟨x, hx, UInt16.pos_iff_ne_zero.mpr fun h0 => ?_⟩
    have := r.pos
    have := hw.small r (List.mem_cons_of_mem _ hr)
    have := (ofNat_eq_zero_iff (by omega)).mp (href.symm.trans h0)
    omega

/-- A turn of `echo_send`, when a buffer waits. -/
lemma Waits.echoSend_cons {q : Pbuf} {qs : List Pbuf} (hw : Waits s (q :: qs)) (room : UInt16)
    (wrErr : Err) (answers : List (UInt16 × Err)) :
    echoSend ((room, wrErr) :: answers) s =
      if .ofNat q.len ≤ room then
        written wrErr s >>= fun s => if wrErr = .ok then echoSend answers s else .ok s
      else .ok s := by
  have hptr : ¬ s.p = 0 := fun h => List.cons_ne_nil _ _ (hw.p_eq_zero_iff.mp h)
  have hload : load s.p s.cells = .ok (cell q qs) := by
    rw [hw.pointer]
    exact load_of_some hw.holds.1
  rw [echoSend, if_neg hptr, hload]
  rfl

/-- When `tcp_write` has succeeded, the turn is the release. -/
lemma Waits.echoSend_released {t : EchoState} {q : Pbuf} {qs : List Pbuf} {room : UInt16}
    (hw : Waits s (q :: qs)) (hrel : Cells.release counts s = .ok t) (hroom : .ofNat q.len ≤ room)
    (answers : List (UInt16 × Err)) :
    echoSend ((room, .ok) :: answers) s = echoSend answers t := by
  rw [hw.echoSend_cons, if_pos hroom, written, hrel]
  rfl

/-- A send takes buffers from the front, as many as TCP has room for. -/
lemma Waits.send (hw : Waits s c) (answers : List (UInt16 × Err)) :
    ∃ t, echoSend answers s = .ok t ∧ ∃ d, Waits t d := by
  induction answers generalizing s c with
  | nil => exact ⟨s, rfl, c, hw⟩
  | cons answer answers ih =>
      obtain ⟨room, wrErr⟩ := answer
      cases c with
      | nil => exact ⟨s, if_pos (hw.p_eq_zero_iff.mpr rfl), [], hw⟩
      | cons q qs =>
          by_cases hroom : .ofNat q.len ≤ room
          · cases wrErr with
            | ok =>
                obtain ⟨u, hrel, hu⟩ := hw.release
                rw [hw.echoSend_released (hrel counts (by decide)) hroom]
                exact ih hu.waits
            | mem => exact ⟨s, (hw.echoSend_cons ..).trans (if_pos hroom), _, hw⟩
            | other => exact ⟨s, (hw.echoSend_cons ..).trans (if_pos hroom), _, hw⟩
          · exact ⟨s, (hw.echoSend_cons ..).trans (if_neg hroom), _, hw⟩

end

/-! ## A chunk comes -/

lemma deliver_holds (m : Pbufs) : ∀ {p : List Pbuf}, Placed p → Holds (deliver p m) p
  | [], _ => trivial
  | _ :: _, h => ⟨store_self .., (deliver_holds m h.tail).update h.notMem _⟩

lemma deliver_others (m : Pbufs) {a : ℕ} :
    ∀ {p : List Pbuf}, a ∉ Pbuf.addrs p → deliver p m a = m a
  | [], _ => rfl
  | q :: qs, h => by
      rw [Pbuf.addrs_cons, List.mem_cons, not_or] at h
      exact (store_of_ne h.1 ..).trans (deliver_others m h.2)

lemma Fresh.apart {m : Pbufs} {p c : List Pbuf} (hf : Fresh m p) (hm : Holds m c) :
    ∀ a ∈ Pbuf.addrs c, a ∉ Pbuf.addrs p := by
  intro a hc hp
  obtain ⟨r, hr, rfl⟩ := List.mem_map.mp hc
  obtain ⟨q, hq, heq⟩ := List.mem_map.mp hp
  obtain ⟨x, hx, -⟩ := hm.live r hr
  rw [← heq, hf.unused q hq] at hx
  cases hx

lemma Fresh.placed_append {m : Pbufs} {p c : List Pbuf} (hf : Fresh m p) (hm : Holds m c)
    (hc : Placed c) : Placed (c ++ p) := by
  constructor
  · rw [addrs_append]
    exact List.nodup_append'.mpr ⟨hc.nodup, hf.placed.nodup, hf.apart hm⟩
  · intro a ha
    rw [addrs_append] at ha
    rcases List.mem_append.mp ha with ha | ha
    · exact hc.pointers a ha
    · exact hf.placed.pointers a ha

lemma trash_waits {s : EchoState} {p : List Pbuf} (hm : Holds s.cells p) (hp : Placed p)
    (hne : p ≠ []) (hone : ∀ q ∈ p, q.ref = 1) :
    ∃ t, trash (first p) s = .ok t ∧ ∃ d, Waits t d := by
  obtain ⟨m, hcall, -⟩ := pbufFree_holds hm hp hne fun q hq => by rw [hone q hq]; decide
  refine ⟨{ s with p := 0, cells := m }, ?_, [], waits_nil rfl⟩
  rw [trash, hcall]
  rfl

/-- What comes is taken over, chained behind what waits, or freed. -/
lemma Waits.recv {s : EchoState} {c p : List Pbuf} (hw : Waits s c) (hf : Fresh s.cells p)
    (err : Err) : ∃ t, step s (.recv p err) = .ok t ∧ ∃ d, Waits t d := by
  have hp : Holds (deliver p s.cells) p := deliver_holds _ hf.placed
  have hc : Holds (deliver p s.cells) c :=
    hw.holds.congr fun a ha => deliver_others _ (hf.apart hw.holds a ha)
  have htaken : ∀ q ∈ p, q.ref = 1 ∨ q.ref = 2 := fun q hq => Or.inl (hf.once q hq)
  cases p with
  | nil => exact ⟨_, rfl, c, hw.pointer, hc, hw.placed, hw.refs⟩
  | cons q qs =>
      have hptr : ¬ first (q :: qs) = 0 := hf.placed.ne_zero
      rw [step, echoRecv, if_neg hptr]
      by_cases herr : err = .ok
      · rw [if_neg (not_not.mpr herr)]
        cases hs : s.state with
        | none => exact trash_waits hp hf.placed (List.cons_ne_nil _ _) hf.once
        | closing => exact trash_waits hp hf.placed (List.cons_ne_nil _ _) hf.once
        | accepted => exact ⟨_, rfl, q :: qs, rfl, hp, hf.placed, htaken⟩
        | received =>
            dsimp only
            by_cases h0 : s.p = 0
            · rw [if_pos h0]
              exact ⟨_, rfl, q :: qs, rfl, hp, hf.placed, htaken⟩
            · have hne : c ≠ [] := fun h => h0 (hw.p_eq_zero_iff.mpr h)
              obtain ⟨m, hcall, hbec⟩ := pbufChain_holds hc hp hne (List.cons_ne_nil _ _)
                (hf.placed_append hw.holds hw.placed)
              rw [if_neg h0, hw.pointer, hcall]
              refine ⟨_, rfl, Pbuf.chain c (q :: qs), ?_, hbec.holds, ?_,
                refs_chain hw.refs hf.once⟩
              · exact (first_append hne _).symm
              · exact (hf.placed_append hw.holds hw.placed).congr
                  ((Pbuf.addrs_chain ..).trans (addrs_append ..).symm)
      · rw [if_pos herr]
        exact trash_waits hp hf.placed (List.cons_ne_nil _ _) hf.once

/-! ## Runs of the server -/

lemma step_waits (s : EchoState) (e : Event) (hw : ∃ c, Waits s c) (he : Delivers s e) :
    ∃ t, step s e = .ok t ∧ ∃ d, Waits t d := by
  obtain ⟨c, hw⟩ := hw
  cases e with
  | recv chunk err => exact hw.recv he err
  | send answers => exact hw.send answers

/-- **The release loop frees exactly the buffer just sent**, in every state of the server, whatever
it has received, chained and sent before: it ends in at most two calls, the buffer is the only one
deallocated, and `es->p` points at the rest of the chain, which is live.  A turn of `echo_send` in
which `tcp_write` succeeds is that release. -/
theorem send_releases {m : Pbufs} {events : List Event}
    (h : AllSteps step Delivers (echoAccept m) events) :
    ∃ s c, run step (echoAccept m) events = .ok s ∧ Waits s c ∧
      ∀ q qs, c = q :: qs →
        ∃ t, (∀ n, 1 ≤ n → release n s = .ok t) ∧
          (∀ room answers, .ofNat q.len ≤ room →
            echoSend ((room, .ok) :: answers) s = echoSend answers t) ∧
          Released q qs s t := by
  have hstart : ∃ c, Waits (echoAccept m) c := ⟨[], waits_nil rfl⟩
  obtain ⟨s, hrun, c, hw⟩ := run_ok step_waits hstart h
  refine ⟨s, c, hrun, hw, fun q qs hc => ?_⟩
  subst hc
  obtain ⟨t, hrel, ht⟩ := hw.release
  exact ⟨t, hrel, fun _ answers hroom =>
    hw.echoSend_released (hrel counts (by decide)) hroom answers, ht⟩

/-- Buffers of ten bytes. -/
def tens (as : List ℕ) : List Pbuf := as.map fun a => ⟨a, 10, fun _ => 0, 1, Nat.one_pos⟩

/-- Two chunks that are chained, and a send that TCP has room for. -/
def chained : List Event := [.recv (tens [4]) .ok, .recv (tens [8, 12]) .ok, .send [(536, .ok)]]

/-- The next, the length and the count of the buffer at `a`. -/
def linkAt (m : Pbufs) (a : ℕ) : Option (ℕ × UInt16 × UInt16) :=
  (m a).map fun x => (x.next, x.len, x.ref)

/-- What the memory says of the first buffer of a chain. -/
lemma Holds.linkAt {m : Pbufs} {q : Pbuf} {qs : List Pbuf} (hm : Holds m (q :: qs)) :
    linkAt m q.addr = some (first qs, .ofNat q.len, .ofNat q.ref) := by
  rw [Cells.linkAt, hm.1]
  rfl

lemma exists_cons_of_first {c : List Pbuf} {a : ℕ} (h : first c = a) (ha : a ≠ 0) :
    ∃ q qs, c = q :: qs ∧ q.addr = a := by
  cases c with
  | nil => exact absurd h.symm ha
  | cons q qs => exact ⟨q, qs, rfl, h⟩

/-- The buffers at 8 and 12 are left, and the first has a second reference from `pbuf_chain`. -/
theorem send_releases_chained : ∃ s q qs t,
    run step (echoAccept fun _ => none) chained = .ok s ∧ Waits s (q :: qs) ∧
      Pbuf.addrs (q :: qs) = [8, 12] ∧ q.ref = 2 ∧
      echoSend [(10, .ok)] s = .ok t ∧ Released q qs s t := by
  have h : AllSteps step Delivers (echoAccept fun _ => none) chained := by
    refine ⟨⟨⟨by decide, by decide⟩, by decide, by decide⟩, fun s hs => ?_⟩
    obtain rfl := Except.ok.inj (hs.symm.trans rfl)
    exact ⟨⟨⟨by decide, by decide⟩, by decide, by decide⟩, fun _ _ => ⟨trivial, fun _ _ => trivial⟩⟩
  obtain ⟨s, c, hrun, hw, hrel⟩ := send_releases h
  have hmem : (run step (echoAccept fun _ => none) chained).map
      (fun s => (s.p, linkAt s.cells 8, linkAt s.cells 12))
        = .ok (8, some (12, 10, 2), some (0, 10, 1)) := rfl
  rw [hrun] at hmem
  obtain ⟨hp, h8, h12⟩ : s.p = 8 ∧ linkAt s.cells 8 = some (12, 10, 2) ∧
      linkAt s.cells 12 = some (0, 10, 1) := by
    simpa only [Except.map, Except.ok.injEq, Prod.mk.injEq] using hmem
  obtain ⟨q, qs, rfl, hq⟩ := exists_cons_of_first (hw.pointer.symm.trans hp) (by decide)
  rw [← hq, hw.holds.linkAt] at h8
  obtain ⟨hnext, hlen, href⟩ : first qs = 12 ∧ UInt16.ofNat q.len = 10 ∧ UInt16.ofNat q.ref = 2 := by
    simpa only [Option.some.injEq, Prod.mk.injEq] using h8
  obtain ⟨r, rs, rfl, hr⟩ := exists_cons_of_first hnext (by decide)
  rw [← hr, hw.holds.2.linkAt] at h12
  have hlast : rs = [] := by
    by_contra hne
    obtain ⟨t, ts, rfl⟩ := List.exists_cons_of_ne_nil hne
    exact hw.placed.tail.tail.ne_zero (Prod.mk.inj (Option.some.inj h12)).1
  obtain ⟨t, -, hsend, hreleased⟩ := hrel q (r :: rs) rfl
  refine ⟨s, q, r :: rs, t, hrun, hw, ?_, ?_, hsend 10 [] ?_, hreleased⟩
  · rw [hlast, Pbuf.addrs_cons, Pbuf.addrs_cons, hq, hr]
    rfl
  · rcases hw.refs q (List.mem_cons_self ..) with h1 | h2
    · rw [h1] at href
      cases href
    · exact h2
  · rw [hlen]
    exact UInt16.le_refl 10

end Lgt8.Cells

import Mathlib.Tactic
import Lgt8.Net.Framing

/-!
# What is echoed is what was received

The server sends a buffer whole or not at all, gives it up only once TCP has taken its bytes, and
keeps the rest of the chain in order.  So the bytes TCP took and the bytes that still wait are
together the bytes received, whatever room TCP has and however its writes end.

* `brought` — the buffers a callback brings, as `ethergate` leaves them.
* `Conserves`, `sendLoop_conserves` — a send moves bytes from the chain to TCP, and opens the window
  by as many.
* **`echo_faithful`** — the conservation law in every state of every run of an open connection.
-/

namespace Lgt8.Conn

open Library

variable {F : Type}

/-! ## The bytes received -/

/-- The buffers a callback brings, as they wait to be echoed: `ethergate` writes its answer over
the first buffer of a chunk that comes when nothing waits. -/
def brought (c : Conn F) : Label → List Pbuf
  | .recv p => if c.state = .received ∧ c.p = [] then (gate { c with p := p }).p else p
  | _ => []

/-- A run beside the bytes received. -/
abbrev received : Conn F × List UInt8 → Label → Except Fault (Conn F × List UInt8) :=
  observed step fun c l bs => bs ++ Pbuf.bytes (brought c l)

/-- What TCP took and what waits is what was received, and TCP was told to receive as much more as
it took. -/
structure Balanced (c : Conn F) (bs : List UInt8) : Prop where
  stream : c.written ++ Pbuf.bytes c.p = bs
  window : c.recved = c.written.length

/-! ## Sending -/

/-- From `c` to `d` bytes went from the chain to TCP, in order, and the window was opened by as
many. -/
structure Conserves (c d : Conn F) : Prop where
  stream : d.written ++ Pbuf.bytes d.p = c.written ++ Pbuf.bytes c.p
  window : d.recved + c.written.length = c.recved + d.written.length

lemma Conserves.refl (c : Conn F) : Conserves c c := ⟨rfl, rfl⟩

lemma Conserves.trans {c d e : Conn F} (h : Conserves c d) (h' : Conserves d e) :
    Conserves c e := by
  refine ⟨h'.stream.trans h.stream, ?_⟩
  have := h.window
  have := h'.window
  omega

lemma Conserves.balanced {c d : Conn F} (h : Conserves c d) {bs : List UInt8}
    (hc : Balanced c bs) : Balanced d bs := by
  refine ⟨h.stream.trans hc.stream, ?_⟩
  have := h.window
  have := hc.window
  omega

/-- **A send conserves the stream**, wherever it stops. -/
theorem sendLoop_conserves (n : ℕ) (c : Conn F) : Conserves c (sendLoop n c) := by
  induction n generalizing c with
  | zero => exact .refl c
  | succ n ih =>
      rw [sendLoop]
      split
      · exact .refl c
      · next ptr next hp =>
          dsimp only [tcpSndbuf]
          split
          · dsimp only [tcpWrite]
            rw [Pbuf.chop_eq]
            split
            · next hok =>
                refine Conserves.trans ⟨?_, ?_⟩ (ih _)
                · -- the first buffer goes over whole
                  simp only [tcpRecved]
                  rw [if_pos hok, hp, Pbuf.bytes_cons, List.append_assoc]
                · simp only [tcpRecved]
                  rw [if_pos hok, List.length_append, Pbuf.payload_length]
                  omega
            · next hmem =>
                refine ⟨?_, ?_⟩
                · simp only
                  rw [if_neg (by rw [hmem]; decide), hp]
                · simp only
                  rw [if_neg (by rw [hmem]; decide)]
            · next hother =>
                refine ⟨?_, ?_⟩
                · simp only
                  rw [if_neg (by rw [hother]; decide)]
                · simp only
                  rw [if_neg (by rw [hother]; decide)]
          · exact ⟨rfl, rfl⟩

lemma echoSend_conserves (c : Conn F) : Conserves c (echoSend c) := sendLoop_conserves _ c

/-! ## A callback that brings no chunk -/

/-- The two connections agree on the data. -/
structure SameData (c d : Conn F) : Prop where
  p : d.p = c.p
  written : d.written = c.written
  recved : d.recved = c.recved
  freed : d.freed = c.freed

lemma SameData.conserves {c d : Conn F} (h : SameData c d) : Conserves c d := by
  refine ⟨?_, ?_⟩
  · rw [h.written, h.p]
  · rw [h.written, h.recved]

/-- A connection that comes to be in state `st`: it is sent from, or nothing is done unless to close
an empty one. -/
inductive Resumed (st : EchoStates) (c d : Conn F) : Prop
  | kept (hd : SameData c d) (hst : d.state = st)
      (hclosed : d.closed = true → c.closed = true ∨ c.p = [])
  | sent (e : Conn F) (hp : c.p ≠ []) (he : SameData c e) (hst : e.state = st)
      (hclosed : e.closed = c.closed) (hd : d = echoSend e)

lemma echoSent_resumed (c : Conn F) : Resumed c.state c (echoSent c) := by
  rw [echoSent]
  dsimp only
  split_ifs with hp hs
  · exact .kept ⟨rfl, rfl, rfl, rfl⟩ rfl fun _ => Or.inr (List.isEmpty_iff.mp hp)
  · exact .kept ⟨rfl, rfl, rfl, rfl⟩ rfl Or.inl
  · exact .sent { c with retries := 0 } (by simpa using hp) ⟨rfl, rfl, rfl, rfl⟩ rfl rfl rfl

lemma echoPoll_resumed (c : Conn F) : Resumed c.state c (echoPoll c) := by
  rw [echoPoll]
  split_ifs with hp hs
  · exact .kept ⟨rfl, rfl, rfl, rfl⟩ rfl fun _ => Or.inr (List.isEmpty_iff.mp hp)
  · exact .kept ⟨rfl, rfl, rfl, rfl⟩ rfl Or.inl
  · exact .sent (log "Echo pool....\r\n" c) (fun h => hp (List.isEmpty_iff.mpr h)) ⟨rfl, rfl, rfl, rfl⟩ rfl rfl rfl

/-- The end of the stream. -/
lemma echoRecv_nil_resumed (err : Err) (c : Conn F) : Resumed .closing c (echoRecv [] err c) := by
  rw [echoRecv]
  simp only [List.isEmpty_nil, if_true]
  split_ifs with hp
  · exact .kept ⟨rfl, rfl, rfl, rfl⟩ rfl fun _ => Or.inr (List.isEmpty_iff.mp hp)
  · exact .sent { log "Virna undocked - socket is free and listeneing now \r\n" c with
      state := .closing } (fun h => hp (List.isEmpty_iff.mpr h)) ⟨rfl, rfl, rfl, rfl⟩ rfl rfl rfl

namespace Resumed

variable {st : EchoStates} {c d : Conn F}

lemma state (h : Resumed st c d) : d.state = st := by
  cases h with
  | kept _ hst => exact hst
  | sent e _ _ hst _ hd =>
      rw [hd]
      exact (echoSend_untouched e).state.trans hst

lemma conserves (h : Resumed st c d) : Conserves c d := by
  cases h with
  | kept hd => exact hd.conserves
  | sent e _ he _ _ hd =>
      rw [hd]
      exact he.conserves.trans (echoSend_conserves e)

/-- Nothing comes to wait. -/
lemma p_nil (h : Resumed st c d) (hp : c.p = []) : d.p = [] := by
  cases h with
  | kept hd => exact hd.p.trans hp
  | sent _ hne => exact absurd hp hne

end Resumed

/-! ## A chunk -/

lemma gate_data (c : Conn F) : (gate c).written = c.written ∧ (gate c).recved = c.recved ∧
    (gate c).freed = c.freed ∧ (gate c).state = c.state := by
  rw [gate]
  split <;> exact ⟨rfl, rfl, rfl, rfl⟩

lemma brought_of_waiting {c : Conn F} (h : ¬ (c.state = .received ∧ c.p = [])) (p : List Pbuf) :
    brought c (.recv p) = p := if_neg h

lemma brought_nil (c : Conn F) : brought c (.recv []) = [] := by
  rw [brought]
  split <;> rfl

/-- **A chunk joins the stream**, unless the stream has ended. -/
theorem Received.balanced {p : List Pbuf} {c d : Conn F} {bs : List UInt8}
    (h : Received p c d) (hc : Balanced c bs) (hfresh : c.state = .accepted → c.p = [])
    (hclosing : c.state ≠ .closing) (hnone : c.state ≠ .none) :
    Balanced d (bs ++ Pbuf.bytes (brought c (.recv p))) := by
  have hstream := hc.stream
  cases h with
  | docked hs =>
      rw [brought_of_waiting (fun h => absurd (hs.symm.trans h.1) (by decide))]
      rw [hfresh hs, Pbuf.bytes_nil, List.append_nil] at hstream
      refine (echoSend_conserves _).balanced ⟨?_, hc.window⟩
      rw [← hstream]
      rfl
  | gated hs hp =>
      rw [hp, Pbuf.bytes_nil, List.append_nil] at hstream
      obtain ⟨hwritten, hrecved, -, -⟩ := gate_data { c with p := p }
      refine (echoSend_conserves _).balanced ⟨?_, ?_⟩
      · rw [hwritten, ← hstream, brought, if_pos ⟨hs, hp⟩]
      · rw [hwritten, hrecved]
        exact hc.window
  | chained hs hp =>
      rw [brought_of_waiting (fun h => hp h.2)]
      refine ⟨?_, hc.window⟩
      show c.written ++ Pbuf.bytes (Pbuf.chain c.p p) = _
      rw [Pbuf.bytes_chain, ← List.append_assoc, hstream]
  | trashed _ hs => exact (hs.elim hclosing hnone).elim

lemma Received.state {p : List Pbuf} {c d : Conn F} (h : Received p c d) :
    d.state = .received ∨ d.state = c.state ∧ (c.state = .closing ∨ c.state = .none) := by
  cases h with
  | docked => exact Or.inl (echoSend_untouched _).state
  | gated hs => exact Or.inl ((echoSend_untouched _).state.trans ((gate_data _).2.2.2.trans hs))
  | chained hs => exact Or.inl hs
  | trashed _ hs => exact Or.inr ⟨rfl, hs⟩

/-! ## Over every run -/

/-- No chunk comes after the end of the stream. -/
def EndsOnce (labels : List Label) : Prop :=
  labels.Pairwise fun l l' => l = .recv [] → ∀ p, l' = .recv p → p = []

/-- A connection that is closing gets no chunk. -/
def BeforeEnd (c : Conn F) (l : Label) : Prop :=
  c.state = .closing → ∀ p, l = .recv p → p = []

/-- What holds along a run. -/
structure Faithful (q : Conn F × List UInt8) : Prop where
  balanced : q.1.closed = false → Balanced q.1 q.2
  fresh : q.1.state = .accepted → q.1.p = []
  known : q.1.state ≠ .none

/-- What a step does. -/
inductive Stepped (c d : Conn F) : Label → Prop
  | dead (l : Label) (hclosed : c.closed = true) (hd : d = c) : Stepped c d l
  | resumed (l : Label) (hopen : c.closed = false) (hl : ∀ p, l ≠ .recv p)
      (h : Resumed c.state c d) : Stepped c d l
  | ended (hopen : c.closed = false) (h : Resumed .closing c d) : Stepped c d (.recv [])
  | chunk {p : List Pbuf} (hopen : c.closed = false) (hp : p ≠ []) (h : Received p c d) :
      Stepped c d (.recv p)

theorem step_stepped {c d : Conn F} {l : Label} (h : step c l = .ok d) : Stepped c d l := by
  unfold step at h
  cases hclosed : c.closed with
  | true =>
      rw [hclosed, if_pos rfl] at h
      exact .dead l hclosed (Except.ok.inj h).symm
  | false =>
      rw [hclosed, if_neg (by decide)] at h
      cases l with
      | sent =>
          cases h
          exact .resumed _ hclosed (by simp) (echoSent_resumed c)
      | poll =>
          cases h
          exact .resumed _ hclosed (by simp) (echoPoll_resumed c)
      | recv p =>
          cases h
          by_cases hp : p = []
          · subst hp
            exact .ended hclosed (echoRecv_nil_resumed .ok c)
          · exact .chunk hclosed hp (echoRecv_received c hp)

lemma brought_of_no_chunk (c : Conn F) {l : Label} (hl : ∀ p, l ≠ .recv p) : brought c l = [] := by
  cases l with
  | recv p => exact absurd rfl (hl p)
  | sent => rfl
  | poll => rfl

/-- A callback that brings no chunk, and leaves a connection that was not closing in its state. -/
lemma Resumed.faithful {st : EchoStates} {c d : Conn F} {bs : List UInt8}
    (h : Resumed st c d) (hst : st = c.state ∨ st = .closing) (hopen : c.closed = false)
    (hc : Faithful (c, bs)) : Faithful (d, bs) := by
  have hstate : d.state = c.state ∨ d.state = .closing := h.state ▸ hst
  refine ⟨fun _ => h.conserves.balanced (hc.balanced hopen), fun hd => ?_, fun hd => ?_⟩
  · rcases hstate with hs | hs
    · exact h.p_nil (hc.fresh (hs.symm.trans hd))
    · exact absurd (hs.symm.trans hd) (by decide)
  · rcases hstate with hs | hs
    · exact hc.known (hs.symm.trans hd)
    · exact absurd (hs.symm.trans hd) (by decide)

/-- **One step keeps the law.** -/
theorem faithful_step {q r : Conn F × List UInt8} {l : Label} (hq : Faithful q)
    (hC : BeforeEnd q.1 l) (h : received q l = .ok r) : Faithful r := by
  obtain ⟨c, bs⟩ := q
  obtain ⟨d, bs'⟩ := r
  obtain ⟨hstep, hbs⟩ := observed_ok.mp h
  dsimp only at hstep hbs hC
  subst hbs
  cases step_stepped hstep with
  | dead _ hclosed hd =>
      subst hd
      refine ⟨fun hopen => ?_, hq.fresh, hq.known⟩
      exact absurd (hclosed.symm.trans hopen) (by decide)
  | resumed _ hopen hl hr =>
      rw [brought_of_no_chunk c hl, Pbuf.bytes_nil, List.append_nil]
      exact hr.faithful (Or.inl rfl) hopen hq
  | ended hopen hr =>
      rw [brought_nil, Pbuf.bytes_nil, List.append_nil]
      exact hr.faithful (Or.inr rfl) hopen hq
  | @chunk p hopen hp hr =>
      have hclosing : c.state ≠ .closing := fun hs => hp (hC hs p rfl)
      have hstate : d.state = .received :=
        hr.state.resolve_right fun h => h.2.elim hclosing hq.known
      refine ⟨fun _ => ?_, fun hs => ?_, fun hs => ?_⟩
      · exact hr.balanced (hq.balanced hopen) hq.fresh hclosing hq.known
      · exact absurd (hstate.symm.trans hs) (by decide)
      · exact absurd (hstate.symm.trans hs) (by decide)

/-- Only the end of the stream makes a connection close. -/
lemma closing_step {c d : Conn F} {l : Label} (h : step c l = .ok d) (hd : d.state = .closing) :
    c.state = .closing ∨ l = .recv [] := by
  cases step_stepped h with
  | dead _ _ hdc =>
      rw [hdc] at hd
      exact Or.inl hd
  | resumed _ _ _ hr => exact Or.inl (hr.state.symm.trans hd)
  | ended => exact Or.inr rfl
  | chunk _ _ hr =>
      rcases hr.state with hs | ⟨hs, -⟩
      · exact absurd (hs.symm.trans hd) (by decide)
      · exact Or.inl (hs.symm.trans hd)

lemma beforeEnd_of_endsOnce : ∀ {labels : List Label} {c : Conn F},
    EndsOnce labels → (c.state = .closing → ∀ l ∈ labels, ∀ p, l = .recv p → p = []) →
      AllSteps step BeforeEnd c labels
  | [], _, _, _ => trivial
  | l :: labels, c, h, hc => by
      obtain ⟨hl, hrest⟩ := List.pairwise_cons.mp h
      refine ⟨fun hs => hc hs l List.mem_cons_self, fun d hd => ?_⟩
      refine beforeEnd_of_endsOnce hrest fun hs => ?_
      rcases closing_step hd hs with hs | rfl
      · exact fun l' hl' => hc hs l' (List.mem_cons_of_mem _ hl')
      · exact fun l' hl' => hl l' hl' rfl

/-- **Nothing is lost, duplicated or reordered.**  In every state of a run in which no chunk comes
after the end of the stream, as long as the connection is open the bytes TCP took, followed by the
bytes that wait, are the bytes received, and TCP was told to receive as many more as it took. -/
theorem echo_faithful (kernel : KernelCtx F) (sndbuf : ℕ → ℕ) (writes : ℕ → Err)
    {labels : List Label} (h : EndsOnce labels) :
    AllStates received (fun q => q.1.closed = false → Balanced q.1 q.2)
      (echoAccept kernel sndbuf writes, []) labels := by
  have hstart : Faithful (echoAccept kernel sndbuf writes, ([] : List UInt8)) :=
    ⟨fun _ => ⟨rfl, rfl⟩, fun _ => rfl, nofun⟩
  have hends : AllSteps received (fun q => BeforeEnd q.1)
      (echoAccept kernel sndbuf writes, []) labels :=
    allSteps_observed.mpr (beforeEnd_of_endsOnce h nofun)
  exact allStates_of_allSteps (fun _ hq => hq.balanced) (fun _ _ _ => faithful_step) hstart hends

/-- Two chunks, of which TCP has room for the first only, and the end of the stream behind them. -/
def twoChunks : List Label :=
  [.recv [.ofBytes [1]], .recv [.ofBytes [2, 3], .ofBytes [4]], .poll, .recv []]

theorem echo_faithful_twoChunks :
    AllStates received (fun q => q.1.closed = false → Balanced q.1 q.2)
      (echoAccept ⟨Kernel.blank, World.blank⟩ (fun _ => 1) (fun _ => .ok), []) twoChunks := by
  refine echo_faithful _ _ _ ?_
  rw [EndsOnce, twoChunks]
  refine .cons ?_ (.cons ?_ (.cons ?_ (List.pairwise_singleton _ _)))
  · exact fun _ _ h => absurd h (by simp)
  · exact fun _ _ h => absurd h (by simp)
  · exact fun _ _ h => absurd h (by simp)

end Lgt8.Conn

import Mathlib.Tactic
import Lgt8.Net.Fidelity

/-!
# Are received buffers given back?

A buffer passed to the `recv` callback belongs to the application, unless the callback returns an
error, and the pool has ten of them.  The server gives a buffer back when TCP has taken its bytes.
It drops the whole chain at `es->p`, without freeing it, in three places: when a chunk comes with an
error, when a chunk comes behind the end of the stream, and when the connection fails.

* `owned` — a run beside the buffers the application came to own.
* **`accounted_iff`** — in every state of a run the buffers received are the ones freed and the ones
  that wait in the chain of a live connection, each once, exactly if none of the three finds
  something to drop.
* `error_leaks` — a connection fails while a chunk waits for room.
-/

namespace Lgt8.Conn

open Library

variable {F : Type}

/-! ## The callbacks -/

/-- What lwIP can call on a connection, `echo_error` included. -/
inductive Call
  | recv (p : List Pbuf) (err : Err)
  | sent
  | poll
  | error

def call (c : Conn F) (l : Call) : Except Fault (Conn F) :=
  if c.closed then .ok c
  else
    match l with
    | .recv p err => .ok (echoRecv p err c)
    | .sent => .ok (echoSent c)
    | .poll => .ok (echoPoll c)
    | .error => .ok (echoError c)

/-- The buffers a callback makes the application own: `echo_recv` returns the error it was given a
chunk with, and `ERR_OK` otherwise. -/
def taken (c : Conn F) : Call → List Pbuf
  | .recv p err => if c.closed = false ∧ err = .ok then p else []
  | _ => []

/-- A run beside the buffers the application came to own. -/
abbrev owned : Conn F × List ℕ → Call → Except Fault (Conn F × List ℕ) :=
  observed call fun c l as => as ++ Pbuf.addrs (taken c l)

/-- The chain of a live connection; with its state the only pointer to it is gone. -/
def held (c : Conn F) : List Pbuf := if c.closed then [] else c.p

/-- **Nothing is leaked and nothing freed twice**: the buffers owned so far are the ones freed and
the ones in the chain of a live connection, each once. -/
def Accounted (q : Conn F × List ℕ) : Prop :=
  q.2.Perm (q.1.freed ++ Pbuf.addrs (held q.1))

/-- lwIP delivers buffers with one reference to each, and none that is in use. -/
def Delivered (c : Conn F) : Call → Prop
  | .recv p _ => (∀ q ∈ p, q.ref = 1) ∧ ∀ q ∈ p, q.addr ∉ Pbuf.addrs c.p
  | _ => True

/-- The callback drops nothing: a chunk comes without an error, and while the connection is not
receiving it finds no chain, and neither does an error of the connection. -/
def Returned (c : Conn F) : Call → Prop
  | .recv p err => c.closed = true ∨ p = [] ∨
      (err = .ok ∧ (c.state = .accepted ∨ c.state = .received ∨ c.p = []))
  | .error => c.closed = true ∨ c.p = []
  | _ => True

/-! ## Sending -/

lemma held_of_open {c : Conn F} (h : c.closed = false) : held c = c.p := by
  rw [held, h]
  rfl

lemma held_of_closed {c : Conn F} (h : c.closed = true) : held c = [] := by
  rw [held, h]
  rfl

lemma accounted_open {c : Conn F} {as : List ℕ} (h : c.closed = false) :
    Accounted (c, as) ↔ as.Perm (c.freed ++ Pbuf.addrs c.p) := by
  rw [Accounted, held_of_open h]

lemma accounted_closed {c : Conn F} {as : List ℕ} (h : c.closed = true) :
    Accounted (c, as) ↔ as.Perm c.freed := by
  rw [Accounted, held_of_closed h, Pbuf.addrs_nil, List.append_nil]

/-- Buffers leave the chain by being freed. -/
theorem sendLoop_frees (n : ℕ) (c : Conn F) :
    (sendLoop n c).freed ++ Pbuf.addrs (sendLoop n c).p = c.freed ++ Pbuf.addrs c.p := by
  induction n generalizing c with
  | zero => rfl
  | succ n ih =>
      rw [sendLoop]
      split
      · rfl
      · next ptr next hp =>
          dsimp only [tcpSndbuf]
          split
          · dsimp only [tcpWrite]
            rw [Pbuf.chop_eq]
            split
            · rw [ih]
              simp only [tcpRecved]
              rw [hp, Pbuf.addrs_cons, List.append_assoc]
              rfl
            · rw [hp]
            · rfl
          · rfl

lemma echoSend_accounted {c : Conn F} {as : List ℕ} (hopen : c.closed = false)
    (h : as.Perm (c.freed ++ Pbuf.addrs c.p)) : Accounted (echoSend c, as) := by
  have hopen' : (echoSend c).closed = false := (echoSend_untouched c).closed.trans hopen
  rw [accounted_open hopen', echoSend, sendLoop_frees]
  exact h

/-- A callback that brings no chunk closes an empty connection only. -/
lemma Resumed.accounted {st : EchoStates} {c d : Conn F} {as : List ℕ} (h : Resumed st c d)
    (hopen : c.closed = false) (hc : Accounted (c, as)) : Accounted (d, as) := by
  rw [accounted_open hopen] at hc
  cases h with
  | kept hd _ hclosed =>
      cases hdc : d.closed with
      | false =>
          rw [accounted_open hdc, hd.freed, hd.p]
          exact hc
      | true =>
          have hp : c.p = [] := (hclosed hdc).resolve_left (by rw [hopen]; decide)
          rw [hp, Pbuf.addrs_nil, List.append_nil] at hc
          rw [accounted_closed hdc, hd.freed]
          exact hc
  | sent e _ he _ heopen hd =>
      rw [hd]
      refine echoSend_accounted (heopen.trans hopen) ?_
      rw [he.freed, he.p]
      exact hc

/-! ## A chunk -/

lemma addrs_eq_nil {p : List Pbuf} : Pbuf.addrs p = [] ↔ p = [] := List.map_eq_nil_iff

/-- What was owned is what was freed once nothing is held. -/
lemma perm_freed_iff {as freed : List ℕ} {p : List Pbuf} (h : as.Perm (freed ++ Pbuf.addrs p)) :
    as.Perm freed ↔ p = [] := by
  refine ⟨fun hf => ?_, fun hp => ?_⟩
  · have hlen := h.symm.length_eq.trans hf.length_eq
    rw [List.length_append] at hlen
    exact addrs_eq_nil.mp (List.length_eq_zero_iff.mp (by omega))
  · rwa [hp, Pbuf.addrs_nil, List.append_nil] at h

/-- **A chunk received without an error** is accounted for, exactly if no chain is dropped for it. -/
theorem Received.chunk_accounted_iff {p : List Pbuf} {c d : Conn F} {as : List ℕ} (h : Received p c d)
    (hp : ∀ q ∈ p, q.ref = 1) (hopen : c.closed = false) (hc : Accounted (c, as))
    (hfresh : c.state = .accepted → c.p = []) :
    Accounted (d, as ++ Pbuf.addrs p) ↔
      (c.state = .accepted ∨ c.state = .received ∨ c.p = []) := by
  rw [accounted_open hopen] at hc
  cases h with
  | docked hs =>
      refine iff_of_true (echoSend_accounted hopen ?_) (Or.inl hs)
      rw [hfresh hs, Pbuf.addrs_nil, List.append_nil] at hc
      exact hc.append_right _
  | gated hs hnil =>
      obtain ⟨-, -, hfreed, -⟩ := gate_data { c with p := p }
      have hgate : Pbuf.addrs (gate { c with p := p }).p = Pbuf.addrs p := by
        rw [gate]
        cases p <;> rfl
      have hgopen : (gate { c with p := p }).closed = false := by
        rw [gate]
        cases p <;> exact hopen
      refine iff_of_true (echoSend_accounted hgopen ?_) (Or.inr (Or.inl hs))
      rw [hnil, Pbuf.addrs_nil, List.append_nil] at hc
      rw [hfreed, hgate]
      exact hc.append_right _
  | chained hs _ =>
      refine iff_of_true ?_ (Or.inr (Or.inl hs))
      refine (accounted_open (by exact hopen)).mpr ?_
      show (as ++ Pbuf.addrs p).Perm (c.freed ++ Pbuf.addrs (Pbuf.chain c.p p))
      rw [Pbuf.addrs_chain, ← List.append_assoc]
      exact hc.append_right _
  | trashed _ hs =>
      -- the chunk is freed and the chain forgotten
      refine (accounted_open (by exact hopen)).trans ?_
      show (as ++ Pbuf.addrs p).Perm (c.freed ++ (Pbuf.free p).1 ++ []) ↔ _
      rw [Pbuf.free_owned hp, List.append_nil, List.perm_append_right_iff, perm_freed_iff hc]
      rcases hs with hs | hs <;> simp [hs]

/-- A chunk that comes with an error is freed, though it is not the application's, and the chain is
forgotten. -/
lemma pbufFree_not_accounted {p : List Pbuf} {err : Err} {c : Conn F} {as : List ℕ}
    (hne : p ≠ []) (hp : Delivered c (.recv p err)) (hopen : c.closed = false)
    (hc : Accounted (c, as)) (text : String) :
    ¬ Accounted (pbufFree p { log text c with p := [] }, as) := by
  rw [accounted_open hopen] at hc
  intro hafter
  have h : as.Perm (c.freed ++ (Pbuf.free p).1 ++ []) :=
    (accounted_open (by exact hopen)).mp hafter
  rw [Pbuf.free_owned hp.1, List.append_nil] at h
  -- then the buffers of the chunk would be the ones that were held
  have hsame := (List.perm_append_left_iff _).mp (hc.symm.trans h)
  obtain ⟨q, qs, rfl⟩ := List.exists_cons_of_ne_nil hne
  exact hp.2 q List.mem_cons_self (hsame.mem_iff.mpr List.mem_cons_self)

/-! ## Over every run -/

/-- What holds along a run that returns its buffers. -/
structure Settled (q : Conn F × List ℕ) : Prop where
  accounted : Accounted q
  fresh : q.1.state = .accepted → q.1.p = []

/-- An error of the connection frees the state, and nothing else. -/
lemma echoError_accounted_iff {c : Conn F} {as : List ℕ} (hopen : c.closed = false)
    (hc : Accounted (c, as)) : Accounted (echoError c, as) ↔ c.p = [] := by
  rw [accounted_open hopen] at hc
  have hclosed : (echoError c).closed = true := rfl
  rw [accounted_closed hclosed]
  exact perm_freed_iff hc

/-- What a callback does. -/
inductive Called (c d : Conn F) : Call → Prop
  | dead (l : Call) (hclosed : c.closed = true) (hd : d = c) : Called c d l
  | resumed (l : Call) (hopen : c.closed = false) (hl : l = .sent ∨ l = .poll)
      (h : Resumed c.state c d) : Called c d l
  | ended (err : Err) (hopen : c.closed = false) (h : Resumed .closing c d) :
      Called c d (.recv [] err)
  | chunk {p : List Pbuf} (hopen : c.closed = false) (hp : p ≠ []) (h : Received p c d) :
      Called c d (.recv p .ok)
  | failed {p : List Pbuf} {err : Err} (hopen : c.closed = false) (hp : p ≠ []) (herr : err ≠ .ok)
      (text : String) (hd : d = pbufFree p { log text c with p := [] }) : Called c d (.recv p err)
  | error (hopen : c.closed = false) (hd : d = echoError c) : Called c d .error

theorem call_called {c d : Conn F} {l : Call} (h : call c l = .ok d) : Called c d l := by
  unfold call at h
  cases hclosed : c.closed with
  | true =>
      rw [hclosed, if_pos rfl] at h
      exact .dead l hclosed (Except.ok.inj h).symm
  | false =>
      rw [hclosed, if_neg (by decide)] at h
      cases l with
      | sent =>
          cases h
          exact .resumed _ hclosed (Or.inl rfl) (echoSent_resumed c)
      | poll =>
          cases h
          exact .resumed _ hclosed (Or.inr rfl) (echoPoll_resumed c)
      | error =>
          cases h
          exact .error hclosed rfl
      | recv p err =>
          cases h
          by_cases hp : p = []
          · subst hp
            exact .ended err hclosed (echoRecv_nil_resumed err c)
          · by_cases herr : err = .ok
            · subst herr
              exact .chunk hclosed hp (echoRecv_received c hp)
            · refine .failed hclosed hp herr
                "---- Recv -- unknown error received -> cleanup\r\n" ?_
              rw [echoRecv, if_neg (by simpa using hp), if_pos herr]

/-- No callback comes to a connection whose state is freed. -/
lemma taken_of_closed {c : Conn F} (h : c.closed = true) (l : Call) : taken c l = [] := by
  cases l with
  | recv p err => exact if_neg fun ho => absurd (h.symm.trans ho.1) (by decide)
  | sent => rfl
  | poll => rfl
  | error => rfl

lemma returned_of_closed {c : Conn F} (h : c.closed = true) (l : Call) : Returned c l := by
  cases l with
  | recv p err => exact Or.inl h
  | sent => trivial
  | poll => trivial
  | error => exact Or.inl h

/-- **A callback is accounted for** exactly if it drops nothing. -/
theorem call_accounted_iff {q r : Conn F × List ℕ} {l : Call} (hq : Settled q)
    (hl : Delivered q.1 l) (h : owned q l = .ok r) : Accounted r ↔ Returned q.1 l := by
  obtain ⟨c, as⟩ := q
  obtain ⟨d, as'⟩ := r
  obtain ⟨hcall, has⟩ := observed_ok.mp h
  dsimp only at hcall has hl ⊢
  subst has
  have hacc := hq.accounted
  cases call_called hcall with
  | dead _ hclosed hd =>
      rw [hd, taken_of_closed hclosed, Pbuf.addrs_nil, List.append_nil]
      exact iff_of_true hacc (returned_of_closed hclosed l)
  | resumed _ hopen hl hr =>
      have hd := hr.accounted hopen hacc
      rcases hl with rfl | rfl
      · exact iff_of_true ((List.append_nil as).symm ▸ hd) trivial
      · exact iff_of_true ((List.append_nil as).symm ▸ hd) trivial
  | ended err hopen hr =>
      rw [taken, ite_self, Pbuf.addrs_nil, List.append_nil]
      exact iff_of_true (hr.accounted hopen hacc) (Or.inr (Or.inl rfl))
  | chunk hopen hp hr =>
      have hne : ¬ c.closed = true := by rw [hopen]; decide
      rw [taken, if_pos ⟨hopen, rfl⟩, hr.chunk_accounted_iff hl.1 hopen hacc hq.fresh, Returned,
        or_iff_right hne, or_iff_right hp, and_iff_right rfl]
  | failed hopen hp herr text hd =>
      have hne : ¬ c.closed = true := by rw [hopen]; decide
      rw [hd, taken, if_neg fun h => herr h.2, Pbuf.addrs_nil, List.append_nil, Returned,
        or_iff_right hne, or_iff_right hp]
      exact iff_of_false (pbufFree_not_accounted hp hl hopen hacc text) fun h => herr h.1
  | error hopen hd =>
      have hne : ¬ c.closed = true := by rw [hopen]; decide
      show Accounted (d, as ++ []) ↔ (c.closed = true ∨ c.p = [])
      rw [hd, List.append_nil, echoError_accounted_iff hopen hacc, or_iff_right hne]

/-- A connection that waits for its first chunk holds nothing. -/
lemma call_fresh {c d : Conn F} {l : Call} (hc : c.state = .accepted → c.p = [])
    (h : call c l = .ok d) (hd : d.state = .accepted) : d.p = [] := by
  cases call_called h with
  | dead _ _ hdc =>
      rw [hdc] at hd ⊢
      exact hc hd
  | resumed _ _ _ hr => exact hr.p_nil (hc (hr.state.symm.trans hd))
  | ended _ _ hr => exact absurd (hr.state.symm.trans hd) (by decide)
  | chunk _ _ hr =>
      rcases hr.state with hs | ⟨hs, hstate⟩
      · exact absurd (hs.symm.trans hd) (by decide)
      · rw [← hs, hd] at hstate
        exact absurd hstate (by decide)
  | failed _ _ _ _ hdc =>
      rw [hdc]
      rfl
  | error _ hdc =>
      rw [hdc] at hd ⊢
      exact hc hd

lemma call_ok (c : Conn F) (l : Call) : ∃ d, call c l = .ok d := by
  unfold call
  split
  · exact ⟨_, rfl⟩
  · cases l with
    | recv p err => exact ⟨_, rfl⟩
    | sent => exact ⟨_, rfl⟩
    | poll => exact ⟨_, rfl⟩
    | error => exact ⟨_, rfl⟩

/-- **No received buffer is leaked or freed twice**, in any state of a run — so that once the state
of the connection is freed, every buffer owned has been freed exactly once — exactly if no callback
of the run drops a chain. -/
theorem accounted_iff (kernel : KernelCtx F) (sndbuf : ℕ → ℕ) (writes : ℕ → Err)
    {calls : List Call} (h : AllSteps call Delivered (echoAccept kernel sndbuf writes) calls) :
    AllStates owned Accounted (echoAccept kernel sndbuf writes, []) calls ↔
      AllSteps call Returned (echoAccept kernel sndbuf writes) calls := by
  have hstart : Settled (echoAccept kernel sndbuf writes, ([] : List ℕ)) :=
    ⟨List.Perm.refl _, fun _ => rfl⟩
  have hL : AllSteps owned (fun q => Delivered q.1) (echoAccept kernel sndbuf writes, []) calls :=
    allSteps_observed.mpr h
  refine (allStates_iff_allSteps_of (I := Settled) (C := fun q => Returned q.1)
    (fun _ hq => hq.accounted) ?_ ?_ hL hstart).trans allSteps_observed
  · intro q l r hl hq hC hr
    exact ⟨(call_accounted_iff hq hl hr).mpr hC, call_fresh hq.fresh (observed_ok.mp hr).1⟩
  · intro q l hl hq hC
    obtain ⟨d, hd⟩ := call_ok q.1 l
    have hr : owned q l = .ok (d, q.2 ++ Pbuf.addrs (taken q.1 l)) := observed_ok.mpr ⟨hd, rfl⟩
    exact ⟨_, hr, fun hacc => hC ((call_accounted_iff hq hl hr).mp hacc)⟩

/-- A chunk of one byte. -/
def oneByte : List Pbuf := [.ofBytes [1]]

/-- A chunk that TCP has room for. -/
theorem accounted_iff_oneByte :
    AllStates owned Accounted (echoAccept ⟨Kernel.blank, World.blank⟩ (fun _ => 1) (fun _ => .ok), [])
        [.recv oneByte .ok, .error] ↔
      AllSteps call Returned (echoAccept ⟨Kernel.blank, World.blank⟩ (fun _ => 1) (fun _ => .ok))
        [.recv oneByte .ok, .error] := by
  refine accounted_iff _ _ _ ⟨⟨?_, ?_⟩, fun _ _ => ⟨trivial, fun _ _ => trivial⟩⟩
  · exact fun q hq => by rw [List.mem_singleton.mp hq]; rfl
  · exact fun _ _ => List.not_mem_nil

/-- **A leak**: the connection fails while a chunk waits for room. -/
theorem error_leaks :
    ∃ c, run owned (echoAccept ⟨Kernel.blank, World.blank⟩ (fun _ => 0) (fun _ => .ok), [])
        [.recv oneByte .ok, .error] = .ok (c, [0]) ∧
      c.closed = true ∧ c.freed = [] ∧ ¬ Accounted (c, [0]) := by
  refine ⟨_, rfl, rfl, rfl, fun h => ?_⟩
  have hlen := h.length_eq
  exact absurd hlen (by decide)

end Lgt8.Conn

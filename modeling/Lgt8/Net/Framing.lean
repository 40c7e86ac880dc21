import Mathlib.Tactic
import Lgt8.Library.Runs
import Lgt8.Net.Echo

/-!
# Are the messages handed on as they were sent?

TCP delivers a stream of bytes, cut into chunks and each chunk into buffers as it happens to come.
`echo_recv` takes every chunk for one message, and looks at the first buffer only; a chunk that
comes while an earlier one is still being echoed is not looked at at all.

* **`handed_eq_sent`** — in a run in which every chunk behind the docking one is one message, whole
  in its first buffer, and comes when nothing waits to be echoed, the messages handed to
  `ethergate` are the messages sent: each once, complete and in order, whatever TCP has room for.
* `coalesced_loses` — two messages in one chunk, of which the second is never handed on.
-/

namespace Lgt8.Conn

open Library

variable {F : Type}

/-! ## Steps -/

/-- What lwIP can call.  A `recv` with the empty chain is the end of the stream. -/
inductive Label
  | recv (p : List Pbuf)
  | sent
  | poll

def step (c : Conn F) (l : Label) : Except Fault (Conn F) :=
  if c.closed then .ok c
  else
    match l with
    | .recv p => .ok (echoRecv p .ok c)
    | .sent => .ok (echoSent c)
    | .poll => .ok (echoPoll c)

lemma step_recv {c : Conn F} (hopen : c.closed = false) (p : List Pbuf) :
    step c (.recv p) = .ok (echoRecv p .ok c) := by
  unfold step
  rw [hopen]
  rfl

/-- The bytes a step brings. -/
def arrived : Label → List UInt8
  | .recv p => Pbuf.bytes p
  | _ => []

/-- A run beside the stream of bytes that arrived. -/
abbrev heard : Conn F × List UInt8 → Label → Except Fault (Conn F × List UInt8) :=
  observed step fun _ l bs => bs ++ arrived l

/-- A connection that has received its docking chunk. -/
def docked (kernel : KernelCtx F) (sndbuf : ℕ → ℕ) (writes : ℕ → Err) (dock : List Pbuf) :
    Conn F :=
  echoRecv dock .ok (echoAccept kernel sndbuf writes)

/-- A chunk is one message, whole in its first buffer, and comes when nothing waits. -/
def Framed (c : Conn F × List UInt8) : Label → Prop
  | .recv p => p = [] ∨ (c.1.state = .received ∧ c.1.p = [] ∧
      ∃ q qs, p = q :: qs ∧ q.len = 162 ∧ Pbuf.bytes qs = [])
  | _ => True

/-! ## What sending leaves alone -/

/-- From `c` to `d` nothing was handed on and the connection's state is the same. -/
structure Untouched (c d : Conn F) : Prop where
  handed : d.handed = c.handed
  state : d.state = c.state
  closed : d.closed = c.closed

lemma Untouched.trans {c d e : Conn F} (h : Untouched c d) (h' : Untouched d e) :
    Untouched c e :=
  ⟨h'.handed.trans h.handed, h'.state.trans h.state, h'.closed.trans h.closed⟩

lemma sendLoop_untouched (n : ℕ) (c : Conn F) : Untouched c (sendLoop n c) := by
  induction n generalizing c with
  | zero => exact ⟨rfl, rfl, rfl⟩
  | succ n ih =>
      rw [sendLoop]
      split
      · exact ⟨rfl, rfl, rfl⟩
      · dsimp only
        split
        · split
          · exact ⟨(ih _).handed, (ih _).state, (ih _).closed⟩
          · exact ⟨rfl, rfl, rfl⟩
          · exact ⟨rfl, rfl, rfl⟩
        · exact ⟨rfl, rfl, rfl⟩

lemma echoSend_untouched (c : Conn F) : Untouched c (echoSend c) := sendLoop_untouched _ c

/-- With nothing more to receive, messages are not handed on, and only a connection that is closing
is closed. -/
structure Idled (c d : Conn F) : Prop where
  handed : d.handed = c.handed
  closed : d.closed = true → d.state = .closing ∨ c.closed = true

lemma Untouched.idled {c d : Conn F} (h : Untouched c d) : Idled c d :=
  ⟨h.handed, fun hc => Or.inr (h.closed ▸ hc)⟩

lemma echoSent_idled (c : Conn F) : Idled c (echoSent c) := by
  have h := echoSend_untouched { c with retries := 0 }
  rw [echoSent]
  dsimp only
  split_ifs with hp hs
  · exact ⟨rfl, fun _ => Or.inl hs⟩
  · exact ⟨rfl, Or.inr⟩
  · exact Untouched.idled ⟨h.handed, h.state, h.closed⟩

lemma echoPoll_idled (c : Conn F) : Idled c (echoPoll c) := by
  have h := echoSend_untouched (log "Echo pool....\r\n" c)
  rw [echoPoll]
  split_ifs with hp hs
  · exact ⟨rfl, fun _ => Or.inl hs⟩
  · exact ⟨rfl, Or.inr⟩
  · exact Untouched.idled ⟨h.handed, h.state, h.closed⟩

/-- The end of the stream. -/
lemma echoRecv_nil_idled (c : Conn F) : Idled c (echoRecv [] .ok c) := by
  rw [echoRecv]
  simp only [List.isEmpty_nil, if_true]
  split_ifs
  · exact ⟨rfl, fun _ => Or.inl rfl⟩
  · have h := echoSend_untouched
      { log "Virna undocked - socket is free and listeneing now \r\n" c with state := .closing }
    exact ⟨h.handed, fun _ => Or.inl h.state⟩

/-! ## A framed chunk -/

lemma message_bytes (q : Pbuf) : q.message.bytes = (List.range 162).map q.mem := by
  have h : ((List.range 162).map q.mem).length = 162 := by
    rw [List.length_map, List.length_range]
  rw [Pbuf.message, AntaresMsg.ofMemory]
  dsimp only
  rw [h, Nat.sub_self, List.replicate_zero, List.append_nil, List.take_of_length_le h.le]

/-- What is handed on is the chunk. -/
lemma echoRecv_framed {c : Conn F} (hstate : c.state = .received) (hp : c.p = []) (q : Pbuf)
    (qs : List Pbuf) :
    (echoRecv (q :: qs) .ok c).handed = c.handed ++ [q.message] ∧
      (echoRecv (q :: qs) .ok c).closed = c.closed := by
  have hrecv : echoRecv (q :: qs) .ok c = echoSend (gate { c with p := q :: qs }) := by
    rw [echoRecv, if_neg (by simp), if_neg (by simp), hstate]
    dsimp only
    rw [hp]
    rfl
  have h := echoSend_untouched (gate { c with p := q :: qs })
  rw [hrecv]
  exact ⟨h.handed, h.closed⟩

/-- What holds along a run of framed chunks: the messages handed on are the bytes that arrived, and
only a connection that is closing is closed. -/
structure InFrame (c : Conn F × List UInt8) : Prop where
  handed : c.1.handed.flatMap AntaresMsg.bytes = c.2
  closed : c.1.closed = true → c.1.state = .closing

/-- Nothing arrives at a connection that is closing. -/
lemma arrived_of_closing {c : Conn F × List UInt8} {l : Label} (hC : Framed c l)
    (hstate : c.1.state = .closing) : arrived l = [] := by
  cases l with
  | sent => rfl
  | poll => rfl
  | recv p =>
      rcases hC with rfl | ⟨hreceived, -⟩
      · rfl
      · rw [hstate] at hreceived
        cases hreceived

lemma inFrame_step {c d : Conn F × List UInt8} {l : Label} (hc : InFrame c) (hC : Framed c l)
    (h : heard c l = .ok d) : InFrame d := by
  obtain ⟨hstep, hheard⟩ := observed_ok.mp h
  have hidled : Idled c.1 d.1 → arrived l = [] → c.1.closed = false → InFrame d := by
    intro hi hl hopen
    refine ⟨?_, fun hd => (hi.closed hd).resolve_right (by rw [hopen]; exact nofun)⟩
    rw [hi.handed, hc.handed, hheard, hl, List.append_nil]
  unfold step at hstep
  cases hclosed : c.1.closed with
  | true =>
      rw [hclosed, if_pos rfl] at hstep
      have hd : d.1 = c.1 := (Except.ok.inj hstep).symm
      have hl := arrived_of_closing hC (hc.closed hclosed)
      refine ⟨?_, fun _ => ?_⟩
      · rw [hd, hc.handed, hheard, hl, List.append_nil]
      · rw [hd]
        exact hc.closed hclosed
  | false =>
      rw [hclosed, if_neg (by simp)] at hstep
      cases l with
      | sent =>
          exact hidled (Except.ok.inj hstep ▸ echoSent_idled c.1) rfl hclosed
      | poll =>
          exact hidled (Except.ok.inj hstep ▸ echoPoll_idled c.1) rfl hclosed
      | recv p =>
          have hd : d.1 = echoRecv p .ok c.1 := (Except.ok.inj hstep).symm
          rcases hC with rfl | ⟨hstate, hp, q, qs, rfl, hlen, hqs⟩
          · exact hidled (hd ▸ echoRecv_nil_idled c.1) rfl hclosed
          · obtain ⟨hhanded, hopen⟩ := echoRecv_framed hstate hp q qs
            have hbytes : arrived (.recv (q :: qs)) = q.message.bytes := by
              have h : Pbuf.bytes (q :: qs) = q.payload ++ Pbuf.bytes qs := rfl
              rw [arrived, h, hqs, List.append_nil, message_bytes, Pbuf.payload, hlen]
            refine ⟨?_, fun hdclosed => ?_⟩
            · rw [hd, hhanded, hheard, hbytes, List.flatMap_append, hc.handed,
                List.flatMap_singleton]
            · rw [hd, hopen, hclosed] at hdclosed
              cases hdclosed

/-! ## Runs -/

/-- Docking hands nothing on. -/
lemma docked_inFrame (kernel : KernelCtx F) (sndbuf : ℕ → ℕ) (writes : ℕ → Err)
    {dock : List Pbuf} (hdock : dock ≠ []) : InFrame (docked kernel sndbuf writes dock, []) := by
  have hrecv : docked kernel sndbuf writes dock = echoSend
      { log "Virna docked on default port (TCP unencripted)\r\n" (echoAccept kernel sndbuf writes)
        with state := .received, p := dock } := by
    rw [docked, echoRecv, if_neg (by simpa using hdock), if_neg (by simp)]
    rfl
  have h := echoSend_untouched
    { log "Virna docked on default port (TCP unencripted)\r\n" (echoAccept kernel sndbuf writes)
      with state := .received, p := dock }
  rw [← hrecv] at h
  refine ⟨?_, fun hclosed => ?_⟩
  · rw [h.handed]
    rfl
  · rw [h.closed] at hclosed
    cases hclosed

/-- Messages are determined by the stream of their bytes. -/
lemma flatMap_bytes_inj : ∀ {ms ns : List AntaresMsg},
    ms.flatMap AntaresMsg.bytes = ns.flatMap AntaresMsg.bytes → ms = ns
  | [], [], _ => rfl
  | [], n :: ns, h => by
      have hn := n.length_eq
      have := congrArg List.length h
      simp only [List.flatMap_nil, List.flatMap_cons, List.length_nil, List.length_append] at this
      omega
  | m :: ms, [], h => by
      have hm := m.length_eq
      have := congrArg List.length h
      simp only [List.flatMap_nil, List.flatMap_cons, List.length_nil, List.length_append] at this
      omega
  | m :: ms, n :: ns, h => by
      rw [List.flatMap_cons, List.flatMap_cons] at h
      obtain ⟨hm, hms⟩ := List.append_inj h (m.length_eq.trans n.length_eq.symm)
      rw [AntaresMsg.ext hm, flatMap_bytes_inj hms]

/-- **Framed messages arrive.**  In a run from the docked connection on in which every chunk is
framed, once the bytes of the messages `ms` have arrived, the messages handed to `ethergate` are
`ms`: each once, complete and in order, whatever room TCP has for the echo. -/
theorem handed_eq_sent (kernel : KernelCtx F) (sndbuf : ℕ → ℕ) (writes : ℕ → Err)
    {dock : List Pbuf} (hdock : dock ≠ []) {labels : List Label} {c : Conn F}
    {ms : List AntaresMsg}
    (hC : AllSteps heard Framed (docked kernel sndbuf writes dock, []) labels)
    (hs : run heard (docked kernel sndbuf writes dock, []) labels =
      .ok (c, ms.flatMap AntaresMsg.bytes)) : c.handed = ms := by
  have h := run_invariant (fun _ _ _ => inFrame_step) (docked_inFrame kernel sndbuf writes hdock)
    hC hs
  exact flatMap_bytes_inj h.handed

lemma arrived_ofBytes (bs : List UInt8) : arrived (.recv [.ofBytes bs]) = bs := by
  rw [arrived, Pbuf.bytes, List.flatMap_singleton, Pbuf.ofBytes_payload]

lemma heard_recv (c : Conn ℚ × List UInt8) (hopen : c.1.closed = false) (bs : List UInt8) :
    heard c (.recv [.ofBytes bs]) = .ok (echoRecv [.ofBytes bs] .ok c.1, c.2 ++ bs) := by
  refine observed_ok.mpr ⟨step_recv hopen _, ?_⟩
  rw [arrived_ofBytes]

lemma heard_sent (c : Conn ℚ × List UInt8) (hopen : c.1.closed = false) :
    heard c .sent = .ok (echoSent c.1, c.2) := by
  refine observed_ok.mpr ⟨?_, (List.append_nil _).symm⟩
  rw [step, hopen]
  rfl

/-- Docked with one byte, behind which TCP has no room until an acknowledgement comes. -/
def dockedFull : Conn ℚ :=
  docked ⟨Kernel.blank, .blank⟩ (fun n => if n = 1 then 0 else 1000) (fun _ => .ok) [.ofBytes [0]]

/-- Two messages; the echo of the first waits for an acknowledgement before the second comes. -/
theorem handed_eq_sent_two :
    let m := AntaresMsg.compose 7 0 2 ""
    let n := AntaresMsg.compose 7 0 3 ""
    (echoRecv [.ofBytes m.bytes] .ok dockedFull).p ≠ [] ∧
    ∃ c, run heard (dockedFull, []) [.recv [.ofBytes m.bytes], .sent, .recv [.ofBytes n.bytes]] =
        .ok (c, [m, n].flatMap AntaresMsg.bytes) ∧ c.handed = [m, n] := by
  intro m n
  obtain ⟨c, hc⟩ : ∃ c, echoRecv [.ofBytes m.bytes] .ok dockedFull = c := ⟨_, rfl⟩
  have hrecv : heard (dockedFull, []) (.recv [.ofBytes m.bytes]) = .ok (c, m.bytes) :=
    hc ▸ heard_recv _ rfl m.bytes
  have hwaits : c.p.isEmpty = false := hc ▸ by decide +kernel
  have hsent := heard_sent (c, m.bytes) (hc ▸ by decide +kernel)
  have hdone : (echoSent c).p.isEmpty = true := hc ▸ by decide +kernel
  have hstate : (echoSent c).state = .received := hc ▸ by decide +kernel
  have hrecv' := heard_recv (echoSent c, m.bytes) (hc ▸ by decide +kernel) n.bytes
  have hs : run heard (dockedFull, []) [.recv [.ofBytes m.bytes], .sent, .recv [.ofBytes n.bytes]] =
      .ok (echoRecv [.ofBytes n.bytes] .ok (echoSent c), [m, n].flatMap AntaresMsg.bytes) := by
    rw [run_cons_of_ok hrecv, run_cons_of_ok hsent, run_cons_of_ok hrecv', List.flatMap_cons,
      List.flatMap_singleton]
    rfl
  have hC : AllSteps heard Framed (dockedFull, [])
      [.recv [.ofBytes m.bytes], .sent, .recv [.ofBytes n.bytes]] := by
    refine ⟨Or.inr ⟨rfl, rfl, _, _, rfl, m.length_eq, rfl⟩, fun t ht => ⟨trivial, fun u hu => ?_⟩⟩
    cases hrecv.symm.trans ht
    cases hsent.symm.trans hu
    exact ⟨Or.inr ⟨hstate, List.isEmpty_iff.mp hdone, _, _, rfl, n.length_eq, rfl⟩,
      fun _ _ => trivial⟩
  refine ⟨fun h => ?_, _, hs, handed_eq_sent _ _ _ (by simp) hC hs⟩
  rw [← hc, h] at hwaits
  cases hwaits

/-- Docked with one byte, which is echoed at once. -/
def dockedBlank : Conn ℚ :=
  docked ⟨Kernel.blank, .blank⟩ (fun _ => 1) (fun _ => .ok) [.ofBytes [0]]

lemma dockedBlank_open : dockedBlank.closed = false := rfl

/-- Two messages in one chunk: the second is not handed on. -/
theorem coalesced_loses :
    let m := AntaresMsg.compose 7 0 2 ""
    let n := AntaresMsg.compose 7 0 3 ""
    ∃ c, run heard (dockedBlank, []) [.recv [.ofBytes (m.bytes ++ n.bytes)]] =
      .ok (c, [m, n].flatMap AntaresMsg.bytes) ∧ c.handed = [m] ∧ c.handed ≠ [m, n] := by
  dsimp only
  generalize AntaresMsg.compose 7 0 2 "" = m, AntaresMsg.compose 7 0 3 "" = n
  refine ⟨echoRecv [.ofBytes (m.bytes ++ n.bytes)] .ok dockedBlank, ?_, ?_⟩
  · rw [run_cons_of_ok (heard_recv _ dockedBlank_open (m.bytes ++ n.bytes)), List.flatMap_cons,
      List.flatMap_singleton]
    rfl
  · have h := (echoRecv_framed (c := dockedBlank) rfl rfl (.ofBytes (m.bytes ++ n.bytes)) []).1
    have hnil : dockedBlank.handed = [] := rfl
    rw [h, Pbuf.ofBytes_message, hnil]
    exact ⟨rfl, by simp⟩

end Lgt8.Conn

import Mathlib.Tactic
import Lgt8.Tcp.Closing

/-!
# What is taken from a segment

The other end sends a stream of bytes, in segments that may come in any order, more than once, or
cut anew when they are sent again.  What the code takes from one of them is what comes next in the
stream.

* `Genuine` — a segment of the stream `st`, whose first byte has the number of `b`.
* `Face.Faithful` — what has been taken is a beginning of the stream, and the application has been
  handed a beginning of that.
* `Face.Pending` — the same, while `tcp_input` holds data it has not handed over.
* **`trimFirst_spec`**, **`takeSeg_spec`**, **`tcpReceive_spec`** — what is cut off in front has
  been taken before, what is kept comes next, and all of it is accounted for.
-/

namespace Lgt8.Tcp

open Library Library.Serial

/-- The bytes that wait to be offered again. -/
def Face.waiting (f : Face) : List UInt8 := (f.refusedData.map fun d => bytes d.p).getD []

/-- What `tcp_input` holds. -/
def Received.held (rx : Received) : List UInt8 := (rx.recvData.map bytes).getD []

/-- How many numbers have been taken. -/
def Face.taken (f : Face) : ℤ := f.got.length + if f.gotFin then 1 else 0

/-- The end has been taken, and the application not been told. -/
def Face.endPending (f : Face) : ℕ := if f.gotFin = true ∧ f.ended = false then 1 else 0

/-- What has been taken of the stream `st`, while `held` is neither handed over nor dropped. -/
structure Face.Faithful (st : List UInt8) (b : ℤ) (held : List UInt8) (f : Face) : Prop where
  rcvNxt : f.rcvNxt = num 32 (b + f.taken)
  got : f.got <+: st
  gotFin : f.gotFin = true → f.got = st
  inOrder : f.lost = false → f.freed = false → f.delivered ++ f.waiting ++ held = f.got
  delivered : f.delivered <+: f.got
  ended : f.ended = true → f.gotFin = true ∧ (f.lost = false → f.delivered = f.got)
  lost : f.lost = true → f.refusedData = none ∧ f.shut
  fin : ∀ d ∈ f.refusedData, d.fin = true → f.gotFin = true ∧ f.ended = false
  state : f.state ≠ .synSent
  room : f.rcvWnd + f.unread + f.waiting.length + held.length + f.endPending ≤ tcpWnd

/-- `tcp_process` has left `rx` to be handed over. -/
structure Face.Pending (st : List UInt8) (b : ℤ) (rx : Received) (f : Face) : Prop where
  faithful : f.Faithful st b rx.held
  gotFin : rx.gotFin = true → f.gotFin = true ∧ f.ended = false
  data : rx.recvData ≠ none → f.refusedData = none ∧ (f.lost = true → f.rxclosed = true)
  alive : f.freed = false

/-- A segment of the stream, no further than `2 ^ 30` bytes from what has been taken of it. -/
def Genuine (st : List UInt8) (b : ℤ) (c : Conn) (sg : Segment) : Prop :=
  0 < sg.tcplen →
    (sg.syn = true ∧ bytes sg.p = [] ∧ sg.seqno = num 32 (b - 1) ∧ c.hist.got.length ≤ 2 ^ 30) ∨
    (sg.syn = false ∧ ∃ k : ℕ, sg.seqno = num 32 (b + k) ∧ bytes sg.p <+: st.drop k ∧
      (sg.fin = true → k + (bytes sg.p).length = st.length) ∧
      |(k : ℤ) - c.hist.got.length| ≤ 2 ^ 30)

variable {st held : List UInt8} {b : ℤ} {f g : Face} {rx : Received}

lemma Face.waiting_of_none (hn : f.refusedData = none) : f.waiting = [] := by
  rw [waiting, hn]
  rfl

/-! ## Calls -/

lemma Face.Calm.lost_of_none (hc : f.Calm g) (hn : f.refusedData = none) :
    g.refusedData = none ∧ g.lost = f.lost := by
  obtain ⟨hr, hl⟩ | ⟨hr, hl⟩ := hc.refused
  · exact ⟨hr.trans hn, hl⟩
  · exact ⟨hr, by rw [hl, hn, Option.isSome_none, Bool.or_false]⟩

lemma Face.Calm.waiting (hc : f.Calm g) (hl : g.lost = false) :
    g.waiting = f.waiting ∧ f.lost = false := by
  obtain ⟨hr, hl'⟩ | ⟨hr, hl'⟩ := hc.refused
  · exact ⟨by rw [Face.waiting, Face.waiting, hr], by rw [← hl', hl]⟩
  · rw [hl, eq_comm, Bool.or_eq_false_iff, Option.isSome_eq_false_iff,
      Option.isNone_iff_eq_none] at hl'
    exact ⟨by rw [Face.waiting, Face.waiting, hr, hl'.2], hl'.1⟩

/-- The application cannot spoil it. -/
lemma Face.Faithful.calm (h : f.Faithful st b held) (hc : f.Calm g) : g.Faithful st b held where
  rcvNxt := by rw [taken, hc.rcvNxt, hc.got, hc.gotFin]; exact h.rcvNxt
  got := by rw [hc.got]; exact h.got
  gotFin := by rw [hc.got, hc.gotFin]; exact h.gotFin
  inOrder hl hf := by
    have hw := hc.waiting hl
    have hff : f.freed = false := by
      cases hff : f.freed with
      | false => rfl
      | true => rw [hc.freed hff] at hf; exact absurd hf (by decide)
    rw [hw.1, hc.delivered, hc.got]
    exact h.inOrder hw.2 hff
  delivered := by rw [hc.delivered, hc.got]; exact h.delivered
  ended he := by
    rw [hc.ended] at he
    rw [hc.gotFin, hc.delivered, hc.got]
    exact ⟨(h.ended he).1, fun hl => (h.ended he).2 (hc.waiting hl).2⟩
  lost hl := by
    obtain hf | hs := hc.lost hl
    · exact ⟨(hc.lost_of_none (h.lost hf).1).1, hc.shut (h.lost hf).2⟩
    · obtain ⟨hr, hl'⟩ | ⟨hr, -⟩ := hc.refused
      · exact ⟨hr.trans (h.lost (hl' ▸ hl)).1, hs⟩
      · exact ⟨hr, hs⟩
  fin d hd hfin := by
    rw [hc.gotFin, hc.ended]
    obtain ⟨hr, -⟩ | ⟨hr, -⟩ := hc.refused
    · exact h.fin d (hr ▸ hd) hfin
    · rw [hr] at hd
      exact absurd hd (Option.not_mem_none d)
  state := hc.state h.state
  room := by
    have hroom := h.room
    have hmore := hc.room
    have hwait : g.waiting.length ≤ f.waiting.length := by
      obtain ⟨hr, -⟩ | ⟨hr, -⟩ := hc.refused
      · rw [Face.waiting, Face.waiting, hr]
      · rw [Face.waiting, hr]
        exact Nat.zero_le _
    rw [endPending, hc.gotFin, hc.ended, ← endPending]
    omega

lemma Face.Pending.calm (h : f.Pending st b rx) (hc : f.Calm g) (hf : g.freed = false) :
    g.Pending st b rx where
  faithful := h.faithful.calm hc
  gotFin hr := by rw [hc.gotFin, hc.ended]; exact h.gotFin hr
  data hr := by
    have hn := hc.lost_of_none (h.data hr).1
    exact ⟨hn.1, fun hl => hc.rxclosed ((h.data hr).2 (hn.2 ▸ hl))⟩
  alive := hf

lemma pending_nothing (h : f.Faithful st b []) (hf : f.freed = false) : f.Pending st b nothing :=
  ⟨h, fun hr => absurd hr (by decide), fun hr => absurd rfl hr, hf⟩

/-- What is held by a connection that has been given back is nobody's. -/
lemma Face.Faithful.gone (h : f.Faithful st b held) (hf : f.freed = true) : f.Faithful st b [] :=
  { h with
    inOrder := fun _ hn => absurd (hf.symm.trans hn) (by decide)
    room := (Nat.add_le_add_right (Nat.add_le_add_left (Nat.zero_le _) _) _).trans h.room }

lemma Face.Faithful.roomy (h : f.Faithful st b held) : f.Roomy := by
  have := h.room
  rw [Roomy]
  omega

/-- It is not given up while the connection lives. -/
lemma Face.Faithful.open (h : f.Faithful st b held) (hl : f.lost = true) (hf : f.freed = false)
    (hw : f.state ≠ .timeWait) : f.rxclosed = true := by
  obtain hs | hs | hs := (h.lost hl).2
  · exact hs
  · exact absurd (hs.symm.trans hf) (by decide)
  · exact absurd hs hw

/-! ## The first edge -/

lemma num_sub_one (x : ℤ) : num 32 x - 1 = num 32 (x - 1) := by
  rw [num_sub]
  rfl

lemma toNat_of_toInt {x : BitVec 32} {n : ℕ} (h : x.toInt = n) : x.toNat = n := by
  have := BitVec.toInt_eq_toNat_cond x
  have := x.isLt
  split at * <;> omega

/-- The segment is one that comes next. -/
structure Next (st got : List UInt8) (sg : Inseg) : Prop where
  syn : sg.syn = false
  data : bytes sg.p <+: st.drop got.length
  len : sg.len = (bytes sg.p).length
  fin : sg.fin = true → got.length + sg.len = st.length
  counted : Counted sg.p
  ne_nil : sg.p ≠ []
  lt : sg.len < 65536

namespace Conn

variable {c : Conn} {sg : Segment}

/-- **What is cut off in front has been taken before**: a segment that now begins at `rcv_nxt`
brings what comes next. -/
theorem trimFirst_spec (h : c.face.Faithful st b []) (hg : Genuine st b c sg)
    (hpos : 0 < sg.tcplen) :
    Yields (fun r => Frame c r.2 ∧ (c.pcb.rcv.rcvNxt = r.1.seqno →
      c.hist.gotFin = false ∧ Next st c.hist.got r.1)) Fault.Aside (c.trimFirst sg.inseg) := by
  have hR : c.pcb.rcv.rcvNxt = num 32 (b + c.face.taken) := h.rcvNxt
  have hT : c.face.taken = c.hist.got.length + if c.hist.gotFin then 1 else 0 := rfl
  have hlen := sg.length_le
  have htl : sg.tcplen = (bytes sg.p).length + if sg.fin || sg.syn then 1 else 0 := rfl
  have hframe : Frame c (if Lt sg.seqno c.pcb.rcv.rcvNxt then c.ackNow else c) := by
    split
    · exact frame_ackNow c
    · exact .refl c
  have hfin : c.hist.gotFin = true → c.hist.got = st := h.gotFin
  obtain ⟨hsyn, hnil, hseq, hnear⟩ | ⟨hsyn, k, hseq, hdata, hend, hnear⟩ := hg hpos
  · -- `SYN` is in front of the first byte
    have hT0 : (0 : ℤ) ≤ c.face.taken ∧ c.face.taken ≤ 2 ^ 30 + 1 := by
      rw [hT]
      split <;> constructor <;> push_cast <;> omega
    have hlen1 : sg.tcplen = 1 := by rw [htl, hnil, hsyn, Bool.or_true]; rfl
    have hno : ¬ Between c.pcb.rcv.rcvNxt (sg.seqno + 1)
        (sg.seqno + BitVec.ofNat 32 sg.tcplen - 1) := by
      rw [hR, hseq, hlen1, num_add_one, num_add_ofNat, num_sub_one, between_num]
      · push_cast
        omega
      · constructor <;> omega
      · constructor <;> push_cast <;> omega
    have htf : c.trimFirst sg.inseg =
        .ok (sg.inseg, if Lt sg.seqno c.pcb.rcv.rcvNxt then c.ackNow else c) := if_neg hno
    rw [htf]
    refine ⟨hframe, fun he => ?_⟩
    have he' : num 32 (b + c.face.taken) = num 32 (b - 1) := hR.symm.trans (he.trans hseq)
    rw [num_inj (by constructor <;> omega)] at he'
    omega
  · have hk := hdata.length_le
    rw [List.length_drop] at hk
    rw [abs_le] at hnear
    -- the segment does not reach behind the end of the stream
    have hreach : (k : ℤ) + sg.tcplen ≤ st.length + 1 ∧
        ((bytes sg.p).length = sg.tcplen ∨
          sg.fin = true ∧ (bytes sg.p).length + 1 = sg.tcplen) := by
      rw [hsyn, Bool.or_false] at htl
      cases hf : sg.fin with
      | true =>
          rw [hf, if_pos rfl] at htl
          have := hend hf
          exact ⟨by omega, .inr ⟨rfl, by omega⟩⟩
      | false =>
          rw [hf, if_neg Bool.false_ne_true] at htl
          exact ⟨by omega, .inl (by omega)⟩
    have hT0 : c.face.taken = c.hist.got.length ∧ c.hist.gotFin = false ∨
        c.face.taken = st.length + 1 ∧ (c.hist.got.length : ℤ) = st.length := by
      cases hf : c.hist.gotFin with
      | true => exact .inr ⟨by rw [hT, hf, hfin hf, if_pos rfl], by rw [hfin hf]⟩
      | false => exact .inl ⟨by rw [hT, hf, if_neg Bool.false_ne_true, add_zero], rfl⟩
    by_cases hbt : Between c.pcb.rcv.rcvNxt (sg.seqno + 1)
        (sg.seqno + BitVec.ofNat 32 sg.tcplen - 1)
    · have hbt' := hbt
      rw [hR, hseq, num_add_one, num_add_ofNat, num_sub_one, between_num (by constructor <;> omega)
        (by constructor <;> omega)] at hbt'
      obtain ⟨n, hn⟩ : ∃ n : ℕ, c.face.taken - k = n := ⟨(c.face.taken - k).toNat, by omega⟩
      have hoff : (c.pcb.rcv.rcvNxt - sg.seqno).toInt = n := by
        rw [hR, hseq, toInt_num_sub (by constructor <;> omega)]
        omega
      obtain ⟨hTg, hgf⟩ : c.face.taken = c.hist.got.length ∧ c.hist.gotFin = false := by
        obtain hT0 | hT0 := hT0
        · exact hT0
        · omega
      obtain ⟨p', hp', hd⟩ := trim_spec (n := n) sg.counted sg.ne_nil (by omega) (by omega)
        (by omega) (by omega)
      have htf : c.trimFirst sg.inseg = .ok ({ sg.inseg with
          seqno := c.pcb.rcv.rcvNxt
          len := u16 (sg.totLen - u16 (c.pcb.rcv.rcvNxt - sg.seqno).toNat)
          p := p' }, c) := by
        refine (if_pos hbt).trans ?_
        show trim (c.pcb.rcv.rcvNxt - sg.seqno).toInt sg.p >>= _ = _
        rw [hoff, hp']
        rfl
      have hlen' : u16 (sg.totLen - u16 (c.pcb.rcv.rcvNxt - sg.seqno).toNat) =
          (bytes p').length := by
        have htot : sg.totLen = (bytes sg.p).length := rfl
        rw [toNat_of_toInt hoff, u16_natCast (by omega), u16_sub (by omega) (by omega),
          hd.bytes_eq, List.length_drop, htot]
      rw [htf]
      refine ⟨.refl c, fun _ => ⟨hgf, hsyn, ?_, ?_, fun hf => ?_, hd.counted, ?_, ?_⟩⟩
      · obtain ⟨t, ht⟩ := hdata
        refine ⟨t, ?_⟩
        have hn' : c.hist.got.length = k + n := by omega
        show bytes p' ++ t = _
        rw [hd.bytes_eq, hn', ← List.drop_drop, ← ht, List.drop_append_of_le_length (by omega)]
      · exact hlen'
      · have := hend hf
        show c.hist.got.length + u16 _ = _
        rw [hlen', hd.bytes_eq, List.length_drop]
        omega
      · rintro rfl
        have := hd.length_eq
        exact sg.ne_nil (List.length_eq_zero_iff.mp this.symm)
      · show u16 _ < _
        exact u16_lt _
    · have htf : c.trimFirst sg.inseg =
          .ok (sg.inseg, if Lt sg.seqno c.pcb.rcv.rcvNxt then c.ackNow else c) := if_neg hbt
      rw [htf]
      refine ⟨hframe, fun he => ?_⟩
      have he' : num 32 (b + c.face.taken) = num 32 (b + k) := hR.symm.trans (he.trans hseq)
      rw [num_inj (by constructor <;> omega)] at he'
      obtain ⟨hTg, hgf⟩ : c.face.taken = c.hist.got.length ∧ c.hist.gotFin = false := by
        obtain hT0 | hT0 := hT0
        · exact hT0
        · omega
      have hkg : k = c.hist.got.length := by omega
      subst hkg
      exact ⟨hgf, hsyn, hdata, rfl, hend, sg.counted, sg.ne_nil,
        by show (bytes sg.p).length < _; omega⟩

/-! ## The segment that comes next -/

/-- The other edge is cut off too, where the window has no room for it. -/
lemma trimWindow_spec {sg : Inseg} (h : Next st c.hist.got sg)
    (hseq : c.pcb.rcv.rcvNxt = sg.seqno) :
    Yields (fun sg' => sg'.seqno = sg.seqno ∧ Next st c.hist.got sg' ∧
      sg'.tcpTcplen ≤ c.pcb.rcv.rcvWnd) Fault.Aside (c.trimWindow sg) := by
  have htl : sg.tcpTcplen = sg.len + if sg.fin then 1 else 0 := by
    rw [Inseg.tcpTcplen, h.syn, Bool.or_false]
  simp only [trimWindow]
  split
  · next hlt =>
      have hlen : (if sg.syn then u16 (c.pcb.rcv.rcvWnd - 1) else c.pcb.rcv.rcvWnd) =
          c.pcb.rcv.rcvWnd := by rw [h.syn, if_neg Bool.false_ne_true]
      obtain ⟨p', hp', ht⟩ := pbufRealloc_spec (n := c.pcb.rcv.rcvWnd) h.counted h.ne_nil
        (h.len ▸ h.lt)
      have hle : c.pcb.rcv.rcvWnd ≤ sg.len := by
        rw [htl] at hlt
        split at hlt <;> omega
      rw [hlen, hp']
      refine Yields.bind (I := (· = p')) rfl fun p hp => ?_
      rw [hp]
      have htl' : Inseg.tcpTcplen { sg with fin := false, len := c.pcb.rcv.rcvWnd, p := p' } =
          c.pcb.rcv.rcvWnd := by
        rw [Inseg.tcpTcplen, h.syn]
        rfl
      refine Yields.bind (yields_assert_of ?_) fun _ _ => ⟨rfl, ⟨h.syn, ?_, ?_, ?_, ht.counted,
        ht.ne_nil, lt_of_le_of_lt hle h.lt⟩, htl'.le⟩
      · rw [htl', windowEnd, hseq]
      · rw [ht.bytes_eq]
        exact (List.take_prefix _ _).trans h.data
      · rw [ht.bytes_eq, List.length_take, ← h.len]
        exact (min_eq_left hle).symm
      · exact fun hf => absurd hf Bool.false_ne_true
  · next hnlt => exact ⟨rfl, h, not_lt.mp hnlt⟩

lemma held_of_counted {p : List Buf} (hc : Counted p) :
    ((if (p.head?.map Buf.totLen).getD 0 > 0 then some p else none).map bytes).getD [] =
      bytes p := by
  cases p with
  | nil => rfl
  | cons d ps =>
      have htot : d.totLen = (bytes (d :: ps)).length := hc.1
      by_cases hz : 0 < d.totLen
      · rw [if_pos (show ((d :: ps).head?.map Buf.totLen).getD 0 > 0 from hz)]
        rfl
      · rw [if_neg (show ¬ ((d :: ps).head?.map Buf.totLen).getD 0 > 0 from hz)]
        exact (List.length_eq_zero_iff.mp (by omega)).symm

/-- **What is kept comes next in the stream.** -/
theorem takeSeg_spec {sg : Inseg} (h : c.face.Faithful st b []) (hn : Next st c.hist.got sg)
    (hseq : c.pcb.rcv.rcvNxt = sg.seqno) (hgf : c.hist.gotFin = false)
    (hr : c.pcb.rcv.refusedData = none) (hx : c.hist.lost = true → c.pcb.flags.rxclosed = true)
    (hf : c.freed = false) :
    Yields (fun r => r.2.face.Pending st b r.1 ∧ r.2.pcb.state = c.pcb.state) Fault.Aside
      (c.takeSeg sg) := by
  rw [takeSeg]
  refine Yields.bind (trimWindow_spec hn hseq) fun sg' ⟨hseq', hn', hfit⟩ => ?_
  refine Yields.bind (yields_assert_of hfit) fun _ _ => ?_
  refine Yields.bind (frame_tcpUpdateRcvAnnWnd _) fun r hr' => ?_
  have hframe := hr'.trans (frame_ack r.2)
  refine ⟨?_, congrArg Face.state hframe⟩
  rw [hframe]
  have htl : sg'.tcpTcplen = sg'.len + if sg'.fin then 1 else 0 := by
    rw [Inseg.tcpTcplen, hn'.syn, Bool.or_false]
  have hgot : c.hist.got ++ bytes sg'.p <+: st := by
    obtain ⟨t, ht⟩ := h.got
    have hdrop : st.drop c.hist.got.length = t := by
      rw [← ht]
      exact List.drop_left
    have := hn'.data
    rw [hdrop] at this
    rw [← ht]
    exact (List.prefix_append_right_inj c.hist.got).mpr this
  have hor : (c.hist.gotFin || sg'.fin) = sg'.fin := by rw [hgf, Bool.false_or]
  have hheld : Received.held ⟨if (sg'.p.head?.map Buf.totLen).getD 0 > 0 then some sg'.p else none,
      sg'.fin, false, false⟩ = bytes sg'.p := held_of_counted hn'.counted
  have hend : c.ended = false := by
    cases he : c.ended with
    | false => rfl
    | true => exact absurd ((h.ended he).1.symm.trans hgf) (by decide)
  refine ⟨⟨?_, hgot, ?_, ?_, h.delivered.trans (List.prefix_append _ _), ?_, h.lost, ?_, h.state,
    ?_⟩, fun hfin => ⟨?_, hend⟩, fun _ => ⟨hr, hx⟩, hf⟩
  · show sg'.seqno + BitVec.ofNat 32 sg'.tcpTcplen = _
    have hnext : sg'.seqno = num 32 (b + c.hist.got.length) := by
      rw [hseq', ← hseq]
      refine h.rcvNxt.trans ?_
      rw [show c.face.taken = c.hist.got.length + if c.hist.gotFin then 1 else 0 from rfl, hgf,
        if_neg Bool.false_ne_true, add_zero]
    rw [hnext, num_add_ofNat, htl, hn'.len]
    refine congrArg _ ?_
    show _ = b + (((c.hist.got ++ bytes sg'.p).length : ℤ) +
      if (c.hist.gotFin || sg'.fin) = true then 1 else 0)
    rw [hor, List.length_append]
    split <;> push_cast <;> ring
  · intro hfin
    refine hgot.eq_of_length ?_
    rw [List.length_append, ← hn'.len]
    exact hn'.fin (hor ▸ hfin)
  · intro hl hfr
    have hd := h.inOrder hl hfr
    have hw : c.face.waiting = [] := Face.waiting_of_none hr
    rw [hw, List.append_nil, List.append_nil] at hd
    rw [hheld]
    show c.face.delivered ++ Face.waiting _ ++ bytes sg'.p = c.hist.got ++ bytes sg'.p
    rw [hd]
    refine congrArg (· ++ _) ?_
    show c.hist.got ++ (c.pcb.rcv.refusedData.map fun d => bytes d.p).getD [] = c.hist.got
    rw [hr]
    exact List.append_nil _
  · exact fun he => absurd ((h.ended he).1.symm.trans hgf) (by decide)
  · intro d hd
    have hd' : d ∈ c.pcb.rcv.refusedData := hd
    rw [hr] at hd'
    exact absurd hd' (Option.not_mem_none d)
  · have hroom := h.room
    have hnone : c.face.endPending = 0 :=
      if_neg fun hx => absurd (hx.1.symm.trans hgf) (by decide)
    rw [hnone] at hroom
    have hpend : (if (c.hist.gotFin || sg'.fin) = true ∧ c.ended = false then 1 else 0) =
        if sg'.fin then 1 else 0 := by
      rw [hor, hend]
      simp
    rw [hheld]
    show c.pcb.rcv.rcvWnd - sg'.tcpTcplen + c.hist.unread + c.face.waiting.length +
      (bytes sg'.p).length +
        (if (c.hist.gotFin || sg'.fin) = true ∧ c.ended = false then 1 else 0) ≤ tcpWnd
    rw [hpend, ← hn'.len]
    have hwnd : c.face.rcvWnd = c.pcb.rcv.rcvWnd := rfl
    have hunread : c.face.unread = c.hist.unread := rfl
    rw [hwnd, hunread, List.length_nil] at hroom
    omega
  · show (c.hist.gotFin || sg'.fin) = true
    rw [hor]
    exact hfin

/-! ## Any segment -/

/-- A segment with something in it only comes to the data when nothing waits. -/
def Ready (c : Conn) (sg : Segment) : Prop := c.pcb.rcv.refusedData = none ∨ sg.tcplen = 0

theorem receiveData_spec (h : c.face.Faithful st b []) (hg : Genuine st b c sg) (hr : c.Ready sg)
    (hf : c.freed = false) :
    Yields (fun r => r.2.face.Pending st b r.1 ∧ r.2.pcb.state = c.pcb.state ∧
      (r.1.gotFin = true → c.pcb.state.num < TcpState.closeWait.num)) Fault.Aside
      (c.receiveData sg.inseg) := by
  have hnothing : ∀ {d : Conn}, Frame c d → d.face.Pending st b nothing ∧
      d.pcb.state = c.pcb.state ∧
      (nothing.gotFin = true → c.pcb.state.num < TcpState.closeWait.num) := fun {d} hd =>
    ⟨hd ▸ pending_nothing h hf, congrArg Face.state hd, fun hx => absurd hx (by decide)⟩
  rw [receiveData]
  split
  · next hpos =>
      have hw : c.pcb.state ≠ .timeWait := by
        intro hw
        have := hpos.2
        rw [hw] at this
        exact absurd this (by decide)
      refine Yields.bind (trimFirst_spec h hg hpos.1) ?_
      rintro ⟨sg', d⟩ ⟨hd, hnext⟩
      have hd' : d.face = c.face := hd
      have hrcv : d.pcb.rcv.rcvNxt = c.pcb.rcv.rcvNxt := congrArg Face.rcvNxt hd'
      dsimp only
      split
      · split
        · next heq =>
            obtain ⟨hgf, hn⟩ := hnext (hrcv.symm.trans heq)
            have hdf : d.face.Faithful st b [] := hd' ▸ h
            have hdr : d.pcb.rcv.refusedData = none :=
              (congrArg Face.refusedData hd').trans
                (hr.resolve_right (Nat.pos_iff_ne_zero.mp hpos.1))
            have hdw : d.face.state ≠ .timeWait := by rw [hd']; exact hw
            have hdfr : d.freed = false := (congrArg Face.freed hd').trans hf
            have hgot : d.hist.got = c.hist.got := congrArg Face.got hd'
            refine (takeSeg_spec hdf (by rw [hgot]; exact hn) heq
              ((congrArg Face.gotFin hd').trans hgf) hdr (fun hl => hdf.open hl hdfr hdw) hdfr).imp
              fun r hr => ⟨hr.1, hr.2.trans (congrArg Face.state hd'), fun _ => hpos.2⟩
        · exact hnothing (hd.trans (frame_tcpSendEmptyAck d))
      · exact hnothing (hd.trans (frame_tcpSendEmptyAck d))
  · split
    · exact hnothing (.refl c)
    · exact hnothing (frame_ackNow c)

theorem tcpReceive_spec (h : c.face.Faithful st b []) (hg : Genuine st b c sg) (hr : c.Ready sg)
    (hf : c.freed = false) :
    Yields (fun r => r.2.face.Pending st b r.1 ∧ r.2.pcb.state = c.pcb.state ∧
      (r.1.gotFin = true → c.pcb.state.num < TcpState.closeWait.num)) Fault.Aside
      (c.tcpReceive sg) := by
  rw [tcpReceive]
  refine Yields.bind (yields_assert (by decide) _) fun _ _ => ?_
  have hack : Yields (Frame c) Fault.Aside (if sg.ack then c.receiveAck sg else .ok c) := by
    split
    · exact frame_receiveAck c sg
    · exact Frame.refl c
  refine Yields.bind hack fun d hd => ?_
  have hd' : d.face = c.face := hd
  have hst : d.pcb.state = c.pcb.state := congrArg Face.state hd'
  have hgot : d.hist.got = c.hist.got := congrArg Face.got hd'
  have hgd : Genuine st b d sg := by
    rw [Genuine, hgot]
    exact hg
  have hrd : d.Ready sg := hr.imp_left (congrArg Face.refusedData hd').trans
  rw [← hst]
  exact receiveData_spec (hd' ▸ h) hgd hrd ((congrArg Face.freed hd').trans hf)

end Conn

end Lgt8.Tcp

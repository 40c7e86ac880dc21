import Mathlib.Tactic
import Lgt8.Tcp.Buffers
import Lgt8.Tcp.Calls

/-!
# Receiving (`core/tcp_in.c`)

A segment acknowledges what has been sent and brings data.  `tcp_receive` takes from it what comes
next in the stream, as far as the window goes, and drops the rest; `tcp_process` moves the state,
and `tcp_input` tells the application.  What the application refuses is kept and offered again.

* `receiveAck`, `receiveData`, `tcpReceive` — the two halves of `tcp_receive`.
* `tcpParseopt`, `tcpProcess` — the states.
* `tcpProcessRefusedData`, `tcpTimewaitInput`, `tcpInput` — what a segment leads to.
-/

namespace Lgt8.Tcp

open Library Library.Serial

/-- `p->tot_len` -/
def Segment.totLen (sg : Segment) : ℕ := (bytes sg.p).length

/-- `tcplen`, as `tcp_input` computes it. -/
def Segment.tcplen (sg : Segment) : ℕ := sg.totLen + if sg.fin || sg.syn then 1 else 0

/-- `inseg`, and the `seqno` and `tcplen` that go with it. -/
structure Inseg where
  seqno : Seq
  tcplen : ℕ
  len : ℕ
  fin : Bool
  syn : Bool
  p : List Buf

def Segment.inseg (sg : Segment) : Inseg :=
  ⟨sg.seqno, sg.tcplen, sg.totLen, sg.fin, sg.syn, sg.p⟩

/-- `TCP_TCPLEN` -/
def Inseg.tcpTcplen (sg : Inseg) : ℕ := sg.len + if sg.fin || sg.syn then 1 else 0

/-- `recv_data` and `recv_flags`. -/
structure Received where
  recvData : Option (List Buf)
  gotFin : Bool
  reset : Bool
  closed : Bool

def nothing : Received := ⟨none, false, false, false⟩

namespace Conn

variable (c : Conn)

/-! ## What a segment acknowledges -/

/-- "Update window." -/
def updateWindow (sg : Segment) : Conn :=
  let s := c.pcb.snd
  if Lt s.sndWl1 sg.seqno ∨ (s.sndWl1 = sg.seqno ∧ Lt s.sndWl2 sg.ackno) ∨
      (s.sndWl2 = sg.ackno ∧ s.sndWnd < sg.wnd) then
    (c.setSnd fun s => {
      s with
      sndWnd := sg.wnd
      sndWndMax := max s.sndWndMax sg.wnd
      sndWl1 := sg.seqno
      sndWl2 := sg.ackno }).setCtl fun t =>
        if sg.wnd = 0 then
          if t.persistBackoff = 0 then { t with persistCnt := 0, persistBackoff := 1 } else t
        else { t with persistBackoff := 0 }
  else c

/-- An acknowledgement of nothing new; `edge` is `right_wnd_edge`. -/
def dupAck (sg : Segment) (edge : Seq) : Conn :=
  let c := c.setSnd fun s => { s with acked := 0 }
  let s := c.pcb.snd
  if sg.tcplen = 0 ∧ s.sndWl2 + BitVec.ofNat 32 s.sndWnd = edge ∧ 0 ≤ c.pcb.ctl.rtime ∧
      s.lastack = sg.ackno then
    let c := c.setCtl fun t =>
      { t with dupacks := if t.dupacks < u8 (t.dupacks + 1) then t.dupacks + 1 else t.dupacks }
    if 3 < c.pcb.ctl.dupacks then
      c.setCtl fun t =>
        { t with cwnd := if t.cwnd < u16 (t.cwnd + c.pcb.mss) then t.cwnd + c.pcb.mss else t.cwnd }
    else if c.pcb.ctl.dupacks = 3 then c.tcpRexmitFast
    else c
  else c.setCtl fun t => { t with dupacks := 0 }

/-- The congestion window after new data has been acknowledged. -/
def openCwnd : Except Fault Conn :=
  let t := c.pcb.ctl
  if t.cwnd < t.ssthresh then
    .ok (if t.cwnd < u16 (t.cwnd + c.pcb.mss) then
      c.setCtl fun t => { t with cwnd := t.cwnd + c.pcb.mss } else c)
  else if t.cwnd = 0 then .error .division
  else
    let newCwnd := u16 (t.cwnd + (c.pcb.mss * c.pcb.mss / t.cwnd : ℕ))
    .ok (if t.cwnd < newCwnd then c.setCtl fun t => { t with cwnd := newCwnd } else c)

/-- A segment that has been acknowledged is given back; it has been taken off its queue. -/
def freeAcked (seg : Seg) : Except Fault Conn := do
  assert .queuelen (seg.clen ≤ c.pcb.snd.sndQueuelen)
  let c := c.setSnd fun s => {
    s with
    acked := if s.acked ≠ 0 ∧ seg.fin then s.acked - 1 else s.acked
    sndQueuelen := s.sndQueuelen - seg.clen }
  c.validQueue
  .ok c

/-- The loop over `unacked`. -/
def ackUnacked (ackno : Seq) : List Seg → Conn → Except Fault Conn
  | [], c => .ok c
  | seg :: rest, c =>
      if Leq seg.right ackno then
        (c.setSnd fun s => { s with unacked := rest }).freeAcked seg >>= ackUnacked ackno rest
      else .ok c

/-- The loop over `unsent`. -/
def ackUnsent (ackno : Seq) : List Seg → Conn → Except Fault Conn
  | [], c => .ok c
  | seg :: rest, c =>
      if Between ackno seg.right c.pcb.snd.sndNxt then
        (c.setSnd fun s => {
          s with
          unsent := rest
          unsentOversize := if rest = [] then 0 else s.unsentOversize }).freeAcked seg >>=
          ackUnsent ackno rest
      else .ok c

/-- An acknowledgement of new data. -/
def newAck (ackno : Seq) : Except Fault Conn := do
  let c := if c.pcb.flags.infr then
      (c.setFlags fun f => { f with infr := false }).setCtl fun t => { t with cwnd := t.ssthresh }
    else c
  let c := (c.setCtl fun t =>
      { t with nrtx := 0, rto := s16 (t.sa / 8 + t.sv), dupacks := 0 }).setSnd fun s =>
    let acked := u16 (ackno - s.lastack).toNat
    { s with acked := acked, sndBuf := u16 (s.sndBuf + acked), lastack := ackno }
  let c ← c.openCwnd
  let c ← ackUnacked ackno c.pcb.snd.unacked c
  .ok (c.setCtl fun t =>
    { t with rtime := if c.pcb.snd.unacked = [] then -1 else 0, polltmr := 0 })

/-- "RTT estimation calculations." -/
def estimateRtt (ackno : Seq) : Conn :=
  if c.pcb.ctl.rttest ≠ 0 ∧ Lt c.pcb.ctl.rtseq ackno then
    c.setCtl fun t =>
      let m := s16 (s16 (c.tcpTicks - t.rttest).toNat - t.sa / 8)
      let sa := s16 (t.sa + m)
      let m := s16 ((if m < 0 then s16 (-m) else m) - t.sv / 4)
      let sv := s16 (t.sv + m)
      { t with sa := sa, sv := sv, rto := s16 (sa / 8 + sv), rttest := 0 }
  else c

/-- The acknowledgement is old, or new, or of what has not been sent. -/
def acknowledge (sg : Segment) (edge : Seq) : Except Fault Conn :=
  let s := c.pcb.snd
  if Leq sg.ackno s.lastack then .ok (c.dupAck sg edge)
  else if Between sg.ackno (s.lastack + 1) s.sndNxt then c.newAck sg.ackno
  else .ok (c.setSnd fun s => { s with acked := 0 })

/-- What the acknowledgement of a segment does. -/
def receiveAck (sg : Segment) : Except Fault Conn := do
  let edge := BitVec.ofNat 32 c.pcb.snd.sndWnd + c.pcb.snd.sndWl2
  let c ← (c.updateWindow sg).acknowledge sg edge
  let c ← ackUnsent sg.ackno c.pcb.snd.unsent c
  .ok (c.estimateRtt sg.ackno)

/-! ## What a segment brings -/

/-- The number behind the window. -/
def windowEnd : Seq := c.pcb.rcv.rcvNxt + BitVec.ofNat 32 c.pcb.rcv.rcvWnd

/-- The first edge is trimmed. -/
def trimFirst (sg : Inseg) : Except Fault (Inseg × Conn) :=
  let rcvNxt := c.pcb.rcv.rcvNxt
  if Between rcvNxt (sg.seqno + 1) (sg.seqno + BitVec.ofNat 32 sg.tcplen - 1) then do
    let p ← trim (rcvNxt - sg.seqno).toInt sg.p
    .ok ({ sg with
      seqno := rcvNxt
      len := u16 (sg.len - u16 (rcvNxt - sg.seqno).toNat)
      p := p }, c)
  else .ok (sg, if Lt sg.seqno rcvNxt then c.ackNow else c)

/-- "Adjust length of segment to fit in the window." -/
def trimWindow (sg : Inseg) : Except Fault Inseg :=
  let r := c.pcb.rcv
  if r.rcvWnd < sg.tcpTcplen then do
    let len := if sg.syn then u16 (r.rcvWnd - 1) else r.rcvWnd
    let p ← pbufRealloc len sg.p
    let sg := { sg with fin := false, len := len, p := p }
    assert .notTrimmed (sg.seqno + BitVec.ofNat 32 sg.tcpTcplen = c.windowEnd)
    .ok sg
  else .ok sg

/-- The segment is the next in the sequence. -/
def takeSeg (sg : Inseg) : Except Fault (Received × Conn) := do
  let sg ← c.trimWindow sg
  let tcplen := sg.tcpTcplen
  assert .tcplen (tcplen ≤ c.pcb.rcv.rcvWnd)
  let c := c.setHist fun h => {
    h with
    got := h.got ++ bytes sg.p
    gotFin := h.gotFin || sg.fin }
  let (_, c) ← (c.setRcv fun r => {
    r with
    rcvNxt := sg.seqno + BitVec.ofNat 32 tcplen
    rcvWnd := r.rcvWnd - tcplen }).tcpUpdateRcvAnnWnd
  .ok ({
    recvData := if (sg.p.head?.map Buf.totLen).getD 0 > 0 then some sg.p else none
    gotFin := sg.fin
    reset := false
    closed := false }, c.ack)

/-- What the data of a segment does. -/
def receiveData (sg : Inseg) : Except Fault (Received × Conn) :=
  if 0 < sg.tcplen ∧ c.pcb.state.num < TcpState.closeWait.num then do
    let (sg, c) ← c.trimFirst sg
    let r := c.pcb.rcv
    if Between sg.seqno r.rcvNxt (c.windowEnd - 1) then
      if r.rcvNxt = sg.seqno then c.takeSeg sg else .ok (nothing, c.tcpSendEmptyAck)
    else .ok (nothing, c.tcpSendEmptyAck)
  else if Between sg.seqno c.pcb.rcv.rcvNxt (c.windowEnd - 1) then .ok (nothing, c)
  else .ok (nothing, c.ackNow)

/-- `tcp_receive` -/
def tcpReceive (sg : Segment) : Except Fault (Received × Conn) := do
  assert .wrongState (TcpState.established.num ≤ c.pcb.state.num)
  let c ← (if sg.ack then c.receiveAck sg else .ok c)
  c.receiveData sg.inseg

/-! ## The states -/

/-- The loop of `tcp_parseopt`, which is at `i`; the result is `pcb->mss`. -/
def parseoptLoop (opts : ℕ → UInt8) (maxC : ℕ) : ℕ → ℕ → ℕ → ℕ
  | 0, _, mss => mss
  | n + 1, i, mss =>
      if i < maxC then
        if opts i = 0 then mss
        else if opts i = 1 then parseoptLoop opts maxC n (i + 1) mss
        else if opts i = 2 then
          if opts (i + 1) ≠ 4 ∨ maxC < i + 4 then mss
          else
            let new := (opts (i + 2)).toNat * 256 + (opts (i + 3)).toNat
            parseoptLoop opts maxC n (i + 4) (if tcpMss < new ∨ new = 0 then tcpMss else new)
        else if opts (i + 1) = 0 then mss
        else parseoptLoop opts maxC n (i + (opts (i + 1)).toNat) mss
      else mss

/-- `tcp_parseopt`; every turn passes over a byte at least. -/
def tcpParseopt (sg : Segment) : Conn :=
  if 5 < sg.hdrlen then
    let maxC := (sg.hdrlen - 5) * 4
    { c with pcb := { c.pcb with mss := parseoptLoop sg.opts maxC maxC 0 c.pcb.mss } }
  else c

/-- `netif->mtu` of the one interface there is. -/
def netifMtu : ℕ := 1500

/-- `tcp_eff_send_mss` -/
def tcpEffSendMss (sendmss : ℕ) : ℕ := min sendmss (netifMtu - 20 - 20)

/-- The congestion window when the connection is established. -/
def firstCwnd (old : ℕ) : Conn :=
  c.setCtl fun t => { t with cwnd := if old = 1 then u16 (c.pcb.mss * 2) else c.pcb.mss }

/-- The reset that `tcp_process` sends. -/
def rstFor (sg : Segment) : Conn := c.tcpRst sg.ackno (sg.seqno + BitVec.ofNat 32 sg.tcplen)

/-- `SYN_SENT`, with an acknowledgement of our `SYN`. -/
def connect (sg : Segment) (rest : List Seg) : Except Fault (Err × Received × Conn) := do
  let c := (c.setSnd fun s => {
    s with
    sndBuf := u16 (s.sndBuf + 1)
    lastack := sg.ackno
    sndWnd := sg.wnd
    sndWndMax := sg.wnd
    sndWl1 := sg.seqno - 1 }).setRcv fun r =>
      { r with rcvNxt := sg.seqno + 1, rcvAnnRightEdge := sg.seqno + 1 }
  let c : Conn := { c with pcb := { c.pcb with mss := tcpEffSendMss c.pcb.mss } }
  let c := ((c.setState .established).setCtl fun t =>
    { t with ssthresh := u16 (c.pcb.mss * 10) }).firstCwnd c.pcb.ctl.cwnd
  assert .synQueue (0 < c.pcb.snd.sndQueuelen)
  let c := (c.setSnd fun s => {
    s with
    sndQueuelen := s.sndQueuelen - 1
    unacked := rest }).setCtl fun t =>
      if rest = [] then { t with rtime := -1 } else { t with rtime := 0, nrtx := 0 }
  let (err, c) ← c.callback .connected
  if err = .abrt then .ok (.abrt, nothing, c)
  else do
    c.alive
    .ok (.ok, nothing, c.ackNow)

/-- `SYN_RCVD`, with an acknowledgement of our `SYN`. -/
def accept (sg : Segment) : Except Fault (Err × Received × Conn) := do
  let c := c.setHist fun h => { h with known := true }
  let (err, c) ← (c.setState .established).callback .accepted
  if err ≠ .ok then
    if err = .abrt then .ok (.abrt, nothing, c)
    else do
      c.alive
      let c ← c.tcpAbort
      .ok (.abrt, nothing, c)
  else do
    c.alive
    let oldCwnd := c.pcb.ctl.cwnd
    let (rx, c) ← c.tcpReceive sg
    let c := (c.setSnd fun s => { s with acked := s.acked - 1 }).firstCwnd oldCwnd
    .ok (.ok, rx, if rx.gotFin then c.ackNow.setState .closeWait else c)

/-- Our `FIN` is acknowledged. -/
def finAcked (sg : Segment) : Bool := sg.ack && sg.ackno == c.pcb.snd.sndNxt

def enterTimeWait : Conn := (c.tcpPcbPurge.setChanged).setState .timeWait

/-- The states behind `SYN_RCVD`. -/
def processOpen (sg : Segment) : Except Fault (Err × Received × Conn) := do
  let state := c.pcb.state
  let (rx, c) ← c.tcpReceive sg
  match state with
  | .closeWait | .established =>
      .ok (.ok, rx, if rx.gotFin then c.ackNow.setState .closeWait else c)
  | .finWait1 =>
      .ok (.ok, rx,
        if rx.gotFin then
          if c.finAcked sg then c.ackNow.enterTimeWait else c.ackNow.setState .closing
        else if c.finAcked sg then c.setState .finWait2 else c)
  | .finWait2 => .ok (.ok, rx, if rx.gotFin then c.ackNow.enterTimeWait else c)
  | .closing => .ok (.ok, rx, if c.finAcked sg then c.enterTimeWait else c)
  | _ => .ok (.ok, { rx with closed := c.finAcked sg }, c)

/-- A reset that is meant for this connection. -/
def resets (sg : Segment) : Bool :=
  if c.pcb.state = .synSent then sg.ackno = c.pcb.snd.sndNxt
  else Between sg.seqno c.pcb.rcv.rcvNxt c.windowEnd

/-- `tcp_process` -/
def tcpProcess (sg : Segment) : Except Fault (Err × Received × Conn) :=
  if sg.rst then
    if c.resets sg then
      .ok (.rst, { nothing with reset := true }, c.setFlags fun f => { f with ackDelay := false })
    else .ok (.ok, nothing, c)
  else if sg.syn ∧ c.pcb.state ≠ .synSent ∧ c.pcb.state ≠ .synRcvd then
    .ok (.ok, nothing, c.ackNow)
  else
    let c := c.setCtl fun t =>
      { t with tmr := if c.pcb.flags.rxclosed then t.tmr else c.tcpTicks, keepCntSent := 0 }
    let c := c.tcpParseopt sg
    match c.pcb.state with
    | .synSent =>
        if sg.ack then
          if sg.syn then
            match c.pcb.snd.unacked with
            | [] => .error .dangling
            | seg :: rest =>
                if sg.ackno = seg.seqno + 1 then c.connect sg rest
                else .ok (.ok, nothing, c.rstFor sg)
          else .ok (.ok, nothing, c.rstFor sg)
        else .ok (.ok, nothing, c)
    | .synRcvd =>
        if sg.ack then
          if Between sg.ackno (c.pcb.snd.lastack + 1) c.pcb.snd.sndNxt then c.accept sg
          else .ok (.ok, nothing, c.rstFor sg)
        else if sg.syn ∧ sg.seqno = c.pcb.rcv.rcvNxt - 1 then .ok (.ok, nothing, c.tcpRexmit)
        else .ok (.ok, nothing, c)
    | .closed | .timeWait => .ok (.ok, nothing, c)
    | _ => c.processOpen sg

/-! ## What the application is told -/

/-- The other end has closed: the window is corrected, since nobody reads the `FIN`. -/
def deliverFin : Except Fault (Err × Conn) :=
  (c.setRcv fun r =>
    { r with rcvWnd := if r.rcvWnd ≠ tcpWnd then r.rcvWnd + 1 else r.rcvWnd }).callback .closed

/-- `tcp_process_refused_data`, of the data `d` -/
def tcpProcessRefusedData (d : Refused) : Except Fault (Err × Conn) := do
  let (err, c) ← (c.setRcv fun r => { r with refusedData := none }).callback (.recv (bytes d.p))
  match err with
  | .ok =>
      if d.fin then do
        c.alive
        c.deliverFin
      else .ok (.ok, c)
  | .abrt => .ok (.abrt, c)
  | _ => do
      c.alive
      .ok (.ok, c.setRcv fun r => { r with refusedData := some d })

/-- `tcp_timewait_input` -/
def tcpTimewaitInput (sg : Segment) : Conn :=
  if sg.rst then c
  else if sg.syn ∧ Between sg.seqno c.pcb.rcv.rcvNxt c.windowEnd then c.rstFor sg
  else
    let c := if !sg.syn && sg.fin then c.setCtl fun t => { t with tmr := c.tcpTicks } else c
    if 0 < sg.tcplen then c.ackNow.tcpOutput else c

/-- A connection is given back, and the application told. -/
def drop (e : Option Err) : Except Fault Conn := do
  let c := match e with
    | some e => c.tell e
    | none => c
  let c ← c.tcpPcbRemove
  .ok c.free

/-- `TCP_EVENT_SENT`; the result is whether the code goes on. -/
def tellSent : Except Fault (Bool × Conn) :=
  if 0 < c.pcb.snd.acked then do
    let (err, c) ← c.callback fun _ => .sent c.pcb.snd.acked
    if err = .abrt then .ok (false, c)
    else do
      c.alive
      .ok (true, c)
  else .ok (true, c)

/-- The data is handed over, or kept. -/
def tellData (rx : Received) : Except Fault (Bool × Conn) :=
  match rx.recvData with
  | none => .ok (true, c)
  | some p => do
      assert .refusedData (c.pcb.rcv.refusedData.isNone)
      if c.pcb.flags.rxclosed then do
        let c ← c.lose.tcpAbort
        .ok (false, c)
      else do
        let (err, c) ← c.callback (.recv (bytes p))
        if err = .abrt then .ok (false, c)
        else do
          c.alive
          .ok (true,
            if err = .ok then c else c.setRcv fun r => { r with refusedData := some ⟨p, false⟩ })

/-- The end is announced, unless data is in front of it. -/
def tellFin (rx : Received) : Except Fault (Bool × Conn) :=
  if rx.gotFin then
    match c.pcb.rcv.refusedData with
    | some d => .ok (true, c.setRcv fun r => { r with refusedData := some { d with fin := true } })
    | none => do
        let (err, c) ← c.deliverFin
        if err = .abrt then .ok (false, c)
        else do
          c.alive
          .ok (true, c)
  else .ok (true, c)

/-- `tcp_input_pcb` points to the control block. -/
def enter : Conn := { c with input := true }

def leave : Conn := { c with input := false }

/-- What `tcp_input` does behind `tcp_process`. -/
def finish (rx : Received) : Except Fault Conn := do
  let (more, c) ← c.tellSent
  let (more, c) ← (if more then c.tellData rx else .ok (false, c))
  let (more, c) ← (if more then c.tellFin rx else .ok (false, c))
  .ok (if more then c.leave.tcpOutput else c.leave)

/-- `tcp_input`, when there is no refused data, or it has been taken. -/
def inputSegment (sg : Segment) : Except Fault Conn := do
  let (err, rx, c) ← c.enter.tcpProcess sg
  if err = .abrt then .ok (c.leave)
  else if rx.reset then leave <$> c.drop (some .rst)
  else if rx.closed then
    leave <$> c.drop (if c.pcb.flags.rxclosed then none else some .clsd)
  else c.finish rx

/-- `tcp_input`, of a segment for this connection, as long as there is one. -/
def tcpInput (sg : Segment) : Except Fault Conn :=
  if c.freed then .ok c
  else if c.pcb.state = .timeWait then .ok (c.tcpTimewaitInput sg)
  else
    match c.pcb.rcv.refusedData with
    | none => c.inputSegment sg
    | some d => do
        let (err, c) ← c.tcpProcessRefusedData d
        if err = .abrt then .ok c
        else do
          c.alive
          if c.pcb.rcv.refusedData.isSome ∧ 0 < sg.tcplen then .ok c
          else c.inputSegment sg

end Conn

end Lgt8.Tcp

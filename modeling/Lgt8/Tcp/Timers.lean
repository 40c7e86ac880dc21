import Mathlib.Tactic
import Lgt8.Tcp.Input

/-!
# The timers, and runs (`tcp_fasttmr`, `tcp_slowtmr` and `tcp_alloc` in `core/tcp.c`)

Four times a second a delayed acknowledgement goes out and refused data is offered again.  Twice a
second what has not been acknowledged in time is sent once more, with the time doubled, and a
connection that has waited too long for something is given up.

* `tcpFasttmr`, `tcpSlowtmr` — the timers, as far as they are about this connection.
* `tcpAlloc`, `passiveOpen` — a new control block, and the one for a `SYN` to a listener.
* `Label`, `Turn`, `step` — what may happen, with what the allocators answer and the application
  does.
-/

namespace Lgt8.Tcp

open Library Library.Serial

namespace Conn

variable (c : Conn)

/-- `tcp_fasttmr` -/
def tcpFasttmr : Except Fault Conn :=
  if c.freed ∨ c.pcb.state = .timeWait then .ok c
  else
    let c := if c.pcb.flags.ackDelay then c.ackNow.tcpOutput.clearAck else c
    match c.pcb.rcv.refusedData with
    | none => .ok c
    | some d => Prod.snd <$> c.tcpProcessRefusedData d

/-- Ticks since something was heard. -/
def idleTicks : ℕ := (c.tcpTicks - c.pcb.ctl.tmr).toNat

/-- The persist timer. -/
def persistTimer : Except Fault Conn :=
  let t := c.pcb.ctl
  match tcpPersistBackoff[t.persistBackoff - 1]? with
  | none => .error .table
  | some limit =>
      if limit ≤ u8 (t.persistCnt + 1) then
        (c.setCtl fun t => {
          t with
          persistCnt := 0
          persistBackoff :=
            if t.persistBackoff < tcpPersistBackoff.length then t.persistBackoff + 1
            else t.persistBackoff }).tcpZeroWindowProbe
      else .ok (c.setCtl fun t => { t with persistCnt := u8 (t.persistCnt + 1) })

/-- "Reduce congestion window and ssthresh." -/
def backOff : Conn :=
  (c.setCtl fun t =>
    let half := min t.cwnd c.pcb.snd.sndWnd / 2
    { t with
      rtime := 0
      ssthresh := if half < c.pcb.mss * 2 then u16 (c.pcb.mss * 2) else half
      cwnd := c.pcb.mss }).tcpRexmitRto

/-- "Time for a retransmission." -/
def retransmit : Except Fault Conn :=
  if c.pcb.state = .synSent then .ok c.backOff
  else
    match tcpBackoff[c.pcb.ctl.nrtx]? with
    | none => .error .table
    | some shift =>
        .ok (c.setCtl fun t => { t with rto := s16 ((t.sa / 8 + t.sv) * 2 ^ shift) }).backOff

/-- The retransmission timer. -/
def rexmitTimer : Except Fault Conn :=
  let c := c.setCtl fun t => { t with rtime := if 0 ≤ t.rtime then s16 (t.rtime + 1) else t.rtime }
  if c.pcb.snd.unacked ≠ [] ∧ c.pcb.ctl.rto ≤ c.pcb.ctl.rtime then c.retransmit else .ok c

/-- It has been sent too often. -/
def gaveUp : Prop :=
  c.pcb.state = .synSent ∧ c.pcb.ctl.nrtx = tcpSynmaxrtx ∨ c.pcb.ctl.nrtx = tcpMaxrtx

instance : Decidable c.gaveUp := inferInstanceAs (Decidable (_ ∨ _))

/-- It has waited too long in its state. -/
def stuck : Prop :=
  (c.pcb.state = .finWait2 ∧ c.pcb.flags.rxclosed ∧
      tcpFinWaitTimeout / tcpSlowInterval < c.idleTicks) ∨
    (c.pcb.state = .synRcvd ∧ tcpSynRcvdTimeout / tcpSlowInterval < c.idleTicks) ∨
    (c.pcb.state = .lastAck ∧ 2 * tcpMsl / tcpSlowInterval < c.idleTicks)

instance : Decidable c.stuck := inferInstanceAs (Decidable (_ ∨ _ ∨ _))

/-- Whether it is looked after when nothing is sent. -/
def keptAlive : Prop :=
  c.pcb.ctl.keepalive ∧ (c.pcb.state = .established ∨ c.pcb.state = .closeWait)

instance : Decidable c.keptAlive := inferInstanceAs (Decidable (_ ∧ _))

/-- The other end has not answered for too long. -/
def keepaliveTimeout : Prop :=
  c.keptAlive ∧ (c.pcb.ctl.keepIdle + tcpMaxidle) / tcpSlowInterval < c.idleTicks

instance : Decidable c.keepaliveTimeout := inferInstanceAs (Decidable (_ ∧ _))

/-- The other end is asked. -/
def keepaliveTimer : Conn :=
  if c.keptAlive ∧
      (c.pcb.ctl.keepIdle + c.pcb.ctl.keepCntSent * tcpKeepintvlDefault) / tcpSlowInterval <
        c.idleTicks then
    c.tcpKeepalive.setCtl fun t => { t with keepCntSent := u8 (t.keepCntSent + 1) }
  else c

/-- The application is polled. -/
def pollTimer : Except Fault Conn :=
  if c.pcb.ctl.pollinterval ≤ u8 (c.pcb.ctl.polltmr + 1) then do
    let c := { c.setCtl fun t => { t with polltmr := 0 } with changed := false }
    let (err, c) ← c.callback fun _ => .poll
    if c.changed then .ok c
    else if err = .ok then do
      c.alive
      .ok c.tcpOutput
    else .ok c
  else .ok (c.setCtl fun t => { t with polltmr := u8 (t.polltmr + 1) })

/-- It is removed. -/
def giveUp (reset : Bool) : Conn :=
  let c := c.tcpPcbPurge
  let c := if reset then c.tcpRst c.pcb.snd.sndNxt c.pcb.rcv.rcvNxt else c
  c.free.tell .abrt

/-- `tcp_slowtmr`, for an active connection. -/
def slowActive : Except Fault Conn := do
  let remove := decide c.gaveUp
  let c ←
    (if remove then .ok c
    else if 0 < c.pcb.ctl.persistBackoff then c.persistTimer
    else c.rexmitTimer)
  let reset := decide c.keepaliveTimeout
  let c := if reset then c else c.keepaliveTimer
  if remove ∨ reset ∨ c.stuck then .ok (c.giveUp reset) else c.pollTimer

/-- `tcp_slowtmr`, for a connection in `TIME_WAIT`. -/
def slowTimeWait : Conn :=
  if 2 * tcpMsl / tcpSlowInterval < c.idleTicks then c.tcpPcbPurge.free else c

/-- `tcp_slowtmr` -/
def tcpSlowtmr : Except Fault Conn := do
  let c := { c with tcpTicks := c.tcpTicks + 1 }
  let c ← (if c.freed ∨ c.pcb.state = .timeWait then .ok c else c.slowActive)
  .ok (if c.freed ∨ c.pcb.state ≠ .timeWait then c else c.slowTimeWait)

end Conn

/-! ## Beginning -/

/-- `tcp_alloc`, where there is memory: `keepalive` is inherited from the listener. -/
def tcpAlloc (iss : Seq) (ticks : BitVec 32) (keepalive : Bool) : Pcb where
  state := .closed
  flags := ⟨false, false, false, false, false, false, false⟩
  mss := 536
  rcv := ⟨0, tcpWnd, tcpWnd, 0, none⟩
  snd := {
    sndNxt := iss, sndWl1 := 0, sndWl2 := iss, sndLbb := iss, lastack := iss
    sndWnd := 0, sndWndMax := 0, acked := 0, sndBuf := tcpSndBuf, sndQueuelen := 0
    unsentOversize := 0, unsent := [], unacked := [] }
  ctl := {
    rtime := -1, rttest := 0, rtseq := 0, sa := 0, sv := 3000 / tcpSlowInterval
    rto := 3000 / tcpSlowInterval, nrtx := 0, dupacks := 0, cwnd := 1, ssthresh := 0
    persistCnt := 0, persistBackoff := 0, polltmr := 0, pollinterval := 0, tmr := ticks
    keepalive := keepalive, keepIdle := tcpKeepidleDefault, keepCntSent := 0 }

/-- The control block that `tcp_listen_input` makes for a `SYN`. -/
def listenPcb (iss : Seq) (ticks : BitVec 32) (keepalive : Bool) (sg : Segment) : Pcb :=
  let pcb := tcpAlloc iss ticks keepalive
  { pcb with
    state := .synRcvd
    rcv := { pcb.rcv with rcvNxt := sg.seqno + 1, rcvAnnRightEdge := sg.seqno + 1 }
    snd := { pcb.snd with sndWnd := sg.wnd, sndWndMax := sg.wnd, sndWl1 := sg.seqno - 1 }
    ctl := { pcb.ctl with ssthresh := sg.wnd } }

/-- Nothing has happened. -/
def noHistory : History := ⟨[], 0, [], false, false, false⟩

/-- `tcp_listen_input` up to the answer. -/
def listenConn (iss : Seq) (ticks : BitVec 32) (keepalive : Bool) (alloc : List Bool)
    (sg : Segment) : Conn :=
  let c : Conn := {
    pcb := listenPcb iss ticks keepalive sg
    freed := false
    input := false
    changed := true
    tcpTicks := ticks
    alloc := alloc
    reactions := []
    hist := noHistory }
  let c := c.tcpParseopt sg
  { c with pcb := { c.pcb with mss := Conn.tcpEffSendMss c.pcb.mss } }

/-- `tcp_listen_input`, for a `SYN` without `ACK`; without a result there is no memory for the
answer. -/
def passiveOpen (iss : Seq) (ticks : BitVec 32) (keepalive : Bool) (alloc : List Bool)
    (sg : Segment) : Option Conn :=
  match (listenConn iss ticks keepalive alloc sg).tcpEnqueueFlags true false with
  | (.ok, c) => some c.tcpOutput
  | _ => none

/-! ## Runs -/

/-- What may happen to a connection. -/
inductive Label
  /-- A segment comes. -/
  | segment (sg : Segment)
  /-- The application calls a function of its own accord. -/
  | call (k : Call)
  /-- The application aborts the connection. -/
  | abort
  /-- The connection is killed to make room for another one. -/
  | kill
  | fasttmr
  | slowtmr

/-- A label, with what the allocators answer, and what the application does when it is called. -/
structure Turn where
  label : Label
  alloc : List Bool
  reactions : List Reaction

def step (c : Conn) (t : Turn) : Except Fault Conn :=
  let c := { c with alloc := t.alloc, reactions := t.reactions }
  match t.label with
  | .segment sg => c.tcpInput sg
  | .call k => c.call k
  | .abort => c.abort
  | .kill => if c.freed then .ok c else c.tcpAbort
  | .fasttmr => c.tcpFasttmr
  | .slowtmr => c.tcpSlowtmr

end Lgt8.Tcp

import Mathlib.Tactic
import Lgt8.Tcp.Output

/-!
# What the application calls (`core/tcp.c`)

The application says what it has read, so that the window can be opened again, and closes or aborts
the connection.  A control block that is closed with data unread is given back at once, or left to
wait without its queues; otherwise a `FIN` is queued behind the data.

* `tcpUpdateRcvAnnWnd`, `tcpRecved` — the window that is announced.
* `tcpPcbPurge`, `tcpPcbRemove`, `tcpAbort` — taking a connection down.
* `tcpCloseShutdown`, `tcpClose`, `tcpShutdown` — closing it.
* `call`, `callback` — any of the functions, and a callback that calls some of them.
-/

namespace Lgt8.Tcp

open Library Library.Serial

namespace Conn

variable (c : Conn)

/-! ## The window -/

/-- `tcp_update_rcv_ann_wnd`: how much more window there would be to announce. -/
def tcpUpdateRcvAnnWnd : Except Fault (BitVec 32 × Conn) :=
  let r := c.pcb.rcv
  let newRightEdge := r.rcvNxt + BitVec.ofNat 32 r.rcvWnd
  if Geq newRightEdge (r.rcvAnnRightEdge + BitVec.ofNat 32 (min (tcpWnd / 2) c.pcb.mss)) then
    .ok (newRightEdge - r.rcvAnnRightEdge, c.setRcv fun r => { r with rcvAnnWnd := r.rcvWnd })
  else if Gt r.rcvNxt r.rcvAnnRightEdge then
    .ok (0, c.setRcv fun r => { r with rcvAnnWnd := 0 })
  else do
    let newRcvAnnWnd := (r.rcvAnnRightEdge - r.rcvNxt).toNat
    assert .annWnd (newRcvAnnWnd ≤ 0xffff)
    .ok (0, c.setRcv fun r => { r with rcvAnnWnd := newRcvAnnWnd })

/-- `tcp_recved` -/
def tcpRecved (len : ℕ) : Except Fault Conn := do
  assert .wrapRcvWnd (len + c.pcb.rcv.rcvWnd ≤ 0xffff)
  let (inflation, c) ← (c.setRcv fun r =>
    { r with rcvWnd := min (r.rcvWnd + len) tcpWnd }).tcpUpdateRcvAnnWnd
  .ok (if tcpWndUpdateThreshold ≤ inflation.toInt then c.ackNow.tcpOutput else c)

/-! ## Taking a connection down -/

/-- Refused data is freed. -/
def dropRefused : Conn :=
  (if c.pcb.rcv.refusedData.isSome then c.lose else c).setRcv fun r =>
    { r with refusedData := none }

/-- `tcp_pcb_purge` -/
def tcpPcbPurge : Conn :=
  if c.pcb.state ≠ .closed ∧ c.pcb.state ≠ .timeWait then
    (c.dropRefused.setSnd fun s =>
      { s with unsent := [], unacked := [], unsentOversize := 0 }).setCtl
      fun t => { t with rtime := -1 }
  else c

/-- `tcp_pcb_remove` -/
def tcpPcbRemove : Except Fault Conn := do
  let c := c.tcpPcbPurge
  let c := if c.pcb.state ≠ .timeWait ∧ c.pcb.flags.ackDelay then c.ackNow.tcpOutput else c
  assert .leaking (c.pcb.snd.unsent = [])
  assert .leaking (c.pcb.snd.unacked = [])
  .ok (c.setState .closed)

/-- `memp_free` -/
def free : Conn := { c with freed := true }

def setChanged : Conn := { c with changed := true }

/-- `TCP_EVENT_ERR` -/
def tell (err : Err) : Conn := (c.note (.err err)).forget

/-- `tcp_abort` -/
def tcpAbort : Except Fault Conn :=
  if c.pcb.state = .timeWait then free <$> c.tcpPcbRemove
  else do
    let c' ← c.tcpPcbRemove
    .ok ((c'.setChanged.tcpRst c.pcb.snd.sndNxt c.pcb.rcv.rcvNxt).free.tell .abrt)

/-! ## Closing it -/

/-- `FIN` is queued; when that succeeds the state changes and what is due is sent. -/
def closeBy (st : TcpState) : Err × Conn :=
  match c.tcpSendFin with
  | (.ok, c) => (.ok, (c.setState st).tcpOutput)
  | (err, c) => (err, c)

/-- `tcp_close_shutdown` -/
def tcpCloseShutdown (rstOnUnackedData : Bool) : Except Fault (Err × Conn) :=
  let r := c.pcb.rcv
  if rstOnUnackedData ∧ (c.pcb.state = .established ∨ c.pcb.state = .closeWait) ∧
      (r.refusedData.isSome ∨ r.rcvWnd ≠ tcpWnd) then do
    assert .rxclosed c.pcb.flags.rxclosed
    let c := (c.tcpRst c.pcb.snd.sndNxt r.rcvNxt).tcpPcbPurge.setChanged
    .ok (.ok, if c.pcb.state = .established then c.setState .timeWait else c.free)
  else
    match c.pcb.state with
    | .closed => .ok (.ok, c.free)
    | .synSent => do
        let c ← c.tcpPcbRemove
        .ok (.ok, c.setChanged.free)
    | .synRcvd => .ok (c.closeBy .finWait1)
    | .established => .ok (c.closeBy .finWait1)
    | .closeWait => .ok (c.closeBy .lastAck)
    | _ => .ok (.ok, c)

def rxclose : Conn := c.setFlags fun f => { f with rxclosed := true }

/-- `tcp_close` -/
def tcpClose : Except Fault (Err × Conn) := c.rxclose.tcpCloseShutdown true

/-- `tcp_shutdown` -/
def tcpShutdown (shutRx shutTx : Bool) : Except Fault (Err × Conn) :=
  if shutRx ∧ shutTx then c.rxclose.tcpCloseShutdown true
  else
    let c := if shutRx then c.rxclose.dropRefused else c
    if shutTx then
      match c.pcb.state with
      | .synRcvd | .established | .closeWait => c.tcpCloseShutdown shutRx
      | _ => .ok (.conn, c)
    else .ok (.ok, c)

/-! ## The application -/

/-- Closed by the application, which must not use the connection any more. -/
def closing (r : Err × Conn) : Conn := if r.1 = .ok then r.2.forget else r.2

/-- Shut down by the application; both directions amount to closing. -/
def shutting (r : Err × Conn) : Conn :=
  if r.2.pcb.flags.rxclosed ∧ r.2.pcb.flags.fin then closing r else r.2

/-- One of the functions is called. -/
def call (k : Call) : Except Fault Conn :=
  if !c.hist.known then .error .misuse
  else if c.freed then .error .dangling
  else
    match k with
    | .recved len =>
        if len ≤ c.hist.unread then
          (c.setHist fun h => { h with unread := h.unread - len }).tcpRecved len
        else .error .misuse
    | .write arg copy more => Prod.snd <$> c.tcpWrite arg copy more
    | .output => .ok c.tcpOutput
    | .close => closing <$> c.tcpClose
    | .shutdown rx tx => shutting <$> c.tcpShutdown rx tx
    | .nodelay on => .ok (c.setFlags fun f => { f with nodelay := on })
    | .poll interval => .ok (c.setCtl fun t => { t with pollinterval := u8 interval })

def calls : List Call → Conn → Except Fault Conn
  | [], c => .ok c
  | k :: ks, c => c.call k >>= calls ks

/-- `tcp_abort`, called by the application. -/
def abort : Except Fault Conn :=
  if !c.hist.known then .error .misuse
  else if c.freed then .error .dangling
  else forget <$> c.tcpAbort

/-- A callback, which is noted as `e`. -/
def callback (e : Err → Event) : Except Fault (Err × Conn) :=
  match c.reactions with
  | [] => .ok (.ok, c.note (e .ok))
  | r :: rest => do
      let c ← calls r.calls ({ c with reactions := rest }.note (e r.err))
      let c := if r.others then c.setChanged else c
      if r.err = .abrt then do
        let c ← c.abort
        .ok (.abrt, c)
      else .ok (r.err, c)

/-- The control block is looked at. -/
def alive : Except Fault Unit := if c.freed then .error .dangling else .ok ()

end Conn

end Lgt8.Tcp

import Mathlib.Tactic
import Lgt8.Tcp.Model

/-!
# Sending (`core/tcp_out.c`)

What the application writes is cut into segments, which wait on `unsent` until the window and
Nagle's algorithm let them out, and on `unacked` until the other end has them.  A segment that is to
be sent again goes back to `unsent`.

* `tcpSendEmptyAck`, `tcpOutputSegment`, `tcpRst`, `tcpKeepalive`, `tcpZeroWindowProbe` — the
  segments that are sent.
* `tcpOutput` — what goes from `unsent` to `unacked`.
* `tcpEnqueueFlags`, `tcpSendFin`, `tcpWrite` — what comes to `unsent`: a flag, or data in the three
  phases of `tcp_write`.
* `tcpRexmitRto`, `tcpRexmit`, `tcpRexmitFast` — what goes back.
-/

namespace Lgt8.Tcp

open Library Library.Serial

def tcpOversize : ℕ := tcpMss

/-- The number behind a segment. -/
def Seg.right (seg : Seg) : Seq := seg.seqno + BitVec.ofNat 32 seg.tcplen

/-- The segment comes in front of the first one that is not before it. -/
def insertSeg (seg : Seg) : List Seg → List Seg
  | [] => [seg]
  | s :: rest => if Lt s.seqno seg.seqno then s :: insertSeg seg rest else seg :: s :: rest

def mapLast (f : Seg → Seg) : List Seg → List Seg
  | [] => []
  | [s] => [f s]
  | s :: t :: rest => s :: mapLast f (t :: rest)

namespace Conn

variable (c : Conn)

/-! ## Segments that are not kept -/

/-- What goes out with every segment: the right edge of the window is announced. -/
def announce : Conn :=
  c.setRcv fun r => { r with rcvAnnRightEdge := r.rcvNxt + BitVec.ofNat 32 r.rcvAnnWnd }

/-- A segment that announces the window is sent. -/
def emit (p : Packet) : Conn := c.announce.note (.out p)

def clearAck : Conn := c.setFlags fun f => { f with ackDelay := false, ackNow := false }

/-- A segment that `tcp_output_alloc_header` has made. -/
def header (seqno : Seq) (fin : Bool) (data : List UInt8) : Packet where
  seqno := seqno
  ackno := c.pcb.rcv.rcvNxt
  fin := fin
  syn := false
  rst := false
  ack := true
  psh := false
  wnd := c.pcb.rcv.rcvAnnWnd
  data := data

/-- `tcp_output_alloc_header`, and what is sent when there is memory for it. -/
def sendHeader (seqno : Seq) (fin : Bool) (data : List UInt8) : Conn :=
  let (room, c) := c.allocate
  if room then c.emit (c.header seqno fin data) else c

/-- `tcp_send_empty_ack` -/
def tcpSendEmptyAck : Conn :=
  if c.allocate.1 then (c.sendHeader c.pcb.snd.sndNxt false []).clearAck
  else c.allocate.2

/-- `tcp_rst` -/
def tcpRst (seqno ackno : Seq) : Conn :=
  let (room, c) := c.allocate
  if room then
    c.note (.out {
      seqno := seqno, ackno := ackno, fin := false, syn := false, rst := true, ack := true,
      psh := false, wnd := tcpWnd, data := [] })
  else c

/-- `tcp_keepalive` -/
def tcpKeepalive : Conn := c.sendHeader (c.pcb.snd.sndNxt - 1) false []

/-- `tcp_zero_window_probe` -/
def tcpZeroWindowProbe : Except Fault Conn :=
  match c.pcb.snd.unacked ++ c.pcb.snd.unsent with
  | [] => .ok c
  | seg :: _ =>
      if seg.fin && seg.len == 0 then .ok (c.sendHeader seg.seqno true [])
      else
        match seg.data with
        | b :: _ => .ok (c.sendHeader seg.seqno false [b])
        | [] => if c.allocate.1 then .error .uninitialised else .ok c.allocate.2

/-! ## What is due -/

/-- `tcp_do_output_nagle` -/
def tcpDoOutputNagle : Bool :=
  let s := c.pcb.snd
  s.unacked.isEmpty || c.pcb.flags.nodelay || c.pcb.flags.infr ||
    (match s.unsent with
      | [] => false
      | seg :: rest => !rest.isEmpty || decide (c.pcb.mss ≤ seg.len)) ||
    s.sndBuf == 0 || decide (tcpSndQueuelen ≤ s.sndQueuelen)

/-- How far the segment reaches behind what is acknowledged. -/
def reach (seg : Seg) : ℕ :=
  (seg.seqno - c.pcb.snd.lastack + BitVec.ofNat 32 seg.len).toNat

/-- The segment as it is sent. -/
def packet (seg : Seg) : Packet where
  seqno := seg.seqno
  ackno := c.pcb.rcv.rcvNxt
  fin := seg.fin
  syn := seg.syn
  rst := false
  ack := seg.ack
  psh := seg.psh
  wnd := c.pcb.rcv.rcvAnnWnd
  data := seg.data

/-- The timers are started. -/
def startTimers (seg : Seg) : Conn :=
  c.setCtl fun t =>
    let t := { t with rtime := if t.rtime = -1 then 0 else t.rtime }
    if t.rttest = 0 then { t with rttest := c.tcpTicks, rtseq := seg.seqno } else t

/-- `tcp_output_segment` -/
def tcpOutputSegment (seg : Seg) : Conn := (c.startTimers seg).emit (c.packet seg)

/-- Where a segment that has been sent goes. -/
def keepSent (seg : Seg) (unacked : List Seg) : List Seg :=
  match unacked.getLast? with
  | none => [seg]
  | some useg => if Lt seg.seqno useg.seqno then insertSeg seg unacked else unacked ++ [seg]

/-- `SYN` alone goes out without an acknowledgement. -/
def acks : Bool := c.pcb.state ≠ .synSent

/-- A segment that goes out gets its acknowledgement. -/
def withAck (seg : Seg) : Seg := { seg with ack := seg.ack || c.acks }

/-- The segment has been sent. -/
def keep (seg : Seg) (rest : List Seg) : Conn :=
  c.setSnd fun s => {
    s with
    unsent := rest
    sndNxt := if Lt s.sndNxt seg.right then seg.right else s.sndNxt
    unacked := if 0 < seg.tcplen then keepSent seg s.unacked else s.unacked }

/-- A turn of the loop of `tcp_output`; `seg` is the first of `unsent`, `rest` are the others. -/
def outputTurn (seg : Seg) (rest : List Seg) : Conn :=
  ((if c.acks then c.clearAck else c).tcpOutputSegment (c.withAck seg)).keep (c.withAck seg) rest

/-- The loop of `tcp_output`, with these segments on `unsent`. -/
def outputLoop (wnd : ℕ) : List Seg → Conn → Conn
  | [], c => c
  | seg :: rest, c =>
      if c.reach seg ≤ wnd ∧
          (c.tcpDoOutputNagle ∨ c.pcb.flags.nagleMemerr ∨ c.pcb.flags.fin) then
        outputLoop wnd rest (c.outputTurn seg rest)
      else c

/-- Nothing can be sent. -/
def blocked (wnd : ℕ) : Bool :=
  match c.pcb.snd.unsent with
  | [] => true
  | seg :: _ => decide (wnd < c.reach seg)

/-- What `tcp_output` does at its end. -/
def flushed : Conn :=
  (c.setSnd fun s =>
    { s with unsentOversize := if s.unsent = [] then 0 else s.unsentOversize }).setFlags
    fun f => { f with nagleMemerr := false }

/-- `tcp_output` -/
def tcpOutput : Conn :=
  if c.input then c
  else
    let wnd := min c.pcb.snd.sndWnd c.pcb.ctl.cwnd
    if c.pcb.flags.ackNow && c.blocked wnd then c.tcpSendEmptyAck
    else (outputLoop wnd c.pcb.snd.unsent c).flushed

/-! ## What is to be sent -/

def memerr : Conn := c.setFlags fun f => { f with nagleMemerr := true }

/-- A segment without data, as `tcp_create_segment` makes it. -/
def flagSeg (syn fin : Bool) : Seg where
  seqno := c.pcb.snd.sndLbb
  data := []
  fin := fin
  syn := syn
  ack := syn
  psh := false
  clen := 1
  oversizeLeft := 0

/-- A segment without data is put on `unsent`. -/
def enqueue (seg : Seg) : Conn :=
  c.setSnd fun s => {
    s with
    unsent := s.unsent ++ [seg]
    unsentOversize := 0
    sndLbb := s.sndLbb + 1
    sndBuf := s.sndBuf - 1
    sndQueuelen := u16 (s.sndQueuelen + seg.clen) }

/-- `TF_FIN` is set, when it is one. -/
def markFin (fin : Bool) : Conn := c.setFlags fun f => { f with fin := f.fin || fin }

/-- `tcp_enqueue_flags`, with `SYN` and `ACK` or with `FIN`. -/
def tcpEnqueueFlags (syn fin : Bool) : Err × Conn :=
  let s := c.pcb.snd
  if tcpSndQueuelen ≤ s.sndQueuelen ∨ tcpSndqueuelenOverflow < s.sndQueuelen then (.mem, c.memerr)
  else if s.sndBuf = 0 then (.mem, c)
  else
    let seg := c.flagSeg syn fin
    let (room, c) := c.allocate
    if room then
      let (room, c) := c.allocate
      if room then
        (.ok, (c.enqueue seg).markFin fin)
      else (.mem, c.memerr)
    else (.mem, c.memerr)

/-- The last segment of `unsent` becomes a `FIN`. -/
def finLast : Conn :=
  c.setSnd fun s =>
    { s with unsent := mapLast (fun seg => { seg with fin := true }) s.unsent }

/-- `tcp_send_fin` -/
def tcpSendFin : Err × Conn :=
  match c.pcb.snd.unsent.getLast? with
  | some last =>
      if !last.syn && !last.fin then
        (.ok, c.finLast.markFin true)
      else c.tcpEnqueueFlags false true
  | none => c.tcpEnqueueFlags false true

/-- Both queues are empty. -/
def idle : Prop := c.pcb.snd.unacked = [] ∧ c.pcb.snd.unsent = []

instance : Decidable c.idle := inferInstanceAs (Decidable (_ ∧ _))

/-- The assertion about `snd_queuelen` and the queues, where it goes one way. -/
def validQueue : Except Fault Unit :=
  assert .validQueue (c.pcb.snd.sndQueuelen ≠ 0 → ¬ c.idle)

/-- `tcp_write_checks` -/
def tcpWriteChecks (len : ℕ) : Except Fault (Err × Conn) :=
  let s := c.pcb.snd
  if c.pcb.state ≠ .established ∧ c.pcb.state ≠ .closeWait ∧ c.pcb.state ≠ .synSent ∧
      c.pcb.state ≠ .synRcvd then .ok (.conn, c)
  else if len = 0 then .ok (.ok, c)
  else if s.sndBuf < len then .ok (.mem, c.memerr)
  else if tcpSndQueuelen ≤ s.sndQueuelen ∨ tcpSndqueuelenOverflow < s.sndQueuelen then
    .ok (.mem, c.memerr)
  else do
    assert .validQueue (s.sndQueuelen = 0 ↔ c.idle)
    .ok (.ok, c)

/-- `tcp_pbuf_prealloc`: the bytes left over, when there is memory. -/
def tcpPbufPrealloc (length maxLength : ℕ) (more firstSeg : Bool) : Option ℕ × Conn :=
  let s := c.pcb.snd
  let alloc :=
    if length < maxLength ∧
        (more ∨ (¬ c.pcb.flags.nodelay ∧ (¬ firstSeg ∨ s.unsent ≠ [] ∨ s.unacked ≠ []))) then
      min maxLength ((length + tcpOversize + 3) / 4 * 4)
    else length
  let (room, c) := c.allocate
  (if room then some (alloc - length) else none, c)

/-- The locals of `tcp_write`. -/
structure Writing where
  oversize : ℕ
  oversizeUsed : ℕ
  space : ℕ
  /-- The bytes of `concat_p`. -/
  concat : Option (List UInt8)
  pos : ℕ
  queuelen : ℕ
  queue : List Seg
  /-- `seg` is `last_unsent`. -/
  touched : Bool

/-- The first phase. -/
def fillOversize (last : Seg) (len mssLocal : ℕ) : Writing :=
  let s := c.pcb.snd
  let space := u16 (mssLocal - (last.len + last.optlen))
  let used := min s.unsentOversize len
  { oversize := s.unsentOversize - used
    oversizeUsed := used
    space := u16 (space - used)
    concat := none
    pos := used
    queuelen := s.sndQueuelen
    queue := []
    touched := decide (0 < s.unsentOversize) }

/-- How much the second phase takes. -/
def Writing.seglen (w : Writing) (len : ℕ) : ℕ := min w.space (len - w.pos)

/-- `concat_p` has been filled. -/
def Writing.chain (w : Writing) (arg : List UInt8) (oversize : ℕ) : Writing :=
  { w with
    oversize := oversize
    concat := some ((arg.drop w.pos).take (w.seglen arg.length))
    pos := w.pos + w.seglen arg.length
    queuelen := w.queuelen + 1
    touched := true }

/-- `oversize_left` of the last segment grows. -/
def growLeft (oversize : ℕ) : Conn :=
  c.setSnd fun s => {
    s with
    unsent :=
      mapLast (fun seg => { seg with oversizeLeft := seg.oversizeLeft + oversize }) s.unsent }

/-- The second phase; without a result there is no memory. -/
def chainTail (arg : List UInt8) (copy more : Bool) (last : Seg) (w : Writing) :
    Option Writing × Conn :=
  if w.pos < arg.length ∧ 0 < w.space ∧ 0 < last.len then
    if copy then
      match c.tcpPbufPrealloc (w.seglen arg.length) w.space more true with
      | (none, c) => (none, c)
      | (some oversize, c) => (some (w.chain arg oversize), c.growLeft oversize)
    else (if c.allocate.1 then some (w.chain arg w.oversize) else none, c.allocate.2)
  else (some w, c)

/-- The buffers of a new segment: their number and what is left over. -/
def newBuffers (seglen mssLocal : ℕ) (copy more : Bool) (w : Writing) :
    Except Fault (Option (ℕ × ℕ) × Conn) :=
  if copy then
    match c.tcpPbufPrealloc seglen mssLocal more w.queue.isEmpty with
    | (none, c) => .ok (none, c)
    | (some oversize, c) => .ok (some (1, oversize), c)
  else do
    assert .zeroCopyOversize (w.oversize = 0)
    if c.allocate.1 then
      let c := c.allocate.2
      .ok (if c.allocate.1 then some (2, w.oversize) else none, c.allocate.2)
    else .ok (none, c.allocate.2)

/-- A new segment. -/
def newSeg (arg : List UInt8) (w : Writing) (seglen clen oversize : ℕ) : Seg where
  seqno := c.pcb.snd.sndLbb + BitVec.ofNat 32 w.pos
  data := (arg.drop w.pos).take seglen
  fin := false
  syn := false
  ack := false
  psh := false
  clen := clen
  oversizeLeft := oversize

/-- It has been put on `queue`. -/
def Writing.push (w : Writing) (seglen oversize : ℕ) (seg : Seg) : Writing :=
  { w with
    oversize := oversize
    pos := w.pos + seglen
    queuelen := w.queuelen + seg.clen
    queue := w.queue ++ [seg] }

/-- The loop of the third phase.  A turn puts at least one more buffer on the queue, which has room
for twelve. -/
def newSegs (arg : List UInt8) (copy more : Bool) (mssLocal : ℕ) :
    ℕ → Writing → Conn → Except Fault (Option Writing × Conn)
  | 0, w, c => .ok (if w.pos < arg.length then none else some w, c)
  | n + 1, w, c =>
      if w.pos < arg.length then do
        let seglen := min (arg.length - w.pos) mssLocal
        let (buffers, c) ← c.newBuffers seglen mssLocal copy more w
        match buffers with
        | none => .ok (none, c)
        | some (clen, oversize) =>
            if tcpSndQueuelen < w.queuelen + clen ∨ tcpSndqueuelenOverflow < w.queuelen + clen then
              .ok (none, c)
            else if c.allocate.1 then
              newSegs arg copy more mssLocal n
                (w.push seglen oversize (c.newSeg arg w seglen clen oversize)) c.allocate.2
            else .ok (none, c.allocate.2)
      else .ok (some w, c)

/-- What the first two phases have prepared for the last segment of `unsent`. -/
def Writing.extend (w : Writing) (arg : List UInt8) (seg : Seg) : Seg :=
  { seg with
    data := seg.data ++ arg.take w.oversizeUsed ++ w.concat.getD []
    clen := seg.clen + if w.concat.isSome then 1 else 0
    oversizeLeft := seg.oversizeLeft - w.oversizeUsed }

def setPsh (seg : Seg) : Seg := { seg with psh := true }

/-- `unsent` when the transaction is committed. -/
def Writing.unsent (w : Writing) (arg : List UInt8) (more : Bool) (unsent : List Seg) : List Seg :=
  let segs := mapLast (w.extend arg) unsent ++ w.queue
  if (!w.queue.isEmpty || w.touched) && !more then mapLast setPsh segs else segs

/-- "Finally update the pcb state." -/
def update (arg : List UInt8) (more : Bool) (w : Writing) : Conn :=
  c.setSnd fun s => {
    s with
    unsent := w.unsent arg more s.unsent
    unsentOversize := w.oversize
    sndLbb := s.sndLbb + BitVec.ofNat 32 arg.length
    sndBuf := s.sndBuf - arg.length
    sndQueuelen := w.queuelen }

/-- Committing the transaction. -/
def commit (arg : List UInt8) (more : Bool) (w : Writing) : Except Fault (Err × Conn) := do
  assert .oversizeLeft
    (0 < w.oversizeUsed → ∀ last ∈ c.pcb.snd.unsent.getLast?, w.oversizeUsed ≤ last.oversizeLeft)
  let c := c.update arg more w
  c.validQueue
  .ok (.ok, c.note (.wrote arg))

/-- The first two phases. -/
def prepare (arg : List UInt8) (copy more : Bool) (mssLocal : ℕ) :
    Except Fault (Option Writing × Conn) :=
  match c.pcb.snd.unsent.getLast? with
  | some last => do
      assert .oversize (c.pcb.snd.unsentOversize = last.oversizeLeft)
      .ok (c.chainTail arg copy more last (c.fillOversize last arg.length mssLocal))
  | none => do
      assert .oversize (c.pcb.snd.unsentOversize = 0)
      .ok (some ⟨0, 0, 0, none, 0, c.pcb.snd.sndQueuelen, [], false⟩, c)

/-- The three phases. -/
def segmentise (arg : List UInt8) (copy more : Bool) (mssLocal : ℕ) :
    Except Fault (Option Writing × Conn) := do
  let (w, c) ← c.prepare arg copy more mssLocal
  match w with
  | some w => newSegs arg copy more mssLocal (tcpSndQueuelen + 1) w c
  | none => .ok (none, c)

/-- `tcp_write` -/
def tcpWrite (arg : List UInt8) (copy more : Bool) : Except Fault (Err × Conn) := do
  let mssLocal := min c.pcb.mss (c.pcb.snd.sndWndMax / 2)
  let (err, c) ← c.tcpWriteChecks arg.length
  if err = .ok then
    let (w, c) ← c.segmentise arg copy more mssLocal
    match w with
    | some w => c.commit arg more w
    | none => do
        c.validQueue
        .ok (.mem, c.memerr)
  else .ok (err, c)

/-! ## What is to be sent again -/

/-- `tcp_rexmit_rto` -/
def tcpRexmitRto : Conn :=
  if c.pcb.snd.unacked = [] then c
  else
    ((c.setSnd fun s => { s with unsent := s.unacked ++ s.unsent, unacked := [] }).setCtl
      fun t => { t with nrtx := u8 (t.nrtx + 1), rttest := 0 }).tcpOutput

/-- `tcp_rexmit` -/
def tcpRexmit : Conn :=
  match c.pcb.snd.unacked with
  | [] => c
  | seg :: rest =>
      (c.setSnd fun s => {
        s with
        unacked := rest
        unsent := insertSeg seg s.unsent
        unsentOversize :=
          -- the segment has come to the end of `unsent`
          if ∀ t ∈ s.unsent, Lt t.seqno seg.seqno then 0 else s.unsentOversize }).setCtl
        fun t => { t with nrtx := u8 (t.nrtx + 1), rttest := 0 }

/-- `tcp_rexmit_fast` -/
def tcpRexmitFast : Conn :=
  if c.pcb.snd.unacked ≠ [] ∧ ¬ c.pcb.flags.infr then
    (c.tcpRexmit.setCtl fun t =>
      let half := if c.pcb.snd.sndWnd < t.cwnd then c.pcb.snd.sndWnd / 2 else t.cwnd / 2
      let ssthresh := if half < 2 * c.pcb.mss then u16 (2 * c.pcb.mss) else half
      { t with ssthresh := ssthresh, cwnd := u16 (ssthresh + 3 * c.pcb.mss) }).setFlags
      fun f => { f with infr := true }
  else c

end Conn

end Lgt8.Tcp

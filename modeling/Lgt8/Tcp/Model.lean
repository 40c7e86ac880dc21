import Mathlib.Tactic
import Lgt8.Library.Runs
import Lgt8.Library.Serial

/-!
# One connection (`struct tcp_pcb` and `struct tcp_seg` in `lwip/tcp.h` and `lwip/tcp_impl.h`)

The web server speaks to its clients through TCP, which numbers the bytes of either direction, cuts
them into segments, and repeats what is not acknowledged.  The model follows a single connection
from the segment that asked for it until its control block is given back.

* `Segment` — what the network brings; `Packet` — what it is given.
* `Seg` — a segment that is kept until it is acknowledged.
* `Receiver`, `Sender`, `Control`, `Flags`, `Pcb` — the control block.
* `Reaction` — what the application does in a callback, and what it answers.
* `History` — what has happened, which the code does not keep.
* `Conn` — the control block, and what is around it: whether `tcp_input` works on it, the answers of
  the allocators, the application's reactions, and the history.
* `Fault` — how the code may fail: an assertion, which does not return, or an access to what is not
  there.
-/

namespace Lgt8.Tcp

open Library

/-! ## Numbers -/

/-- A sequence number. -/
abbrev Seq := BitVec 32

/-- Conversion to `u16_t`. -/
def u16 (x : ℤ) : ℕ := (x % 65536).toNat

/-- Conversion to `u8_t`. -/
def u8 (x : ℤ) : ℕ := (x % 256).toNat

/-- Conversion to `s16_t`. -/
def s16 (x : ℤ) : ℤ := x.bmod 65536

def tcpMss : ℕ := 1500 - 40

def tcpSndBuf : ℕ := 2 * tcpMss

def tcpSndQueuelen : ℕ := 6 * tcpSndBuf / tcpMss

def tcpSndqueuelenOverflow : ℕ := 0xffff - 3

def tcpWnd : ℕ := 2 * tcpMss

def tcpWndUpdateThreshold : ℕ := tcpWnd / 4

def tcpMaxrtx : ℕ := 12

def tcpSynmaxrtx : ℕ := 6

/-- Milliseconds between two ticks of the slow timer. -/
def tcpSlowInterval : ℕ := 500

def tcpFinWaitTimeout : ℕ := 20000

def tcpSynRcvdTimeout : ℕ := 20000

def tcpMsl : ℕ := 60000

def tcpKeepidleDefault : ℕ := 7200000

def tcpKeepintvlDefault : ℕ := 75000

def tcpKeepcntDefault : ℕ := 9

def tcpMaxidle : ℕ := tcpKeepcntDefault * tcpKeepintvlDefault

def tcpBackoff : List ℕ := [1, 2, 3, 4, 5, 6, 7, 7, 7, 7, 7, 7, 7]

def tcpPersistBackoff : List ℕ := [3, 6, 12, 24, 48, 96, 120]

/-! ## Segments -/

/-- A buffer of a chain: the bytes from its payload pointer on, and `tot_len`. -/
structure Buf where
  data : List UInt8
  totLen : ℕ
  deriving DecidableEq

/-- The bytes of a chain. -/
def bytes (p : List Buf) : List UInt8 := p.flatMap Buf.data

/-- Every `tot_len` counts the bytes from its buffer on. -/
def Counted : List Buf → Prop
  | [] => True
  | b :: bs => b.totLen = (bytes (b :: bs)).length ∧ Counted bs

/-- A segment that has come, as `tcp_input` finds it behind its checks. -/
structure Segment where
  seqno : Seq
  ackno : Seq
  fin : Bool
  syn : Bool
  rst : Bool
  ack : Bool
  wnd : ℕ
  /-- The length of the header, in words. -/
  hdrlen : ℕ
  /-- The memory behind the first twenty bytes of the header. -/
  opts : ℕ → UInt8
  /-- The data. -/
  p : List Buf
  wnd_lt : wnd < 65536
  ne_nil : p ≠ []
  counted : Counted p
  /-- The pool has ten buffers of 600 bytes. -/
  length_le : (bytes p).length ≤ 6000

/-- A segment that is sent. -/
structure Packet where
  seqno : Seq
  ackno : Seq
  fin : Bool
  syn : Bool
  rst : Bool
  ack : Bool
  psh : Bool
  wnd : ℕ
  data : List UInt8
  deriving DecidableEq

/-- `struct tcp_seg`, on `unsent` or `unacked`. -/
structure Seg where
  seqno : Seq
  data : List UInt8
  fin : Bool
  syn : Bool
  ack : Bool
  psh : Bool
  /-- How many buffers its data is in. -/
  clen : ℕ
  oversizeLeft : ℕ
  deriving DecidableEq

def Seg.len (seg : Seg) : ℕ := seg.data.length

/-- `TCP_TCPLEN` -/
def Seg.tcplen (seg : Seg) : ℕ := seg.len + if seg.fin || seg.syn then 1 else 0

/-- `LWIP_TCP_OPT_LENGTH`; the option for the maximum segment size goes with `SYN`. -/
def Seg.optlen (seg : Seg) : ℕ := if seg.syn then 4 else 0

/-! ## The control block -/

/-- `enum tcp_state`, without `LISTEN`: the control block of a listener is another one. -/
inductive TcpState
  | closed | synSent | synRcvd | established | finWait1 | finWait2 | closeWait | closing | lastAck
  | timeWait
  deriving DecidableEq

/-- The states are compared by their numbers. -/
def TcpState.num : TcpState → ℕ
  | .closed => 0
  | .synSent => 2
  | .synRcvd => 3
  | .established => 4
  | .finWait1 => 5
  | .finWait2 => 6
  | .closeWait => 7
  | .closing => 8
  | .lastAck => 9
  | .timeWait => 10

/-- `err_t`, as far as it is told apart. -/
inductive Err
  | ok | mem | buf | abrt | rst | clsd | conn
  deriving DecidableEq

/-- The flags of the control block. -/
structure Flags where
  ackDelay : Bool
  ackNow : Bool
  infr : Bool
  rxclosed : Bool
  fin : Bool
  nodelay : Bool
  nagleMemerr : Bool

/-- Data the application has refused, and whether `PBUF_FLAG_TCP_FIN` is set. -/
structure Refused where
  p : List Buf
  fin : Bool

/-- The receiver variables. -/
structure Receiver where
  rcvNxt : Seq
  rcvWnd : ℕ
  rcvAnnWnd : ℕ
  rcvAnnRightEdge : Seq
  refusedData : Option Refused

/-- The sender variables. -/
structure Sender where
  sndNxt : Seq
  sndWl1 : Seq
  sndWl2 : Seq
  sndLbb : Seq
  lastack : Seq
  sndWnd : ℕ
  sndWndMax : ℕ
  acked : ℕ
  sndBuf : ℕ
  sndQueuelen : ℕ
  unsentOversize : ℕ
  unsent : List Seg
  unacked : List Seg

/-- The variables for retransmission and congestion, and the timers. -/
structure Control where
  rtime : ℤ
  rttest : BitVec 32
  rtseq : Seq
  sa : ℤ
  sv : ℤ
  rto : ℤ
  nrtx : ℕ
  dupacks : ℕ
  cwnd : ℕ
  ssthresh : ℕ
  persistCnt : ℕ
  persistBackoff : ℕ
  polltmr : ℕ
  pollinterval : ℕ
  tmr : BitVec 32
  keepalive : Bool
  keepIdle : ℕ
  keepCntSent : ℕ

structure Pcb where
  state : TcpState
  flags : Flags
  mss : ℕ
  rcv : Receiver
  snd : Sender
  ctl : Control

/-! ## The application -/

/-- What the application may call. -/
inductive Call
  | recved (len : ℕ)
  | write (arg : List UInt8) (copy more : Bool)
  | output
  | close
  | shutdown (rx tx : Bool)
  | nodelay (on : Bool)
  | poll (interval : ℕ)
  deriving DecidableEq

/-- A callback: what it calls, what it returns, and whether it has changed the list of connections
for another one's sake.  It returns `ERR_ABRT` when it has called `tcp_abort`, and only then. -/
structure Reaction where
  calls : List Call
  err : Err
  others : Bool
  deriving DecidableEq

/-- What has happened. -/
inductive Event
  /-- A segment is sent. -/
  | out (p : Packet)
  /-- `tcp_write` has taken the data. -/
  | wrote (arg : List UInt8)
  | accepted (err : Err)
  | connected (err : Err)
  | sent (space : ℕ)
  /-- The application is handed data, and answers. -/
  | recv (data : List UInt8) (err : Err)
  /-- The application is told that the other end has closed. -/
  | closed (err : Err)
  | poll
  /-- The application is told that the connection is gone. -/
  | err (err : Err)
  deriving DecidableEq

/-! ## Faults -/

/-- The assertions that are about more than the code around them. -/
inductive Assertion | wrongState | insaneOffset | pbufTooShort | pbufHeader | pbufRealloc |
notTrimmed | tcplen | annWnd | wrapRcvWnd | refusedData | rxclosed | queuelen | validQueue |
oversize | zeroCopyOversize | oversizeLeft | synQueue | leaking deriving DecidableEq

inductive Fault
  /-- `LWIP_ASSERT` does not return. -/
  | assertion (a : Assertion)
  /-- The code goes on with a control block that has been given back, or through a null pointer. -/
  | dangling
  /-- `tcp_backoff` is read behind its end. -/
  | table
  /-- A byte is sent that nobody has written. -/
  | uninitialised
  /-- A number is divided by zero. -/
  | division
  /-- The application uses a connection it does not have, or gives back more than it was handed. -/
  | misuse
  deriving DecidableEq

def assert (a : Assertion) (p : Prop) [Decidable p] : Except Fault Unit :=
  if p then .ok () else .error (.assertion a)

/-! ## The connection -/

/-- History variables: no function of the code depends on them. -/
structure History where
  log : List Event
  /-- How many bytes the application has been handed and has not given back with `tcp_recved`. -/
  unread : ℕ
  /-- The data that has been taken from segments. -/
  got : List UInt8
  /-- A `FIN` has been taken. -/
  gotFin : Bool
  /-- Data that was taken has been dropped. -/
  lost : Bool
  /-- The application has the connection. -/
  known : Bool

/-- The control block, and what is around it. -/
structure Conn where
  pcb : Pcb
  /-- `memp_free` has taken it back. -/
  freed : Bool
  /-- `tcp_input_pcb` points to it. -/
  input : Bool
  /-- `tcp_active_pcbs_changed` -/
  changed : Bool
  tcpTicks : BitVec 32
  /-- Whether the next allocations succeed; those behind do. -/
  alloc : List Bool
  /-- What the application does in the next callbacks; in those behind it does nothing. -/
  reactions : List Reaction
  hist : History

/-- What the application has taken. -/
def Event.taken : Event → List UInt8
  | .recv data .ok => data
  | _ => []

def Event.isClosed : Event → Bool
  | .closed _ => true
  | _ => false

namespace Conn

variable (c : Conn)

/-- `pbuf_alloc` of a buffer to send, or `memp_malloc` of a segment. -/
def allocate : Bool × Conn := (c.alloc.headD true, { c with alloc := c.alloc.tail })

def setHist (f : History → History) : Conn := { c with hist := f c.hist }

def note (e : Event) : Conn :=
  c.setHist fun h => { h with log := h.log ++ [e], unread := h.unread + e.taken.length }

/-- What the application has been handed and has taken. -/
def delivered : List UInt8 := c.hist.log.flatMap Event.taken

/-- The application has been told that the other end has closed. -/
def ended : Bool := c.hist.log.any Event.isClosed

/-- The application no longer has the connection. -/
def forget : Conn := c.setHist fun h => { h with known := false }

/-- Data is dropped. -/
def lose : Conn := c.setHist fun h => { h with lost := true }

def setState (st : TcpState) : Conn := { c with pcb := { c.pcb with state := st } }

def setFlags (f : Flags → Flags) : Conn := { c with pcb := { c.pcb with flags := f c.pcb.flags } }

def setRcv (f : Receiver → Receiver) : Conn := { c with pcb := { c.pcb with rcv := f c.pcb.rcv } }

def setSnd (f : Sender → Sender) : Conn := { c with pcb := { c.pcb with snd := f c.pcb.snd } }

def setCtl (f : Control → Control) : Conn := { c with pcb := { c.pcb with ctl := f c.pcb.ctl } }

/-- `tcp_ack_now` -/
def ackNow : Conn := c.setFlags fun f => { f with ackNow := true }

/-- `tcp_ack` -/
def ack : Conn :=
  c.setFlags fun f =>
    if f.ackDelay then { f with ackDelay := false, ackNow := true } else { f with ackDelay := true }

end Conn

end Lgt8.Tcp

import Mathlib.Tactic
import Lgt8.Kernel.Model
import Lgt8.Net.Pbuf

/-!
# The command socket (`echo_*` in `lwip/httpd.c`)

A client sends its messages over a TCP connection to the echo server.  The first chunk docks it; of
every later chunk the server hands the memory at the first buffer's payload to `ethergate`, which
writes an answer over it, and then echoes the buffers back.  Buffers TCP has no room for wait in
`es->p`, and chunks received while some wait are chained behind them.

What TCP answers is input: `sndbuf` is what the next calls of `tcp_sndbuf` return, and `writes`
what the next calls of `tcp_write` do.  Not in the source are `handed`, the messages given to `ethergate`
so far, and `freed`, the buffers deallocated so far.
-/

namespace Lgt8

/-- Connection states (`enum echo_states`). -/
inductive EchoStates
  | none | accepted | received | closing
  deriving DecidableEq, Repr

/-- The results of lwIP functions the server tells apart. -/
inductive Err
  | ok | mem | other
  deriving DecidableEq, Repr

/-- A connection: `struct echo_state`, what TCP will answer, and what has become of the data. -/
structure Conn (F : Type) where
  state : EchoStates
  retries : UInt8
  /-- `es->p`; `NULL` is the empty chain. -/
  p : List Pbuf
  /-- `echo_close` or `echo_error` has freed the state, and no callback comes any more. -/
  closed : Bool
  kernel : KernelCtx F
  sndbuf : ℕ → ℕ
  writes : ℕ → Err
  /-- The bytes `tcp_write` accepted. -/
  written : List UInt8
  /-- The bytes `tcp_recved` was told of. -/
  recved : ℕ
  handed : List AntaresMsg
  freed : List ℕ

namespace Conn

variable {F : Type}

def log (text : String) (c : Conn F) : Conn F := { c with kernel := logMessage text c.kernel }

/-! ## What the server asks of TCP -/

def tcpSndbuf (c : Conn F) : ℕ × Conn F :=
  (c.sndbuf 0, { c with sndbuf := fun n => c.sndbuf (n + 1) })

def tcpWrite (bs : List UInt8) (c : Conn F) : Err × Conn F :=
  (c.writes 0, { c with
    writes := fun n => c.writes (n + 1)
    written := if c.writes 0 = .ok then c.written ++ bs else c.written })

def tcpRecved (n : ℕ) (c : Conn F) : Conn F := { c with recved := c.recved + n }

/-- `pbuf_free` of a chain of which no pointer is kept. -/
def pbufFree (p : List Pbuf) (c : Conn F) : Conn F :=
  { c with freed := c.freed ++ (Pbuf.free p).1 }

/-! ## Sending -/

/-- The loop of `echo_send`, at most one turn for each buffer that waits. -/
def sendLoop : ℕ → Conn F → Conn F
  | 0, c => c
  | n + 1, c =>
      match c.p with
      | [] => c
      | ptr :: next =>
          let (room, c) := tcpSndbuf c
          if ptr.len ≤ room then
            let (wrErr, c) := tcpWrite ptr.payload c
            match wrErr with
            | .ok =>
                let (freed, rest) := Pbuf.chop ptr next
                sendLoop n (tcpRecved ptr.len { c with p := rest, freed := c.freed ++ freed })
            | .mem => { c with p := ptr :: next }
            | .other => c
          else c

def echoSend (c : Conn F) : Conn F := sendLoop c.p.length c

def echoClose (c : Conn F) : Conn F := { log "Echo close....\r\n" c with closed := true }

/-! ## The callbacks -/

/-- `echo_accept`, with the state allocated. -/
def echoAccept (kernel : KernelCtx F) (sndbuf : ℕ → ℕ) (writes : ℕ → Err) : Conn F where
  state := .accepted
  retries := 0
  p := []
  closed := false
  kernel := logMessage "Someone is trying to talk\r\n" kernel
  sndbuf := sndbuf
  writes := writes
  written := []
  recved := 0
  handed := []
  freed := []

/-- `ethergate` on the first buffer of what has just been received. -/
def gate (c : Conn F) : Conn F :=
  match c.p with
  | [] => c
  | q :: qs =>
      let (reply, kernel) := Kernel.ethergate q.message c.kernel
      { c with p := q.overwrite reply :: qs, kernel := kernel, handed := c.handed ++ [q.message] }

/-- `echo_recv`. -/
def echoRecv (p : List Pbuf) (err : Err) (c : Conn F) : Conn F :=
  if p.isEmpty then
    let c := log "Virna undocked - socket is free and listeneing now \r\n" c
    let c := { c with state := .closing }
    if c.p.isEmpty then echoClose c else echoSend c
  else if err ≠ .ok then
    let c := log "---- Recv -- unknown error received -> cleanup\r\n" c
    pbufFree p { c with p := [] }
  else
    match c.state with
    | .accepted =>
        let c := log "Virna docked on default port (TCP unencripted)\r\n" c
        echoSend { c with state := .received, p := p }
    | .received =>
        if c.p.isEmpty then echoSend (gate { c with p := p })
        else
          let c := log "---- Recv ES_RECEIVED and not done -> pbuf_chain \r\n" c
          { c with p := Pbuf.chain c.p p }
    | .closing =>
        let c := log "---- Recv ES_CLOSING -- Remote side closing twice\r\n" c
        pbufFree p { tcpRecved (Pbuf.bytes p).length c with p := [] }
    | .none =>
        let c := log "---- Recv unknown state -- trashing data\r\n" c
        pbufFree p { tcpRecved (Pbuf.bytes p).length c with p := [] }

def echoError (c : Conn F) : Conn F := { log "Echo error....\r\n" c with closed := true }

def echoPoll (c : Conn F) : Conn F :=
  let c := log "Echo pool....\r\n" c
  if c.p.isEmpty then
    if c.state = .closing then echoClose c else c
  else echoSend c

def echoSent (c : Conn F) : Conn F :=
  let c := { c with retries := 0 }
  if c.p.isEmpty then
    if c.state = .closing then echoClose c else c
  else echoSend c

/-! ## What a chunk does -/

/-- The connections a chunk `p` can leave behind. -/
inductive Received (p : List Pbuf) (c : Conn F) : Conn F → Prop
  | docked (h : c.state = .accepted) :
      Received p c (echoSend { log "Virna docked on default port (TCP unencripted)\r\n" c with
        state := .received, p := p })
  | gated (h : c.state = .received) (hp : c.p = []) :
      Received p c (echoSend (gate { c with p := p }))
  | chained (h : c.state = .received) (hp : c.p ≠ []) :
      Received p c { log "---- Recv ES_RECEIVED and not done -> pbuf_chain \r\n" c with
        p := Pbuf.chain c.p p }
  | trashed (text : String) (h : c.state = .closing ∨ c.state = .none) :
      Received p c (pbufFree p { tcpRecved (Pbuf.bytes p).length (log text c) with p := [] })

/-- **What a chunk does.** -/
theorem echoRecv_received (c : Conn F) {p : List Pbuf} (hp : p ≠ []) :
    Received p c (echoRecv p .ok c) := by
  rw [echoRecv, if_neg (by simpa using hp), if_neg (by simp)]
  cases hs : c.state with
  | accepted => exact .docked hs
  | received =>
      dsimp only
      split
      · next he =>
          have h := Received.gated (p := p) hs (List.isEmpty_iff.mp he)
          rwa [hs] at h
      · next he => exact .chained hs (fun h0 => he (List.isEmpty_iff.mpr h0))
  | closing => exact .trashed _ (Or.inl hs)
  | none => exact .trashed _ (Or.inr hs)

end Conn

end Lgt8

import Mathlib.Tactic
import Lgt8.Library.Layout
import Lgt8.Library.Runs
import Lgt8.Net.Echo

/-!
# The web server (`http_*` in `lwip/httpd.c`, `lwip/fs.c`)

A client asks for a file over a connection of its own.  Its request may come in several chunks, which
wait in `hs->req` until it is complete; the file is then handed to TCP as TCP has room for it, and the
connection closed.

What TCP answers is input, as it is for the command socket: `sndbuf`, `queuelen`, `writes` and `closes`
are what the next calls of `tcp_sndbuf`, `tcp_sndqueuelen`, `tcp_write` and `tcp_close` return.  The
files are the parameter `root`, which is `FS_ROOT`.

* `strnstr`, `httpParseRequest`, `httpFindFile`, `httpInitFile` — from the bytes of a request to a
  file.
* `httpWrite`, `httpSend` — handing it to TCP.
* `httpRecv`, `httpSent`, `httpPoll`, `httpErr` — the callbacks; `step` is any of them, or the
  interrupt of the button.
-/

namespace Lgt8.Http

open Library

/-- `LWIP_ASSERT` does not return. -/
inductive Fault
  | assertion
  deriving DecidableEq

def assert (p : Prop) [Decidable p] : Except Fault Unit := if p then .ok () else .error .assertion

/-! ## Files -/

/-- `struct fsdata_file`, without the link. -/
structure FsdataFile where
  name : List UInt8
  data : List UInt8
  httpHeaderIncluded : Bool

/-- `struct fs_file`. -/
structure FsFile where
  data : List UInt8
  len : ℕ
  index : ℕ
  httpHeaderIncluded : Bool

/-- `fs_open`; the files are the list from `FS_ROOT` on. -/
def fsOpen (root : List FsdataFile) (name : List UInt8) : Option FsFile :=
  (root.find? fun f => f.name = name).map fun f =>
    ⟨f.data, f.data.length, f.data.length, f.httpHeaderIncluded⟩

def fsBytesLeft (file : FsFile) : ℤ := file.len - file.index

/-! ## Texts -/

/-- The loop of `strnstr`, which is at `p`. -/
def strnstrLoop (m : Memory) (token : List UInt8) (last : ℕ) : ℕ → ℕ → Option ℕ
  | 0, _ => none
  | n + 1, p =>
      if m p ≠ 0 ∧ p + token.length ≤ last then
        if m.load p token.length = token then some p else strnstrLoop m token last n (p + 1)
      else none

/-- `strnstr`, of a token that is not empty. -/
def strnstr (m : Memory) (buffer : ℕ) (token : List UInt8) (n : ℕ) : Option ℕ :=
  strnstrLoop m token (buffer + n) (n + 1) buffer

def crlf : List UInt8 := [13, 10]

/-- A name and its value, cut at the first `=`. -/
def nameValue (pair : List UInt8) : List UInt8 × Option (List UInt8) :=
  let name := pair.takeWhile (· ≠ 61)
  (name, if 61 ∈ pair then some (pair.drop (name.length + 1)) else none)

/-- The loop of `extract_uri_parameters`, with at most so many turns. -/
def extractPairs : ℕ → List UInt8 → List (List UInt8 × Option (List UInt8))
  | 0, _ => []
  | n + 1, pair =>
      let this := pair.takeWhile (· ≠ 38)
      if 38 ∈ pair then nameValue this :: extractPairs n (pair.drop (this.length + 1))
      else [nameValue (pair.takeWhile (· ≠ 32))]

/-- `extract_uri_parameters`; `NULL` is `none`. -/
def extractUriParameters (params : Option (List UInt8)) : List (List UInt8 × Option (List UInt8)) :=
  match params with
  | none => []
  | some [] => []
  | some pair => extractPairs 16 pair

/-! ## What a request says -/

/-- The results of `http_parse_request`. -/
inductive Parsed
  | ok | inprogress | arg | use
  deriving DecidableEq

/-- What there is of the request says. -/
inductive Line
  | get (uri : List UInt8) (is09 : Bool)
  | unsupported
  | incomplete

/-- The middle of `http_parse_request`, on `dataLen` bytes. -/
def parseLine (data : Memory) (dataLen : ℕ) : Line :=
  if 7 ≤ dataLen then
    if strnstr data 0 crlf dataLen ≠ none then
      if data.load 0 4 = ascii "GET " then
        let leftLen := dataLen - 4
        let (sp2, is09) :=
          match strnstr data 4 (ascii " ") leftLen with
          | some sp2 => (some sp2, false)
          | none => (strnstr data 4 crlf leftLen, true)
        match sp2 with
        | some sp2 =>
            if strnstr data 0 (crlf ++ crlf) dataLen ≠ none then
              .get ((data.load 4 (sp2 - 4)).takeWhile (· ≠ 0)) is09
            else .incomplete
        | none => .incomplete
      else .unsupported
    else .incomplete
  else .incomplete

/-- `p->tot_len`. -/
def totLen (p : List Pbuf) : ℕ := (Pbuf.bytes p).length % 2 ^ 16

/-- `LWIP_HTTPD_MAX_REQ_LENGTH`, which is `LWIP_HTTPD_REQ_BUFSIZE` too. -/
def maxReqLength : ℕ := 1023

/-- `LWIP_HTTPD_REQ_QUEUELEN`. -/
def reqQueuelen : ℕ := 5

/-! ## The connection -/

/-- `struct http_state`; `NULL` is `none`, and `file` is an offset into the data of the handle. -/
structure HttpState where
  handle : Option FsFile
  file : Option ℕ
  req : List Pbuf
  left : ℕ
  retries : UInt8
  params : List (List UInt8 × Option (List UInt8))

/-- `http_state_init`. -/
def httpStateInit : HttpState := ⟨none, none, [], 0, 0, []⟩

/-- The bytes from `hs->file` on. -/
def HttpState.rest (hs : HttpState) : List UInt8 :=
  match hs.handle, hs.file with
  | some handle, some file => handle.data.drop file
  | _, _ => []

/-- `http_get_404_file`. -/
def httpGet404File (root : List FsdataFile) : Option FsFile :=
  match fsOpen root (ascii "/404.html") with
  | some file => some file
  | none =>
      match fsOpen root (ascii "/404.htm") with
      | some file => some file
      | none => fsOpen root (ascii "/404.shtml")

/-- `g_psDefaultFilenames`, without what says that a file has tags. -/
def defaultFilenames : List (List UInt8) :=
  [ascii "/index.shtml", ascii "/index.ssi", ascii "/index.shtm", ascii "/index.html",
    ascii "/index.htm"]

/-- `http_init_file`. -/
def httpInitFile (file : Option FsFile) (is09 : Bool) (hs : HttpState) : Except Fault HttpState :=
  match file with
  | none => .ok { hs with handle := none, file := none, left := 0, retries := 0 }
  | some file =>
      assert file.httpHeaderIncluded >>= fun _ =>
        let diff :=
          if file.httpHeaderIncluded ∧ is09 then
            match strnstr (fun i => file.data.getD i 0) 0 (crlf ++ crlf) file.len with
            | some start => start + 4
            | none => 0
          else 0
        .ok { hs with
          handle := some file, file := some diff, left := file.len - diff, retries := 0 }

/-- A connection, with what TCP will answer and what has become of the data. -/
structure Conn where
  /-- The argument of the callbacks. -/
  hs : Option HttpState
  /-- `http_poll` is registered. -/
  polled : Bool
  /-- The connection is closed, or TCP has given it up. -/
  gone : Bool
  sndbuf : ℕ → UInt16
  queuelen : ℕ → ℕ
  writes : ℕ → Err
  closes : ℕ → Err
  mss : ℕ
  /-- The bytes `tcp_write` accepted. -/
  written : List UInt8
  /-- The bytes `tcp_recved` was told of. -/
  recved : ℕ
  freed : List ℕ
  /-- `httpd_req_buf`. -/
  reqBuf : Memory
  /-- `g_ButtonPress`. -/
  button : Bool
  led : Bool

namespace Conn

def tcpSndbuf (c : Conn) : ℕ × Conn :=
  ((c.sndbuf 0).toNat, { c with sndbuf := fun n => c.sndbuf (n + 1) })

def tcpSndqueuelen (c : Conn) : ℕ × Conn :=
  (c.queuelen 0, { c with queuelen := fun n => c.queuelen (n + 1) })

def tcpWrite (bs : List UInt8) (c : Conn) : Err × Conn :=
  (c.writes 0, { c with
    writes := fun n => c.writes (n + 1)
    written := if c.writes 0 = .ok then c.written ++ bs else c.written })

def tcpClose (c : Conn) : Err × Conn :=
  (c.closes 0, { c with closes := fun n => c.closes (n + 1), gone := c.closes 0 = .ok })

def tcpRecved (n : ℕ) (c : Conn) : Conn := { c with recved := c.recved + n }

def pbufFree (p : List Pbuf) (c : Conn) : Conn := { c with freed := c.freed ++ (Pbuf.free p).1 }

/-! ## Closing -/

/-- `http_close_or_abort_conn`; the state is freed. -/
def httpCloseOrAbortConn (abortConn : Bool) (c : Conn) : Conn :=
  let c := { c with hs := none, polled := false }
  if abortConn then { c with gone := true }
  else
    let (err, c) := tcpClose c
    if err = .ok then c else { c with polled := true }

def httpCloseConn (c : Conn) : Conn := httpCloseOrAbortConn false c

def httpEof (c : Conn) : Conn := httpCloseConn c

/-! ## Sending -/

/-- `TCP_SND_QUEUELEN`. -/
def tcpSndQueuelen : ℕ := 12

/-- The length `http_write` tries when TCP has no memory for `len` bytes. -/
def shorter (len : ℕ) (c : Conn) : ℕ × Conn :=
  let (room, c) := tcpSndbuf c
  if room = 0 then (1, c)
  else
    let (queued, c) := tcpSndqueuelen c
    if tcpSndQueuelen ≤ queued then (1, c) else (len / 2, c)

/-- The loop of `http_write`, which tries `len` bytes. -/
def httpWriteLoop (ptr : List UInt8) : ℕ → ℕ → Conn → Err × ℕ × Conn
  | 0, len, c => (.mem, len, c)
  | n + 1, len, c =>
      let (err, c) := tcpWrite (ptr.take len) c
      if err = .mem then
        let (len, c) := shorter len c
        if 1 < len then httpWriteLoop ptr n len c else (.mem, len, c)
      else (err, len, c)

/-- `http_write`: the result, the length, and the connection. -/
def httpWrite (ptr : List UInt8) (length : ℕ) (c : Conn) : Err × ℕ × Conn :=
  if length = 0 then (.ok, 0, c) else httpWriteLoop ptr length length c

/-- `http_send_data_nonssi`. -/
def httpSendDataNonssi (hs : HttpState) (c : Conn) : Except Fault (Bool × HttpState × Conn) :=
  let (room, c) := tcpSndbuf c
  let len := if room < hs.left then room else hs.left % 2 ^ 16
  assert (room < hs.left ∨ len = hs.left) >>= fun _ =>
    let len := if 2 * c.mss < len then 2 * c.mss else len
    let (err, len, c) := httpWrite hs.rest len c
    if err = .ok then
      .ok (true, { hs with file := hs.file.map (· + len), left := hs.left - len }, c)
    else .ok (false, hs, c)

/-- `http_check_eof`. -/
def httpCheckEof (hs : HttpState) (c : Conn) : Except Fault (Bool × Conn) :=
  match hs.handle with
  | none => .ok (false, httpEof c)
  | some handle =>
      if fsBytesLeft handle ≤ 0 then .ok (false, httpEof c)
      else assert False >>= fun _ => .ok (true, c)

/-- `http_send`, once there is something to send. -/
def httpSendData (hs : HttpState) (c : Conn) : Except Fault (Bool × Conn) :=
  httpSendDataNonssi hs c >>= fun r =>
    let (data, hs, c) := r
    if hs.left = 0 ∧ ∀ handle ∈ hs.handle, fsBytesLeft handle ≤ 0 then .ok (false, httpEof c)
    else .ok (data, { c with hs := some hs })

/-- `http_send`. -/
def httpSend (hs : HttpState) (c : Conn) : Except Fault (Bool × Conn) :=
  if hs.left = 0 then
    httpCheckEof hs c >>= fun r => if r.1 then httpSendData hs r.2 else .ok (false, r.2)
  else httpSendData hs c

/-! ## Finding the file -/

/-- `button_handler`. -/
def buttonHandler (c : Conn) : List UInt8 × Conn :=
  if c.button then (ascii "/btnprss.cgi", { c with button := false })
  else (ascii "/btnunprss.cgi", c)

/-- `toggle_redled`. -/
def toggleRedled (c : Conn) : List UInt8 × Conn := (ascii "/toggleredled.cgi", { c with led := !c.led })

/-- `cgis`; the handlers look at neither their index nor the parameters. -/
def cgis : List (List UInt8 × (Conn → List UInt8 × Conn)) :=
  [(ascii "/btndata.cgi", buttonHandler), (ascii "/toggleredled.cgi", toggleRedled)]

/-- `http_find_file`, up to where it has opened a file or none. -/
def httpOpenFile (root : List FsdataFile) (uri : List UInt8) (hs : HttpState) (c : Conn) :
    Option FsFile × HttpState × Conn :=
  if uri = ascii "/" then
    match defaultFilenames.findSome? (fsOpen root) with
    | some file => (some file, hs, c)
    | none => (httpGet404File root, hs, c)
  else
    let base := uri.takeWhile (· ≠ 63)
    let params := if 63 ∈ uri then some (uri.drop (base.length + 1)) else none
    let (uri, hs, c) :=
      match cgis.find? fun cgi => cgi.1 = base with
      | some cgi =>
          let (uri, c) := cgi.2 c
          (uri, { hs with params := extractUriParameters params }, c)
      | none => (base, hs, c)
    match fsOpen root uri with
    | some file => (some file, hs, c)
    | none => (httpGet404File root, hs, c)

/-- `http_find_file`. -/
def httpFindFile (root : List FsdataFile) (uri : List UInt8) (is09 : Bool) (hs : HttpState)
    (c : Conn) : Except Fault (HttpState × Conn) :=
  let (file, hs, c) := httpOpenFile root uri hs c
  httpInitFile file is09 hs >>= fun hs => .ok (hs, c)

/-- Where `http_parse_request` finds the bytes of the chain, and how many they are. -/
def requestData (req : List Pbuf) (c : Conn) : Memory × ℕ × Conn :=
  match req with
  | [q] => (q.mem, q.len, c)
  | req =>
      let dataLen := min (totLen req) maxReqLength
      let buf := c.reqBuf.store 0 ((Pbuf.bytes req).take dataLen)
      (buf, dataLen, { c with reqBuf := buf })

/-- `http_parse_request`. -/
def httpParseRequest (root : List FsdataFile) (p : List Pbuf) (hs : HttpState) (c : Conn) :
    Except Fault (Parsed × HttpState × Conn) :=
  if hs.handle ≠ none ∨ hs.file ≠ none then .ok (.use, hs, c)
  else
    let hs := { hs with req := hs.req ++ p }
    let (data, dataLen, c) := requestData hs.req c
    match parseLine data dataLen with
    | .get uri is09 =>
        httpFindFile root uri is09 hs c >>= fun r => .ok (.ok, r.1, r.2)
    | .unsupported => .ok (.arg, hs, c)
    | .incomplete =>
        if totLen hs.req ≤ maxReqLength ∧ hs.req.length % 2 ^ 8 ≤ reqQueuelen then
          .ok (.inprogress, hs, c)
        else .ok (.arg, hs, c)

/-! ## The callbacks -/

/-- `http_accept`, with the state allocated. -/
def httpAccept (c : Conn) : Conn := { c with hs := some httpStateInit, polled := true, gone := false }

/-- The buffers that wait are given up. -/
def dropRequest (hs : HttpState) (c : Conn) : HttpState × Conn :=
  if hs.req = [] then (hs, c) else ({ hs with req := [] }, pbufFree hs.req c)

/-- `http_recv`, when it has been told what has come. -/
def httpRecvData (root : List FsdataFile) (p : List Pbuf) (hs : HttpState) (c : Conn) :
    Except Fault Conn :=
  let c := tcpRecved (totLen p) c
  if hs.handle = none then
    httpParseRequest root p hs c >>= fun r =>
      let (parsed, hs, c) := r
      let (hs, c) := if parsed ≠ .inprogress then dropRequest hs c else (hs, c)
      let c := { c with hs := some hs }
      match parsed with
      | .ok => httpSend hs c >>= fun r => .ok r.2
      | .arg => .ok (httpCloseConn c)
      | _ => .ok c
  else
    -- nobody frees `p`
    let (hs, c) := dropRequest hs c
    .ok { c with hs := some hs }

/-- `http_recv`; `NULL` is the empty chain. -/
def httpRecv (root : List FsdataFile) (p : List Pbuf) (err : Err) (c : Conn) : Except Fault Conn :=
  match c.hs with
  | some hs =>
      if err ≠ .ok ∨ p = [] then
        .ok (httpCloseConn (if p = [] then c else pbufFree p (tcpRecved (totLen p) c)))
      else httpRecvData root p hs c
  | none => .ok (httpCloseConn (if p = [] then c else pbufFree p (tcpRecved (totLen p) c)))

/-- `http_sent`. -/
def httpSent (c : Conn) : Except Fault Conn :=
  match c.hs with
  | none => .ok c
  | some hs =>
      let hs := { hs with retries := 0 }
      httpSend hs { c with hs := some hs } >>= fun r => .ok r.2

/-- `HTTPD_MAX_RETRIES`. -/
def maxRetries : UInt8 := 4

/-- `http_poll`. -/
def httpPoll (c : Conn) : Except Fault Conn :=
  match c.hs with
  | none => .ok (httpCloseConn c)
  | some hs =>
      let hs := { hs with retries := hs.retries + 1 }
      let c := { c with hs := some hs }
      if hs.retries = maxRetries then .ok (httpCloseConn c)
      else if hs.handle ≠ none then httpSend hs c >>= fun r => .ok r.2
      else .ok c

/-- `http_err`. -/
def httpErr (c : Conn) : Conn := { c with hs := none, gone := true }

inductive Label
  | recv (p : List Pbuf) (err : Err)
  | sent
  | poll
  | error
  /-- `BOARD_SW_IRQ_HANDLER`. -/
  | button

/-- A callback, if it is registered, or the interrupt. -/
def step (root : List FsdataFile) (c : Conn) : Label → Except Fault Conn
  | .button => .ok { c with button := true }
  | .poll => if c.gone ∨ ¬ c.polled then .ok c else httpPoll c
  | .error => if c.gone ∨ c.hs = none then .ok { c with gone := true } else .ok (httpErr c)
  | .sent => if c.gone ∨ c.hs = none then .ok c else httpSent c
  | .recv p err => if c.gone ∨ c.hs = none then .ok c else httpRecv root p err c

end Conn

end Lgt8.Http

import Mathlib.Tactic
import Lgt8.Http.Parse

/-!
# What the callbacks of the web server do

Once a request is complete the connection has a file, and every callback hands TCP some more of it.
This file says once what a callback can do; the results about whole connections are derived from that.

* `Waits`, `Serves`, `Open` — the states a connection is in between two callbacks.
* `Sends`, `httpSend_spec` — the effect of `http_send`, whatever TCP answers.
* `httpParseRequest_spec` — what becomes of the buffers that wait and the new ones.
* `Stepped`, **`step_stepped`** — what a callback can do; none fails an assertion.
-/

namespace Lgt8.Http

open Library

/-- The connection has a file, of which all but the last `left` bytes are behind it. -/
structure Serves (hs : HttpState) (f : FsFile) : Prop where
  handle : hs.handle = some f
  len : f.len = f.data.length
  index : f.index = f.len
  file : ∃ o, hs.file = some o ∧ o + hs.left = f.len

/-- The connection has no file yet. -/
structure Waits (hs : HttpState) : Prop where
  handle : hs.handle = none
  file : hs.file = none
  left : hs.left = 0

/-- Some more bytes are behind it. -/
def HttpState.advance (hs : HttpState) (k : ℕ) : HttpState :=
  { hs with file := hs.file.map (· + k), left := hs.left - k }

/-- The state with the new buffers behind those that wait. -/
def HttpState.queue (hs : HttpState) (p : List Pbuf) : HttpState := { hs with req := hs.req ++ p }

section

variable {hs : HttpState} {f : FsFile} {k : ℕ}

lemma Serves.rest_length (h : Serves hs f) : hs.rest.length = hs.left := by
  obtain ⟨o, ho, hleft⟩ := h.file
  rw [HttpState.rest, h.handle, ho]
  dsimp only
  rw [List.length_drop, ← h.len]
  omega

lemma Serves.advance (h : Serves hs f) (hk : k ≤ hs.left) : Serves (hs.advance k) f := by
  obtain ⟨o, ho, hleft⟩ := h.file
  refine ⟨h.handle, h.len, h.index, o + k, by rw [HttpState.advance, ho]; rfl, ?_⟩
  simp only [HttpState.advance]
  omega

lemma Serves.rest_advance (h : Serves hs f) : (hs.advance k).rest = hs.rest.drop k := by
  obtain ⟨o, ho, -⟩ := h.file
  simp only [HttpState.rest, HttpState.advance, h.handle, ho, Option.map_some, List.drop_drop]

lemma HttpState.advance_zero (hs : HttpState) : hs.advance 0 = hs := by
  obtain ⟨handle, file, req, left, retries, params⟩ := hs
  cases file <;> rfl

lemma Waits.rest (h : Waits hs) : hs.rest = [] := by rw [HttpState.rest, h.handle]

/-- The polls are counted beside the rest. -/
lemma Waits.retry (h : Waits hs) (r : UInt8) : Waits { hs with retries := r } :=
  ⟨h.handle, h.file, h.left⟩

lemma Serves.retry (h : Serves hs f) (r : UInt8) : Serves { hs with retries := r } f :=
  ⟨h.handle, h.len, h.index, h.file⟩

/-! ## The file of a request -/

/-- The headers are in the files, as they are in all of `fsdata.c`. -/
def Included (root : List FsdataFile) : Prop := ∀ f ∈ root, f.httpHeaderIncluded = true

/-- What `fs_open` opens. -/
structure Opened (f : FsFile) : Prop where
  len : f.len = f.data.length
  index : f.index = f.len
  included : f.httpHeaderIncluded = true

variable {root : List FsdataFile} {name : List UInt8} {file : Option FsFile} {is09 : Bool}

lemma fsOpen_opened (hroot : Included root) (h : fsOpen root name = some f) : Opened f := by
  obtain ⟨g, hg, rfl⟩ := Option.map_eq_some_iff.mp h
  exact ⟨rfl, rfl, hroot g (List.mem_of_find?_eq_some hg)⟩

lemma httpGet404File_opened (hroot : Included root) (h : httpGet404File root = some f) :
    Opened f := by
  rw [httpGet404File] at h
  split at h
  · next hopen =>
      cases h
      exact fsOpen_opened hroot hopen
  · split at h
    · next hopen =>
        cases h
        exact fsOpen_opened hroot hopen
    · exact fsOpen_opened hroot h

/-- The state once the file is known. -/
lemma httpInitFile_spec (hfile : ∀ f ∈ file, Opened f) (is09 : Bool) (hs : HttpState) :
    ∃ hs', httpInitFile file is09 hs = .ok hs' ∧ hs'.req = hs.req ∧ hs'.retries = 0 ∧
      (Waits hs' ∨ ∃ f, Serves hs' f) := by
  cases file with
  | none => exact ⟨_, rfl, rfl, rfl, Or.inl ⟨rfl, rfl, rfl⟩⟩
  | some f =>
      obtain ⟨hlen, hindex, hinc⟩ := hfile f rfl
      rw [httpInitFile, assert]
      dsimp only
      rw [if_pos hinc]
      generalize hdiff : (if f.httpHeaderIncluded = true ∧ is09 = true then _ else 0 : ℕ) = diff
      have hle : diff ≤ f.len := by
        rw [← hdiff]
        split
        · split
          · next start hstart =>
              rw [strnstr_eq_search (by decide) (by decide)] at hstart
              obtain ⟨k, hk, rfl⟩ := Option.map_eq_some_iff.mp hstart
              have hbound := (search_le hk).trans (cText_isPrefix _).length_le
              rw [Memory.length_load] at hbound
              have hfour : (crlf ++ crlf).length = 4 := rfl
              rw [hfour] at hbound
              rwa [Nat.zero_add]
          · exact Nat.zero_le _
        · exact Nat.zero_le _
      exact ⟨_, rfl, rfl, rfl, Or.inr ⟨f, rfl, hlen, hindex, diff, rfl, by dsimp only; omega⟩⟩

end

namespace Conn

variable {c d : Conn} {hs : HttpState} {f : FsFile} {bs : List UInt8} {n len : ℕ}

/-! ## Sending -/

/-- From `c` to `d` TCP was asked, and took `bs`. -/
def Wrote (c : Conn) (bs : List UInt8) (d : Conn) : Prop :=
  ∃ sndbuf queuelen writes, d = { c with
    sndbuf := sndbuf, queuelen := queuelen, writes := writes, written := c.written ++ bs }

lemma Wrote.trans {e : Conn} {bs' : List UInt8} (h : Wrote c bs d) (h' : Wrote d bs' e) :
    Wrote c (bs ++ bs') e := by
  obtain ⟨_, _, _, rfl⟩ := h
  obtain ⟨a, b, w, rfl⟩ := h'
  exact ⟨a, b, w, by rw [List.append_assoc]⟩

lemma Wrote.refl (c : Conn) : Wrote c [] c :=
  ⟨c.sndbuf, c.queuelen, c.writes, by rw [List.append_nil]⟩

lemma tcpSndbuf_wrote (c : Conn) : Wrote c [] (tcpSndbuf c).2 :=
  ⟨fun n => c.sndbuf (n + 1), c.queuelen, c.writes, by rw [List.append_nil]; rfl⟩

lemma tcpSndqueuelen_wrote (c : Conn) : Wrote c [] (tcpSndqueuelen c).2 :=
  ⟨c.sndbuf, fun n => c.queuelen (n + 1), c.writes, by rw [List.append_nil]; rfl⟩

lemma tcpWrite_wrote (bs : List UInt8) (c : Conn) :
    Wrote c (if (tcpWrite bs c).1 = .ok then bs else []) (tcpWrite bs c).2 := by
  refine ⟨c.sndbuf, c.queuelen, fun n => c.writes (n + 1), ?_⟩
  rw [tcpWrite]
  dsimp only
  split
  · rfl
  · rw [List.append_nil]

/-- No more is tried than before. -/
lemma shorter_wrote (len : ℕ) (c : Conn) :
    Wrote c [] (shorter len c).2 ∧ (1 < (shorter len c).1 → (shorter len c).1 ≤ len / 2) := by
  rw [shorter]
  dsimp only
  split
  · exact ⟨tcpSndbuf_wrote c, fun h => absurd h (lt_irrefl 1)⟩
  · have hwrote := (tcpSndbuf_wrote c).trans (tcpSndqueuelen_wrote _)
    split
    · exact ⟨hwrote, fun h => absurd h (lt_irrefl 1)⟩
    · exact ⟨hwrote, fun _ => le_rfl⟩

/-- `http_write` takes the bytes from the start on, as many as it says, or none. -/
lemma httpWriteLoop_wrote (ptr : List UInt8) : ∀ (n len : ℕ) (c : Conn),
    ∃ err k d, httpWriteLoop ptr n len c = (err, k, d) ∧
      Wrote c (if err = .ok then ptr.take k else []) d ∧ (err = .ok → k ≤ len)
  | 0, len, c => ⟨.mem, len, c, rfl, .refl c, nofun⟩
  | n + 1, len, c => by
      have hwrite := tcpWrite_wrote (ptr.take len) c
      rw [httpWriteLoop]
      generalize tcpWrite (ptr.take len) c = r at hwrite ⊢
      obtain ⟨err, c₁⟩ := r
      dsimp only at hwrite ⊢
      by_cases hmem : err = .mem
      · subst hmem
        obtain ⟨hshort, hlen⟩ := shorter_wrote len c₁
        rw [if_pos rfl]
        generalize shorter len c₁ = r at hshort hlen ⊢
        obtain ⟨k, c₂⟩ := r
        have hboth := hwrite.trans hshort
        by_cases hk : 1 < k
        · obtain ⟨err, j, d, heq, hwrote, hj⟩ := httpWriteLoop_wrote ptr n k c₂
          refine ⟨err, j, d, (if_pos hk).trans heq, hboth.trans hwrote, fun hok => ?_⟩
          have hhalf : k ≤ len / 2 := hlen hk
          exact (hj hok).trans (by omega)
        · exact ⟨.mem, k, c₂, if_neg hk, hboth, nofun⟩
      · rw [if_neg hmem]
        exact ⟨err, len, c₁, rfl, hwrite, fun _ => le_rfl⟩

lemma httpWrite_wrote (ptr : List UInt8) (n : ℕ) (c : Conn) :
    ∃ err k d, httpWrite ptr n c = (err, k, d) ∧
      Wrote c (if err = .ok then ptr.take k else []) d ∧ (err = .ok → k ≤ n) := by
  rw [httpWrite]
  split
  · next hzero => exact ⟨.ok, 0, c, rfl, .refl c, fun _ => Nat.zero_le _⟩
  · exact httpWriteLoop_wrote ptr n n c

/-- What is sent at once is the next of the file. -/
lemma httpSendDataNonssi_wrote (hs : HttpState) (c : Conn) :
    ∃ data k d, httpSendDataNonssi hs c = .ok (data, hs.advance k, d) ∧ k ≤ hs.left ∧
      Wrote c (hs.rest.take k) d := by
  rw [httpSendDataNonssi]
  have hroom := tcpSndbuf_wrote c
  have hlt : (tcpSndbuf c).1 < 2 ^ 16 := (c.sndbuf 0).toNat_lt
  generalize tcpSndbuf c = r at hroom hlt ⊢
  obtain ⟨room, c₁⟩ := r
  dsimp only at hroom hlt ⊢
  generalize hlen : (if room < hs.left then room else hs.left % 2 ^ 16) = len
  have hbound : (room < hs.left ∨ len = hs.left) ∧ len ≤ hs.left := by
    rw [← hlen]
    split <;> omega
  rw [assert, if_pos hbound.1]
  generalize hcut : (if 2 * c₁.mss < len then 2 * c₁.mss else len) = n
  have hn : n ≤ hs.left := by
    rw [← hcut]
    split <;> omega
  obtain ⟨err, k, d, heq, hwrote, hk⟩ := httpWrite_wrote hs.rest n c₁
  have hall := hroom.trans hwrote
  dsimp only [bind, Except.bind]
  rw [heq]
  dsimp only
  by_cases hok : err = .ok
  · subst hok
    exact ⟨true, k, d, if_pos rfl, (hk rfl).trans hn, hall⟩
  · rw [if_neg hok] at hall
    refine ⟨false, 0, d, ?_, Nat.zero_le _, hall⟩
    rw [if_neg hok, HttpState.advance_zero]

/-- From `c` to `d` the state is freed, and what is left is to close the connection. -/
structure Ends (c d : Conn) : Prop where
  hs : d.hs = none
  polled : d.polled = true ∨ d.gone = true
  written : d.written = c.written
  recved : d.recved = c.recved
  freed : d.freed = c.freed
  button : d.button = c.button
  led : d.led = c.led

lemma httpCloseConn_ends (c : Conn) : Ends c (httpCloseConn c) := by
  show Ends c (if c.closes 0 = .ok then _ else _)
  by_cases hok : c.closes 0 = .ok
  · rw [if_pos hok]
    exact ⟨rfl, Or.inr (by simpa using hok), rfl, rfl, rfl, rfl, rfl⟩
  · rw [if_neg hok]
    exact ⟨rfl, Or.inl rfl, rfl, rfl, rfl, rfl, rfl⟩

/-- **What `http_send` does**: some of what is left goes to TCP, and the connection ends once all has. -/
inductive Sends (hs : HttpState) (c : Conn) : Conn → Prop
  | more {k : ℕ} {d : Conn} (hk : k < hs.left) (hd : Wrote c (hs.rest.take k) d) :
      Sends hs c { d with hs := some (hs.advance k) }
  | all {d e : Conn} (hd : Wrote c hs.rest d) (he : Ends d e) : Sends hs c e

lemma httpSend_sends (h : Serves hs f) (c : Conn) :
    ∃ data d, httpSend hs c = .ok (data, d) ∧ Sends hs c d := by
  have hdone : fsBytesLeft f ≤ 0 := by
    rw [fsBytesLeft, h.index]
    omega
  rw [httpSend]
  by_cases hzero : hs.left = 0
  · have hrest : hs.rest = [] := List.eq_nil_of_length_eq_zero (h.rest_length.trans hzero)
    refine ⟨false, httpEof c, ?_, .all ?_ (httpCloseConn_ends c)⟩
    · rw [if_pos hzero, httpCheckEof, h.handle]
      simp only [if_pos hdone]
      rfl
    · rw [hrest]
      exact .refl c
  · obtain ⟨data, k, d, heq, hk, hd⟩ := httpSendDataNonssi_wrote hs c
    have hhandle : (hs.advance k).handle = some f := h.handle
    rw [if_neg hzero, httpSendData, heq]
    dsimp only [bind, Except.bind]
    by_cases hall : k = hs.left
    · have hend : (hs.advance k).left = 0 ∧
          ∀ handle ∈ (hs.advance k).handle, fsBytesLeft handle ≤ 0 := by
        rw [hhandle]
        refine ⟨?_, by simpa using hdone⟩
        simp only [HttpState.advance]
        omega
      rw [hall, ← h.rest_length, List.take_length] at hd
      exact ⟨false, httpEof d, if_pos hend, .all hd (httpCloseConn_ends d)⟩
    · refine ⟨data, _, if_neg fun hc => ?_, .more (by omega) hd⟩
      have hleft : hs.left - k = 0 := hc.1
      omega

/-! ## What a callback can do -/

/-- From `c` to `d` the state is `hs`, and the buffers `freed` have been freed; nothing was sent. -/
def Moved (c : Conn) (hs : HttpState) (freed : List ℕ) (d : Conn) : Prop :=
  ∃ recved reqBuf button led, d = { c with
    hs := some hs, freed := c.freed ++ freed, recved := recved, reqBuf := reqBuf
    button := button, led := led }

lemma Moved.of_hs (hc : c.hs = some hs) : Moved c hs [] c :=
  ⟨c.recved, c.reqBuf, c.button, c.led, by rw [List.append_nil, ← hc]⟩

lemma Moved.conn_eq {as : List ℕ} (h : Moved c hs as d) : d.hs = some hs := by
  obtain ⟨_, _, _, _, rfl⟩ := h
  rfl

lemma Moved.freed_eq {as : List ℕ} (h : Moved c hs as d) : d.freed = c.freed ++ as := by
  obtain ⟨_, _, _, _, rfl⟩ := h
  rfl

lemma Moved.written_eq {as : List ℕ} (h : Moved c hs as d) : d.written = c.written := by
  obtain ⟨_, _, _, _, rfl⟩ := h
  rfl

variable {root : List FsdataFile} {p : List Pbuf} {hs' : HttpState} {as bs' : List ℕ}

lemma Moved.trans {e : Conn} (h : Moved c hs as d) (h' : Moved d hs' bs' e) :
    Moved c hs' (as ++ bs') e := by
  obtain ⟨_, _, _, _, rfl⟩ := h
  obtain ⟨r, b, x, l, rfl⟩ := h'
  exact ⟨r, b, x, l, by rw [List.append_assoc]⟩

lemma cgis_moved {cgi : List UInt8 × (Conn → List UInt8 × Conn)} (hcgi : cgi ∈ cgis) (c : Conn) :
    ∃ button led, (cgi.2 c).2 = { c with button := button, led := led } := by
  rcases List.mem_cons.mp hcgi with rfl | hcgi
  · dsimp only [buttonHandler]
    split
    · exact ⟨false, c.led, rfl⟩
    · exact ⟨c.button, c.led, rfl⟩
  · rw [List.mem_singleton.mp hcgi]
    exact ⟨c.button, !c.led, rfl⟩

/-- What `http_find_file` opens, and what it changes in doing so. -/
lemma httpOpenFile_spec (hroot : Included root) (uri : List UInt8) (hs : HttpState) (c : Conn) :
    ∃ file params button led, httpOpenFile root uri hs c =
      (file, { hs with params := params }, { c with button := button, led := led }) ∧
      ∀ f ∈ file, Opened f := by
  have h404 : ∀ f ∈ httpGet404File root, Opened f := fun f hf => httpGet404File_opened hroot hf
  rw [httpOpenFile]
  split
  · split
    · next file hfile =>
        obtain ⟨name, -, hopen⟩ := List.exists_of_findSome?_eq_some hfile
        refine ⟨some file, hs.params, c.button, c.led, rfl, fun f hf => ?_⟩
        cases hf
        exact fsOpen_opened hroot hopen
    · exact ⟨_, hs.params, c.button, c.led, rfl, h404⟩
  · dsimp only
    generalize hbase : uri.takeWhile (· ≠ 63) = base
    generalize (if 63 ∈ uri then some (uri.drop (base.length + 1)) else none) = query
    cases hcgi : cgis.find? fun cgi => cgi.1 = base with
    | none =>
        dsimp only
        split
        · next file hopen =>
            refine ⟨some file, hs.params, c.button, c.led, rfl, fun f hf => ?_⟩
            cases hf
            exact fsOpen_opened hroot hopen
        · exact ⟨_, hs.params, c.button, c.led, rfl, h404⟩
    | some cgi =>
        obtain ⟨button, led, hmoved⟩ := cgis_moved (List.mem_of_find?_eq_some hcgi) c
        dsimp only
        rw [hmoved]
        split
        · next file hopen =>
            refine ⟨some file, _, button, led, rfl, fun f hf => ?_⟩
            cases hf
            exact fsOpen_opened hroot hopen
        · exact ⟨_, _, button, led, rfl, h404⟩

lemma httpFindFile_spec (hroot : Included root) (uri : List UInt8) (is09 : Bool) (hs : HttpState)
    (c : Conn) :
    ∃ hs' button led, httpFindFile root uri is09 hs c =
      .ok (hs', { c with button := button, led := led }) ∧ hs'.req = hs.req ∧ hs'.retries = 0 ∧
      (Waits hs' ∨ ∃ f, Serves hs' f) := by
  obtain ⟨file, params, button, led, hopen, hfile⟩ := httpOpenFile_spec hroot uri hs c
  obtain ⟨hs', hinit, hreq, hretries, hstate⟩ :=
    httpInitFile_spec hfile is09 { hs with params := params }
  refine ⟨hs', button, led, ?_, hreq, hretries, hstate⟩
  rw [httpFindFile, hopen]
  dsimp only
  rw [hinit]
  rfl

lemma requestData_spec (req : List Pbuf) (c : Conn) :
    ∃ reqBuf, (requestData req c).2.2 = { c with reqBuf := reqBuf } := by
  rw [requestData.eq_def]
  split
  · exact ⟨c.reqBuf, rfl⟩
  · exact ⟨_, rfl⟩

/-- What `http_parse_request` makes of the buffers that wait and the new ones. -/
lemma httpParseRequest_spec (hroot : Included root) (hw : Waits hs) (p : List Pbuf) (c : Conn) :
    ∃ parsed hs' reqBuf button led, httpParseRequest root p hs c =
        .ok (parsed, hs', { c with reqBuf := reqBuf, button := button, led := led }) ∧
      hs'.req = hs.req ++ p ∧
      (hs' = hs.queue p ∧ (parsed = .inprogress ∨ parsed = .arg) ∨
        parsed = .ok ∧ hs'.retries = 0 ∧ (Waits hs' ∨ ∃ f, Serves hs' f)) := by
  obtain ⟨reqBuf, hdata⟩ := requestData_spec (hs.req ++ p) c
  rw [httpParseRequest, if_neg (by rw [hw.handle, hw.file]; simp)]
  dsimp only
  generalize requestData (hs.req ++ p) c = r at hdata ⊢
  obtain ⟨data, dataLen, d⟩ := r
  dsimp only at hdata ⊢
  subst hdata
  cases parseLine data dataLen with
  | get uri is09 =>
      obtain ⟨hs', button, led, hfind, hreq, hretries, hstate⟩ :=
        httpFindFile_spec hroot uri is09 (hs.queue p) { c with reqBuf := reqBuf }
      refine ⟨.ok, hs', reqBuf, button, led, ?_, hreq, Or.inr ⟨rfl, hretries, hstate⟩⟩
      show httpFindFile root uri is09 (hs.queue p) _ >>= _ = _
      rw [hfind]
      rfl
  | unsupported =>
      exact ⟨.arg, hs.queue p, reqBuf, c.button, c.led, rfl, rfl, Or.inl ⟨rfl, Or.inr rfl⟩⟩
  | incomplete =>
      dsimp only
      split
      · exact ⟨.inprogress, hs.queue p, reqBuf, c.button, c.led, rfl, rfl, Or.inl ⟨rfl, Or.inl rfl⟩⟩
      · exact ⟨.arg, hs.queue p, reqBuf, c.button, c.led, rfl, rfl, Or.inl ⟨rfl, Or.inr rfl⟩⟩

/-- The file that a chunk which completes a request is answered with. -/
def response (root : List FsdataFile) (c : Conn) : Label → Option (List UInt8)
  | .recv p .ok =>
      match c.hs with
      | some hs =>
          if p = [] ∨ hs.handle ≠ none then none
          else
            match httpParseRequest root p hs (tcpRecved (totLen p) c) with
            | .ok (.ok, hs', _) => some hs'.rest
            | _ => none
      | none => none
  | _ => none

/-- **What a callback can do**, while the connection is open. -/
inductive Stepped (root : List FsdataFile) (c : Conn) (hs : HttpState) : Label → Conn → Prop
  | button {d : Conn} (hd : Moved c hs [] d) : Stepped root c hs .button d
  | failed {d : Conn} (hhs : d.hs = none) (hgone : d.gone = true) (hw : d.written = c.written)
      (hf : d.freed = c.freed) : Stepped root c hs .error d
  | held {p : List Pbuf} {d : Conn} (hw : Waits hs) (hp : p ≠ [])
      (hr : response root c (.recv p .ok) = none) (hd : Moved c (hs.queue p) [] d) :
      Stepped root c hs (.recv p .ok) d
  | rejected {p : List Pbuf} {hs' : HttpState} {d e : Conn} (hw : Waits hs) (hp : p ≠ [])
      (hr : response root c (.recv p .ok) = none)
      (hd : Moved c hs' (Pbuf.free (hs.req ++ p)).1 d) (he : Ends d e) :
      Stepped root c hs (.recv p .ok) e
  | answered {p : List Pbuf} {hs' : HttpState} {d e : Conn} (hw : Waits hs) (hp : p ≠ [])
      (hr : response root c (.recv p .ok) = some hs'.rest) (hreq : hs'.req = [])
      (hretries : hs'.retries = 0) (hopen : Waits hs' ∨ ∃ f, Serves hs' f)
      (hd : Moved c hs' (Pbuf.free (hs.req ++ p)).1 d) (he : Sends hs' d e) :
      Stepped root c hs (.recv p .ok) e
  | ignored {p : List Pbuf} {d : Conn} (f : FsFile) (hs₀ : Serves hs f) (hp : p ≠ [])
      (hd : Moved c hs [] d) : Stepped root c hs (.recv p .ok) d
  | dropped {p : List Pbuf} {err : Err} {d e : Conn} (hp : err ≠ .ok ∨ p = [])
      (hd : Moved c hs (Pbuf.free p).1 d) (he : Ends d e) : Stepped root c hs (.recv p err) e
  | sent {d e : Conn} (hd : Moved c { hs with retries := 0 } [] d)
      (he : Sends { hs with retries := 0 } d e) : Stepped root c hs .sent e
  | expired {hs' : HttpState} {d e : Conn} (hr : hs.retries + 1 = maxRetries)
      (hd : Moved c hs' [] d) (he : Ends d e) : Stepped root c hs .poll e
  | waited {d : Conn} (hr : hs.retries + 1 ≠ maxRetries) (hw : Waits hs)
      (hd : Moved c { hs with retries := hs.retries + 1 } [] d) : Stepped root c hs .poll d
  | resumed {d e : Conn} (hr : hs.retries + 1 ≠ maxRetries) (f : FsFile) (hs₀ : Serves hs f)
      (hd : Moved c { hs with retries := hs.retries + 1 } [] d)
      (he : Sends { hs with retries := hs.retries + 1 } d e) : Stepped root c hs .poll e

/-- An open connection, as it is between two callbacks: with a file it has no request any more. -/
structure Open (c : Conn) (hs : HttpState) : Prop where
  conn : c.hs = some hs
  state : Waits hs ∨ ∃ f, Serves hs f ∧ hs.req = []
  retries : hs.retries < maxRetries
  polled : c.polled = true
  gone : c.gone = false

lemma Open.retry (ho : Open c hs) (r : UInt8) :
    Waits { hs with retries := r } ∨ ∃ f, Serves { hs with retries := r } f ∧ hs.req = [] :=
  ho.state.imp (fun h => h.retry r) fun ⟨f, h, hreq⟩ => ⟨f, h.retry r, hreq⟩

/-- Without a file `http_send` ends the connection. -/
lemma httpSend_waits (h : Waits hs) (c : Conn) :
    ∃ data d, httpSend hs c = .ok (data, d) ∧ Sends hs c d := by
  refine ⟨false, httpEof c, ?_, .all ?_ (httpCloseConn_ends c)⟩
  · rw [httpSend, if_pos h.left, httpCheckEof, h.handle]
    rfl
  · rw [h.rest]
    exact .refl c

lemma httpSend_spec (h : Waits hs ∨ ∃ f, Serves hs f) (c : Conn) :
    ∃ data d, httpSend hs c = .ok (data, d) ∧ Sends hs c d := by
  rcases h with h | ⟨f, h⟩
  · exact httpSend_waits h c
  · exact httpSend_sends h c

/-- The buffers that wait are freed. -/
lemma dropRequest_spec (hs : HttpState) (c : Conn) :
    dropRequest hs c = ({ hs with req := [] }, pbufFree hs.req c) := by
  rw [dropRequest]
  split
  · next hreq =>
      obtain ⟨handle, file, req, left, retries, params⟩ := hs
      cases hreq
      simp [pbufFree, Pbuf.free]
  · rfl

lemma response_of_waits (root : List FsdataFile) (hc : c.hs = some hs) (hw : Waits hs) (hp : p ≠ []) :
    response root c (.recv p .ok) =
      match httpParseRequest root p hs (tcpRecved (totLen p) c) with
      | .ok (.ok, hs', _) => some hs'.rest
      | _ => none := by
  rw [response, hc]
  exact if_neg (by simp [hp, hw.handle])

lemma httpRecvData_stepped (hroot : Included root) (ho : Open c hs) (hp : p ≠ []) :
    ∃ d, httpRecvData root p hs c = .ok d ∧ Stepped root c hs (.recv p .ok) d := by
  rw [httpRecvData]
  rcases ho.state with hw | ⟨f, hserves, hreq⟩
  · obtain ⟨parsed, hs', reqBuf, button, led, hparse, hreq, hresult⟩ :=
      httpParseRequest_spec hroot hw p (tcpRecved (totLen p) c)
    have hresponse := response_of_waits root ho.conn hw hp
    rw [hparse] at hresponse
    dsimp only
    rw [if_pos hw.handle, hparse]
    dsimp only [bind, Except.bind]
    rw [dropRequest_spec, hreq]
    rcases hresult with ⟨rfl, rfl | rfl⟩ | ⟨rfl, hretries, hstate⟩
    · exact ⟨_, rfl, .held hw hp hresponse ⟨_, _, _, _, by rw [List.append_nil]; rfl⟩⟩
    · exact ⟨_, rfl, .rejected hw hp hresponse ⟨_, _, _, _, rfl⟩ (httpCloseConn_ends _)⟩
    · obtain ⟨hs'', hdrop⟩ : ∃ hs'' : HttpState, hs'' = { hs' with req := [] } := ⟨_, rfl⟩
      have hopen : Waits hs'' ∨ ∃ f, Serves hs'' f := by
        subst hdrop
        rcases hstate with hw' | ⟨f, hs'⟩
        · exact Or.inl ⟨hw'.handle, hw'.file, hw'.left⟩
        · exact Or.inr ⟨f, hs'.handle, hs'.len, hs'.index, hs'.file⟩
      have hrest : response root c (.recv p .ok) = some hs''.rest := by
        rw [hresponse, hdrop]
        rfl
      rw [if_pos (by decide), ← hdrop]
      obtain ⟨data, d, hsend, hsends⟩ := httpSend_spec hopen
        { pbufFree (hs.req ++ p) { tcpRecved (totLen p) c with
            reqBuf := reqBuf, button := button, led := led } with hs := some hs'' }
      have hempty : hs''.req = [] := by rw [hdrop]
      have hzero : hs''.retries = 0 := by rw [hdrop, ← hretries]
      refine ⟨d, ?_, .answered hw hp hrest hempty hzero hopen ⟨_, _, _, _, rfl⟩ hsends⟩
      dsimp only
      rw [hsend]
  · dsimp only
    rw [if_neg (by rw [hserves.handle]; nofun), dropRequest, if_pos hreq]
    exact ⟨_, rfl, .ignored f hserves hp ⟨_, _, _, _, by rw [List.append_nil]; rfl⟩⟩

/-- **No callback fails an assertion**, and each does what `Stepped` says. -/
theorem step_stepped (hroot : Included root) (ho : Open c hs) (l : Label) :
    ∃ d, step root c l = .ok d ∧ Stepped root c hs l d := by
  have hreg : ¬ (c.gone = true ∨ c.hs = none) := by rw [ho.gone, ho.conn]; simp
  cases l with
  | button =>
      exact ⟨_, rfl, .button ⟨c.recved, c.reqBuf, true, c.led, by rw [List.append_nil, ← ho.conn]⟩⟩
  | error => exact ⟨_, if_neg hreg, .failed rfl rfl rfl rfl⟩
  | sent =>
      obtain ⟨data, d, hsend, hsends⟩ := httpSend_spec
        ((ho.retry 0).imp_right fun ⟨f, h, _⟩ => ⟨f, h⟩) { c with hs := some { hs with retries := 0 } }
      refine ⟨d, ?_, .sent ⟨_, _, _, _, by rw [List.append_nil]⟩ hsends⟩
      rw [step, if_neg hreg, httpSent, ho.conn]
      dsimp only
      rw [hsend]
      rfl
  | poll =>
      rw [step, if_neg (by rw [ho.gone, ho.polled]; simp), httpPoll, ho.conn]
      dsimp only
      have hmoved : Moved c { hs with retries := hs.retries + 1 } []
          { c with hs := some { hs with retries := hs.retries + 1 } } :=
        ⟨_, _, _, _, by rw [List.append_nil]⟩
      by_cases hr : hs.retries + 1 = maxRetries
      · exact ⟨_, if_pos hr, .expired hr hmoved (httpCloseConn_ends _)⟩
      · rw [if_neg hr]
        rcases ho.state with hw | ⟨f, hserves, -⟩
        · exact ⟨_, if_neg (by rw [hw.handle]; simp), .waited hr hw hmoved⟩
        · have hstate : Serves { hs with retries := hs.retries + 1 } f :=
            ⟨hserves.handle, hserves.len, hserves.index, hserves.file⟩
          obtain ⟨data, d, hsend, hsends⟩ := httpSend_sends hstate
            { c with hs := some { hs with retries := hs.retries + 1 } }
          refine ⟨d, ?_, .resumed hr f hserves hmoved hsends⟩
          rw [if_pos (by rw [hserves.handle]; nofun), hsend]
          rfl
  | recv p err =>
      rw [step, if_neg hreg, httpRecv, ho.conn]
      dsimp only
      by_cases hp : err ≠ .ok ∨ p = []
      · rw [if_pos hp]
        by_cases hnil : p = []
        · subst hnil
          exact ⟨_, rfl, .dropped hp (.of_hs ho.conn) (httpCloseConn_ends _)⟩
        · rw [if_neg hnil]
          exact ⟨_, rfl, .dropped hp ⟨_, _, _, _, by rw [← ho.conn]; rfl⟩ (httpCloseConn_ends _)⟩
      · obtain ⟨herr, hne⟩ := not_or.mp hp
        rw [if_neg hp]
        obtain rfl := not_not.mp herr
        exact httpRecvData_stepped hroot ho hne

/-! ## Between two callbacks -/

lemma Moved.isOpen (hd : Moved c hs' as d) (ho : Open c hs)
    (hstate : Waits hs' ∨ ∃ f, Serves hs' f ∧ hs'.req = []) (hretries : hs'.retries < maxRetries) :
    Open d hs' := by
  obtain ⟨_, _, _, _, rfl⟩ := hd
  exact ⟨rfl, hstate, hretries, ho.polled, ho.gone⟩

lemma Moved.isOpen_answered (hd : Moved c hs' as d) (ho : Open c hs)
    (hstate : Waits hs' ∨ ∃ f, Serves hs' f) (hreq : hs'.req = []) (hretries : hs'.retries = 0) :
    Open d hs' :=
  hd.isOpen ho (hstate.imp_right fun ⟨f, h⟩ => ⟨f, h, hreq⟩) (by rw [hretries]; decide)

/-- A connection that has sent something is open, with the rest of its file left, or has ended. -/
lemma Sends.isOpen_or_ended {e : Conn} (h : Sends hs d e) (ho : Open d hs) :
    (∃ k, Open e (hs.advance k) ∧ e.written = d.written ++ hs.rest.take k) ∨
      e.hs = none ∧ e.written = d.written ++ hs.rest := by
  cases h with
  | more hk hd =>
      next k d' =>
      obtain ⟨_, _, _, rfl⟩ := hd
      rcases ho.state with hw | ⟨f, hserves, hreq⟩
      · rw [hw.left] at hk
        exact absurd hk (Nat.not_lt_zero k)
      · exact Or.inl ⟨k, ⟨rfl, Or.inr ⟨f, hserves.advance hk.le, hreq⟩, ho.retries, ho.polled,
          ho.gone⟩, rfl⟩
  | all hd he =>
      obtain ⟨_, _, _, rfl⟩ := hd
      exact Or.inr ⟨he.hs, he.written⟩

lemma Open.rest_advance (ho : Open c hs) (k : ℕ) : (hs.advance k).rest = hs.rest.drop k := by
  rcases ho.state with hw | ⟨f, hserves, -⟩
  · rw [hw.rest, List.drop_nil, HttpState.rest, HttpState.advance, hw.handle]
  · exact hserves.rest_advance

lemma retries_succ_lt {r : UInt8} (hr : r < maxRetries) (hne : r + 1 ≠ maxRetries) :
    r + 1 < maxRetries := by
  rw [UInt8.lt_iff_toNat_lt, maxRetries] at *
  rw [Ne, ← UInt8.toNat_inj] at hne
  rw [UInt8.toNat_add] at *
  simp only [UInt8.toNat_ofNat] at *
  omega

end Conn

end Lgt8.Http

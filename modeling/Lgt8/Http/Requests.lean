import Mathlib.Tactic
import Lgt8.Http.Answers

/-!
# From a request to its page

A browser sends `GET`, a URI and some headers, and TCP cuts that where it likes.  This file says which
page a URI stands for, in terms of the files alone, and derives that the page is what the browser gets.

* `candidates`, `page` — the names that are tried for a URI, in order, and the first there is.
* `Asks` — a text that asks for a URI, in one of the two versions.
* `Gathered` — a connection on which the text has come in part.
* **`http_request_answered`** — however the text is cut, whatever TCP answers and whatever comes behind
  it, the answer is the page.
-/

namespace Lgt8.Http

open Library

variable {hs hs' : HttpState} {f : FsFile} {root : List FsdataFile} {uri name : List UInt8}
  {is09 : Bool}

/-! ## The page of a URI -/

def errorPages : List (List UInt8) := [ascii "/404.html", ascii "/404.htm", ascii "/404.shtml"]

/-- The file that stands for the state of the button is asked for under one name. -/
def resource (pressed : Bool) (base : List UInt8) : List UInt8 :=
  if base = ascii "/btndata.cgi" then
    if pressed then ascii "/btnprss.cgi" else ascii "/btnunprss.cgi"
  else base

/-- The names that are tried for a URI, in order; what is behind a `?` does not matter. -/
def candidates (pressed : Bool) (uri : List UInt8) : List (List UInt8) :=
  (if uri = ascii "/" then defaultFilenames
    else [resource pressed (uri.takeWhile (· ≠ 63))]) ++ errorPages

/-- The data of the first of the files there is. -/
def page (root : List FsdataFile) (pressed : Bool) (uri : List UInt8) : List UInt8 :=
  (((candidates pressed uri).findSome? fun name => root.find? fun f => f.name = name).map
    FsdataFile.data).getD []

/-- Version 0.9 has no headers. -/
def body (is09 : Bool) (data : List UInt8) : List UInt8 :=
  if is09 then
    match search (crlf ++ crlf) (cText data) with
    | some k => data.drop (k + 4)
    | none => data
  else data

lemma httpGet404File_eq (root : List FsdataFile) :
    httpGet404File root = errorPages.findSome? (fsOpen root) := by
  rw [httpGet404File, errorPages]
  simp only [List.findSome?_cons, List.findSome?_nil]
  cases fsOpen root (ascii "/404.html") with
  | some file => rfl
  | none =>
      cases fsOpen root (ascii "/404.htm") with
      | some file => rfl
      | none => cases fsOpen root (ascii "/404.shtml") <;> rfl

namespace Conn

variable {c d : Conn} {p : List Pbuf} {l : Label}

/-- A handler changes neither the URI nor the files but for `/btndata.cgi`. -/
lemma cgis_resource {base : List UInt8} {cgi : List UInt8 × (Conn → List UInt8 × Conn)}
    (h : (cgis.find? fun cgi => cgi.1 = base) = some cgi) (c : Conn) :
    (cgi.2 c).1 = resource c.button base := by
  have hname : cgi.1 = base := by simpa using List.find?_some h
  rcases List.mem_cons.mp (List.mem_of_find?_eq_some h) with rfl | hcgi
  · rw [← hname, resource, if_pos rfl]
    dsimp only [buttonHandler]
    split <;> rfl
  · rw [List.mem_singleton.mp hcgi] at hname ⊢
    rw [← hname, resource, if_neg (by decide)]
    rfl

lemma resource_of_none {base : List UInt8} (h : (cgis.find? fun cgi => cgi.1 = base) = none)
    (pressed : Bool) : resource pressed base = base := by
  rw [resource, if_neg]
  rintro rfl
  exact absurd h (by decide)

/-- **The file that is opened** is the first of the candidates. -/
lemma httpOpenFile_fst (root : List FsdataFile) (uri : List UInt8) (hs : HttpState) (c : Conn) :
    (httpOpenFile root uri hs c).1 = (candidates c.button uri).findSome? (fsOpen root) := by
  rw [httpOpenFile, candidates, List.findSome?_append, ← httpGet404File_eq]
  by_cases hroot : uri = ascii "/"
  · rw [if_pos hroot, if_pos hroot]
    cases defaultFilenames.findSome? (fsOpen root) <;> rfl
  · rw [if_neg hroot, if_neg hroot]
    dsimp only
    generalize uri.takeWhile (· ≠ 63) = base
    cases hcgi : cgis.find? fun cgi => cgi.1 = base with
    | none =>
        dsimp only
        rw [resource_of_none hcgi, List.findSome?_singleton]
        cases fsOpen root base <;> rfl
    | some cgi =>
        dsimp only
        rw [← cgis_resource hcgi c, List.findSome?_singleton]
        cases fsOpen root (cgi.2 c).1 <;> rfl

lemma findSome_fsOpen (root : List FsdataFile) (names : List (List UInt8)) :
    names.findSome? (fsOpen root) =
      (names.findSome? fun name => root.find? fun f => f.name = name).map fun f =>
        ⟨f.data, f.data.length, f.data.length, f.httpHeaderIncluded⟩ := by
  induction names with
  | nil => rfl
  | cons name names ih =>
      rw [List.findSome?_cons, List.findSome?_cons, fsOpen]
      cases root.find? fun f => f.name = name with
      | none => exact ih
      | some f => rfl

end Conn

/-- What is left to send of a file at the start. -/
lemma httpInitFile_rest {file : Option FsFile} (hfile : ∀ f ∈ file, Opened f)
    (h : httpInitFile file is09 hs = .ok hs') :
    hs'.rest = (file.map fun f => body is09 f.data).getD [] := by
  cases file with
  | none =>
      cases h
      rfl
  | some f =>
      obtain ⟨hlen, -, hinc⟩ := hfile f rfl
      have hload : Memory.load 0 f.len (fun i => f.data.getD i 0) = f.data := by
        rw [hlen, Memory.load_eq_iff]
        intro k hk
        rw [Nat.zero_add, List.getD_eq_getElem?_getD, List.getElem?_eq_getElem hk, Option.getD_some]
      rw [httpInitFile, assert, if_pos hinc] at h
      cases is09 with
      | false =>
          dsimp only [bind, Except.bind] at h
          rw [if_neg (by simp)] at h
          cases h
          rfl
      | true =>
          dsimp only [bind, Except.bind] at h
          rw [if_pos ⟨hinc, rfl⟩, strnstr_eq_search (by decide) (by decide), hload] at h
          rw [Option.map_some, Option.getD_some, body, if_pos rfl]
          cases hsearch : search (crlf ++ crlf) (cText f.data) with
          | none =>
              rw [hsearch] at h
              cases h
              rfl
          | some k =>
              rw [hsearch] at h
              cases h
              show f.data.drop (0 + k + 4) = _
              rw [Nat.zero_add]

/-! ## The text that has come -/

namespace Conn

variable {c d : Conn} {p : List Pbuf} {l : Label}

lemma payload_eq_load (q : Pbuf) : q.payload = Memory.load 0 q.len q.mem := by
  simp only [Pbuf.payload, Memory.load, Nat.zero_add]

/-- `http_parse_request` looks at all the bytes that have come. -/
lemma requestData_bytes {req : List Pbuf} (hlen : (Pbuf.bytes req).length ≤ maxReqLength)
    (c : Conn) :
    (requestData req c).1.load 0 (requestData req c).2.1 = Pbuf.bytes req := by
  rw [requestData.eq_def]
  split
  · next q =>
      rw [← payload_eq_load, Pbuf.bytes, List.flatMap_singleton]
  · have hmod : totLen req = (Pbuf.bytes req).length :=
      Nat.mod_eq_of_lt (hlen.trans_lt (by decide))
    dsimp only
    rw [hmod, min_eq_left hlen, List.take_length, Memory.load_store]

lemma httpParseRequest_eq (root : List FsdataFile) (hw : Waits hs) (p : List Pbuf) (c : Conn)
    (hlen : (Pbuf.bytes (hs.queue p).req).length ≤ maxReqLength) :
    ∃ reqBuf, httpParseRequest root p hs c =
      match verdict (Pbuf.bytes (hs.queue p).req) with
      | .get uri is09 =>
          httpFindFile root uri is09 (hs.queue p) { c with reqBuf := reqBuf } >>= fun r =>
            .ok (.ok, r.1, r.2)
      | .unsupported => .ok (.arg, hs.queue p, { c with reqBuf := reqBuf })
      | .incomplete =>
          if (hs.queue p).req.length % 2 ^ 8 ≤ reqQueuelen then
            .ok (.inprogress, hs.queue p, { c with reqBuf := reqBuf })
          else .ok (.arg, hs.queue p, { c with reqBuf := reqBuf }) := by
  obtain ⟨reqBuf, hdata⟩ := requestData_spec (hs.req ++ p) c
  have hbytes : (requestData (hs.req ++ p) c).1.load 0 (requestData (hs.req ++ p) c).2.1 =
      Pbuf.bytes (hs.req ++ p) := requestData_bytes hlen c
  have htot : totLen (hs.queue p).req ≤ maxReqLength := (Nat.mod_le _ _).trans hlen
  refine ⟨reqBuf, ?_⟩
  rw [httpParseRequest, if_neg (by rw [hw.handle, hw.file]; simp)]
  dsimp only
  generalize requestData (hs.req ++ p) c = r at hdata hbytes ⊢
  obtain ⟨data, dataLen, d⟩ := r
  dsimp only at hdata hbytes ⊢
  subst hdata
  rw [parseLine_eq_verdict, hbytes]
  dsimp only [HttpState.queue] at htot ⊢
  cases verdict (Pbuf.bytes (hs.req ++ p)) with
  | get uri is09 => rfl
  | unsupported => rfl
  | incomplete =>
      dsimp only
      simp only [htot, true_and]
      rfl

/-- A part of a request waits. -/
lemma step_held (root : List FsdataFile) (ho : Open c hs) (hw : Waits hs) (hp : p ≠ [])
    (hlen : (Pbuf.bytes (hs.queue p).req).length ≤ maxReqLength)
    (hline : verdict (Pbuf.bytes (hs.queue p).req) = .incomplete)
    (hn : (hs.queue p).req.length ≤ reqQueuelen) :
    ∃ recved reqBuf, step root c (.recv p .ok) =
        .ok { c with hs := some (hs.queue p), recved := recved, reqBuf := reqBuf } ∧
      response root c (.recv p .ok) = none := by
  obtain ⟨reqBuf, hparse⟩ := httpParseRequest_eq root hw p (tcpRecved (totLen p) c) hlen
  have hq : (hs.queue p).req.length % 2 ^ 8 ≤ reqQueuelen := (Nat.mod_le _ _).trans hn
  rw [hline] at hparse
  dsimp only at hparse
  rw [if_pos hq] at hparse
  refine ⟨c.recved + totLen p, reqBuf, ?_, ?_⟩
  · rw [step, if_neg (by rw [ho.gone, ho.conn]; simp), httpRecv, ho.conn]
    dsimp only
    rw [if_neg (by simp [hp]), httpRecvData]
    dsimp only
    rw [if_pos hw.handle, hparse]
    rfl
  · rw [response_of_waits root ho.conn hw hp, hparse]

lemma body_nil (is09 : Bool) : body is09 [] = [] := by
  cases is09 <;> rfl

lemma httpFindFile_rest (hroot : Included root) (uri : List UInt8) (is09 : Bool) (hs : HttpState)
    (c : Conn) : ∃ hs' d, httpFindFile root uri is09 hs c = .ok (hs', d) ∧
      hs'.rest = body is09 (page root c.button uri) := by
  obtain ⟨file, params, button, led, hopen, hfile⟩ := httpOpenFile_spec hroot uri hs c
  obtain ⟨hs', hinit, -, -, -⟩ := httpInitFile_spec hfile is09 { hs with params := params }
  refine ⟨hs', { c with button := button, led := led }, ?_, ?_⟩
  · rw [httpFindFile, hopen]
    dsimp only
    rw [hinit]
    rfl
  · have hfst := httpOpenFile_fst root uri hs c
    rw [hopen, findSome_fsOpen] at hfst
    dsimp only at hfst
    rw [httpInitFile_rest hfile hinit, hfst, page]
    cases (candidates c.button uri).findSome? fun name => root.find? fun f => f.name = name with
    | none => exact (body_nil is09).symm
    | some f => rfl

/-- **The whole request is answered with its page.** -/
lemma response_get (hroot : Included root) (ho : Open c hs) (hw : Waits hs) (hp : p ≠ [])
    (hlen : (Pbuf.bytes (hs.queue p).req).length ≤ maxReqLength)
    (hline : verdict (Pbuf.bytes (hs.queue p).req) = .get uri is09) :
    response root c (.recv p .ok) = some (body is09 (page root c.button uri)) := by
  obtain ⟨reqBuf, hparse⟩ := httpParseRequest_eq root hw p (tcpRecved (totLen p) c) hlen
  obtain ⟨hs', d, hfind, hrest⟩ := httpFindFile_rest hroot uri is09 (hs.queue p)
    { tcpRecved (totLen p) c with reqBuf := reqBuf }
  rw [hline] at hparse
  dsimp only at hparse
  rw [hfind] at hparse
  rw [response_of_waits root ho.conn hw hp, hparse]
  exact congrArg some hrest

/-! ## Asking and being answered -/

def Label.isButton : Label → Bool
  | .button => true
  | _ => false

/-- The buffers that come. -/
def arrived : List Label → List Pbuf
  | [] => []
  | .recv p _ :: ls => p ++ arrived ls
  | _ :: ls => arrived ls

/-- What may come while a request does. -/
def Calm : Label → Prop
  | .recv p err => err = .ok ∧ p ≠ []
  | .poll => True
  | .button => True
  | _ => False

lemma arrived_append (ls ms : List Label) : arrived (ls ++ ms) = arrived ls ++ arrived ms := by
  induction ls with
  | nil => rfl
  | cons l ls ih =>
      cases l with
      | recv p err => rw [List.cons_append, arrived, arrived, ih, List.append_assoc]
      | _ => exact ih

/-- A text that asks for `uri`: it ends where its headers do. -/
inductive Asks (text uri : List UInt8) : Bool → Prop
  | full (rest : List UInt8) (heq : text = request uri rest) (huri : 32 ∉ uri) : Asks text uri false
  | short (heq : text = shortRequest uri) (huri : 32 ∉ uri ∧ 13 ∉ uri) : Asks text uri true

/-- On the connection the labels `ls` have brought a part of a request, and nothing else has come of
them. -/
structure Gathered (c₀ : Conn) (ls : List Label) (hs : HttpState) (q : Conn × Account) : Prop where
  isOpen : Open q.1 hs
  waits : Waits hs
  req : hs.req = arrived ls
  retries : hs.retries.toNat = ls.countP Label.isPoll
  button : q.1.button = (c₀.button || ls.any Label.isButton)
  written : q.1.written = c₀.written
  account : q.2 = ⟨[], false⟩

/-- What has come is not yet a request, and not too much for one. -/
structure Partial (ps : List Pbuf) : Prop where
  line : verdict (Pbuf.bytes ps) = .incomplete
  length : (Pbuf.bytes ps).length ≤ maxReqLength
  count : ps.length ≤ reqQueuelen

/-- Nothing is noted of a callback that neither answers nor cuts off. -/
lemma accounted_quiet (ho : Open c hs) (hd : step root c l = .ok d)
    (hr : response root c l = none) (hcut : ¬ Cuts hs l) :
    accounted root (c, ⟨[], false⟩) l = .ok (d, ⟨[], false⟩) := by
  refine observed_ok.mpr ⟨hd, ?_⟩
  rw [note_of_open ho.conn, hr, decide_eq_false hcut]
  rfl

lemma Gathered.step (root : List FsdataFile) {c₀ : Conn} {ls : List Label} {q : Conn × Account}
    (hg : Gathered c₀ ls hs q) (hl : Calm l) (hpart : Partial (arrived (ls ++ [l])))
    (hpolls : (ls ++ [l]).countP Label.isPoll < 4) :
    ∃ hs' r, accounted root q l = .ok r ∧ Gathered c₀ (ls ++ [l]) hs' r := by
  obtain ⟨c, b⟩ := q
  obtain ⟨ho, hw, hreq, hretries, hbutton, hwritten, hb⟩ := hg
  dsimp only at ho hw hreq hretries hbutton hwritten hb
  subst hb
  rw [List.countP_append] at hpolls
  rw [arrived_append] at hpart
  cases l with
  | sent => exact hl.elim
  | error => exact hl.elim
  | button =>
      refine ⟨hs, _, accounted_quiet ho rfl rfl (by rintro ⟨⟩),
        ⟨ho.conn, ho.state, ho.retries, ho.polled, ho.gone⟩, hw, ?_, ?_, ?_, hwritten, rfl⟩
      · rw [arrived_append, hreq]
        exact (List.append_nil _).symm
      · rw [List.countP_append, hretries]
        rfl
      · rw [List.any_append]
        simp [Label.isButton]
  | poll =>
      have hone : [Label.poll].countP Label.isPoll = 1 := rfl
      have hsucc := retries_succ ho
      have hr : hs.retries + 1 ≠ maxRetries := fun h => by
        have hfour : (hs.retries + 1).toNat = 4 := by rw [h]; rfl
        omega
      have hstep : Conn.step root c .poll =
          .ok { c with hs := some { hs with retries := hs.retries + 1 } } := by
        rw [Conn.step, if_neg (by rw [ho.gone, ho.polled]; simp), httpPoll, ho.conn]
        dsimp only
        rw [if_neg hr, if_neg (by rw [hw.handle]; simp)]
      refine ⟨_, _, accounted_quiet ho hstep rfl hr, ⟨rfl, Or.inl (hw.retry _),
        retries_succ_lt ho.retries hr, ho.polled, ho.gone⟩, hw.retry _, ?_, ?_, ?_, hwritten, rfl⟩
      · rw [arrived_append, ← hreq]
        exact (List.append_nil _).symm
      · rw [List.countP_append, ← hretries, hone]
        exact hsucc
      · rw [List.any_append, hbutton]
        simp [Label.isButton]
  | recv p err =>
      obtain ⟨rfl, hp⟩ := hl
      have hqueue : (hs.queue p).req = arrived ls ++ arrived [.recv p .ok] := by
        rw [HttpState.queue, hreq, arrived, arrived, List.append_nil]
      rw [← hqueue] at hpart
      obtain ⟨recved, reqBuf, hstep, hresponse⟩ :=
        step_held root ho hw hp hpart.length hpart.line hpart.count
      refine ⟨hs.queue p, _, accounted_quiet ho hstep hresponse (by rintro (h | h) <;> simp_all),
        ⟨rfl, Or.inl ⟨hw.handle, hw.file, hw.left⟩, ho.retries, ho.polled, ho.gone⟩,
        ⟨hw.handle, hw.file, hw.left⟩, ?_, ?_, ?_, hwritten, rfl⟩
      · rw [arrived_append, hqueue]
      · rw [List.countP_append, ← hretries]
        rfl
      · rw [List.any_append, hbutton]
        simp [Label.isButton]

/-- **A request trickles in.** -/
lemma Gathered.run (root : List FsdataFile) {c₀ : Conn} : ∀ {ms ls : List Label} {hs : HttpState} {q : Conn × Account},
    Gathered c₀ ls hs q → (∀ l ∈ ms, Calm l) →
    (∀ ns, ns <+: ls ++ ms → Partial (arrived ns)) → (ls ++ ms).countP Label.isPoll < 4 →
      ∃ hs' r, Library.run (accounted root) q ms = .ok r ∧ Gathered c₀ (ls ++ ms) hs' r
  | [], ls, hs, q, hg, _, _, _ => ⟨hs, q, rfl, by rwa [List.append_nil]⟩
  | l :: ms, ls, hs, q, hg, hms, hpart, hpolls => by
      have hsplit : ls ++ l :: ms = (ls ++ [l]) ++ ms := by rw [List.append_assoc]; rfl
      rw [hsplit] at hpart hpolls ⊢
      have hfirst : (ls ++ [l]).countP Label.isPoll < 4 := by
        rw [List.countP_append] at hpolls
        omega
      obtain ⟨hs', r, hr, hg'⟩ := hg.step root (hms l (by simp))
        (hpart _ (List.prefix_append _ _)) hfirst
      rw [run_cons_of_ok hr]
      exact hg'.run root (fun m hm => hms m (by simp [hm])) hpart hpolls

/-! ## Once answered -/

/-- The connection has ended or is sending a file. -/
def Busy (c : Conn) : Prop := c.hs = none ∨ ∃ hs, c.hs = some hs ∧ hs.handle ≠ none

lemma Sends.busy {e : Conn} (h : Sends hs d e) (hs₀ : Serves hs f) : Busy e := by
  cases h with
  | more hk hd =>
      exact Or.inr ⟨_, rfl, by rw [HttpState.advance, hs₀.handle]; exact Option.some_ne_none f⟩
  | all hd he => exact Or.inl he.hs

lemma Stepped.busy (hc : Busy c) (ho : Open c hs) (h : Stepped root c hs l d) : Busy d := by
  have hhandle : hs.handle ≠ none := by
    rcases hc with hnone | ⟨hs', hc', hne⟩
    · exact nomatch ho.conn.symm.trans hnone
    · rwa [Option.some.inj (ho.conn.symm.trans hc')]
  obtain ⟨f, hserves⟩ : ∃ f, Serves hs f := by
    rcases ho.state with hw | ⟨f, h, -⟩
    · exact absurd hw.handle hhandle
    · exact ⟨f, h⟩
  cases h with
  | button hd => exact Or.inr ⟨hs, hd.conn_eq, hhandle⟩
  | failed hhs => exact Or.inl hhs
  | held hw => exact absurd hw.handle hhandle
  | rejected hw => exact absurd hw.handle hhandle
  | answered hw => exact absurd hw.handle hhandle
  | ignored f hs₀ hp hd => exact Or.inr ⟨hs, hd.conn_eq, hhandle⟩
  | dropped hp hd he => exact Or.inl he.hs
  | sent hd he => exact he.busy (hserves.retry 0)
  | expired hr hd he => exact Or.inl he.hs
  | waited hr hw => exact absurd hw.handle hhandle
  | resumed hr f hs₀ hd he => exact he.busy (hs₀.retry _)

/-- The chunk that completes the request. -/
lemma Stepped.busy_of_response (hw : Waits hs) (hp : p ≠ []) {x : List UInt8}
    (hr : response root c (.recv p .ok) = some x) (h : Stepped root c hs (.recv p .ok) d) :
    Busy d := by
  cases h with
  | held _ _ hnone => exact nomatch hr.symm.trans hnone
  | rejected _ _ hnone => exact nomatch hr.symm.trans hnone
  | ignored f hserves => exact nomatch hserves.handle.symm.trans hw.handle
  | dropped hdrop => exact absurd hdrop (by simp [hp])
  | answered _ _ _ _ _ hstate hd he =>
      rcases hstate with hw' | ⟨f, hserves⟩
      · exact Or.inl (he.ended hw')
      · exact he.busy hserves

/-- The answer has been noted, and the connection will take no other. -/
structure Answered (b : List UInt8) (q : Conn × Account) : Prop where
  kept : Kept q.1 q.2
  busy : Busy q.1
  body : q.2.body = b

lemma response_of_busy (hc : Busy c) (l : Label) : response root c l = none := by
  cases l with
  | recv p err =>
      cases err with
      | ok =>
          rw [response]
          rcases hc with hnone | ⟨hs, hc, hhandle⟩
          · rw [hnone]
          · rw [hc]
            exact if_pos (Or.inr hhandle)
      | _ => rfl
  | _ => rfl

lemma note_body {b : Account} (hr : response root c l = none) : (note root c l b).body = b.body := by
  rw [note]
  split
  · rfl
  · rw [hr]
    rfl

lemma Answered.step (hroot : Included root) {b : List UInt8} {q : Conn × Account}
    (h : Answered b q) (l : Label) : ∃ r, accounted root q l = .ok r ∧ Answered b r := by
  obtain ⟨c, a⟩ := q
  obtain ⟨d, hd, hkept⟩ := step_kept hroot h.kept l
  refine ⟨(d, note root c l a), observed_ok.mpr ⟨hd, rfl⟩, hkept, ?_, ?_⟩
  · have hkept' := h.kept
    cases hkept' with
    | isOpen hs ho =>
        obtain ⟨d', hd', hstepped⟩ := step_stepped hroot ho l
        obtain rfl := Except.ok.inj (hd'.symm.trans hd)
        exact hstepped.busy h.busy ho
    | ended hc =>
        obtain ⟨d', hd', hnone, -⟩ := step_of_ended root hc l
        obtain rfl := Except.ok.inj (hd'.symm.trans hd)
        exact Or.inl hnone
  · exact (note_body (response_of_busy h.busy l)).trans h.body

/-! ## The request -/

/-- A text that ends with its first empty line, and is not too long. -/
structure Whole (text : List UInt8) : Prop where
  zero : 0 ∉ text
  ends : crlf ++ crlf <:+: text
  first : ∀ part, part <+: text → crlf ++ crlf <:+: part → part = text
  length : text.length ≤ maxReqLength

/-- Where the empty line is can be computed. -/
lemma Whole.of_search {text : List UInt8} (hzero : 0 ∉ text) {k : ℕ}
    (hk : search (crlf ++ crlf) text = some k) (hend : k + 4 = text.length)
    (hlen : text.length ≤ maxReqLength) : Whole text where
  zero := hzero
  ends := search_isSome_iff.mp (by rw [hk]; rfl)
  first part hpart hin := by
    obtain ⟨k', hk'⟩ := Option.isSome_iff_exists.mp (search_isSome_iff.mpr hin)
    obtain ⟨post, rfl⟩ := hpart
    obtain rfl := Option.some.inj ((search_append hk' post).symm.trans hk)
    have hle : k' + 4 ≤ part.length := search_le hk'
    rw [List.length_append] at hend
    rw [List.eq_nil_of_length_eq_zero (by omega : post.length = 0), List.append_nil]
  length := hlen

lemma Asks.verdict {text : List UInt8} (h : Asks text uri is09) (hwhole : Whole text) :
    ascii "GET " <+: text ∧ verdict text = .get uri is09 := by
  have hzero := hwhole.zero
  have hends := hwhole.ends
  cases h with
  | full rest heq huri =>
      subst heq
      have hget : ascii "GET " <+: request uri rest := by
        rw [request, List.append_assoc, List.append_assoc]
        exact List.prefix_append _ _
      refine ⟨hget, verdict_request ⟨huri, fun h => hzero ?_⟩ ?_⟩
      · simp [request, h]
      · rwa [cText_of_no_zero hzero]
  | short heq huri =>
      subst heq
      have hget : ascii "GET " <+: shortRequest uri := by
        rw [shortRequest, List.append_assoc]
        exact List.prefix_append _ _
      refine ⟨hget, verdict_shortRequest ⟨huri.1, fun h => hzero ?_, huri.2⟩⟩
      simp [shortRequest, h]

lemma bytes_append (ps qs : List Pbuf) : Pbuf.bytes (ps ++ qs) = Pbuf.bytes ps ++ Pbuf.bytes qs :=
  List.flatMap_append

/-- What has come before the last chunk is a part only. -/
lemma partial_of_part {text : List UInt8} (hget : ascii "GET " <+: text) (hwhole : Whole text)
    {ms ns : List Label} (hp : Pbuf.bytes p ≠ []) (htext : Pbuf.bytes (arrived ms ++ p) = text)
    (hcount : (arrived ms).length ≤ reqQueuelen) (hns : ns <+: ms) : Partial (arrived ns) := by
  obtain ⟨post, rfl⟩ := hns
  rw [arrived_append] at htext hcount
  have hsplit : Pbuf.bytes (arrived ns) ++ (Pbuf.bytes (arrived post) ++ Pbuf.bytes p) = text := by
    rw [← htext, bytes_append, bytes_append, List.append_assoc]
  have hprefix : Pbuf.bytes (arrived ns) <+: text := ⟨_, hsplit⟩
  refine ⟨verdict_part hget hprefix fun hin => ?_, hprefix.length_le.trans hwhole.length, ?_⟩
  · have hall := hwhole.first _ hprefix hin
    rw [hall] at hsplit
    have hnil := List.append_right_eq_self.mp hsplit
    exact hp (List.append_eq_nil_iff.mp hnil).2
  · rw [List.length_append] at hcount
    omega

/-- **A request is answered with its page.**  However TCP cuts the text of the request, in at most as
many buffers as may wait, and whatever presses and fewer than four polls come in between, the answer
is the page of its URI; and whatever TCP answers and whatever comes behind the request, what TCP takes
is that page from its start on, and all of it unless the connection is cut off. -/
theorem http_request_answered (hroot : Included root) (c : Conn) (hc : c.written = [])
    {text : List UInt8} (hasks : Asks text uri is09) (hwhole : Whole text) {ms : List Label}
    (ns : List Label) (hms : ∀ l ∈ ms, Calm l) (hpolls : ms.countP Label.isPoll < 4)
    (hp : Pbuf.bytes p ≠ []) (htext : Pbuf.bytes (arrived ms ++ p) = text)
    (hcount : (arrived ms).length ≤ reqQueuelen) :
    ∃ q, run (accounted root) (httpAccept c, ⟨[], false⟩) (ms ++ .recv p .ok :: ns) = .ok q ∧
      q.2.body = body is09 (page root (c.button || ms.any Label.isButton) uri) ∧
        Faithful q.1 q.2 := by
  obtain ⟨hget, hverdict⟩ := hasks.verdict hwhole
  have hstart : Gathered c [] httpStateInit (httpAccept c, ⟨[], false⟩) :=
    ⟨httpAccept_open c, ⟨rfl, rfl, rfl⟩, rfl, rfl, (Bool.or_false _).symm, rfl, rfl⟩
  obtain ⟨hs, ⟨d, a⟩, hrun, hg⟩ := hstart.run root hms
    (fun ns hns => partial_of_part hget hwhole hp htext hcount hns) hpolls
  obtain ⟨ho, hw, hreq, -, hbutton, hwritten, ha⟩ := hg
  dsimp only at ho hw hreq hbutton hwritten ha
  subst ha
  have hpne : p ≠ [] := fun h => hp (by rw [h]; rfl)
  have hqueue : (hs.queue p).req = arrived ms ++ p := by
    rw [HttpState.queue, hreq]
    rfl
  have hresponse := response_get hroot ho hw hpne
    (by rw [hqueue, htext]; exact hwhole.length) (by rw [hqueue, htext]; exact hverdict)
  obtain ⟨e, he, hstepped⟩ := step_stepped hroot ho (.recv p .ok)
  have hnote : accounted root (d, ⟨[], false⟩) (.recv p .ok) =
      .ok (e, note root d (.recv p .ok) ⟨[], false⟩) := observed_ok.mpr ⟨he, rfl⟩
  have hanswered : Answered (body is09 (page root d.button uri))
      (e, note root d (.recv p .ok) ⟨[], false⟩) := by
    refine ⟨hstepped.kept ho ?_ fun _ => rfl, hstepped.busy_of_response hw hpne hresponse, ?_⟩
    · rw [hwritten, hc, hw.rest]
      rfl
    · rw [note_of_open ho.conn, hresponse]
      rfl
  obtain ⟨q, hq, hfinal⟩ := run_ok' (fun q l hq => hq.step hroot l) ns hanswered
  refine ⟨q, ?_, ?_, hfinal.kept.faithful⟩
  · rw [run_append_of_ok hrun, run_cons_of_ok hnote, hq]
  · rw [hfinal.body, hbutton]
    rfl

/-- The two files of `fsdata.c` that answer for the button. -/
def btnprssCgi : FsdataFile := ⟨ascii "/btnprss.cgi", ascii "PRESSED", true⟩

def btnunprssCgi : FsdataFile := ⟨ascii "/btnunprss.cgi", ascii "UN-PRESSED", true⟩

/-- The button is pressed between the two halves of a request. -/
theorem http_request_answered_pressed :
    ∃ q, run (accounted [btnunprssCgi, btnprssCgi]) (httpAccept fresh, ⟨[], false⟩)
        ([.recv [.ofBytes (ascii "GET /btn")] .ok, .button, .poll] ++
          .recv [.ofBytes (ascii "data.cgi HTTP/1.0\r\n\r\n")] .ok :: [.sent, .poll, .sent]) =
        .ok q ∧
      q.2.body = ascii "PRESSED" ∧ Faithful q.1 q.2 := by
  have hasks : Asks (ascii "GET /btndata.cgi HTTP/1.0\r\n\r\n") (ascii "/btndata.cgi") false :=
    .full (ascii "HTTP/1.0\r\n\r\n") rfl (by decide)
  have hwhole : Whole (ascii "GET /btndata.cgi HTTP/1.0\r\n\r\n") :=
    .of_search (k := 25) (by decide) (by decide) rfl (by decide)
  refine http_request_answered ?_ fresh rfl hasks hwhole _ (by simp [Calm]) (by decide) (by decide)
    (by decide) (by decide)
  intro f hf
  rcases List.mem_cons.mp hf with rfl | hf
  · rfl
  · rw [List.mem_singleton.mp hf]
    rfl

end Conn

end Lgt8.Http

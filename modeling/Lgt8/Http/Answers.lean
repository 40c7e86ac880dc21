import Mathlib.Tactic
import Lgt8.Http.Responses

/-!
# What is answered is the file

An observer beside a connection notes the file its request is answered with, and whether the
connection was ended before its time.

* `Account`, `note`, `Cuts` — what is noted.
* **`http_faithful`** — in every state of every run TCP has taken the file from its start on, each
  byte once; what is missing is what the connection still has to send.
* **`http_no_sent_ends`** — a connection on which nothing is acknowledged ends with the seventh poll.
-/

namespace Lgt8.Http.Conn

open Library

variable {c d : Conn} {hs hs' : HttpState} {f : FsFile} {root : List FsdataFile} {p : List Pbuf}
  {as bs : List ℕ} {l : Label}

/-! ## What a connection is answered with -/

/-- What is noted of a connection: its answer, and whether it was ended before its time. -/
structure Account where
  body : List UInt8
  cut : Bool

/-- The callbacks that end a connection, whatever is left of its answer. -/
def Cuts (hs : HttpState) : Label → Prop
  | .error => True
  | .poll => hs.retries + 1 = maxRetries
  | .recv p err => err ≠ .ok ∨ p = []
  | _ => False

instance (hs : HttpState) : ∀ l, Decidable (Cuts hs l)
  | .error => inferInstanceAs (Decidable True)
  | .poll => inferInstanceAs (Decidable (hs.retries + 1 = maxRetries))
  | .recv p err => inferInstanceAs (Decidable (err ≠ .ok ∨ p = []))
  | .sent => inferInstanceAs (Decidable False)
  | .button => inferInstanceAs (Decidable False)

/-- The answer is noted when the request is complete. -/
def note (root : List FsdataFile) (c : Conn) (l : Label) (b : Account) : Account :=
  match c.hs with
  | none => b
  | some hs => ⟨(response root c l).getD b.body, b.cut || decide (Cuts hs l)⟩

/-- What TCP has taken is the answer as far as it has been sent. -/
def Faithful (c : Conn) (b : Account) : Prop :=
  c.written <+: b.body ∧ (∀ hs, c.hs = some hs → c.written ++ hs.rest = b.body) ∧
    (c.hs = none → b.cut = false → c.written = b.body)

/-- The invariant: besides, a connection that waits has been answered nothing. -/
inductive Kept (c : Conn) (b : Account) : Prop
  | isOpen (hs : HttpState) (ho : Open c hs) (hbody : c.written ++ hs.rest = b.body)
      (hnil : Waits hs → b.body = [])
  | ended (hc : c.hs = none) (hpre : c.written <+: b.body)
      (hbody : b.cut = false → c.written = b.body)

variable {b : Account}

lemma Kept.faithful (h : Kept c b) : Faithful c b := by
  cases h with
  | isOpen hs ho hbody =>
      refine ⟨⟨hs.rest, hbody⟩, fun hs' hc => ?_, fun hc => ?_⟩
      · obtain rfl := Option.some.inj (ho.conn.symm.trans hc)
        exact hbody
      · exact nomatch ho.conn.symm.trans hc
  | ended hc hpre hbody =>
      exact ⟨hpre, fun hs hs' => (nomatch hc.symm.trans hs'), fun _ => hbody⟩

lemma Sends.kept {e : Conn} (h : Sends hs d e) (ho : Open d hs)
    (hbody : d.written ++ hs.rest = b.body) (hnil : Waits hs → b.body = []) : Kept e b := by
  rcases h.isOpen_or_ended ho with ⟨k, hopen, hwritten⟩ | ⟨hnone, hwritten⟩
  · refine .isOpen _ hopen ?_ fun hw => hnil ?_
    · rw [hwritten, ho.rest_advance, List.append_assoc, List.take_append_drop, hbody]
    · rcases ho.state with hw' | ⟨f, hserves, -⟩
      · exact hw'
      · exact nomatch hserves.handle.symm.trans hw.handle
  · have hall : e.written = b.body := hwritten.trans hbody
    exact .ended hnone (by rw [hall]) fun _ => hall

lemma Ends.kept {e : Conn} (he : Ends d e) (hpre : d.written <+: b.body)
    (hbody : b.cut = false → d.written = b.body) : Kept e b :=
  .ended he.hs (by rwa [he.written]) fun hcut => by rw [he.written, hbody hcut]

/-- What is noted of a callback on an open connection. -/
lemma note_of_open (hc : c.hs = some hs) (l : Label) :
    note root c l b = ⟨(response root c l).getD b.body, b.cut || decide (Cuts hs l)⟩ := by
  rw [note, hc]

lemma response_of_serves (hc : c.hs = some hs) (hs₀ : Serves hs f) (p : List Pbuf) :
    response root c (.recv p .ok) = none := by
  rw [response, hc]
  exact if_pos (Or.inr (by rw [hs₀.handle]; exact Option.some_ne_none f))

lemma response_of_dropped {err : Err} (hp : err ≠ .ok ∨ p = []) :
    response root c (.recv p err) = none := by
  cases err with
  | ok =>
      rw [response]
      split
      · exact if_pos (Or.inl (hp.resolve_left (by simp)))
      · rfl
  | _ => rfl

lemma not_cut (h : Cuts hs l) : (b.cut || decide (Cuts hs l)) ≠ false := by
  rw [decide_eq_true h, Bool.or_true]
  exact nofun

/-- **A step keeps the invariant.** -/
lemma Stepped.kept (ho : Open c hs) (hbody : c.written ++ hs.rest = b.body)
    (hnil : Waits hs → b.body = []) (h : Stepped root c hs l d) : Kept d (note root c l b) := by
  have hpre : c.written <+: b.body := ⟨hs.rest, hbody⟩
  rw [note_of_open ho.conn]
  cases h with
  | button hd =>
      exact .isOpen hs (hd.isOpen ho ho.state ho.retries) (by rwa [hd.written_eq]) hnil
  | failed hhs hgone hw hf =>
      exact .ended hhs (by rwa [hw]) fun hcut => absurd hcut (not_cut trivial)
  | held hw hp hr hd =>
      next p =>
      have hw' : Waits (hs.queue p) := ⟨hw.handle, hw.file, hw.left⟩
      rw [hr]
      refine .isOpen _ (hd.isOpen ho (Or.inl hw') ho.retries) ?_ fun _ => hnil hw
      rw [hd.written_eq, hw'.rest, ← hw.rest]
      exact hbody
  | rejected hw hp hr hd he =>
      rw [hr]
      rw [hw.rest, List.append_nil] at hbody
      exact he.kept (by rwa [hd.written_eq]) fun _ => by rw [hd.written_eq, hbody]; rfl
  | answered hw hp hr hreq hretries hstate hd he =>
      have hnone : c.written = [] := (List.append_eq_nil_iff.mp (hbody.trans (hnil hw))).1
      rw [hr]
      refine he.kept (hd.isOpen_answered ho hstate hreq hretries) ?_ fun hw' => hw'.rest
      rw [hd.written_eq, hnone]
      rfl
  | ignored f hserves hp hd =>
      rw [response_of_serves ho.conn hserves]
      exact .isOpen hs (hd.isOpen ho ho.state ho.retries) (by rwa [hd.written_eq]) hnil
  | dropped hp hd he =>
      rw [response_of_dropped hp]
      exact he.kept (by rwa [hd.written_eq]) fun hcut => absurd hcut (not_cut hp)
  | sent hd he =>
      exact he.kept (hd.isOpen ho (ho.retry 0) (show (0 : UInt8) < maxRetries by decide))
        (by rwa [hd.written_eq]) fun hw => hnil ⟨hw.handle, hw.file, hw.left⟩
  | expired hr hd he =>
      exact he.kept (by rwa [hd.written_eq]) fun hcut => absurd hcut (not_cut hr)
  | waited hr hw hd =>
      exact .isOpen _ (hd.isOpen ho (ho.retry _) (retries_succ_lt ho.retries hr))
        (by rwa [hd.written_eq]) fun _ => hnil hw
  | resumed hr f hserves hd he =>
      exact he.kept (hd.isOpen ho (ho.retry _) (retries_succ_lt ho.retries hr))
        (by rwa [hd.written_eq]) fun hw => nomatch hserves.handle.symm.trans hw.handle

/-- A connection that has ended stays so. -/
lemma step_of_ended (root : List FsdataFile) (hc : c.hs = none) (l : Label) :
    ∃ d, step root c l = .ok d ∧ d.hs = none ∧ d.written = c.written ∧ d.freed = c.freed := by
  cases l with
  | button => exact ⟨_, rfl, hc, rfl, rfl⟩
  | error => exact ⟨_, if_pos (Or.inr hc), hc, rfl, rfl⟩
  | sent => exact ⟨_, if_pos (Or.inr hc), hc, rfl, rfl⟩
  | recv p err => exact ⟨_, if_pos (Or.inr hc), hc, rfl, rfl⟩
  | poll =>
      rw [step, httpPoll, hc]
      split
      · exact ⟨c, rfl, hc, rfl, rfl⟩
      · have he := httpCloseConn_ends c
        exact ⟨_, rfl, he.hs, he.written, he.freed⟩

lemma step_kept (hroot : Included root) (h : Kept c b) (l : Label) :
    ∃ d, step root c l = .ok d ∧ Kept d (note root c l b) := by
  cases h with
  | isOpen hs ho hbody hnil =>
      obtain ⟨d, hd, hstepped⟩ := step_stepped hroot ho l
      exact ⟨d, hd, hstepped.kept ho hbody hnil⟩
  | ended hc hpre hbody =>
      obtain ⟨d, hd, hnone, hwritten, -⟩ := step_of_ended root hc l
      refine ⟨d, hd, ?_⟩
      rw [note, hc]
      exact .ended hnone (by rwa [hwritten]) fun hcut => by rw [hwritten, hbody hcut]

lemma httpAccept_open (c : Conn) : Open (httpAccept c) httpStateInit :=
  ⟨rfl, Or.inl ⟨rfl, rfl, rfl⟩, by decide, rfl, rfl⟩

/-- The connection with its account. -/
def accounted (root : List FsdataFile) : Conn × Account → Label → Except Fault (Conn × Account) :=
  observed (step root) (note root)

/-- **What is answered is the file.**  In every run, whatever TCP answers, no assertion fails, what
TCP has taken is the start of the file the request asked for, what is missing is what the connection
has left to send, and nothing is missing once it has ended without having been cut off. -/
theorem http_faithful (hroot : Included root) (c : Conn) (hc : c.written = []) (ls : List Label) :
    ∃ q, run (accounted root) (httpAccept c, ⟨[], false⟩) ls = .ok q ∧ Faithful q.1 q.2 := by
  have hstart : Kept (httpAccept c) ⟨[], false⟩ :=
    .isOpen _ (httpAccept_open c) (by rw [httpAccept, hc]; rfl) fun _ => rfl
  obtain ⟨q, hrun, hkept⟩ := run_ok' (s := (httpAccept c, ⟨[], false⟩))
    (I := fun q : Conn × Account => Kept q.1 q.2) (fun q l hq => by
      obtain ⟨d, hd, hkept⟩ := step_kept hroot hq l
      have hq : accounted root q l = .ok (d, note root q.1 l q.2) := observed_ok.mpr ⟨hd, rfl⟩
      exact ⟨_, hq, hkept⟩)
    ls hstart
  exact ⟨q, hrun, hkept.faithful⟩

/-- The file of `fsdata.c` that answers for the LED. -/
def toggleredledCgi : FsdataFile := ⟨ascii "/toggleredled.cgi", ascii "ON-OFF", true⟩

/-- A connection before it is accepted, to a client that takes everything. -/
def fresh : Conn where
  hs := none
  polled := false
  gone := false
  sndbuf := fun _ => 100
  queuelen := fun _ => 0
  writes := fun _ => .ok
  closes := fun _ => .ok
  mss := 2
  written := []
  recved := 0
  freed := []
  reqBuf := fun _ => 0
  button := false
  led := false

/-- In two segments of at most four bytes each. -/
theorem http_faithful_led : ∃ q, run (accounted [toggleredledCgi]) (httpAccept fresh, ⟨[], false⟩)
    [.recv [.ofBytes (ascii "GET /toggleredled.cgi\r\n\r\n")] .ok, .sent] = .ok q ∧
      Faithful q.1 q.2 :=
  http_faithful (fun f hf => by rw [List.mem_singleton.mp hf]; rfl) fresh rfl _

/-! ## Patience -/

def Label.isPoll : Label → Bool
  | .poll => true
  | _ => false

/-- The polls without an acknowledgement after which the connection is given up: a request that
completes starts the count again. -/
def patience (hs : HttpState) : ℕ := 4 - hs.retries.toNat + if hs.handle = none then 3 else 0

lemma patience_le (hs : HttpState) : patience hs ≤ 7 := by
  rw [patience]
  split <;> omega

lemma retries_lt (ho : Open c hs) : hs.retries.toNat < 4 := UInt8.lt_iff_toNat_lt.mp ho.retries

lemma retries_succ (ho : Open c hs) : (hs.retries + 1).toNat = hs.retries.toNat + 1 := by
  have hlt := retries_lt ho
  rw [UInt8.toNat_add]
  simp only [UInt8.toNat_one]
  omega

lemma Sends.patience {e : Conn} (h : Sends hs d e) (ho : Open d hs) :
    e.hs = none ∨ ∃ hs', Open e hs' ∧ patience hs' = Conn.patience hs := by
  rcases h.isOpen_or_ended ho with ⟨k, hopen, -⟩ | ⟨hnone, -⟩
  · exact Or.inr ⟨_, hopen, rfl⟩
  · exact Or.inl hnone

/-- Without a file there is nothing to go on with. -/
lemma Sends.ended {e : Conn} (h : Sends hs d e) (hw : Waits hs) : e.hs = none := by
  cases h with
  | more hk hd =>
      rw [hw.left] at hk
      exact absurd hk (Nat.not_lt_zero _)
  | all hd he => exact he.hs

/-- An open connection stays open or ends.  Without an acknowledgement a poll costs patience, and
nothing restores it. -/
lemma Stepped.patience (ho : Open c hs) (h : Stepped root c hs l d) :
    d.hs = none ∨ ∃ hs', Open d hs' ∧
      (l ≠ .sent → Conn.patience hs' + (if l.isPoll then 1 else 0) ≤ Conn.patience hs) := by
  have hlt := retries_lt ho
  cases h with
  | button hd => exact Or.inr ⟨hs, hd.isOpen ho ho.state ho.retries, fun _ => le_rfl⟩
  | failed hhs hgone hw hf => exact Or.inl hhs
  | held hw hp hr hd =>
      exact Or.inr ⟨_, hd.isOpen ho (Or.inl ⟨hw.handle, hw.file, hw.left⟩) ho.retries,
        fun _ => le_rfl⟩
  | rejected hw hp hr hd he => exact Or.inl he.hs
  | answered hw hp hr hreq hretries hstate hd he =>
      have hopen := hd.isOpen_answered ho hstate hreq hretries
      have hfull : Conn.patience hs = 4 - hs.retries.toNat + 3 := by
        rw [Conn.patience, if_pos hw.handle]
      rcases hstate with hw' | ⟨f, hserves⟩
      · exact Or.inl (he.ended hw')
      · refine (he.patience hopen).imp_right fun ⟨hs'', ho'', heq⟩ => ⟨hs'', ho'', fun _ => ?_⟩
        rw [heq, Conn.patience, hretries, if_neg (by rw [hserves.handle]; nofun)]
        simp only [Label.isPoll, Bool.false_eq_true, if_false, UInt8.toNat_zero]
        omega
  | ignored f hserves hp hd =>
      exact Or.inr ⟨hs, hd.isOpen ho ho.state ho.retries, fun _ => le_rfl⟩
  | dropped hp hd he => exact Or.inl he.hs
  | sent hd he =>
      have hopen := hd.isOpen ho (ho.retry 0) (show (0 : UInt8) < maxRetries by decide)
      exact (he.patience hopen).imp_right fun ⟨hs', ho', _⟩ => ⟨hs', ho', fun hl => absurd rfl hl⟩
  | expired hr hd he => exact Or.inl he.hs
  | waited hr hw hd =>
      refine Or.inr ⟨_, hd.isOpen ho (ho.retry _) (retries_succ_lt ho.retries hr), fun _ => ?_⟩
      simp only [Conn.patience, retries_succ ho, Label.isPoll, if_true]
      omega
  | resumed hr f hserves hd he =>
      have hopen := hd.isOpen ho (ho.retry _) (retries_succ_lt ho.retries hr)
      refine (he.patience hopen).imp_right fun ⟨hs'', ho'', heq⟩ => ⟨hs'', ho'', fun _ => ?_⟩
      rw [heq]
      simp only [Conn.patience, retries_succ ho, Label.isPoll, if_true]
      omega

lemma run_of_ended (hc : c.hs = none) (ls : List Label) :
    ∃ d, run (step root) c ls = .ok d ∧ d.hs = none :=
  run_ok' (I := fun c : Conn => c.hs = none) (fun s l hs => by
      obtain ⟨d, hd, hnone, -⟩ := step_of_ended root hs l
      exact ⟨d, hd, hnone⟩)
    ls hc

/-- Once its patience is spent an open connection has ended. -/
lemma run_impatient (hroot : Included root) : ∀ {c : Conn} {hs : HttpState} (ls : List Label),
    Open c hs → Label.sent ∉ ls → patience hs ≤ ls.countP Label.isPoll →
      ∃ d, run (step root) c ls = .ok d ∧ d.hs = none
  | c, hs, [], ho, _, hpolls => by
      have hlt := retries_lt ho
      rw [patience, List.countP_nil] at hpolls
      omega
  | c, hs, l :: ls, ho, hsent, hpolls => by
      obtain ⟨hl, hrest⟩ := List.ne_and_not_mem_of_not_mem_cons hsent
      obtain ⟨d, hd, hstepped⟩ := step_stepped hroot ho l
      rw [run_cons_of_ok hd]
      rcases hstepped.patience ho with hnone | ⟨hs', ho', hcost⟩
      · exact run_of_ended hnone ls
      · refine run_impatient hroot ls ho' hrest ?_
        have hspent := hcost hl.symm
        rw [List.countP_cons] at hpolls
        omega

/-- Every state of a run is open or has ended. -/
lemma run_open_or_ended (hroot : Included root) (c : Conn) (ls : List Label) :
    ∃ d, run (step root) (httpAccept c) ls = .ok d ∧ (d.hs = none ∨ ∃ hs, Open d hs) :=
  run_ok' (I := fun c : Conn => c.hs = none ∨ ∃ hs, Open c hs) (fun s l hs => by
      rcases hs with hnone | ⟨hs, ho⟩
      · obtain ⟨d, hd, hnone, -⟩ := step_of_ended root hnone l
        exact ⟨d, hd, Or.inl hnone⟩
      · obtain ⟨d, hd, hstepped⟩ := step_stepped hroot ho l
        exact ⟨d, hd, (hstepped.patience ho).imp_right fun ⟨hs', ho', _⟩ => ⟨hs', ho'⟩⟩)
    ls (Or.inr ⟨_, httpAccept_open c⟩)

/-- **A connection on which nothing is acknowledged ends**, whatever it was doing and whatever else
comes, with the seventh poll at the latest. -/
theorem http_no_sent_ends (hroot : Included root) (c : Conn) (ls ms : List Label)
    (hsent : Label.sent ∉ ms) (hpolls : 7 ≤ ms.countP Label.isPoll) :
    ∃ d, run (step root) (httpAccept c) (ls ++ ms) = .ok d ∧ d.hs = none := by
  obtain ⟨d, hd, hnone | ⟨hs, ho⟩⟩ := run_open_or_ended hroot c ls
  · rw [run_append_of_ok hd]
    exact run_of_ended hnone ms
  · rw [run_append_of_ok hd]
    exact run_impatient hroot ms ho hsent ((patience_le hs).trans hpolls)

/-- While a request trickles in. -/
theorem http_no_sent_ends_trickle : ∃ d, run (step [toggleredledCgi]) (httpAccept fresh)
    ([.recv [.ofBytes (ascii "GET")] .ok, .poll] ++
      [.poll, .recv [.ofBytes (ascii " /")] .ok, .poll, .poll, .button, .poll, .poll, .poll,
        .poll]) = .ok d ∧ d.hs = none :=
  http_no_sent_ends (fun f hf => by rw [List.mem_singleton.mp hf]; rfl) fresh _ _
    (by simp) (by decide)

end Lgt8.Http.Conn

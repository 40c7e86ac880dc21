import Mathlib.Tactic
import Lgt8.Tcp.Arrival

/-!
# The stream the application is handed

Whatever becomes of the segments on their way, and whatever the application does between two of
them, it is handed the bytes of the stream in their order, each once, and it is told of the end only
when there is nothing more to come.

* `callback_recv`, `deliverFin_spec` — one delivery, and the end.
* `tcpProcess_spec`, `finish_spec` — the two halves of `tcp_input`.
* `Brings` — the segments of a run are genuine.
* **`faithful_step`**, **`faithful_run`** — the step, and the run.
* **`stream_delivered`**, **`window_kept`**, **`received_soundly`** — from the `SYN` that opens the
  connection on: what is handed over, how much is held, and which assertions never fail.
-/

namespace Lgt8.Tcp

open Library Library.Serial

variable {st held : List UInt8} {b : ℤ} {rx : Received}

/-- What is behind the data. -/
def Received.behind (rx : Received) : Received := { rx with recvData := none }

namespace Conn

variable {c d : Conn} {sg : Segment}

/-! ## One delivery -/

lemma face_recv (c : Conn) (data : List UInt8) (err : Err) : (c.note (.recv data err)).face =
    { c.face with
      delivered := c.face.delivered ++ if err = .ok then data else []
      unread := c.face.unread + (if err = .ok then data else []).length } := by
  cases err <;> simp [face, note, setHist, delivered, ended, Event.taken, Event.isClosed]

lemma face_closed (c : Conn) (err : Err) :
    (c.note (.closed err)).face = { c.face with ended := true } := by
  simp [face, note, setHist, delivered, ended, Event.taken, Event.isClosed]

/-- The data is offered, while nothing else waits. -/
lemma faithful_recv (h : c.face.Faithful st b held) (hn : c.pcb.rcv.refusedData = none)
    (hl : c.hist.lost = false) (hf : c.freed = false) (err : Err) :
    (c.note (.recv held err)).face.Faithful st b (if err = .ok then [] else held) := by
  have hd := h.inOrder hl hf
  have hw : c.face.waiting = [] := Face.waiting_of_none hn
  rw [hw, List.append_nil] at hd
  rw [face_recv]
  by_cases he : err = .ok
  · rw [if_pos he, if_pos he]
    refine { h with
      inOrder := fun _ _ => ?_
      delivered := ?_
      ended := fun hend => ⟨(h.ended hend).1, fun _ => hd⟩
      room := ?_ }
    · show c.face.delivered ++ held ++ c.face.waiting ++ [] = c.face.got
      rw [hw, List.append_nil, List.append_nil, hd]
    · show c.face.delivered ++ held <+: c.face.got
      rw [hd]
    · have hroom := h.room
      show c.face.rcvWnd + (c.face.unread + held.length) + c.face.waiting.length + 0 +
        c.face.endPending ≤ tcpWnd
      omega
  · rw [if_neg he, if_neg he, List.append_nil, List.length_nil, Nat.add_zero]
    exact h

/-- It is taken, or refused; or the connection is gone. -/
theorem callback_recv (h : c.face.Faithful st b held) (hn : c.pcb.rcv.refusedData = none)
    (hl : c.hist.lost = false) (hf : c.freed = false) :
    Yields (fun r => r.2.face.Faithful st b (if r.1 = .ok ∨ r.1 = .abrt then [] else held) ∧
      r.2.pcb.rcv.refusedData = none ∧ r.2.hist.lost = false ∧ r.2.hist.got = c.hist.got ∧
      r.2.hist.gotFin = c.hist.gotFin ∧ r.2.ended = c.ended) Fault.Aside
      (c.callback (.recv held)) := by
  refine (calm_callback c (.recv held) fun err => (faithful_recv h hn hl hf err).roomy).imp ?_
  rintro ⟨err, d⟩ ⟨hc, ha⟩
  have hc' : (c.note (.recv held err)).face.Calm d.face := hc
  have hfe := face_recv c held err
  have hno := hc'.lost_of_none (by rw [hfe]; exact hn)
  have hfa := (faithful_recv h hn hl hf err).calm hc'
  refine ⟨?_, hno.1, hno.2.trans (by rw [hfe]; exact hl), hc'.got.trans (by rw [hfe]; rfl),
    hc'.gotFin.trans (by rw [hfe]; rfl), hc'.ended.trans (by rw [hfe]; rfl)⟩
  dsimp only at ha ⊢
  by_cases he : err = .ok
  · rw [if_pos he] at hfa
    rw [if_pos (.inl he)]
    exact hfa
  · rw [if_neg he] at hfa
    by_cases hab : err = .abrt
    · rw [if_pos (.inr hab)]
      exact hfa.gone (ha hab)
    · rw [if_neg (not_or.mpr ⟨he, hab⟩)]
      exact hfa

/-- What has been refused waits to be offered again. -/
lemma faithful_refuse (h : c.face.Faithful st b held) (hn : c.pcb.rcv.refusedData = none)
    (hl : c.hist.lost = false) {r : Refused} (hr : bytes r.p = held)
    (hfin : r.fin = true → c.hist.gotFin = true ∧ c.ended = false) :
    (c.setRcv fun v => { v with refusedData := some r }).face.Faithful st b [] := by
  refine { h with
    inOrder := fun hl' hf => ?_
    lost := fun hx => absurd (hx.symm.trans hl) (by decide)
    fin := fun d hd hx => ?_
    room := ?_ }
  · have hd := h.inOrder hl hf
    have hw : c.face.waiting = [] := Face.waiting_of_none hn
    rw [hw, List.append_nil] at hd
    show c.face.delivered ++ bytes r.p ++ [] = c.face.got
    rw [hr, List.append_nil, hd]
  · have hd' : d ∈ some r := hd
    rw [Option.mem_some] at hd'
    exact hfin (by rw [hd']; exact hx)
  · have hroom := h.room
    show c.face.rcvWnd + c.face.unread + (bytes r.p).length + 0 + c.face.endPending ≤ tcpWnd
    rw [hr]
    omega

lemma yields_alive (c : Conn) : Yields (fun _ => c.freed = false) Fault.Aside c.alive := by
  rw [alive]
  split
  · trivial
  · next hf => exact Bool.eq_false_iff.mpr hf

/-- The application is told of the end, when it has had all the rest. -/
theorem deliverFin_spec (h : c.face.Faithful st b []) (hn : c.pcb.rcv.refusedData = none)
    (hg : c.hist.gotFin = true ∧ c.ended = false) (hf : c.freed = false) :
    Yields (fun r => r.2.face.Faithful st b [] ∧ r.2.hist.got = c.hist.got) Fault.Aside
      c.deliverFin := by
  -- the number of the end is given back, since nobody reads it
  have hfa : Face.Faithful st b [] { c.face with
      ended := true
      rcvWnd := if c.pcb.rcv.rcvWnd ≠ tcpWnd then c.pcb.rcv.rcvWnd + 1 else c.pcb.rcv.rcvWnd } :=
    { h with
      ended := fun _ => ⟨hg.1, fun hl => by
        have hd := h.inOrder hl hf
        rw [Face.waiting_of_none hn, List.append_nil, List.append_nil] at hd
        exact hd⟩
      fin := fun d hd => by
        have hd' : d ∈ c.pcb.rcv.refusedData := hd
        rw [hn] at hd'
        exact absurd hd' (Option.not_mem_none d)
      room := by
        have hroom := h.room
        have hpend : c.face.endPending = 1 := if_pos hg
        have hwnd : c.face.rcvWnd = c.pcb.rcv.rcvWnd := rfl
        rw [hpend, hwnd, List.length_nil] at hroom
        show (if c.pcb.rcv.rcvWnd ≠ tcpWnd then c.pcb.rcv.rcvWnd + 1 else c.pcb.rcv.rcvWnd) +
          c.face.unread + c.face.waiting.length + 0 +
            (if c.face.gotFin = true ∧ true = false then 1 else 0) ≤ tcpWnd
        rw [if_neg (show ¬ (c.face.gotFin = true ∧ true = false) from
          fun hx => absurd hx.2 (by decide))]
        split <;> omega }
  rw [deliverFin]
  refine (calm_callback _ .closed fun err => by rw [face_closed]; exact hfa.roomy).imp ?_
  rintro ⟨err, d⟩ ⟨hc, -⟩
  have hc' : Face.Calm _ d.face := hc
  rw [face_closed] at hc'
  exact ⟨hfa.calm hc', hc'.got⟩

/-- What has been refused is offered again. -/
theorem tcpProcessRefusedData_spec (h : c.face.Faithful st b []) {r : Refused}
    (hr : c.pcb.rcv.refusedData = some r) (hf : c.freed = false) :
    Yields (fun q => q.2.face.Faithful st b [] ∧ q.2.hist.got = c.hist.got) Fault.Aside
      (c.tcpProcessRefusedData r) := by
  have hl : c.hist.lost = false := by
    cases hl : c.hist.lost with
    | false => rfl
    | true => exact absurd ((h.lost hl).1.symm.trans hr) (Option.some_ne_none r).symm
  have hfin : r.fin = true → c.hist.gotFin = true ∧ c.ended = false := h.fin r hr
  have hw : c.face.waiting = bytes r.p := by
    rw [Face.waiting, show c.face.refusedData = some r from hr]
    rfl
  have h0 : (c.setRcv fun v => { v with refusedData := none }).face.Faithful st b (bytes r.p) :=
    { h with
      inOrder := fun hl hf => by
        have hd := h.inOrder hl hf
        rw [hw, List.append_nil] at hd
        show c.face.delivered ++ [] ++ bytes r.p = c.face.got
        rw [List.append_nil, hd]
      lost := fun hx => absurd (hx.symm.trans hl) (by decide)
      fin := fun d hd => absurd hd (Option.not_mem_none d)
      room := by
        have hroom := h.room
        rw [hw] at hroom
        show c.face.rcvWnd + c.face.unread + 0 + (bytes r.p).length + c.face.endPending ≤ tcpWnd
        rw [List.length_nil] at hroom
        omega }
  rw [tcpProcessRefusedData]
  refine Yields.bind (callback_recv h0 rfl hl hf) ?_
  rintro ⟨err, d⟩ ⟨hfa, hn, hl', hgot, hgf, hend⟩
  have hfin' : r.fin = true → d.hist.gotFin = true ∧ d.ended = false := fun hx =>
    ⟨hgf.trans (hfin hx).1, hend.trans (hfin hx).2⟩
  dsimp only at hfa ⊢
  split
  · split
    · next hx =>
        refine Yields.bind (yields_alive d) fun _ hdf => ?_
        exact (deliverFin_spec hfa hn (hfin' hx) hdf).imp fun q hq =>
          ⟨hq.1, hq.2.trans hgot⟩
    · exact ⟨hfa, hgot⟩
  · exact ⟨hfa, hgot⟩
  · next hne hna =>
      rw [if_neg (not_or.mpr ⟨hne, hna⟩)] at hfa
      exact Yields.bind (yields_alive d) fun _ _ =>
        ⟨faithful_refuse hfa hn hl' rfl hfin', hgot⟩

/-! ## What `tcp_process` does -/

lemma enterTimeWait_freed (c : Conn) : c.enterTimeWait.freed = c.freed := by
  simp only [enterTimeWait, setState, setChanged, tcpPcbPurge, dropRefused]
  split
  · split <;> rfl
  · rfl

lemma calm_enterTimeWait (c : Conn) : Calm c c.enterTimeWait :=
  ((drops_tcpPcbPurge c).trans ((frame_setChanged _).drops.trans
    (drops_setState _ (by decide)))).calm (.inr (.inr rfl))

/-- After `tcp_process` the code returns, or there may be something to be handed over. -/
def Processed (st : List UInt8) (b : ℤ) (q : Err × Received × Conn) : Prop :=
  if q.1 = .abrt then q.2.2.face.Faithful st b [] else q.2.2.face.Pending st b q.2.1

lemma processed_of_ne {err : Err} (he : err ≠ .abrt) (h : d.face.Pending st b rx) :
    Processed st b (err, rx, d) := by
  rw [Processed, if_neg (show (err, rx, d).1 ≠ .abrt from he)]
  exact h

lemma processed_ok (h : d.face.Pending st b rx) : Processed st b (.ok, rx, d) :=
  processed_of_ne (by decide) h

lemma processed_abrt (h : d.face.Faithful st b []) : Processed st b (.abrt, rx, d) := by
  rw [Processed, if_pos rfl]
  exact h

/-- The end of the stream moves the state. -/
lemma pending_setState {st' : TcpState} (h : d.face.Pending st b rx) (hs : st' ≠ .synSent)
    (hw : d.pcb.state ≠ .timeWait) : (d.setState st').face.Pending st b rx :=
  h.calm (calm_setState d hs hw) h.alive

lemma pending_timeWait (h : d.face.Pending st b rx) : d.enterTimeWait.face.Pending st b rx :=
  h.calm (calm_enterTimeWait d) ((enterTimeWait_freed d).trans h.alive)

lemma processOpen_spec (h : c.face.Faithful st b []) (hg : Genuine st b c sg) (hr : c.Ready sg)
    (hf : c.freed = false) (hw : c.pcb.state ≠ .timeWait) :
    Yields (Processed st b) Fault.Aside (c.processOpen sg) := by
  rw [processOpen]
  refine Yields.bind (tcpReceive_spec h hg hr hf) ?_
  rintro ⟨rx, d⟩ ⟨hp, hst, -⟩
  dsimp only at hp hst ⊢
  have hdw : d.pcb.state ≠ .timeWait := by
    rw [hst]
    exact hw
  have hfin : (if rx.gotFin then d.ackNow.setState .closeWait else d).face.Pending st b rx := by
    split
    · exact pending_setState (d := d.ackNow) hp (by decide) hdw
    · exact hp
  split
  · exact processed_ok hfin
  · exact processed_ok hfin
  · refine processed_ok ?_
    split
    · split
      · exact pending_timeWait (d := d.ackNow) hp
      · exact pending_setState (d := d.ackNow) hp (by decide) hdw
    · split
      · exact pending_setState hp (by decide) hdw
      · exact hp
  · refine processed_ok ?_
    split
    · exact pending_timeWait (d := d.ackNow) hp
    · exact hp
  · refine processed_ok ?_
    split
    · exact pending_timeWait hp
    · exact hp
  · exact processed_ok ⟨hp.faithful, hp.gotFin, hp.data, hp.alive⟩

lemma accept_spec (h : c.face.Faithful st b []) (hg : Genuine st b c sg) (hr : c.Ready sg)
    (hw : c.pcb.state ≠ .timeWait) :
    Yields (Processed st b) Fault.Aside (c.accept sg) := by
  rw [accept]
  have hnote : ∀ err, Calm c (((c.setHist fun h => { h with known := true }).setState
      .established).note (.accepted err)) := fun err =>
    (calm_setState _ (by decide) hw).trans (frame_note _ rfl rfl).calm
  refine Yields.bind (calm_callback _ .accepted fun err => h.roomy.calm (hnote err)) ?_
  rintro ⟨err, d⟩ ⟨hc, ha⟩
  have hcd : Calm c d := (hnote err).trans hc
  have hfa := h.calm hcd
  dsimp only at ha ⊢
  split
  · split
    · exact processed_abrt hfa
    · refine Yields.bind (yields_alive d) fun _ _ => ?_
      exact Yields.bind (gone_tcpAbort d) fun e he => processed_abrt (hfa.calm he.1)
  · refine Yields.bind (yields_alive d) fun _ hf => ?_
    have hgd : Genuine st b d sg := by
      rw [Genuine, show d.hist.got = c.hist.got from hcd.got]
      exact hg
    have hrd : d.Ready sg := hr.imp_left fun hn => (hcd.lost_of_none hn).1
    refine Yields.bind (tcpReceive_spec hfa hgd hrd hf) ?_
    rintro ⟨rx, e⟩ ⟨hp, hst, hlow⟩
    refine processed_ok ?_
    dsimp only at hp hst hlow ⊢
    split
    · next hfin =>
        refine pending_setState hp (by decide) fun hew => ?_
        have hlt := hlow hfin
        rw [← hst, show e.pcb.state = .timeWait from hew] at hlt
        exact absurd hlt (by decide)
    · exact hp

/-- **`tcp_process`**: what is taken from a segment is what comes next, and it is not lost. -/
theorem tcpProcess_spec (h : c.face.Faithful st b []) (hg : Genuine st b c sg) (hr : c.Ready sg)
    (hf : c.freed = false) :
    Yields (Processed st b) Fault.Aside (c.tcpProcess sg) := by
  have hnothing : ∀ {e : Conn}, Frame c e → Processed st b (.ok, nothing, e) := fun {e} he =>
    processed_ok (he ▸ pending_nothing h hf)
  rw [tcpProcess]
  split
  · split
    · have hp := pending_nothing h hf
      exact processed_of_ne (by decide) ⟨hp.faithful, hp.gotFin, hp.data, hp.alive⟩
    · exact hnothing (.refl c)
  · split
    · exact (hnothing (frame_ackNow c))
    · dsimp only
      generalize hd : Conn.tcpParseopt _ sg = d
      have hcd : Frame c d := by
        rw [← hd]
        exact (frame_tcpParseopt _ sg).after rfl
      have hface : d.face = c.face := hcd
      have hgd : Genuine st b d sg := by
        rw [Genuine, show d.hist.got = c.hist.got from congrArg Face.got hface]
        exact hg
      have hrd : d.Ready sg := hr.imp_left (congrArg Face.refusedData hface).trans
      have hfd : d.freed = false := (congrArg Face.freed hface).trans hf
      have hdf : d.face.Faithful st b [] := hface ▸ h
      split
      · next hst => exact absurd hst hdf.state
      · next hst =>
          split
          · split
            · exact accept_spec hdf hgd hrd (by rw [hst]; decide)
            · exact (hnothing (hcd.trans (frame_rstFor d sg)))
          · split
            · exact (hnothing (hcd.trans (frame_tcpRexmit d)))
            · exact (hnothing hcd)
      · exact (hnothing hcd)
      · exact (hnothing hcd)
      · next hst =>
          exact processOpen_spec hdf hgd hrd hfd hst

/-! ## Handing over -/

/-- The code goes on, or the connection is gone. -/
def Told (st : List UInt8) (b : ℤ) (rx : Received) (q : Bool × Conn) : Prop :=
  if q.1 then q.2.face.Pending st b rx else q.2.face.Faithful st b []

lemma told_true (h : d.face.Pending st b rx) : Told st b rx (true, d) := by
  rw [Told, if_pos rfl]
  exact h

lemma told_false (h : d.face.Faithful st b []) : Told st b rx (false, d) := by
  rw [Told, if_neg Bool.false_ne_true]
  exact h

lemma tellSent_spec (h : c.face.Pending st b rx) :
    Yields (Told st b rx) Fault.Aside c.tellSent := by
  rw [tellSent]
  split
  · have hnote : Calm c (c.note (.sent c.pcb.snd.acked)) := (frame_note c rfl rfl).calm
    refine Yields.bind (calm_callback c _ fun _ => h.faithful.roomy.calm hnote) ?_
    rintro ⟨err, d⟩ ⟨hc, ha⟩
    have hcd : Calm c d := hnote.trans hc
    dsimp only at ha ⊢
    split
    · next he => exact told_false ((h.faithful.calm hcd).gone (ha he))
    · exact Yields.bind (yields_alive d) fun _ hf => told_true (h.calm hcd hf)
  · exact told_true h

/-- What is held when the application has closed its side is dropped. -/
lemma faithful_lose (h : c.face.Faithful st b held) (hn : c.pcb.rcv.refusedData = none)
    (hx : c.pcb.flags.rxclosed = true) : c.lose.face.Faithful st b [] :=
  { h with
    inOrder := fun hl => absurd (show true = false from hl) (by decide)
    ended := fun he => ⟨(h.ended he).1, fun hl => absurd (show true = false from hl) (by decide)⟩
    lost := fun _ => ⟨hn, .inl hx⟩
    room := (Nat.add_le_add_right (Nat.add_le_add_left (Nat.zero_le _) _) _).trans h.room }

lemma tellData_spec (h : c.face.Pending st b rx) :
    Yields (Told st b rx.behind) Fault.Aside (c.tellData rx) := by
  have hbehind : ∀ {e : Conn}, e.face.Faithful st b [] → e.hist.gotFin = c.hist.gotFin →
      e.ended = c.ended → e.freed = false → e.face.Pending st b rx.behind := fun {e} he hg hn hf =>
    ⟨he, fun hr => ⟨hg.trans (h.gotFin hr).1, hn.trans (h.gotFin hr).2⟩,
      fun hr => absurd rfl hr, hf⟩
  rw [tellData]
  split
  · next heq =>
      have hfa : c.face.Faithful st b [] := by
        have := h.faithful
        rw [Received.held, heq] at this
        exact this
      exact told_true (hbehind hfa rfl rfl h.alive)
  · next p heq =>
      have hfa : c.face.Faithful st b (bytes p) := by
        have := h.faithful
        rw [Received.held, heq] at this
        exact this
      obtain ⟨hn, hx⟩ := h.data (by rw [heq]; exact Option.some_ne_none p)
      have hnone : c.pcb.rcv.refusedData.isNone = true := by
        rw [show c.pcb.rcv.refusedData = none from hn]
        rfl
      refine Yields.bind (yields_assert_of hnone) fun _ _ => ?_
      split
      · next hxc =>
          exact Yields.bind (gone_tcpAbort c.lose) fun e he =>
            told_false ((faithful_lose hfa hn hxc).calm he.1)
      · next hxc =>
          have hl : c.hist.lost = false := by
            cases hl : c.hist.lost with
            | false => rfl
            | true => exact absurd (hx hl) hxc
          refine Yields.bind (callback_recv hfa hn hl h.alive) ?_
          rintro ⟨err, d⟩ ⟨hd, hdn, hdl, -, hdg, hde⟩
          dsimp only at hd hdn hdl hdg hde ⊢
          by_cases ha : err = .abrt
          · rw [if_pos ha]
            rw [if_pos (.inr ha)] at hd
            exact told_false hd
          · rw [if_neg ha]
            refine Yields.bind (yields_alive d) fun _ hf => told_true ?_
            by_cases ho : err = .ok
            · rw [if_pos ho]
              rw [if_pos (.inl ho)] at hd
              exact hbehind hd hdg hde hf
            · rw [if_neg ho]
              rw [if_neg (not_or.mpr ⟨ho, ha⟩)] at hd
              exact hbehind (faithful_refuse hd hdn hdl rfl fun hx =>
                absurd (show false = true from hx) (by decide)) hdg hde hf

lemma tellFin_spec (h : c.face.Pending st b rx.behind) :
    Yields (fun q => q.2.face.Faithful st b []) Fault.Aside (c.tellFin rx) := by
  have hfa : c.face.Faithful st b [] := h.faithful
  rw [tellFin]
  split
  · next hfin =>
      have hg : c.hist.gotFin = true ∧ c.ended = false := h.gotFin hfin
      split
      · next r heq =>
          show Face.Faithful st b [] _
          refine { hfa with
            inOrder := fun hl hf => ?_
            lost := fun hl => absurd ((hfa.lost hl).1.symm.trans heq) (Option.some_ne_none r).symm
            fin := fun _ _ _ => hg
            room := ?_ }
          · have hd := hfa.inOrder hl hf
            rw [Face.waiting, show c.face.refusedData = some r from heq] at hd
            exact hd
          · have hroom := hfa.room
            rw [Face.waiting, show c.face.refusedData = some r from heq] at hroom
            exact hroom
      · next heq =>
          refine Yields.bind (deliverFin_spec hfa heq hg h.alive) ?_
          rintro ⟨err, d⟩ ⟨hd, -⟩
          dsimp only at hd ⊢
          split
          · exact hd
          · exact Yields.bind (yields_alive d) fun _ _ => hd
  · exact hfa

/-- What `tcp_input` does behind `tcp_process`. -/
theorem finish_spec (h : c.face.Pending st b rx) :
    Yields (fun d => d.face.Faithful st b []) Fault.Aside (c.finish rx) := by
  have hfaithful : ∀ {rx : Received} {q : Bool × Conn}, Told st b rx q → q.1 = false →
      q.2.face.Faithful st b [] := fun {rx q} hq hf => by
    rw [Told, hf, if_neg Bool.false_ne_true] at hq
    exact hq
  have hpending : ∀ {rx : Received} {q : Bool × Conn}, Told st b rx q → q.1 = true →
      q.2.face.Pending st b rx := fun {rx q} hq ht => by
    rw [Told, ht, if_pos rfl] at hq
    exact hq
  rw [finish]
  refine Yields.bind (tellSent_spec h) ?_
  rintro ⟨more, d⟩ hd
  refine Yields.bind (I := Told st b rx.behind) ?_ ?_
  · cases more with
    | true => exact tellData_spec (hpending hd rfl)
    | false => exact told_false (hfaithful hd rfl)
  rintro ⟨more, e⟩ he
  refine Yields.bind (I := fun q => q.2.face.Faithful st b []) ?_ ?_
  · cases more with
    | true => exact tellFin_spec (hpending he rfl)
    | false => exact hfaithful he rfl
  rintro ⟨more, f⟩ hf
  dsimp only at hf ⊢
  show Face.Faithful st b [] _
  split
  · rw [show f.leave.tcpOutput.face = f.face from (frame_tcpOutput f.leave).after rfl]
    exact hf
  · exact hf

/-! ## A segment -/

lemma gone_drop (c : Conn) (e : Option Err) : Yields (Gone c) Fault.Aside (c.drop e) := by
  unfold drop
  refine Yields.bind (drops_tcpPcbRemove _) fun d hd => ?_
  refine Drops.gone (Drops.trans ?_ hd) (.refl _)
  cases e with
  | none => exact (Frame.refl c).drops
  | some e => exact (frame_tell c e).drops

lemma inputSegment_spec (h : c.face.Faithful st b []) (hg : Genuine st b c sg) (hr : c.Ready sg)
    (hf : c.freed = false) :
    Yields (fun d => d.face.Faithful st b []) Fault.Aside (c.inputSegment sg) := by
  rw [inputSegment]
  refine Yields.bind (tcpProcess_spec (c := c.enter) h hg hr hf) ?_
  rintro ⟨err, rx, d⟩ hp
  dsimp only
  by_cases ha : err = .abrt
  · rw [if_pos ha]
    rw [Processed, if_pos ha] at hp
    exact hp
  · rw [if_neg ha]
    rw [Processed, if_neg ha] at hp
    have hdrop : ∀ e : Option Err, Yields (fun d => d.face.Faithful st b []) Fault.Aside
        (leave <$> d.drop e) := fun e =>
      (gone_drop d e).fmap fun f hf => (hp.faithful.calm hf.1).gone hf.2
    split
    · exact hdrop _
    · split
      · exact hdrop _
      · exact finish_spec hp

theorem tcpInput_spec (h : c.face.Faithful st b []) (hg : Genuine st b c sg) :
    Yields (fun d => d.face.Faithful st b []) Fault.Aside (c.tcpInput sg) := by
  rw [tcpInput]
  split
  · exact h
  · next hf =>
      have hf' : c.freed = false := Bool.eq_false_iff.mpr hf
      split
      · show Face.Faithful st b [] _
        rw [show (c.tcpTimewaitInput sg).face = c.face from frame_tcpTimewaitInput c sg]
        exact h
      · split
        · next hn => exact inputSegment_spec h hg (.inl hn) hf'
        · next r hr =>
            refine Yields.bind (tcpProcessRefusedData_spec h hr hf') ?_
            rintro ⟨err, d⟩ ⟨hd, hgot⟩
            dsimp only at hd hgot ⊢
            split
            · exact hd
            · refine Yields.bind (yields_alive d) fun _ hdf => ?_
              split
              · exact hd
              · next hnot =>
                  refine inputSegment_spec hd (by rw [Genuine, hgot]; exact hg) ?_ hdf
                  by_cases hz : sg.tcplen = 0
                  · exact .inr hz
                  · refine .inl ?_
                    cases hdr : d.pcb.rcv.refusedData with
                    | none => rfl
                    | some r' => exact absurd ⟨by rw [hdr]; rfl, Nat.pos_of_ne_zero hz⟩ hnot

/-! ## The timers -/

lemma tcpFasttmr_spec (h : c.face.Faithful st b []) :
    Yields (fun d => d.face.Faithful st b []) Fault.Aside c.tcpFasttmr := by
  rw [tcpFasttmr]
  split
  · exact h
  · next hno =>
      rw [not_or] at hno
      dsimp only
      generalize hd : (if c.pcb.flags.ackDelay = true then c.ackNow.tcpOutput.clearAck else c) = d
      have hcd : d.face = c.face := by
        rw [← hd]
        split
        · exact (frame_clearAck _).after ((frame_tcpOutput _).after (frame_ackNow c))
        · rfl
      split
      · show Face.Faithful st b [] _
        rw [hcd]
        exact h
      · next r hr =>
          exact (tcpProcessRefusedData_spec (hcd ▸ h) hr ((congrArg Face.freed hcd).trans
            (Bool.eq_false_iff.mpr hno.1))).fmap fun q hq => hq.1

lemma calm_giveUp (c : Conn) (reset : Bool) : Calm c (c.giveUp reset) := by
  refine Drops.freed (d := if reset then c.tcpPcbPurge.tcpRst c.tcpPcbPurge.pcb.snd.sndNxt
    c.tcpPcbPurge.pcb.rcv.rcvNxt else c.tcpPcbPurge) ?_ (frame_tell _ _)
  cases reset with
  | true => exact (drops_tcpPcbPurge c).trans (frame_tcpRst ..).drops
  | false => exact drops_tcpPcbPurge c

lemma calm_pollTimer (c : Conn) (h : c.face.Roomy) :
    Yields (Calm c) Fault.Aside c.pollTimer := by
  rw [pollTimer]
  split
  · have hnote : Calm c ({ c.setCtl fun t => { t with polltmr := 0 } with changed := false }.note
        .poll) := ((frame_note _ rfl rfl).after (show Frame c _ from rfl)).calm
    refine Yields.bind (calm_callback _ _ fun _ => h.calm hnote) ?_
    rintro ⟨err, d⟩ ⟨hd, -⟩
    have hcd : Calm c d := hnote.trans hd
    dsimp only
    split
    · exact hcd
    · split
      · exact Yields.bind (yields_alive d) fun _ _ => hcd.trans (frame_tcpOutput d).calm
      · exact hcd
  · exact (frame_setCtl ..).calm

lemma calm_slowActive (c : Conn) (h : c.face.Roomy) :
    Yields (Calm c) Fault.Aside c.slowActive := by
  rw [slowActive]
  have htimers : Yields (Frame c) Fault.Aside (if decide c.gaveUp = true then .ok c
      else if 0 < c.pcb.ctl.persistBackoff then c.persistTimer else c.rexmitTimer) := by
    split
    · exact Frame.refl c
    · split
      · exact frame_persistTimer c
      · exact frame_rexmitTimer c
  refine Yields.bind htimers fun d hd => ?_
  have hlast : ∀ (e : Conn) (p : Prop) [Decidable p] (reset : Bool), Frame c e →
      Yields (Calm c) Fault.Aside (if p then .ok (e.giveUp reset) else e.pollTimer) := by
    intro e p _ reset he
    split
    · exact he.calm.trans (calm_giveUp e reset)
    · exact (calm_pollTimer e (h.calm he.calm)).imp fun f hf => he.calm.trans hf
  dsimp only
  split
  · exact hlast d _ _ hd
  · exact hlast _ _ _ (hd.trans (frame_keepaliveTimer d))

lemma calm_tcpSlowtmr (c : Conn) (h : c.face.Roomy) :
    Yields (Calm c) Fault.Aside c.tcpSlowtmr := by
  rw [tcpSlowtmr]
  have hactive : ∀ d : Conn, d.face.Roomy → Yields (Calm d) Fault.Aside
      (if d.freed = true ∨ d.pcb.state = .timeWait then .ok d else d.slowActive) := fun d hd => by
    split
    · exact Calm.refl d
    · exact calm_slowActive d hd
  refine Yields.bind (hactive _ h) fun d hd => ?_
  have hcd : Calm c d :=
    (show Calm c { c with tcpTicks := c.tcpTicks + 1 } from Calm.refl c).trans hd
  show Calm c _
  split
  · exact hcd
  · rw [slowTimeWait]
    split
    · exact hcd.trans ((drops_tcpPcbPurge d).freed (.refl _))
    · exact hcd

end Conn

/-! ## Runs -/

/-- What a turn brings is a segment of the stream. -/
def Brings (st : List UInt8) (b : ℤ) (c : Conn) (t : Turn) : Prop :=
  ∀ sg, t.label = .segment sg → Genuine st b c sg

/-- **The step.** -/
theorem faithful_step {c : Conn} {t : Turn} (h : c.face.Faithful st b []) (hg : Brings st b c t) :
    Yields (fun d => d.face.Faithful st b []) Fault.Aside (step c t) := by
  obtain ⟨label, alloc, reactions⟩ := t
  let c' : Conn := { c with alloc := alloc, reactions := reactions }
  cases label with
  | segment sg =>
      have hgc : Genuine st b c' sg := hg sg rfl
      exact Conn.tcpInput_spec (c := c') h hgc
  | call k => exact (Conn.calm_call c' k h.roomy).imp fun d hd => h.calm hd
  | abort => exact (Conn.gone_abort c').imp fun d hd => h.calm hd.1
  | kill =>
      show Yields _ _ (if c'.freed = true then .ok c' else c'.tcpAbort)
      split
      · exact h
      · exact (Conn.gone_tcpAbort c').imp fun d hd => h.calm hd.1
  | fasttmr => exact Conn.tcpFasttmr_spec (c := c') h
  | slowtmr => exact (Conn.calm_tcpSlowtmr c' h.roomy).imp fun d hd => h.calm hd

/-- **The run.** -/
theorem faithful_run {c d : Conn} {ts : List Turn} (h : c.face.Faithful st b [])
    (hg : AllSteps step (Brings st b) c ts) (hd : run step c ts = .ok d) :
    d.face.Faithful st b [] :=
  run_invariant (fun _ _ _ hs hC ht => (faithful_step hs hC).ok ht) h hg hd

/-- A connection begins with nothing taken. -/
lemma faithful_passiveOpen {iss : Seq} {ticks : BitVec 32} {keepalive : Bool} {alloc : List Bool}
    {syn : Segment} {c : Conn} (hb : syn.seqno + 1 = num 32 b)
    (hc : passiveOpen iss ticks keepalive alloc syn = some c) : c.face.Faithful st b [] := by
  have hlisten : (listenConn iss ticks keepalive alloc syn).face =
      ⟨.synRcvd, false, false, syn.seqno + 1, tcpWnd, none, [], false, 0, [], false, false⟩ :=
    Conn.frame_tcpParseopt _ syn
  have hframe := Conn.frame_tcpEnqueueFlags (listenConn iss ticks keepalive alloc syn) true false
  rw [passiveOpen] at hc
  split at hc
  · next d heq =>
      rw [heq] at hframe
      have hface := Eq.trans (Conn.frame_tcpOutput d) (Eq.trans hframe hlisten)
      rw [← Option.some_inj.mp hc, hface]
      refine ⟨?_, List.nil_prefix, fun h => absurd h Bool.false_ne_true, fun _ _ => rfl,
        List.prefix_refl _, fun h => absurd h Bool.false_ne_true,
        fun h => absurd h Bool.false_ne_true, fun d hd => absurd hd (Option.not_mem_none d),
        show TcpState.synRcvd ≠ .synSent by decide,
        show tcpWnd + 0 + 0 + 0 + 0 ≤ tcpWnd from le_rfl⟩
      show syn.seqno + 1 = num 32 (b + (((0 : ℕ) : ℤ) + 0))
      rw [hb, Nat.cast_zero, add_zero, add_zero]
  · exact absurd hc (Option.some_ne_none c).symm

/-- **What the application is handed.**  However segments of the other end's stream are cut,
repeated, reordered and lost, and whatever the application and the timers do, `rcv_nxt` is the
number behind what has been taken of the stream.  The application is handed a beginning of it, which
is all but what it has refused, as long as nothing was dropped; that is only done to a connection
that is gone, closed for reading or in `TIME_WAIT`.  When it is told of the end, the whole stream
has been taken, and handed over unless some was dropped. -/
theorem stream_delivered {iss : Seq} {ticks : BitVec 32} {keepalive : Bool} {alloc : List Bool}
    {syn : Segment} {c d : Conn} {ts : List Turn} (hb : syn.seqno + 1 = num 32 b)
    (hc : passiveOpen iss ticks keepalive alloc syn = some c)
    (hg : AllSteps step (Brings st b) c ts) (hd : run step c ts = .ok d) :
    (d.pcb.rcv.rcvNxt = num 32 (b + (d.hist.got.length + if d.hist.gotFin then 1 else 0)) ∧
        d.hist.got <+: st ∧ (d.hist.gotFin = true → d.hist.got = st)) ∧
      d.delivered <+: d.hist.got ∧
      (d.hist.lost = false → d.freed = false →
        d.delivered ++ ((d.pcb.rcv.refusedData.map fun r => bytes r.p).getD []) = d.hist.got) ∧
      (d.hist.lost = true → d.pcb.flags.rxclosed = true ∨ d.freed = true ∨
        d.pcb.state = .timeWait) ∧
      (d.ended = true → d.hist.gotFin = true ∧ (d.hist.lost = false → d.delivered = st)) := by
  have h := faithful_run (faithful_passiveOpen hb hc) hg hd
  refine ⟨⟨h.rcvNxt, h.got, h.gotFin⟩, h.delivered, fun hl hf => ?_, fun hl => (h.lost hl).2,
    fun he => ?_⟩
  · exact (List.append_nil _).symm.trans (h.inOrder hl hf)
  · obtain ⟨hfin, hall⟩ := h.ended he
    exact ⟨hfin, fun hl => (hall hl).trans (h.gotFin hfin)⟩

/-- A segment with its data in one buffer. -/
def segmentOf (seqno ackno : Seq) (fin syn ack : Bool) (data : List UInt8)
    (h : data.length ≤ 6000) : Segment where
  seqno := seqno
  ackno := ackno
  fin := fin
  syn := syn
  rst := false
  ack := ack
  wnd := 2920
  hdrlen := 5
  opts := fun _ => 0
  p := [⟨data, data.length⟩]
  wnd_lt := by decide
  ne_nil := List.cons_ne_nil _ _
  counted := ⟨by rw [bytes_cons, bytes_nil, List.append_nil], trivial⟩
  length_le := by rw [bytes_cons, bytes_nil, List.append_nil]; exact h

/-- The `SYN` of the connection the examples are about. -/
def synOf : Segment := segmentOf 999 0 false true false [] (by decide)

/-- The acknowledgement that makes the connection. -/
def acceptTurn : Turn := ⟨.segment (segmentOf 1000 6511 false false true [] (by decide)), [], []⟩

/-- `Hi`, and the end. -/
def hiSegment : Segment := segmentOf 1000 6511 true false true [72, 105] (by decide)

/-- `Hi` is refused at first. -/
def acceptAndHi : List Turn :=
  [acceptTurn, ⟨.segment hiSegment, [], [⟨[], .mem, false⟩]⟩, ⟨.fasttmr, [], []⟩]

lemma synOf_opens : (passiveOpen 6510 0 false [] synOf).isSome = true := by decide +kernel

/-- The control block the `SYN` leads to. -/
def synOfConn : Conn := (passiveOpen 6510 0 false [] synOf).get synOf_opens

lemma synOf_open : passiveOpen 6510 0 false [] synOf = some synOfConn :=
  (Option.some_get synOf_opens).symm

lemma acceptAndHi_runs : ∃ d, run step synOfConn acceptAndHi = .ok d ∧
    (d.ended, d.hist.lost, d.hist.unread) = (true, false, 2) := by
  have hrun : (run step synOfConn acceptAndHi).toOption.map
      (fun d => (d.ended, d.hist.lost, d.hist.unread)) = some (true, false, 2) := by
    decide +kernel
  cases hr : run step synOfConn acceptAndHi with
  | error x =>
      rw [hr] at hrun
      exact absurd hrun (Option.some_ne_none _).symm
  | ok d =>
      rw [hr] at hrun
      exact ⟨d, rfl, Option.some_inj.mp hrun⟩

lemma brings_acceptTurn (c : Conn) : Brings [72, 105] 1000 c acceptTurn := by
  rintro sg heq hpos
  obtain rfl := Label.segment.inj heq
  exact absurd hpos (by decide)

lemma brings_hiSegment {c : Conn} (h : step synOfConn acceptTurn = .ok c) (alloc : List Bool)
    (reactions : List Reaction) :
    Brings [72, 105] 1000 c ⟨.segment hiSegment, alloc, reactions⟩ := by
  rintro sg heq -
  obtain rfl := Label.segment.inj heq
  have hgot : c.hist.got = [] := by
    have hstep : (step synOfConn acceptTurn).toOption.map (fun d => d.hist.got) = some [] := by
      decide +kernel
    rw [h] at hstep
    exact Option.some_inj.mp hstep
  refine .inr ⟨rfl, 0, by decide, List.prefix_refl _, fun _ => rfl, ?_⟩
  rw [hgot]
  decide

lemma acceptAndHi_brings : AllSteps step (Brings [72, 105] 1000) synOfConn acceptAndHi := by
  refine ⟨brings_acceptTurn _, fun c₁ h₁ => ⟨brings_hiSegment h₁ _ _, fun c₂ _ => ⟨?_, fun _ _ =>
    trivial⟩⟩⟩
  rintro sg heq
  exact absurd heq (by simp)

/-- `Hi` is refused at first, and handed over with the next tick of the fast timer. -/
theorem stream_delivered_hi : ∃ d, run step synOfConn acceptAndHi = .ok d ∧
    d.hist.gotFin = true ∧ d.delivered = [72, 105] := by
  obtain ⟨d, hd, hdet⟩ := acceptAndHi_runs
  obtain ⟨hfin, hall⟩ := (stream_delivered (b := 1000) (by decide) synOf_open
    acceptAndHi_brings hd).2.2.2.2 (congrArg Prod.fst hdet)
  exact ⟨d, hd, hfin, hall (congrArg (fun q => q.2.1) hdet)⟩

/-- **What the firmware holds.**  The bytes the application has been handed and has not given back,
those it has refused, and the window it leaves to the other end are never more than the window the
connection began with: neither is more taken than there is room for, nor does `tcp_recved` open the
window too far. -/
theorem window_kept {iss : Seq} {ticks : BitVec 32} {keepalive : Bool} {alloc : List Bool}
    {syn : Segment} {c d : Conn} {ts : List Turn} (hb : syn.seqno + 1 = num 32 b)
    (hc : passiveOpen iss ticks keepalive alloc syn = some c)
    (hg : AllSteps step (Brings st b) c ts) (hd : run step c ts = .ok d) :
    d.pcb.rcv.rcvWnd + d.hist.unread +
        ((d.pcb.rcv.refusedData.map fun r => bytes r.p).getD []).length ≤ tcpWnd ∧
      ∀ len ≤ d.hist.unread, len + d.pcb.rcv.rcvWnd ≤ 0xffff := by
  have hroom := (faithful_run (faithful_passiveOpen hb hc) hg hd).room
  have hall : d.pcb.rcv.rcvWnd + d.hist.unread +
      ((d.pcb.rcv.refusedData.map fun r => bytes r.p).getD []).length ≤ tcpWnd :=
    (Nat.le_add_right _ _).trans hroom
  refine ⟨hall, fun len hlen => ?_⟩
  have : tcpWnd = 2920 := rfl
  omega

/-- Until it gives `Hi` back, the window is smaller by these two bytes at least. -/
theorem window_kept_hi : ∃ d, run step synOfConn acceptAndHi = .ok d ∧ d.hist.unread = 2 ∧
    d.pcb.rcv.rcvWnd ≤ 2918 := by
  obtain ⟨d, hd, hdet⟩ := acceptAndHi_runs
  have hkept := (window_kept (b := 1000) (by decide) synOf_open
    acceptAndHi_brings hd).1
  have hunread : d.hist.unread = 2 := congrArg (fun q => q.2.2) hdet
  refine ⟨d, hd, hunread, ?_⟩
  rw [hunread, show tcpWnd = 2920 from rfl] at hkept
  omega

/-- **What is received is handled without a failure.**  However such a run ends, none of the
assertions about what is received has failed. -/
theorem received_soundly {iss : Seq} {ticks : BitVec 32} {keepalive : Bool} {alloc : List Bool}
    {syn : Segment} {c : Conn} {x : Fault} {ts : List Turn} (hb : syn.seqno + 1 = num 32 b)
    (hc : passiveOpen iss ticks keepalive alloc syn = some c)
    (hg : AllSteps step (Brings st b) c ts) (hx : run step c ts = .error x) : x.Aside :=
  (run_yields (fun _ _ hs hC => faithful_step hs hC) (faithful_passiveOpen hb hc) hg).error hx

/-- The application closes the connection when it is handed `Hi`, without giving it back. -/
def acceptAndClose : List Turn :=
  [acceptTurn, ⟨.segment hiSegment, [], [⟨[.close], .ok, false⟩]⟩]

/-- How a run ends. -/
def faultOf : Except Fault Conn → Option Fault
  | .ok _ => none
  | .error x => some x

lemma acceptAndClose_faults : run step synOfConn acceptAndClose = .error .dangling := by
  have hrun : faultOf (run step synOfConn acceptAndClose) = some .dangling := by decide +kernel
  cases hr : run step synOfConn acceptAndClose with
  | ok d =>
      rw [hr] at hrun
      exact absurd hrun (Option.some_ne_none _).symm
  | error x =>
      rw [hr] at hrun
      exact congrArg _ (Option.some_inj.mp hrun)

/-- In `CLOSE_WAIT` this gives back the control block `tcp_input` still works on. -/
theorem received_soundly_closed : run step synOfConn acceptAndClose = .error .dangling ∧
    Fault.Aside .dangling := by
  have hbrings : AllSteps step (Brings [72, 105] 1000) synOfConn acceptAndClose :=
    ⟨brings_acceptTurn _, fun c₁ h₁ => ⟨brings_hiSegment h₁ _ _, fun _ _ => trivial⟩⟩
  refine ⟨acceptAndClose_faults, received_soundly (b := 1000) (by decide) synOf_open hbrings
    acceptAndClose_faults⟩

end Lgt8.Tcp

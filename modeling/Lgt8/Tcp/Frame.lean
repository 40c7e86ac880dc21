import Mathlib.Tactic
import Lgt8.Tcp.Timers

/-!
# What sending leaves alone

A connection has two halves.  Writing, sending, acknowledging and retransmitting change the sender
variables and the timers, and nothing that says what has been received or what the application has
been told of it, and how much room there is for more.

* `Face` — what a connection shows of the data that has come.
* `Frame` — it shows the same.
* `Fault.Aside` — a fault that is no failed assertion about what is received.
* **`frame_tcpOutput`**, **`frame_tcpWrite`**, **`frame_receiveAck`** and the others — the functions
  that change no more.
-/

namespace Lgt8.Tcp

open Library Library.Serial

/-- What a connection shows of the data that has come. -/
structure Face where
  state : TcpState
  rxclosed : Bool
  freed : Bool
  rcvNxt : Seq
  rcvWnd : ℕ
  refusedData : Option Refused
  delivered : List UInt8
  ended : Bool
  unread : ℕ
  got : List UInt8
  gotFin : Bool
  lost : Bool

/-- The assertions about what is received: a segment is cut right, fits the window and does not meet
refused data; the window does not wrap; and only what is closed for reading is reset with data
unread. -/
def Assertion.aboutReceived : Assertion → Bool
  | .insaneOffset | .pbufTooShort | .pbufHeader | .pbufRealloc | .notTrimmed | .tcplen
  | .wrapRcvWnd | .refusedData | .rxclosed | .synQueue => true
  | _ => false

/-- A fault that is no failure of one of them. -/
def Fault.Aside : Fault → Prop
  | .assertion a => a.aboutReceived = false
  | _ => True

lemma yields_assert {a : Assertion} (ha : a.aboutReceived = false) (p : Prop) [Decidable p] :
    Yields (fun _ => p) Fault.Aside (assert a p) := by
  rw [assert]
  split
  · assumption
  · exact ha

lemma yields_assert_of {a : Assertion} {p : Prop} [Decidable p] (hp : p) :
    Yields (fun _ => p) Fault.Aside (assert a p) := by
  rw [assert, if_pos hp]
  exact hp

namespace Conn

def face (c : Conn) : Face where
  state := c.pcb.state
  rxclosed := c.pcb.flags.rxclosed
  freed := c.freed
  rcvNxt := c.pcb.rcv.rcvNxt
  rcvWnd := c.pcb.rcv.rcvWnd
  refusedData := c.pcb.rcv.refusedData
  delivered := c.delivered
  ended := c.ended
  unread := c.hist.unread
  got := c.hist.got
  gotFin := c.hist.gotFin
  lost := c.hist.lost

/-- `c'` shows the same as `c`. -/
def Frame (c c' : Conn) : Prop := c'.face = c.face

variable {c d e : Conn}

/-! ## Putting frames together -/

lemma Frame.refl (c : Conn) : Frame c c := rfl

lemma Frame.trans (h : Frame c d) (h' : Frame d e) : Frame c e := Eq.trans h' h

/-- What has been done before leaves the rest alone too. -/
lemma Frame.after (h' : Frame d e) (h : Frame c d) : Frame c e := h.trans h'

/-- Something is noted that is no delivery. -/
lemma frame_note (c : Conn) {e : Event} (ht : e.taken = []) (hc : e.isClosed = false) :
    Frame c (c.note e) := by
  simp [Frame, face, note, setHist, delivered, ended, ht, hc]

lemma frame_setSnd (c : Conn) (f : Sender → Sender) : Frame c (c.setSnd f) := rfl

lemma frame_setCtl (c : Conn) (f : Control → Control) : Frame c (c.setCtl f) := rfl

lemma frame_setFlags (c : Conn) {f : Flags → Flags}
    (hf : (f c.pcb.flags).rxclosed = c.pcb.flags.rxclosed) : Frame c (c.setFlags f) := by
  simp only [Frame, face, setFlags, hf]
  rfl

lemma frame_allocate (c : Conn) : Frame c c.allocate.2 := rfl

lemma frame_ackNow (c : Conn) : Frame c c.ackNow := frame_setFlags c rfl

lemma frame_ack (c : Conn) : Frame c c.ack := by
  refine frame_setFlags c ?_
  split <;> rfl

lemma frame_clearAck (c : Conn) : Frame c c.clearAck := frame_setFlags c rfl

lemma frame_memerr (c : Conn) : Frame c c.memerr := frame_setFlags c rfl

lemma frame_announce (c : Conn) : Frame c c.announce := rfl

lemma frame_out (c : Conn) (p : Packet) : Frame c (c.note (.out p)) := frame_note c rfl rfl

lemma frame_emit (c : Conn) (p : Packet) : Frame c (c.emit p) :=
  (frame_announce c).trans (frame_out _ p)

/-! ## Segments -/

lemma frame_sendHeader (c : Conn) (seqno : Seq) (fin : Bool) (data : List UInt8) :
    Frame c (c.sendHeader seqno fin data) := by
  simp only [sendHeader]
  split
  · exact (frame_allocate c).trans (frame_emit _ _)
  · exact frame_allocate c

lemma frame_tcpSendEmptyAck (c : Conn) : Frame c c.tcpSendEmptyAck := by
  rw [tcpSendEmptyAck]
  split
  · exact (frame_sendHeader ..).trans (frame_clearAck _)
  · exact frame_allocate c

lemma frame_tcpRst (c : Conn) (seqno ackno : Seq) : Frame c (c.tcpRst seqno ackno) := by
  simp only [tcpRst]
  split
  · exact (frame_allocate c).trans (frame_out _ _)
  · exact frame_allocate c

lemma frame_tcpKeepalive (c : Conn) : Frame c c.tcpKeepalive := frame_sendHeader ..

lemma frame_tcpZeroWindowProbe (c : Conn) :
    Yields (Frame c) Fault.Aside c.tcpZeroWindowProbe := by
  rw [tcpZeroWindowProbe]
  split
  · exact .refl c
  · split
    · exact frame_sendHeader ..
    · split
      · exact frame_sendHeader ..
      · split
        · trivial
        · exact frame_allocate c

lemma frame_startTimers (c : Conn) (seg : Seg) : Frame c (c.startTimers seg) := frame_setCtl ..

lemma frame_tcpOutputSegment (c : Conn) (seg : Seg) : Frame c (c.tcpOutputSegment seg) :=
  (frame_startTimers c seg).trans (frame_emit _ _)

lemma frame_keep (c : Conn) (seg : Seg) (rest : List Seg) : Frame c (c.keep seg rest) :=
  frame_setSnd ..

lemma frame_outputTurn (c : Conn) (seg : Seg) (rest : List Seg) :
    Frame c (c.outputTurn seg rest) := by
  rw [outputTurn]
  refine .trans ?_ ((frame_tcpOutputSegment _ _).trans (frame_keep _ _ _))
  split
  · exact frame_clearAck c
  · exact .refl c

lemma frame_outputLoop (wnd : ℕ) : ∀ (segs : List Seg) (c : Conn), Frame c (outputLoop wnd segs c)
  | [], c => .refl c
  | seg :: rest, c => by
      rw [outputLoop]
      split
      · exact (frame_outputTurn c seg rest).trans (frame_outputLoop wnd rest _)
      · exact .refl c

lemma frame_flushed (c : Conn) : Frame c c.flushed :=
  (frame_setSnd c _).trans (frame_setFlags _ rfl)

theorem frame_tcpOutput (c : Conn) : Frame c c.tcpOutput := by
  rw [tcpOutput]
  split
  · exact .refl c
  · dsimp only
    split
    · exact frame_tcpSendEmptyAck c
    · exact (frame_outputLoop ..).trans (frame_flushed _)

/-! ## Queues -/

lemma frame_enqueue (c : Conn) (seg : Seg) : Frame c (c.enqueue seg) := frame_setSnd ..

lemma frame_markFin (c : Conn) (fin : Bool) : Frame c (c.markFin fin) := frame_setFlags c rfl

lemma frame_tcpEnqueueFlags (c : Conn) (syn fin : Bool) :
    Frame c (c.tcpEnqueueFlags syn fin).2 := by
  simp only [tcpEnqueueFlags]
  split
  · exact frame_memerr c
  · split
    · exact .refl c
    · split
      · split
        · exact (frame_allocate c).trans ((frame_allocate _).trans
            ((frame_enqueue ..).trans (frame_markFin ..)))
        · exact (frame_allocate c).trans ((frame_allocate _).trans (frame_memerr _))
      · exact (frame_allocate c).trans (frame_memerr _)

lemma frame_tcpSendFin (c : Conn) : Frame c c.tcpSendFin.2 := by
  rw [tcpSendFin]
  split
  · split
    · exact (frame_setSnd ..).trans (frame_markFin ..)
    · exact frame_tcpEnqueueFlags ..
  · exact frame_tcpEnqueueFlags ..

lemma frame_tcpWriteChecks (c : Conn) (len : ℕ) :
    Yields (fun r => Frame c r.2) Fault.Aside (c.tcpWriteChecks len) := by
  rw [tcpWriteChecks]
  split
  · exact .refl c
  · split
    · exact .refl c
    · split
      · exact frame_memerr c
      · split
        · exact frame_memerr c
        · exact Yields.bind (yields_assert (by decide) _) fun _ _ => Frame.refl c

lemma frame_tcpPbufPrealloc (c : Conn) (length maxLength : ℕ) (more firstSeg : Bool) :
    Frame c (c.tcpPbufPrealloc length maxLength more firstSeg).2 := frame_allocate c

lemma frame_growLeft (c : Conn) (oversize : ℕ) : Frame c (c.growLeft oversize) := frame_setSnd ..

lemma frame_chainTail (c : Conn) (arg : List UInt8) (copy more : Bool) (last : Seg) (w : Writing) :
    Frame c (c.chainTail arg copy more last w).2 := by
  have hp := frame_tcpPbufPrealloc c (w.seglen arg.length) w.space more true
  rw [chainTail]
  split
  · split
    · split
      · next heq => rwa [heq] at hp
      · next heq =>
          rw [heq] at hp
          exact hp.trans (frame_growLeft ..)
    · exact frame_allocate c
  · exact .refl c

lemma frame_newBuffers (c : Conn) (seglen mssLocal : ℕ) (copy more : Bool) (w : Writing) :
    Yields (fun r => Frame c r.2) Fault.Aside (c.newBuffers seglen mssLocal copy more w) := by
  have hp := frame_tcpPbufPrealloc c seglen mssLocal more w.queue.isEmpty
  rw [newBuffers]
  split
  · split
    · next heq => rwa [heq] at hp
    · next heq => rwa [heq] at hp
  · refine Yields.bind (yields_assert (by decide) _) fun _ _ => ?_
    split
    · exact (frame_allocate c).trans (frame_allocate _)
    · exact frame_allocate c

lemma frame_newSegs (arg : List UInt8) (copy more : Bool) (mssLocal : ℕ) :
    ∀ (n : ℕ) (w : Writing) (c : Conn),
      Yields (fun r => Frame c r.2) Fault.Aside (newSegs arg copy more mssLocal n w c)
  | 0, w, c => .refl c
  | n + 1, w, c => by
      rw [newSegs]
      split
      · refine Yields.bind (frame_newBuffers ..) ?_
        rintro ⟨buffers, d⟩ hd
        cases buffers with
        | none => exact hd
        | some b =>
            dsimp only
            split
            · exact hd
            · split
              · exact (frame_newSegs arg copy more mssLocal n _ _).imp fun r hr =>
                  hd.trans ((frame_allocate d).trans hr)
              · exact hd.trans (frame_allocate d)
      · exact .refl c

lemma frame_wrote (c : Conn) (arg : List UInt8) : Frame c (c.note (.wrote arg)) :=
  frame_note c rfl rfl

lemma frame_commit (c : Conn) (arg : List UInt8) (more : Bool) (w : Writing) :
    Yields (fun r => Frame c r.2) Fault.Aside (c.commit arg more w) := by
  rw [commit]
  refine Yields.bind (yields_assert (by decide) _) fun _ _ => ?_
  refine Yields.bind (yields_assert (by decide) _) fun _ _ => ?_
  exact (frame_setSnd ..).trans (frame_wrote ..)

lemma frame_prepare (c : Conn) (arg : List UInt8) (copy more : Bool) (mssLocal : ℕ) :
    Yields (fun r => Frame c r.2) Fault.Aside (c.prepare arg copy more mssLocal) := by
  rw [prepare]
  split
  · exact Yields.bind (yields_assert (by decide) _) fun _ _ => frame_chainTail ..
  · exact Yields.bind (yields_assert (by decide) _) fun _ _ => Frame.refl c

lemma frame_segmentise (c : Conn) (arg : List UInt8) (copy more : Bool) (mssLocal : ℕ) :
    Yields (fun r => Frame c r.2) Fault.Aside (c.segmentise arg copy more mssLocal) := by
  rw [segmentise]
  refine Yields.bind (frame_prepare ..) ?_
  rintro ⟨w, d⟩ hd
  cases w with
  | none => exact hd
  | some w => exact (frame_newSegs ..).imp fun r hr => hd.trans hr

theorem frame_tcpWrite (c : Conn) (arg : List UInt8) (copy more : Bool) :
    Yields (fun r => Frame c r.2) Fault.Aside (c.tcpWrite arg copy more) := by
  rw [tcpWrite]
  refine Yields.bind (frame_tcpWriteChecks ..) ?_
  rintro ⟨err, d⟩ hd
  dsimp only at hd ⊢
  split
  · refine Yields.bind (frame_segmentise ..) ?_
    rintro ⟨w, e⟩ he
    cases w with
    | none => exact Yields.bind (yields_assert (by decide) _) fun _ _ =>
        hd.trans (he.trans (frame_memerr e))
    | some w => exact (frame_commit ..).imp fun r hr => hd.trans (he.trans hr)
  · exact hd

lemma frame_tcpRexmit (c : Conn) : Frame c c.tcpRexmit := by
  rw [tcpRexmit]
  split
  · exact .refl c
  · exact (frame_setSnd ..).trans (frame_setCtl ..)

lemma frame_tcpRexmitRto (c : Conn) : Frame c c.tcpRexmitRto := by
  rw [tcpRexmitRto]
  split
  · exact .refl c
  · exact (frame_setSnd ..).trans ((frame_setCtl ..).trans (frame_tcpOutput _))

lemma frame_tcpRexmitFast (c : Conn) : Frame c c.tcpRexmitFast := by
  rw [tcpRexmitFast]
  split
  · exact (frame_tcpRexmit c).trans ((frame_setCtl ..).trans (frame_setFlags _ rfl))
  · exact .refl c

/-! ## Acknowledgements -/

lemma frame_updateWindow (c : Conn) (sg : Segment) : Frame c (c.updateWindow sg) := by
  simp only [updateWindow]
  split
  · exact (frame_setSnd ..).trans (frame_setCtl ..)
  · exact .refl c

lemma frame_dupAck (c : Conn) (sg : Segment) (edge : Seq) : Frame c (c.dupAck sg edge) := by
  simp only [dupAck]
  split
  · split
    · exact rfl
    · split
      · exact (frame_tcpRexmitFast _).after rfl
      · exact rfl
  · exact rfl

lemma frame_openCwnd (c : Conn) : Yields (Frame c) Fault.Aside c.openCwnd := by
  simp only [openCwnd]
  split
  · show Frame c _
    split <;> exact rfl
  · split
    · trivial
    · show Frame c _
      split <;> exact rfl

lemma frame_freeAcked (c : Conn) (seg : Seg) :
    Yields (Frame c) Fault.Aside (c.freeAcked seg) := by
  rw [freeAcked]
  refine Yields.bind (yields_assert (by decide) _) fun _ _ => ?_
  exact Yields.bind (yields_assert (by decide) _) fun _ _ => frame_setSnd ..

lemma frame_ackUnacked (ackno : Seq) : ∀ (segs : List Seg) (c : Conn),
    Yields (Frame c) Fault.Aside (ackUnacked ackno segs c)
  | [], c => .refl c
  | seg :: rest, c => by
      rw [ackUnacked]
      split
      · exact Yields.bind (frame_freeAcked ..) fun d hd =>
          (frame_ackUnacked ackno rest d).imp fun e he => (frame_setSnd ..).trans (hd.trans he)
      · exact .refl c

lemma frame_ackUnsent (ackno : Seq) : ∀ (segs : List Seg) (c : Conn),
    Yields (Frame c) Fault.Aside (ackUnsent ackno segs c)
  | [], c => .refl c
  | seg :: rest, c => by
      rw [ackUnsent]
      split
      · exact Yields.bind (frame_freeAcked ..) fun d hd =>
          (frame_ackUnsent ackno rest d).imp fun e he => (frame_setSnd ..).trans (hd.trans he)
      · exact .refl c

lemma frame_newAck (c : Conn) (ackno : Seq) :
    Yields (Frame c) Fault.Aside (c.newAck ackno) := by
  rw [newAck]
  refine Yields.bind (I := Frame c) ((frame_openCwnd _).imp fun d hd => hd.after ?_) fun d hd => ?_
  · split <;> exact rfl
  · exact Yields.bind (frame_ackUnacked ..) fun e he => hd.trans (he.trans (frame_setCtl ..))

lemma frame_estimateRtt (c : Conn) (ackno : Seq) : Frame c (c.estimateRtt ackno) := by
  rw [estimateRtt]
  split
  · exact frame_setCtl ..
  · exact .refl c

lemma frame_acknowledge (c : Conn) (sg : Segment) (edge : Seq) :
    Yields (Frame c) Fault.Aside (c.acknowledge sg edge) := by
  simp only [acknowledge]
  split
  · exact frame_dupAck ..
  · split
    · exact frame_newAck ..
    · exact frame_setSnd ..

theorem frame_receiveAck (c : Conn) (sg : Segment) :
    Yields (Frame c) Fault.Aside (c.receiveAck sg) := by
  rw [receiveAck]
  refine Yields.bind (frame_acknowledge ..) fun d hd => ?_
  exact Yields.bind (frame_ackUnsent ..) fun e he =>
    (frame_updateWindow c sg).trans (hd.trans (he.trans (frame_estimateRtt ..)))

lemma frame_tcpParseopt (c : Conn) (sg : Segment) : Frame c (c.tcpParseopt sg) := by
  rw [tcpParseopt]
  split
  · exact rfl
  · exact .refl c

lemma frame_rstFor (c : Conn) (sg : Segment) : Frame c (c.rstFor sg) := frame_tcpRst ..

/-! ## The window -/

lemma frame_tcpUpdateRcvAnnWnd (c : Conn) :
    Yields (fun r => Frame c r.2) Fault.Aside c.tcpUpdateRcvAnnWnd := by
  simp only [tcpUpdateRcvAnnWnd]
  split
  · exact rfl
  · split
    · exact rfl
    · exact Yields.bind (yields_assert (by decide) _) fun _ _ => rfl

lemma frame_tcpTimewaitInput (c : Conn) (sg : Segment) : Frame c (c.tcpTimewaitInput sg) := by
  simp only [tcpTimewaitInput]
  split
  · exact .refl c
  · split
    · exact frame_rstFor c sg
    · split
      · refine (frame_tcpOutput _).after ?_
        split <;> exact rfl
      · split <;> exact rfl

/-! ## Timers -/

lemma frame_persistTimer (c : Conn) : Yields (Frame c) Fault.Aside c.persistTimer := by
  rw [persistTimer]
  split
  · trivial
  · split
    · exact (frame_tcpZeroWindowProbe _).imp fun d hd => (frame_setCtl ..).trans hd
    · exact frame_setCtl ..

lemma frame_backOff (c : Conn) : Frame c c.backOff :=
  (frame_setCtl ..).trans (frame_tcpRexmitRto _)

lemma frame_rexmitTimer (c : Conn) : Yields (Frame c) Fault.Aside c.rexmitTimer := by
  simp only [rexmitTimer, retransmit]
  split
  · split
    · exact (frame_backOff _).after rfl
    · split
      · trivial
      · exact (frame_backOff _).after rfl
  · exact rfl

lemma frame_keepaliveTimer (c : Conn) : Frame c c.keepaliveTimer := by
  rw [keepaliveTimer]
  split
  · exact (frame_tcpKeepalive c).trans (frame_setCtl ..)
  · exact .refl c

end Conn

end Lgt8.Tcp

import Mathlib.Tactic
import Lgt8.Tcp.Frame

/-!
# What the application can do to data that has come

Between two deliveries the application may call what it likes.  It cannot change what has been taken
from the segments or what it has been handed; but what it has refused is dropped when it closes the
connection, and after that nothing more is handed to it.

* `Face.shut` — nothing more is handed to the application.
* `Face.Drops` — refused data may have been dropped.
* `Face.Calm` — and if so, the connection is shut.
* `Face.Roomy` — what has been handed over and the window are no more than at the beginning.
* **`calm_tcpCloseShutdown`**, **`calm_call`**, **`calm_callback`** — closing, any call, and a
  callback with any number of them.
-/

namespace Lgt8.Tcp

open Library Library.Serial

/-- Nothing more is handed to the application. -/
def Face.shut (f : Face) : Prop := f.rxclosed = true ∨ f.freed = true ∨ f.state = .timeWait

/-- `g` is `f` after data that was refused may have been dropped. -/
structure Face.Drops (f g : Face) : Prop where
  rcvNxt : g.rcvNxt = f.rcvNxt
  delivered : g.delivered = f.delivered
  ended : g.ended = f.ended
  got : g.got = f.got
  gotFin : g.gotFin = f.gotFin
  refused : (g.refusedData = f.refusedData ∧ g.lost = f.lost) ∨
    (g.refusedData = none ∧ g.lost = (f.lost || f.refusedData.isSome))
  rxclosed : f.rxclosed = true → g.rxclosed = true
  freed : f.freed = true → g.freed = true
  state : f.state ≠ .synSent → g.state ≠ .synSent
  room : g.rcvWnd + g.unread ≤ f.rcvWnd + f.unread

/-- If data has been dropped, the connection is shut. -/
structure Face.Calm (f g : Face) : Prop extends Face.Drops f g where
  shut : f.shut → g.shut
  lost : g.lost = true → f.lost = true ∨ g.shut

/-- What has been handed over and the window are no more than the connection began with. -/
def Face.Roomy (f : Face) : Prop := f.rcvWnd + f.unread ≤ tcpWnd

variable {f g h : Face}

lemma Face.Roomy.calm (hr : f.Roomy) (hc : f.Calm g) : g.Roomy := hc.room.trans hr

lemma Face.Drops.refl (f : Face) : f.Drops f :=
  ⟨rfl, rfl, rfl, rfl, rfl, .inl ⟨rfl, rfl⟩, id, id, id, le_rfl⟩

lemma Face.Drops.trans (hd : f.Drops g) (hd' : g.Drops h) : f.Drops h where
  rcvNxt := hd'.rcvNxt.trans hd.rcvNxt
  delivered := hd'.delivered.trans hd.delivered
  ended := hd'.ended.trans hd.ended
  got := hd'.got.trans hd.got
  gotFin := hd'.gotFin.trans hd.gotFin
  refused := by
    obtain ⟨hr, hl⟩ | ⟨hr, hl⟩ := hd'.refused <;> obtain ⟨hr', hl'⟩ | ⟨hr', hl'⟩ := hd.refused
    · exact .inl ⟨hr.trans hr', hl.trans hl'⟩
    · exact .inr ⟨hr.trans hr', hl.trans hl'⟩
    · exact .inr ⟨hr, by rw [hl, hl', hr']⟩
    · exact .inr ⟨hr, by rw [hl, hl', hr', Option.isSome_none, Bool.or_false]⟩
  rxclosed hx := hd'.rxclosed (hd.rxclosed hx)
  freed hx := hd'.freed (hd.freed hx)
  state hx := hd'.state (hd.state hx)
  room := hd'.room.trans hd.room

/-- Once the connection is shut, data may be dropped. -/
lemma Face.Drops.calm (hd : f.Drops g) (hs : g.shut) : f.Calm g :=
  { hd with shut := fun _ => hs, lost := fun _ => .inr hs }

lemma Face.Calm.refl (f : Face) : f.Calm f := { Face.Drops.refl f with shut := id, lost := .inl }

lemma Face.Calm.trans (hc : f.Calm g) (hc' : g.Calm h) : f.Calm h :=
  { hc.toDrops.trans hc'.toDrops with
    shut := fun hs => hc'.shut (hc.shut hs)
    lost := fun hl => by
      obtain hl | hs := hc'.lost hl
      · exact (hc.lost hl).imp_right hc'.shut
      · exact .inr hs }

namespace Conn

variable {c d e : Conn}

def Drops (c d : Conn) : Prop := c.face.Drops d.face

def Calm (c d : Conn) : Prop := c.face.Calm d.face

lemma Frame.drops (hf : Frame c d) : Drops c d := by
  rw [Drops, hf]
  exact .refl _

lemma Frame.calm (hf : Frame c d) : Calm c d := by
  rw [Calm, hf]
  exact .refl _

lemma Drops.trans (hd : Drops c d) (hd' : Drops d e) : Drops c e := Face.Drops.trans hd hd'

lemma Calm.trans (hc : Calm c d) (hc' : Calm d e) : Calm c e := Face.Calm.trans hc hc'

lemma Calm.refl (c : Conn) : Calm c c := Face.Calm.refl _

/-! ## Taking a connection down -/

lemma drops_dropRefused (c : Conn) : Drops c c.dropRefused := by
  refine ⟨?_, ?_, ?_, ?_, ?_, .inr ⟨rfl, ?_⟩, ?_, ?_, ?_, ?_⟩ <;> rw [dropRefused] <;> split <;>
    simp_all [face, setRcv, lose, setHist, delivered, ended]

lemma drops_tcpPcbPurge (c : Conn) : Drops c c.tcpPcbPurge := by
  rw [tcpPcbPurge]
  split
  · exact (drops_dropRefused c).trans ((frame_setSnd ..).trans (frame_setCtl ..)).drops
  · exact (Frame.refl c).drops

lemma drops_setState (c : Conn) {st : TcpState} (h : st ≠ .synSent) : Drops c (c.setState st) :=
  ⟨rfl, rfl, rfl, rfl, rfl, .inl ⟨rfl, rfl⟩, id, id, fun _ => h, le_rfl⟩

lemma drops_free (c : Conn) : Drops c c.free :=
  ⟨rfl, rfl, rfl, rfl, rfl, .inl ⟨rfl, rfl⟩, id, fun _ => rfl, id, le_rfl⟩

lemma drops_rxclose (c : Conn) : Drops c c.rxclose :=
  ⟨rfl, rfl, rfl, rfl, rfl, .inl ⟨rfl, rfl⟩, fun _ => rfl, id, id, le_rfl⟩

lemma frame_setChanged (c : Conn) : Frame c c.setChanged := rfl

lemma frame_forget (c : Conn) : Frame c c.forget := rfl

lemma frame_tell (c : Conn) (err : Err) : Frame c (c.tell err) :=
  (frame_note c rfl rfl).trans (frame_forget _)

lemma drops_tcpPcbRemove (c : Conn) : Yields (Drops c) Fault.Aside c.tcpPcbRemove := by
  rw [tcpPcbRemove]
  refine Yields.bind (yields_assert (by decide) _) fun _ _ => ?_
  refine Yields.bind (yields_assert (by decide) _) fun _ _ => ?_
  refine (drops_tcpPcbPurge c).trans (.trans ?_ (drops_setState _ (by decide)))
  split
  · exact ((frame_ackNow _).trans (frame_tcpOutput _)).drops
  · exact (Frame.refl _).drops

/-- A control block that has been given back is shut. -/
lemma Drops.freed (hd : Drops c d) (hf : Frame d.free e) : Calm c e := by
  refine (hd.trans ((drops_free d).trans hf.drops)).calm (.inr (.inl ?_))
  rw [hf]
  rfl

/-- It is given back, and the application may be told. -/
def Gone (c d : Conn) : Prop := Calm c d ∧ d.freed = true

lemma Drops.gone (hd : Drops c d) (hf : Frame d.free e) : Gone c e :=
  ⟨hd.freed hf, congrArg Face.freed hf⟩

lemma gone_tcpAbort (c : Conn) : Yields (Gone c) Fault.Aside c.tcpAbort := by
  rw [tcpAbort]
  split
  · exact (drops_tcpPcbRemove c).fmap fun d hd => hd.gone (.refl _)
  · refine Yields.bind (drops_tcpPcbRemove c) fun d hd => ?_
    exact (hd.trans ((frame_setChanged d).trans (frame_tcpRst ..)).drops).gone (frame_tell ..)

/-! ## Closing -/

lemma calm_setState (c : Conn) {st : TcpState} (h : st ≠ .synSent) (hw : c.pcb.state ≠ .timeWait) :
    Calm c (c.setState st) :=
  { drops_setState c h with
    shut := fun hs => by
      obtain hx | hx | hx := hs
      · exact .inl hx
      · exact .inr (.inl hx)
      · exact absurd hx hw
    lost := .inl }

lemma calm_rxclose (c : Conn) : Calm c c.rxclose := (drops_rxclose c).calm (.inl rfl)

lemma calm_closeBy (c : Conn) {st : TcpState} (h : st ≠ .synSent) (hw : c.pcb.state ≠ .timeWait) :
    Calm c (c.closeBy st).2 := by
  have hf := frame_tcpSendFin c
  rw [closeBy]
  split
  · next d heq =>
      rw [heq] at hf
      have hd : d.pcb.state = c.pcb.state := congrArg Face.state hf
      exact hf.calm.trans ((calm_setState d h (by rwa [hd])).trans (frame_tcpOutput _).calm)
  · next heq =>
      rw [heq] at hf
      exact hf.calm

/-- `TF_RXCLOSED` is set before a connection is closed with data unread. -/
theorem calm_tcpCloseShutdown (c : Conn) (rst : Bool)
    (h : rst = true → c.pcb.flags.rxclosed = true) :
    Yields (fun r => Calm c r.2) Fault.Aside (c.tcpCloseShutdown rst) := by
  simp only [tcpCloseShutdown]
  split
  · next hrst =>
      refine Yields.bind (yields_assert_of (h hrst.1)) fun _ _ => ?_
      have hp : Drops c ((c.tcpRst c.pcb.snd.sndNxt c.pcb.rcv.rcvNxt).tcpPcbPurge.setChanged) :=
        (frame_tcpRst c _ _).drops.trans ((drops_tcpPcbPurge _).trans (frame_setChanged _).drops)
      have hx := hp.rxclosed (h hrst.1)
      show Calm c _
      split
      · exact (hp.trans (drops_setState _ (by decide))).calm (.inl hx)
      · exact (hp.trans (drops_free _)).calm (.inl hx)
  · split
    · exact (Frame.refl c).drops.freed (.refl _)
    · exact Yields.bind (drops_tcpPcbRemove c) fun d hd =>
        (hd.trans (frame_setChanged d).drops).freed (.refl _)
    · next hst => exact calm_closeBy c (by decide) (by rw [hst]; decide)
    · next hst => exact calm_closeBy c (by decide) (by rw [hst]; decide)
    · next hst => exact calm_closeBy c (by decide) (by rw [hst]; decide)
    · exact Calm.refl c

lemma calm_tcpClose (c : Conn) : Yields (fun r => Calm c r.2) Fault.Aside c.tcpClose :=
  (calm_tcpCloseShutdown _ true fun _ => rfl).imp fun _ hr => (calm_rxclose c).trans hr

lemma calm_tcpShutdown (c : Conn) (rx tx : Bool) :
    Yields (fun r => Calm c r.2) Fault.Aside (c.tcpShutdown rx tx) := by
  rw [tcpShutdown]
  split
  · exact calm_tcpClose c
  · have hd : Calm c (if rx then c.rxclose.dropRefused else c) ∧
        (rx = true → (if rx then c.rxclose.dropRefused else c).pcb.flags.rxclosed = true) := by
      have hx := (drops_dropRefused c.rxclose).rxclosed rfl
      cases rx with
      | true => exact ⟨((drops_rxclose c).trans (drops_dropRefused _)).calm (.inl hx), fun _ => hx⟩
      | false => exact ⟨.refl c, fun h => absurd h Bool.false_ne_true⟩
    dsimp only
    split
    · split
      · exact (calm_tcpCloseShutdown _ rx hd.2).imp fun _ hr => hd.1.trans hr
      · exact (calm_tcpCloseShutdown _ rx hd.2).imp fun _ hr => hd.1.trans hr
      · exact (calm_tcpCloseShutdown _ rx hd.2).imp fun _ hr => hd.1.trans hr
      · exact hd.1
    · exact hd.1

/-! ## Any call -/

/-- What is given back opens the window, by no more than was read. -/
theorem calm_tcpRecved (c : Conn) {len : ℕ} (h : len ≤ c.hist.unread) (hroom : c.face.Roomy) :
    Yields (Calm c) Fault.Aside
      ((c.setHist fun h => { h with unread := h.unread - len }).tcpRecved len) := by
  have hfits : len + c.pcb.rcv.rcvWnd ≤ 0xffff := by
    have : c.pcb.rcv.rcvWnd + c.hist.unread ≤ 2920 := hroom
    omega
  rw [tcpRecved]
  refine Yields.bind (yields_assert_of hfits) fun _ _ => ?_
  refine Yields.bind (frame_tcpUpdateRcvAnnWnd _) fun r hr => ?_
  have hopen : Calm c ((c.setHist fun h => { h with unread := h.unread - len }).setRcv fun r =>
      { r with rcvWnd := min (r.rcvWnd + len) tcpWnd }) := by
    have hroom : min (c.pcb.rcv.rcvWnd + len) tcpWnd + (c.hist.unread - len) ≤
        c.pcb.rcv.rcvWnd + c.hist.unread := by
      omega
    exact ⟨⟨rfl, rfl, rfl, rfl, rfl, .inl ⟨rfl, rfl⟩, id, id, id, hroom⟩, id, .inl⟩
  have hc : Calm c r.2 := hopen.trans hr.calm
  show Calm c _
  split
  · exact hc.trans ((frame_ackNow _).trans (frame_tcpOutput _)).calm
  · exact hc

lemma calm_closing {r : Err × Conn} (h : Calm c r.2) : Calm c (closing r) := by
  rw [closing]
  split
  · exact h.trans (frame_forget _).calm
  · exact h

lemma calm_shutting {r : Err × Conn} (h : Calm c r.2) : Calm c (shutting r) := by
  rw [shutting]
  split
  · exact calm_closing h
  · exact h

theorem calm_call (c : Conn) (k : Call) (h : c.face.Roomy) :
    Yields (Calm c) Fault.Aside (c.call k) := by
  unfold call
  split
  · trivial
  · split
    · trivial
    · cases k with
      | recved len =>
          dsimp only
          split
          · next hlen => exact calm_tcpRecved c hlen h
          · trivial
      | write arg copy more => exact (frame_tcpWrite c arg copy more).fmap fun r hr => hr.calm
      | output => exact (frame_tcpOutput c).calm
      | close => exact (calm_tcpClose c).fmap fun r hr => calm_closing hr
      | shutdown rx tx => exact (calm_tcpShutdown c rx tx).fmap fun r hr => calm_shutting hr
      | nodelay on => exact (frame_setFlags c rfl).calm
      | poll interval => exact (frame_setCtl c _).calm

lemma calm_calls : ∀ (ks : List Call) (c : Conn), c.face.Roomy →
    Yields (Calm c) Fault.Aside (calls ks c)
  | [], c, _ => .refl c
  | k :: ks, c, h => Yields.bind (calm_call c k h) fun d hd =>
      (calm_calls ks d (h.calm hd)).imp fun _ he => hd.trans he

lemma gone_abort (c : Conn) : Yields (Gone c) Fault.Aside c.abort := by
  rw [abort]
  split
  · trivial
  · split
    · trivial
    · exact (gone_tcpAbort c).fmap fun d hd => ⟨hd.1.trans (frame_forget d).calm, hd.2⟩

/-- What a callback does, besides being noted. -/
theorem calm_callback (c : Conn) (e : Err → Event) (h : ∀ err, (c.note (e err)).face.Roomy) :
    Yields (fun r => Calm (c.note (e r.1)) r.2 ∧ (r.1 = .abrt → r.2.freed = true)) Fault.Aside
      (c.callback e) := by
  rw [callback]
  split
  · exact ⟨.refl _, fun h => absurd (show Err.ok = .abrt from h) (by decide)⟩
  · next r rest _ =>
      refine Yields.bind (calm_calls _ _ (h r.err)) fun d hd => ?_
      have hd' : Calm (c.note (e r.err)) (if r.others then d.setChanged else d) := by
        have h0 : Calm (c.note (e r.err)) d := hd
        split
        · exact h0.trans (frame_setChanged d).calm
        · exact h0
      dsimp only
      split
      · next herr =>
          rw [herr] at hd'
          exact Yields.bind (gone_abort _) fun f hf => ⟨hd'.trans hf.1, fun _ => hf.2⟩
      · next herr => exact ⟨hd', fun h => absurd h herr⟩

end Conn

end Lgt8.Tcp

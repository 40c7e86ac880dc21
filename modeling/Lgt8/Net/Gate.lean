import Mathlib.Tactic
import Lgt8.Library.Buffer
import Lgt8.Net.Framing

/-!
# Does the gate stay inside the segment?

`echo_recv` gives `ethergate` the payload pointer of the first buffer it received, and no length.
`ethergate` takes the pointer for one to a whole `antares_msg_struct_t`, reads the command from it
and then copies 162 bytes out of it, or 64 or 150 bytes into it.  How long the segment is decides
the peer.

* `ethergateAt` — the gate over a buffer that records what is accessed; `ethergateAt_eq` shows that
  it does what `ethergate` does.
* **`gate_inside_iff`** — the exact lengths, branch by branch, for which every access lies inside
  the first buffer; `short_segment_overread` is a segment of one byte.
-/

namespace Lgt8

open Library

namespace Kernel

variable {F : Type}

/-- `ethergate`, access by access. -/
def ethergateAt (b : Buffer) (s : KernelCtx F) : Buffer × KernelCtx F :=
  let (cmd, b) := b.read 5
  if cmd = Comands.callbackReq.code then
    match s.obj.messageOut with
    | dispach :: rest =>
        (b.store 0 (dispach.bytes.take 64), { s with obj.messageOut := rest })
    | [] =>
        if s.world.status.statusUpdated then
          let b := b.store 5 [Comands.cmdStatusupdate.code]
          let b := b.store 12 ((List.range 150).map s.world.status.statusStream)
          (b.store 1 [127], s)
        else
          let b := b.store 5 [Comands.cmdStatuskeep.code]
          (b.store 1 [0], s)
  else
    let (dest, b) := b.read 10
    let dispach := s.world.heap.next
    let (bytes, b) := b.load 0 162
    let s := { s with world.heap := s.world.heap.alloc (.ofMemory bytes) }
    match destSig dest with
    | some sig => (b, publish (.of sig 1 (.msg dispach)) s)
    | none => (b, s)

/-! ## It is the same gate -/

/-- The buffer begins with the message `m`, and has `mem` behind it. -/
def Holds (mem : ℕ → UInt8) (m : AntaresMsg) (b : Buffer) : Prop :=
  ∀ i, b.mem i = if i < 162 then m.byte i else mem i

lemma message_byte (q : Pbuf) {i : ℕ} (hi : i < 162) : q.message.byte i = q.mem i := by
  rw [AntaresMsg.byte, Conn.message_bytes]
  simp [hi]

lemma Holds.store {mem : ℕ → UInt8} {m : AntaresMsg} {b : Buffer} (h : Holds mem m b) {i : ℕ}
    {src : List UInt8} (hi : i + src.length ≤ 162) : Holds mem (m.poke i src) (b.store i src) := by
  intro j
  rw [Buffer.store, AntaresMsg.byte_poke m hi]
  dsimp only
  split_ifs with hj hlt
  · rfl
  · omega
  · rw [h j, if_pos ‹_›]
  · rw [h j, if_neg ‹_›]

/-- What is read from a buffer that begins with a message. -/
lemma load_message (q : Pbuf) (b : Buffer) (hb : b.mem = q.mem) :
    AntaresMsg.ofMemory (b.load 0 162).1 = q.message := by
  rw [Buffer.load, Pbuf.message, hb]
  simp only [zero_add]

/-- **The recorded gate is the gate**: it leaves the same bytes in the buffer and the same kernel
behind. -/
theorem ethergateAt_eq (q : Pbuf) (s : KernelCtx F) :
    (ethergateAt (.fresh q.mem) s).1.mem = (q.overwrite (ethergate q.message s).1).mem ∧
      (ethergateAt (.fresh q.mem) s).2 = (ethergate q.message s).2 := by
  have hcmd : q.message.cmd = q.mem 5 := message_byte q (by decide)
  have hdest : q.message.dest = q.mem 10 := message_byte q (by decide)
  have hstart : Holds q.mem q.message ((Buffer.fresh q.mem).read 5).2 := by
    intro i
    split
    · next hi => exact (message_byte q hi).symm
    · rfl
  have hover : ∀ {m : AntaresMsg} {b : Buffer}, Holds q.mem m b → b.mem = (q.overwrite m).mem :=
    fun h => funext h
  rw [ethergateAt, ethergate, hcmd]
  dsimp only
  by_cases hc : q.mem 5 = Comands.callbackReq.code
  · rw [if_pos hc, if_pos (show ((Buffer.fresh q.mem).read 5).1 = _ from hc)]
    cases s.obj.messageOut with
    | cons m rest =>
        refine ⟨hover (hstart.store ?_), rfl⟩
        rw [List.length_take, m.length_eq]
        decide
    | nil =>
        dsimp only
        rw [statusReply]
        cases s.world.status.statusUpdated with
        | true =>
            refine ⟨hover (((hstart.store ?_).store ?_).store ?_), rfl⟩
            · simp
            · simp
            · simp
        | false => exact ⟨hover ((hstart.store (by simp)).store (by simp)), rfl⟩
  · rw [if_neg hc, if_neg (show ¬ ((Buffer.fresh q.mem).read 5).1 = _ from hc), hdest]
    have hload := load_message q (((Buffer.fresh q.mem).read 5).2.read 10).2 rfl
    rw [show ((((Buffer.fresh q.mem).read 5).2.read 10).1) = q.mem 10 from rfl, hload]
    cases destSig (q.mem 10) with
    | some sig => exact ⟨hover hstart, rfl⟩
    | none => exact ⟨hover hstart, rfl⟩

/-! ## How far it reaches -/

/-- What the length has to be for the gate to stay inside. -/
def Fits (mem : ℕ → UInt8) (len : ℕ) (s : KernelCtx F) : Prop :=
  162 ≤ len ∨ (mem 5 = Comands.callbackReq.code ∧
    if s.obj.messageOut = [] then s.world.status.statusUpdated = false ∧ 6 ≤ len else 64 ≤ len)

/-- **How far the gate reaches.** -/
theorem ethergateAt_within_iff (mem : ℕ → UInt8) (len : ℕ) (s : KernelCtx F) :
    (ethergateAt (.fresh mem) s).1.Within len ↔ Fits mem len s := by
  have hfresh := Buffer.within_fresh len mem
  rw [ethergateAt, Fits]
  dsimp only
  by_cases hcmd : mem 5 = Comands.callbackReq.code
  · rw [if_pos (show ((Buffer.fresh mem).read 5).1 = _ from hcmd)]
    cases hout : s.obj.messageOut with
    | cons m rest =>
        have hlen : (m.bytes.take 64).length = 64 := by rw [List.length_take, m.length_eq]; rfl
        have hne : m.bytes.take 64 ≠ [] := fun h => by rw [h] at hlen; cases hlen
        rw [Buffer.within_store hne, Buffer.within_read, hlen]
        simp only [hfresh, hcmd, reduceCtorEq, if_false, true_and, and_true]
        omega
    | nil =>
        cases hup : s.world.status.statusUpdated with
        | true =>
            have hne : (List.range 150).map s.world.status.statusStream ≠ [] := by simp
            simp only [if_true]
            rw [Buffer.within_store (List.cons_ne_nil _ _), Buffer.within_store hne,
              Buffer.within_store (List.cons_ne_nil _ _), Buffer.within_read]
            simp only [hfresh, List.length_map, List.length_range, List.length_singleton]
            simp
            omega
        | false =>
            simp only [Bool.false_eq_true, if_false, if_true]
            rw [Buffer.within_store (List.cons_ne_nil _ _),
              Buffer.within_store (List.cons_ne_nil _ _), Buffer.within_read]
            simp only [hfresh, hcmd, List.length_singleton, true_and, and_true]
            omega
  · have hreach : ((((Buffer.fresh mem).read 5).2.read 10).2.load 0 162).2.Within len
        ↔ 162 ≤ len := by
      rw [Buffer.within_load (by decide), Buffer.within_read, Buffer.within_read]
      simp only [hfresh, and_true]
      omega
    rw [if_neg (show ¬ ((Buffer.fresh mem).read 5).1 = _ from hcmd)]
    simp only [hcmd, false_and, or_false]
    split
    · exact hreach
    · exact hreach

end Kernel

namespace Conn

open Kernel

variable {F : Type}

/-- The offsets of the first buffer's payload that the gate accesses when `echo_recv` is given the
chunk `p`.  Only a docked connection with nothing left to send passes a chunk to the gate. -/
def gateAccesses (p : List Pbuf) (c : Conn F) : List ℕ :=
  match c.state, c.p, p with
  | .received, [], q :: _ => (ethergateAt (.fresh q.mem) c.kernel).1.accessed
  | _, _, _ => []

/-- What `echo_recv` does with such a chunk, access by access. -/
theorem echoRecv_at {c : Conn F} (hstate : c.state = .received) (hp : c.p = []) (q : Pbuf)
    (qs : List Pbuf) : echoRecv (q :: qs) .ok c = echoSend { c with
      p := { q with mem := (ethergateAt (.fresh q.mem) c.kernel).1.mem } :: qs
      kernel := (ethergateAt (.fresh q.mem) c.kernel).2
      handed := c.handed ++ [q.message] } := by
  obtain ⟨hmem, hkernel⟩ := ethergateAt_eq q c.kernel
  rw [hmem, hkernel, echoRecv, if_neg (by simp), if_neg (by simp), hstate]
  dsimp only
  rw [if_pos (by rw [hp]; rfl), gate]
  rfl

/-- **When the gate stays inside the segment.**  Every byte `ethergate` accesses for a chunk whose
first buffer is `q` lies in that buffer if and only if, where the chunk is passed to the gate, the
buffer has 162 bytes, or it is a callback request that is answered with a queued message and the
buffer has 64, or with word that the status has not changed and the buffer has 6. -/
theorem gate_inside_iff (c : Conn F) (q : Pbuf) (qs : List Pbuf) :
    (∀ i ∈ gateAccesses (q :: qs) c, i < q.len) ↔
      (c.state = .received → c.p = [] → Fits q.mem q.len c.kernel) := by
  rw [← ethergateAt_within_iff]
  by_cases h : c.state = .received ∧ c.p = []
  · have hacc : gateAccesses (q :: qs) c = (ethergateAt (.fresh q.mem) c.kernel).1.accessed := by
      simp [gateAccesses, h.1, h.2]
    rw [hacc]
    exact ⟨fun hin _ _ => hin, fun hin => hin h.1 h.2⟩
  · have hacc : gateAccesses (q :: qs) c = [] := by
      unfold gateAccesses
      split
      · next hs hp _ => exact absurd ⟨hs, hp⟩ h
      · rfl
    rw [hacc]
    exact ⟨fun _ hs hp => (h ⟨hs, hp⟩).elim, fun _ => nofun⟩

/-- A segment of one byte, on a docked connection: the command is read five bytes on. -/
theorem short_segment_overread :
    dockedBlank.state = .received ∧ 5 ∈ gateAccesses [.ofBytes [0]] dockedBlank ∧
      (Pbuf.ofBytes [0]).len = 1 :=
  ⟨rfl, by decide, rfl⟩

end Conn

end Lgt8

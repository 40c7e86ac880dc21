import Mathlib.Tactic
import Lgt8.Library.Runs
import Lgt8.Kernel.Model

/-!
# Queued replies

`message_out` is a queue of pointers to message objects.  A `CALLBACK_REQ` that finds one copies the
object over the request, takes the pointer out and deletes the object.  The copy has a size of its
own, 64, where a message has 162 bytes.

* `Outbox`, `callback` — the queue over the heap, and the branch of `ethergate` that serves it;
  `callback_refines` relates it to the gate, where the messages are kept by value.
* `queued_run` — the messages leave in order, each deleted once.
* **`replies_whole_iff`** — when the replies are the messages; `tail_not_sent` is a message cut
  short.
-/

namespace Lgt8

open Library Kernel

/-- `message_out` and the objects it points to. -/
structure Outbox where
  messageOut : List ℕ
  heap : Heap

/-- A message object with the values of its bytes. -/
abbrev Queued := ℕ × AntaresMsg

/-- What became of a callback request that found a message. -/
structure Reply where
  request : AntaresMsg
  reply : AntaresMsg

namespace Outbox

variable {F : Type}

/-- `ethergate` on a `CALLBACK_REQ`. -/
def callback (st : Status F) (inmessage : AntaresMsg) (o : Outbox) :
    Except Fault (AntaresMsg × Outbox) :=
  match o.messageOut with
  | dispach :: rest =>
      match o.heap.cell dispach with
      | some m => .ok (inmessage.poke 0 (m.bytes.take 64), ⟨rest, o.heap.delete dispach⟩)
      | none => .error (.dangling (.msg dispach))
  | [] => .ok (statusReply st inmessage, o)

/-- `message_out.push` of a new object. -/
def push (m : AntaresMsg) (o : Outbox) : Outbox where
  messageOut := o.messageOut ++ [o.heap.next]
  heap := o.heap.alloc m

/-- The queue points to different objects, which hold the messages `ms`. -/
def Holds (o : Outbox) (ms : List AntaresMsg) : Prop :=
  o.messageOut.Nodup ∧ o.messageOut.map o.heap.cell = ms.map some

lemma map_cell_delete {h : Heap} {a : ℕ} {as : List ℕ} (ha : a ∉ as) :
    as.map (h.delete a).cell = as.map h.cell :=
  List.map_congr_left fun _ hb => h.delete_cell_of_ne fun hba => ha (hba ▸ hb)

/-- **The gate keeps by value what the queue points to.** -/
theorem callback_refines {o : Outbox} (s : KernelCtx F) (ho : o.Holds s.obj.messageOut)
    {inmessage : AntaresMsg} (hm : inmessage.cmd = Comands.callbackReq.code) :
    ∃ o', callback s.world.status inmessage o = .ok ((ethergate inmessage s).1, o') ∧
      o'.Holds (ethergate inmessage s).2.obj.messageOut := by
  obtain ⟨hnodup, hcells⟩ := ho
  rw [callback, ethergate, if_pos hm]
  cases hq : o.messageOut with
  | nil =>
      have hnil : s.obj.messageOut = [] := by
        rw [hq] at hcells
        exact List.map_eq_nil_iff.mp hcells.symm
      rw [hnil]
      exact ⟨o, rfl, by rw [hq]; exact List.nodup_nil, by rw [hq, hnil]; rfl⟩
  | cons dispach rest =>
      rw [hq, List.nodup_cons] at hnodup
      rw [hq, List.map_cons] at hcells
      obtain ⟨m, ms, hms, hm', hrest⟩ := List.map_eq_cons_iff.mp hcells.symm
      rw [hms]
      dsimp only
      rw [← hm']
      refine ⟨_, rfl, hnodup.2, ?_⟩
      dsimp only
      rw [map_cell_delete hnodup.1, hrest]

/-! ## Runs -/

/-- A message is queued, or a client asks for one while the status is `st`. -/
inductive Label (F : Type)
  | queue (m : AntaresMsg)
  | poll (st : Status F) (inmessage : { m : AntaresMsg // m.cmd = Comands.callbackReq.code })

def step (o : Outbox) : Label F → Except Fault Outbox
  | .queue m => .ok (o.push m)
  | .poll st m => (callback st m.val o).map Prod.snd

/-- The observer's notes: the objects queued, the replies that were not about the status, and the
objects deleted. -/
structure Notes where
  queued : List Queued
  replies : List Reply
  deleted : List ℕ

def note (o : Outbox) (l : Label F) (n : Notes) : Notes :=
  match l with
  | .queue m => { n with queued := n.queued ++ [(o.heap.next, m)] }
  | .poll st m =>
      match o.messageOut, callback st m.val o with
      | dispach :: _, .ok p =>
          { n with replies := n.replies ++ [⟨m.val, p.1⟩], deleted := n.deleted ++ [dispach] }
      | _, _ => n

def start (h : Heap) : Outbox × Notes := (⟨[], h⟩, ⟨[], [], []⟩)

/-- The reply is the first 64 bytes of the message over the request. -/
def Answers (r : Reply) (q : Queued) : Prop := r.reply = r.request.poke 0 (q.2.bytes.take 64)

/-- The objects `served` have been sent and deleted, the objects `waiting` are in the queue. -/
structure InOrder (p : Outbox × Notes) (served waiting : List Queued) : Prop where
  queued : p.2.queued = served ++ waiting
  nodup : (p.2.queued.map Prod.fst).Nodup
  made : ∀ q ∈ p.2.queued, q.1 < p.1.heap.next
  queue : p.1.messageOut = waiting.map Prod.fst
  alive : ∀ q ∈ waiting, p.1.heap.cell q.1 = some q.2
  deleted : p.2.deleted = served.map Prod.fst
  gone : ∀ q ∈ served, p.1.heap.cell q.1 = none
  replies : List.Forall₂ Answers p.2.replies served

lemma InOrder.push {p : Outbox × Notes} {served waiting : List Queued}
    (h : InOrder p served waiting) (m : AntaresMsg) :
    InOrder (p.1.push m, note p.1 (.queue m : Label F) p.2) served
      (waiting ++ [(p.1.heap.next, m)]) where
  queued := by
    rw [note, h.queued, List.append_assoc]
  nodup := by
    rw [note]
    dsimp only
    rw [List.map_append, List.nodup_append]
    refine ⟨h.nodup, List.nodup_singleton _, ?_⟩
    intro a ha b hb
    obtain ⟨q, hq, rfl⟩ := List.mem_map.mp ha
    rw [List.mem_singleton.mp hb]
    exact (h.made q hq).ne
  made := by
    intro q hq
    rw [note] at hq
    rcases List.mem_append.mp hq with hq | hq
    · exact (h.made q hq).trans (Nat.lt_succ_self _)
    · rw [List.mem_singleton.mp hq]
      exact Nat.lt_succ_self _
  queue := by
    rw [Outbox.push, h.queue, List.map_append]
    rfl
  alive := by
    intro q hq
    rcases List.mem_append.mp hq with hq | hq
    · have hlt := h.made q (by rw [h.queued]; exact List.mem_append_right _ hq)
      exact (Heap.alloc_cell_of_ne _ _ hlt.ne).trans (h.alive q hq)
    · rw [List.mem_singleton.mp hq]
      exact Heap.alloc_cell_self _ _
  deleted := h.deleted
  gone := by
    intro q hq
    have hlt := h.made q (by rw [h.queued]; exact List.mem_append_left _ hq)
    exact (Heap.alloc_cell_of_ne _ _ hlt.ne).trans (h.gone q hq)
  replies := h.replies

/-- What a request that finds a message does. -/
lemma callback_cons {o : Outbox} {a : ℕ} {as : List ℕ} {m : AntaresMsg} (hq : o.messageOut = a :: as)
    (ha : o.heap.cell a = some m) (st : Status F) (r : AntaresMsg) :
    callback st r o = .ok (r.poke 0 (m.bytes.take 64), ⟨as, o.heap.delete a⟩) := by
  rw [callback, hq]
  dsimp only
  rw [ha]

lemma InOrder.served {p : Outbox × Notes} {served waiting : List Queued} {q : Queued}
    (h : InOrder p served (q :: waiting)) (r : AntaresMsg) :
    InOrder (⟨waiting.map Prod.fst, p.1.heap.delete q.1⟩,
      ⟨p.2.queued, p.2.replies ++ [⟨r, r.poke 0 (q.2.bytes.take 64)⟩], p.2.deleted ++ [q.1]⟩)
      (served ++ [q]) waiting where
  queued := by
    rw [h.queued, List.append_assoc]
    rfl
  nodup := h.nodup
  made := h.made
  queue := rfl
  alive := by
    intro q' hq'
    have hne : q'.1 ≠ q.1 := by
      have hnodup := h.nodup
      rw [h.queued, List.map_append, List.map_cons] at hnodup
      have hcons := (List.nodup_append.mp hnodup).2.1
      rw [List.nodup_cons] at hcons
      exact fun he => hcons.1 (he ▸ List.mem_map_of_mem hq')
    exact (Heap.delete_cell_of_ne _ hne).trans (h.alive q' (List.mem_cons_of_mem _ hq'))
  deleted := by
    rw [h.deleted, List.map_append]
    rfl
  gone := by
    intro q' hq'
    by_cases he : q'.1 = q.1
    · dsimp only
      rw [he]
      exact Heap.delete_cell_self _ _
    · rcases List.mem_append.mp hq' with hq' | hq'
      · exact (Heap.delete_cell_of_ne _ he).trans (h.gone q' hq')
      · exact absurd (congrArg Prod.fst (List.mem_singleton.mp hq')) he
  replies := List.rel_append h.replies (.cons rfl .nil)

lemma InOrder.step {p : Outbox × Notes} {served waiting : List Queued}
    (h : InOrder p served waiting) (l : Label F) :
    ∃ t, observed Outbox.step note p l = .ok t ∧ ∃ served waiting, InOrder t served waiting := by
  cases l with
  | queue m => exact ⟨_, rfl, served, _, h.push (F := F) m⟩
  | poll st m =>
      cases waiting with
      | nil =>
          have hq : p.1.messageOut = [] := h.queue
          refine ⟨p, ?_, served, [], h⟩
          rw [observed, Outbox.step, note, callback, hq]
          rfl
      | cons q waiting =>
          have hq : p.1.messageOut = q.1 :: waiting.map Prod.fst := h.queue
          have hc := callback_cons hq (h.alive q (List.mem_cons_self ..)) st m.val
          refine ⟨_, ?_, served ++ [q], waiting, h.served m.val⟩
          rw [observed, Outbox.step, note, hc, hq]
          rfl

/-- **The messages leave in order.** -/
theorem queued_run (h : Heap) (labels : List (Label F)) :
    ∃ t, run (observed step note) (start h) labels = .ok t ∧
      ∃ served waiting, InOrder t served waiting :=
  run_ok (C := fun _ _ => True) (I := fun t => ∃ served waiting, InOrder t served waiting)
    (fun _ l ⟨_, _, h⟩ _ => h.step l)
    ⟨[], [], rfl, List.nodup_nil, nofun, rfl, nofun, rfl, nofun, .nil⟩
    (allSteps_of_forall_mem (P := fun _ => True) fun _ _ => trivial)

/-! ## What the replies hold -/

/-- Message and request agree in the bytes that are not copied. -/
def TailsAgree (r : Reply) (q : Queued) : Prop :=
  ∀ i, 64 ≤ i → i < 162 → q.2.byte i = r.request.byte i

lemma Answers.byte {r : Reply} {q : Queued} (h : Answers r q) (i : ℕ) :
    r.reply.byte i = if i < 64 then q.2.byte i else r.request.byte i := by
  have hlen : (q.2.bytes.take 64).length = 64 := by
    rw [List.length_take, q.2.length_eq]
    rfl
  rw [h, AntaresMsg.byte_poke _ (by rw [hlen]; decide), hlen, Nat.sub_zero, Nat.zero_add]
  simp only [Nat.zero_le, true_and]
  split_ifs with hi
  · rw [AntaresMsg.byte, List.getD_eq_getElem?_getD, List.getD_eq_getElem?_getD,
      List.getElem?_take_of_lt hi]
  · rfl

lemma Answers.whole_iff {r : Reply} {q : Queued} (h : Answers r q) :
    r.reply = q.2 ↔ TailsAgree r q := by
  constructor
  · intro he i hi _
    rw [← he, h.byte, if_neg (not_lt.mpr hi)]
  · intro ht
    refine AntaresMsg.ext_byte fun i hi => ?_
    rw [h.byte]
    split_ifs with hlt
    · rfl
    · exact (ht i (not_lt.mp hlt) hi).symm

lemma forall₂_congr_of {α β : Type*} {P R S : α → β → Prop} {as : List α} {bs : List β}
    (h : List.Forall₂ P as bs) (hRS : ∀ a b, P a b → (R a b ↔ S a b)) :
    List.Forall₂ R as bs ↔ List.Forall₂ S as bs := by
  induction h with
  | nil => exact ⟨fun _ => .nil, fun _ => .nil⟩
  | cons hab _ ih =>
      rw [List.forall₂_cons, List.forall₂_cons, hRS _ _ hab, ih]

/-- **When the replies are whole.**  Messages are queued and asked for in any order, from an empty
queue over any heap.  Then no request faults; the messages leave the queue in the order in which
they were queued, one for each reply, and the object of each is deleted once; each reply has the
first 64 bytes of its message and the others of its request.  So every reply is its message exactly
if each message has in its last 98 bytes what the request had there. -/
theorem replies_whole_iff (h : Heap) (labels : List (Label F)) :
    ∃ t served waiting, run (observed step note) (start h) labels = .ok t ∧
      t.2.queued = served ++ waiting ∧
      t.1.messageOut = waiting.map Prod.fst ∧
      t.2.deleted = served.map Prod.fst ∧ t.2.deleted.Nodup ∧
      (∀ q ∈ served, t.1.heap.cell q.1 = none) ∧
      List.Forall₂ (fun r q => ∀ i, r.reply.byte i = if i < 64 then q.2.byte i else r.request.byte i)
        t.2.replies served ∧
      (List.Forall₂ (fun r q => r.reply = q.2) t.2.replies served ↔
        List.Forall₂ TailsAgree t.2.replies served) := by
  obtain ⟨t, hrun, served, waiting, ht⟩ := queued_run h labels
  have hdeleted : t.2.deleted.Nodup := by
    have hnodup := ht.nodup
    rw [ht.queued, List.map_append] at hnodup
    rw [ht.deleted]
    exact (List.nodup_append.mp hnodup).1
  exact ⟨t, served, waiting, hrun, ht.queued, ht.queue, ht.deleted, hdeleted, ht.gone,
    ht.replies.imp fun _ _ ha => ha.byte,
    forall₂_congr_of ht.replies fun _ _ ha => ha.whole_iff⟩

/-- A message in which every byte is used. -/
def fullMessage : AntaresMsg := ⟨List.replicate 162 1, rfl⟩

/-- A request with nothing else in it. -/
def bareRequest : AntaresMsg := ⟨List.replicate 162 0, rfl⟩

/-- Its last 98 bytes do not reach the client. -/
theorem tail_not_sent :
    ∃ t, run (observed step note) (start .empty)
        [.queue fullMessage, .poll World.blank.status ⟨bareRequest, rfl⟩] = .ok t ∧
      ∃ r, t.2.replies = [r] ∧ t.2.queued = [(0, fullMessage)] ∧ r.reply ≠ fullMessage ∧
        r.reply.byte 64 = bareRequest.byte 64 ∧ r.reply.byte 64 ≠ fullMessage.byte 64 :=
  ⟨_, rfl, _, rfl, rfl, by decide, by decide, by decide⟩

end Outbox

end Lgt8

import Mathlib.Tactic
import Lgt8.Firmware.Antares

/-!
# What waits in a module's queue

Each module drains its own event queue.  An event there either announces a message object, which
the handler of the module's `…_ETH_SIG` reads and then deletes, or is one of the module's own
events, which carry no message.

`announced` is the message the next turn of a module's loop will service.
`Mail eth own P events heap` says that a queue is in order: every announced message is alive and
satisfies `P`, no message is announced twice, and every other event is one of `own`.  The lemmas
follow the life of a queue: `Mail.nil`, `Mail.push`, `Mail.post`, `Mail.tail` (the front event was
one of the module's own) and `Mail.tail_delete` (it was a message, and the message is gone).
-/

namespace Lgt8

/-- The message the event at the front of a queue announces, if there is one and it is alive. -/
def announced (eth : SigTypes) (events : List Event) (heap : Heap) : Option AntaresMsg :=
  match events.head? with
  | some ⟨evtype, _, .msg a⟩ => if evtype = eth.bits then heap.cell a else none
  | _ => none

section

variable {eth : SigTypes} {heap : Heap} {e : Event} {rest : List Event}

@[simp] lemma announced_nil : announced eth [] heap = none := rfl

lemma announced_cons (he : e.evtype = eth.bits) {a : ℕ} (ha : e.payload = .msg a) :
    announced eth (e :: rest) heap = heap.cell a := by
  obtain ⟨evtype, simple, payload⟩ := e
  obtain rfl : payload = .msg a := ha
  exact if_pos he

lemma announced_of_ne (he : e.evtype ≠ eth.bits) : announced eth (e :: rest) heap = none := by
  obtain ⟨evtype, simple, payload⟩ := e
  cases payload with
  | null => rfl
  | msg a => exact if_neg he
  | map i => rfl

/-- A message is announced by the event at the front. -/
lemma announced_some {events : List Event} {m : AntaresMsg} (h : announced eth events heap = some m) :
    ∃ e rest a, events = e :: rest ∧ e.evtype = eth.bits ∧ e.payload = .msg a ∧
      heap.cell a = some m := by
  cases events with
  | nil => cases h
  | cons e rest =>
      by_cases he : e.evtype = eth.bits
      · cases hp : e.payload with
        | msg a =>
            rw [announced_cons he hp] at h
            exact ⟨e, rest, a, rfl, he, hp, h⟩
        | null =>
            obtain ⟨evtype, simple, payload⟩ := e
            obtain rfl : payload = .null := hp
            cases h
        | map i =>
            obtain ⟨evtype, simple, payload⟩ := e
            obtain rfl : payload = .map i := hp
            cases h
      · rw [announced_of_ne he] at h
        cases h

end

/-- An event in order. -/
inductive Letter (eth : SigTypes) (own : Event → Prop) (P : AntaresMsg → Prop) (heap : Heap) :
    Event → Prop
  | own {e : Event} (h : own e) : Letter eth own P heap e
  | msg {n : UInt8} {a : ℕ} {m : AntaresMsg} (live : heap.cell a = some m) (h : P m) : Letter eth own P heap (.of eth n (.msg a))

/-- A queue in order. -/
structure Mail (eth : SigTypes) (own : Event → Prop) (P : AntaresMsg → Prop)
    (events : List Event) (heap : Heap) : Prop where
  letters : ∀ e ∈ events, Letter eth own P heap e
  /-- No message is announced twice. -/
  distinct : events.Pairwise fun e f => ∀ a, e.payload = .msg a → f.payload ≠ .msg a

section

variable {eth : SigTypes} {own : Event → Prop} {P : AntaresMsg → Prop} {heap : Heap}
  {events : List Event} {e : Event}

lemma Letter.alloc (h : Letter eth own P heap e) (m : AntaresMsg) :
    Letter eth own P (heap.alloc m) e := by
  cases h with
  | own h => exact .own h
  | @msg _ a _ live h =>
      have ha : a ≠ heap.next := (Heap.lt_next (by rw [live]; exact nofun)).ne
      exact .msg (by rw [heap.alloc_cell_of_ne m ha]; exact live) h

lemma Letter.delete (h : Letter eth own P heap e) {a : ℕ} (ha : e.payload ≠ .msg a) :
    Letter eth own P (heap.delete a) e := by
  cases h with
  | own h => exact .own h
  | @msg _ b _ live h =>
      have hb : b ≠ a := fun hba => ha (by rw [hba]; rfl)
      exact .msg (by rw [heap.delete_cell_of_ne hb]; exact live) h

/-- Events of the module itself carry no message. -/
lemma Letter.old (hown : ∀ e, own e → ∀ a, e.payload ≠ .msg a) (h : Letter eth own P heap e)
    {a : ℕ} (ha : e.payload = .msg a) : a < heap.next := by
  cases h with
  | own h => exact absurd ha (hown e h a)
  | msg live h =>
      cases ha
      exact Heap.lt_next (by rw [live]; exact nofun)

lemma Mail.nil : Mail eth own P [] heap := ⟨by simp, .nil⟩

/-- The module queues an event of its own. -/
lemma Mail.push (hown : ∀ e, own e → ∀ a, e.payload ≠ .msg a) (h : Mail eth own P events heap)
    (he : own e) : Mail eth own P (events ++ [e]) heap where
  letters f hf := by
    rcases List.mem_append.mp hf with hf | hf
    · exact h.letters f hf
    · rw [List.mem_singleton.mp hf]
      exact .own he
  distinct := by
    refine List.pairwise_append.mpr ⟨h.distinct, List.pairwise_singleton _ _, ?_⟩
    intro f _ g hg a _
    rw [List.mem_singleton.mp hg]
    exact hown e he a

/-- A new message object is announced. -/
lemma Mail.post (hown : ∀ e, own e → ∀ a, e.payload ≠ .msg a) (h : Mail eth own P events heap)
    {m : AntaresMsg} (hm : P m) (n : UInt8) :
    Mail eth own P (events ++ [.of eth n (.msg heap.next)]) (heap.alloc m) where
  letters f hf := by
    rcases List.mem_append.mp hf with hf | hf
    · exact (h.letters f hf).alloc m
    · rw [List.mem_singleton.mp hf]
      exact .msg (heap.alloc_cell_self m) hm
  distinct := by
    refine List.pairwise_append.mpr ⟨h.distinct, List.pairwise_singleton _ _, ?_⟩
    intro f hf g hg a ha
    have := (h.letters f hf).old hown ha
    rw [List.mem_singleton.mp hg, Event.of_payload]
    intro heq
    cases heq
    omega

lemma Mail.tail (h : Mail eth own P (e :: events) heap) : Mail eth own P events heap where
  letters f hf := h.letters f (List.mem_cons_of_mem _ hf)
  distinct := (List.pairwise_cons.mp h.distinct).2

/-- The front message has been handled and deleted; the others are still alive. -/
lemma Mail.tail_delete {a : ℕ} (h : Mail eth own P (e :: events) heap)
    (ha : e.payload = .msg a) : Mail eth own P events (heap.delete a) where
  letters f hf := (h.tail.letters f hf).delete ((List.pairwise_cons.mp h.distinct).1 f hf a ha)
  distinct := h.tail.distinct

end

end Lgt8

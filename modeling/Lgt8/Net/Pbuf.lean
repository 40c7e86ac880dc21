import Mathlib.Tactic
import Lgt8.Firmware.Antares

/-!
# Packet buffers (`lwip/src/core/pbuf.c`)

Received data comes as a chain of packet buffers.  A buffer's payload is a pointer and a length; the
model keeps the memory from that pointer on, so that code which reads past the length reads
something definite.  A buffer counts the references to it, and is deallocated when the last one is
given up, and its successor then loses the reference it had from it.

* **`free_owned`** — a chain to which nobody else holds a reference is freed whole.
* **`chop_eq`** — the way the echo server frees the first buffer of a chain it keeps the rest of,
  a reference taken on the rest and then `pbuf_free` until something is deallocated, frees that
  buffer and leaves the rest as it was.
-/

namespace Lgt8

structure Pbuf where
  /-- Where the buffer lies. -/
  addr : ℕ
  len : ℕ
  /-- The memory from the payload pointer on. -/
  mem : ℕ → UInt8
  ref : ℕ
  pos : 0 < ref

namespace Pbuf

/-- The received bytes. -/
def payload (q : Pbuf) : List UInt8 := (List.range q.len).map q.mem

/-- The structure a pointer to the payload is taken for, whatever the length. -/
def message (q : Pbuf) : AntaresMsg := .ofMemory ((List.range 162).map q.mem)

/-- The structure is written back. -/
def overwrite (q : Pbuf) (m : AntaresMsg) : Pbuf :=
  { q with mem := fun i => if i < 162 then m.byte i else q.mem i }

/-- A buffer that holds `bs`, and zeros behind. -/
def ofBytes (bs : List UInt8) : Pbuf := ⟨0, bs.length, fun i => bs.getD i 0, 1, Nat.one_pos⟩

/-- The bytes of a chain. -/
def bytes (chain : List Pbuf) : List UInt8 := chain.flatMap payload

/-- The buffers of a chain. -/
def addrs (chain : List Pbuf) : List ℕ := chain.map addr

lemma ofBytes_mem (bs : List UInt8) (i : ℕ) : (ofBytes bs).mem i = bs.getD i 0 := rfl

lemma ofBytes_payload (bs : List UInt8) : (ofBytes bs).payload = bs := by
  refine List.ext_getElem (by rw [payload, List.length_map, List.length_range]; rfl) ?_
  intro i _ hi
  simp [payload, ofBytes_mem, hi]

/-- What is taken for a message is a message, when the buffer begins with one. -/
lemma ofBytes_message (m : AntaresMsg) (tail : List UInt8) :
    (ofBytes (m.bytes ++ tail)).message = m := by
  have hmem : (List.range 162).map (ofBytes (m.bytes ++ tail)).mem = m.bytes := by
    refine List.ext_getElem (by rw [List.length_map, List.length_range, m.length_eq]) ?_
    intro i _ hi
    simp [ofBytes_mem, hi, List.getElem?_append]
  rw [message, hmem, AntaresMsg.ext_iff, AntaresMsg.ofMemory]
  dsimp only
  rw [m.length_eq, Nat.sub_self, List.replicate_zero, List.append_nil,
    List.take_of_length_le m.length_eq.le]

/-! ## References -/

/-- `pbuf_ref`: one more reference to the first buffer. -/
def addRef : List Pbuf → List Pbuf
  | [] => []
  | q :: qs => { q with ref := q.ref + 1, pos := Nat.succ_pos _ } :: qs

/-- `pbuf_free`: the buffers deallocated, whose number it returns, and what remains of the chain. -/
def free : List Pbuf → List ℕ × List Pbuf
  | [] => ([], [])
  | q :: qs =>
      if h : q.ref = 1 then
        let r := free qs
        (q.addr :: r.1, r.2)
      else ([], { q with ref := q.ref - 1, pos := by have := q.pos; omega } :: qs)

/-- `pbuf_chain`. -/
def chain (h t : List Pbuf) : List Pbuf := h ++ addRef t

/-- `do { freed = pbuf_free(ptr); } while (freed == 0);`. -/
def freeLoop : ℕ → List Pbuf → List ℕ × List Pbuf
  | 0, c => ([], c)
  | n + 1, c =>
      let r := free c
      if r.1.length = 0 then freeLoop n r.2 else r

/-- The first buffer is given up and the others kept. -/
def chop (ptr : Pbuf) (next : List Pbuf) : List ℕ × List Pbuf :=
  freeLoop ptr.ref (ptr :: addRef next)

/-- A reference taken and given up. -/
lemma free_addRef (qs : List Pbuf) : free (addRef qs) = ([], qs) := by
  cases qs with
  | nil => rfl
  | cons q qs =>
      have hq : ¬ q.ref + 1 = 1 := by
        have := q.pos
        omega
      rw [addRef, free, dif_neg hq]
      rfl

lemma freeLoop_eq (next : List Pbuf) :
    ∀ (n : ℕ) (ptr : Pbuf), ptr.ref = n → freeLoop n (ptr :: addRef next) = ([ptr.addr], next)
  | 0, ptr, h => absurd h ptr.pos.ne'
  | n + 1, ptr, h => by
      rw [freeLoop, free]
      by_cases h1 : ptr.ref = 1
      · rw [dif_pos h1, free_addRef]
        rfl
      · rw [dif_neg h1]
        exact freeLoop_eq next n _ (by dsimp only; omega)

/-- **Exactly the first buffer is freed**, however many references it had. -/
theorem chop_eq (ptr : Pbuf) (next : List Pbuf) : chop ptr next = ([ptr.addr], next) :=
  freeLoop_eq next ptr.ref ptr rfl

/-- A chain that holds one reference to each of its buffers is freed whole. -/
theorem free_owned : ∀ {c : List Pbuf}, (∀ q ∈ c, q.ref = 1) → free c = (addrs c, [])
  | [], _ => rfl
  | q :: qs, h => by
      obtain ⟨hq, hqs⟩ := List.forall_mem_cons.mp h
      rw [free, dif_pos hq, free_owned hqs]
      rfl

/-! ## What chaining leaves alone -/

@[simp] lemma addrs_nil : addrs [] = [] := rfl

@[simp] lemma addrs_cons (q : Pbuf) (qs : List Pbuf) : addrs (q :: qs) = q.addr :: addrs qs := rfl

@[simp] lemma bytes_nil : bytes [] = [] := rfl

@[simp] lemma bytes_cons (q : Pbuf) (qs : List Pbuf) :
    bytes (q :: qs) = q.payload ++ bytes qs := rfl

lemma payload_length (q : Pbuf) : q.payload.length = q.len := by
  rw [payload, List.length_map, List.length_range]

lemma addrs_chain (h t : List Pbuf) : addrs (chain h t) = addrs h ++ addrs t := by
  rw [chain, addrs, List.map_append]
  cases t <;> rfl

lemma bytes_chain (h t : List Pbuf) : bytes (chain h t) = bytes h ++ bytes t := by
  rw [chain, bytes, List.flatMap_append]
  cases t <;> rfl

end Pbuf

end Lgt8

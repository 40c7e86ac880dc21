import Mathlib.Tactic
import Lgt8.Library.Word

/-!
# Events and messages (`source/antares.h`)

The firmware's modules talk through events: a signal number, a byte and an untyped pointer.
Commands arrive from the network as 162-byte messages, which `ethergate` copies into a fresh heap
object and hands on as the payload of an event.

* `SigTypes`, `ObjTypes`, `Comands` — the three enumerations, with the numbers the source gives
  them.  `evtype` is an `int` and a subscription packs object and signal into one, so the
  enumerations are compared through `bits` and `code`, never as the Lean types.
* `AntaresMsg` — a message, as the 162 bytes of the packed C structure; the field accessors read
  the byte at the field's offset.
* `Heap` — the message objects alive, by address.
-/

namespace Lgt8

open Library

/-! ## Signals and subscribers -/

/-- The subscribers' bits (`enum OBJTYPES`). -/
inductive ObjTypes
  | main | sweep | servo | monitor | usb | micro
  deriving DecidableEq, Repr

def ObjTypes.bits : ObjTypes → BitVec 32
  | .main => 0x00010000#32
  | .sweep => 0x00020000#32
  | .servo => 0x00040000#32
  | .monitor => 0x00080000#32
  | .usb => 0x00100000#32
  | .micro => 0x00200000#32

/-- The signals (`enum SIGTYPES`). -/
inductive SigTypes
  | none | parsecmdSig
  | alarmSig
  | ctrlEthSig | ctrlEndSignals
  | sweepEthSig | sweepResetSig
  | sweepIntapSig | sweepOuttapSig | sweepParkedSig | sweepJobdoneSig | sweepTickSig
  | sweepSweepjobSig | sweepEndSig
  | servoEthSig | servoResetSig | servoTickSig | servoInitjobSig | servoEndSig
  | monitorEthSig | monitorResetSig | monitorTickSig | monitorInitjobSig | monitorEndSig
  | sendpacketSig | recvpacketSig
  deriving DecidableEq, Repr

def SigTypes.bits : SigTypes → BitVec 32
  | .none => 0#32
  | .parsecmdSig => 1#32
  | .alarmSig => 2#32
  | .ctrlEthSig => 3#32
  | .ctrlEndSignals => 4#32
  | .sweepEthSig => 5#32
  | .sweepResetSig => 6#32
  | .sweepIntapSig => 7#32
  | .sweepOuttapSig => 8#32
  | .sweepParkedSig => 9#32
  | .sweepJobdoneSig => 10#32
  | .sweepTickSig => 11#32
  | .sweepSweepjobSig => 12#32
  | .sweepEndSig => 13#32
  | .servoEthSig => 14#32
  | .servoResetSig => 15#32
  | .servoTickSig => 16#32
  | .servoInitjobSig => 17#32
  | .servoEndSig => 18#32
  | .monitorEthSig => 19#32
  | .monitorResetSig => 20#32
  | .monitorTickSig => 21#32
  | .monitorInitjobSig => 22#32
  | .monitorEndSig => 23#32
  | .sendpacketSig => 128#32
  | .recvpacketSig => 129#32

@[simp] lemma SigTypes.bits_inj {a b : SigTypes} : a.bits = b.bits ↔ a = b := by
  constructor
  · cases a <;> cases b <;> first | (intro; rfl) | (intro h; exact absurd h (by decide))
  · rintro rfl
    rfl

/-- What an event's `void *` points to: nothing, a message object, or a cell of the step map. -/
inductive Payload
  | null
  | msg (addr : ℕ)
  | map (index : ℤ)
  deriving DecidableEq, Repr

structure Event where
  evtype : BitVec 32
  simple : UInt8
  payload : Payload
  deriving DecidableEq, Repr

/-- `event_t (sig, simple, payload)` for a signal of the enumeration. -/
def Event.of (sig : SigTypes) (simple : UInt8) (payload : Payload) : Event :=
  ⟨sig.bits, simple, payload⟩

@[simp] lemma Event.of_evtype (sig : SigTypes) (n : UInt8) (p : Payload) :
    (Event.of sig n p).evtype = sig.bits := rfl

@[simp] lemma Event.of_payload (sig : SigTypes) (n : UInt8) (p : Payload) :
    (Event.of sig n p).payload = p := rfl

/-! ## Messages -/

/-- The commands a message's `cmd` byte names (`enum COMANDS`). -/
inductive Comands
  | callbackReq
  | cmdStatusupdate | cmdStatuskeep
  | sweepPark | sweepGoto | sweepScan | sweepEnable | sweepDir | sweepPulse
  | servoEnable | servoSetpwm | servoSetspeed
  | monSetvac | monSetdrum | wg20Setdir | wg20Setvel | monReset
  deriving DecidableEq, Repr

def Comands.code : Comands → UInt8
  | .callbackReq => 0
  | .cmdStatusupdate => 20
  | .cmdStatuskeep => 21
  | .sweepPark => 30
  | .sweepGoto => 31
  | .sweepScan => 32
  | .sweepEnable => 33
  | .sweepDir => 34
  | .sweepPulse => 35
  | .servoEnable => 40
  | .servoSetpwm => 41
  | .servoSetspeed => 42
  | .monSetvac => 50
  | .monSetdrum => 51
  | .wg20Setdir => 52
  | .wg20Setvel => 53
  | .monReset => 54

@[simp] lemma Comands.code_inj {a b : Comands} : a.code = b.code ↔ a = b := by
  constructor
  · cases a <;> cases b <;> first | (intro; rfl) | (intro h; exact absurd h (by decide))
  · rintro rfl
    rfl

/-- `antares_msg_struct_t`: twelve header bytes and 150 data bytes, every field a `uint8_t`, so
the structure is its 162 bytes. -/
structure AntaresMsg where
  bytes : List UInt8
  length_eq : bytes.length = 162
  deriving DecidableEq

namespace AntaresMsg

@[ext] lemma ext {m n : AntaresMsg} (h : m.bytes = n.bytes) : m = n := by
  cases m
  cases n
  cases h
  rfl

/-- Byte `i` of the structure. -/
def byte (m : AntaresMsg) (i : ℕ) : UInt8 := m.bytes.getD i 0

/-- Messages with the same bytes are the same. -/
lemma ext_byte {m n : AntaresMsg} (h : ∀ i < 162, m.byte i = n.byte i) : m = n := by
  refine ext (List.ext_getElem (m.length_eq.trans n.length_eq.symm) fun i hm hn => ?_)
  have hi := h i (m.length_eq ▸ hm)
  rw [byte, byte, List.getD_eq_getElem?_getD, List.getD_eq_getElem?_getD,
    List.getElem?_eq_getElem hm, List.getElem?_eq_getElem hn] at hi
  exact hi

def size (m : AntaresMsg) : UInt8 := m.byte 1
def cmd (m : AntaresMsg) : UInt8 := m.byte 5
def arg (m : AntaresMsg) : UInt8 := m.byte 6
def dest (m : AntaresMsg) : UInt8 := m.byte 10
def data (m : AntaresMsg) : List UInt8 := m.bytes.drop 12

/-- The structure with the bytes from offset `i` on overwritten by `src` (`memcpy` to a field). -/
def poke (m : AntaresMsg) (i : ℕ) (src : List UInt8) : AntaresMsg where
  bytes := (m.bytes.take i ++ src ++ m.bytes.drop (i + src.length)).take 162
    ++ List.replicate (162 - (m.bytes.take i ++ src ++ m.bytes.drop (i + src.length)).length) 0
  length_eq := by
    simp only [List.length_append, List.length_take, List.length_replicate]
    omega

lemma poke_bytes (m : AntaresMsg) {i : ℕ} {src : List UInt8} (h : i + src.length ≤ 162) :
    (m.poke i src).bytes = m.bytes.take i ++ src ++ m.bytes.drop (i + src.length) := by
  have hlen : (m.bytes.take i ++ src ++ m.bytes.drop (i + src.length)).length = 162 := by
    rw [List.length_append, List.length_append, List.length_take, List.length_drop, m.length_eq]
    omega
  rw [poke]
  dsimp only
  rw [List.take_of_length_le hlen.le, hlen, Nat.sub_self, List.replicate_zero, List.append_nil]

/-- What a byte is after `memcpy` to a field. -/
lemma byte_poke (m : AntaresMsg) {i : ℕ} {src : List UInt8} (h : i + src.length ≤ 162) (j : ℕ) :
    (m.poke i src).byte j
      = if i ≤ j ∧ j < i + src.length then src.getD (j - i) 0 else m.byte j := by
  have htake : (m.bytes.take i).length = i := by
    rw [List.length_take, m.length_eq]
    omega
  simp only [byte, poke_bytes m h, List.getD_eq_getElem?_getD, List.append_assoc]
  split_ifs with hj
  · rw [List.getElem?_append_right (by omega), htake, List.getElem?_append_left (by omega)]
  · by_cases hlt : j < i
    · rw [List.getElem?_append_left (by omega), List.getElem?_take_of_lt hlt]
    · rw [List.getElem?_append_right (by omega), htake, List.getElem?_append_right (by omega),
        List.getElem?_drop]
      congr 2
      omega

lemma data_eq (m : AntaresMsg) : m.data = (List.range 150).map fun k => m.byte (12 + k) := by
  refine List.ext_getElem (by simp [data, m.length_eq]) fun k h1 h2 => ?_
  have hk : 12 + k < m.bytes.length := by
    rw [data, List.length_drop] at h1
    omega
  simp only [data, byte, List.getElem_drop, List.getElem_map, List.getElem_range,
    List.getD_eq_getElem?_getD, List.getElem?_eq_getElem hk, Option.getD_some]

/-- The first 162 bytes found at a pointer, whatever follows them. -/
def ofMemory (mem : List UInt8) : AntaresMsg where
  bytes := mem.take 162 ++ List.replicate (162 - mem.length) 0
  length_eq := by
    simp only [List.length_append, List.length_take, List.length_replicate]
    omega

/-- A message as a client composes it: a command for `dest`, with a text in the data area. -/
def compose (cmd arg dest : UInt8) (text : String) : AntaresMsg :=
  ofMemory ([0, 0, 0, 0, 0, cmd, arg, 0, 0, 0, dest, 0] ++ ascii text)

end AntaresMsg

/-! ## The heap of message objects -/

/-- The message objects alive.  `new` hands out the addresses in turn, so none is ever reused. -/
structure Heap where
  next : ℕ
  cell : ℕ → Option AntaresMsg
  fresh : ∀ a, next ≤ a → cell a = none

namespace Heap

/-- No object was ever made. -/
def empty : Heap where
  next := 0
  cell _ := none
  fresh _ _ := rfl

/-- `new antares_msg_struct_t()` followed by the `memcpy` that fills it. -/
def alloc (h : Heap) (m : AntaresMsg) : Heap where
  next := h.next + 1
  cell := Function.update h.cell h.next (some m)
  fresh a ha := by
    rw [Function.update_of_ne (by omega)]
    exact h.fresh a (by omega)

/-- `delete` of the object at `a`. -/
def delete (h : Heap) (a : ℕ) : Heap where
  next := h.next
  cell := Function.update h.cell a none
  fresh b hb := by
    by_cases hab : b = a
    · rw [hab, Function.update_self]
    · rw [Function.update_of_ne hab]
      exact h.fresh b hb

/-- Objects alive have been handed out. -/
lemma lt_next {h : Heap} {a : ℕ} (live : h.cell a ≠ none) : a < h.next := by
  by_contra hn
  exact live (h.fresh a (by omega))

/-- Which objects are alive. -/
def live (h : Heap) (a : ℕ) : Bool := (h.cell a).isSome

@[simp] lemma live_empty : empty.live = fun _ => false := rfl

lemma live_next (h : Heap) : h.live h.next = false := by
  rw [live, h.fresh _ le_rfl]
  rfl

lemma live_alloc (h : Heap) (m : AntaresMsg) :
    (h.alloc m).live = Function.update h.live h.next true := by
  funext a
  by_cases ha : a = h.next
  · simp [live, alloc, ha]
  · simp [live, alloc, ha]

lemma live_delete (h : Heap) (a : ℕ) : (h.delete a).live = Function.update h.live a false := by
  funext b
  by_cases hb : b = a
  · simp [live, delete, hb]
  · simp [live, delete, hb]

@[simp] lemma alloc_next (h : Heap) (m : AntaresMsg) : (h.alloc m).next = h.next + 1 := rfl

@[simp] lemma delete_next (h : Heap) (a : ℕ) : (h.delete a).next = h.next := rfl

@[simp] lemma alloc_cell_self (h : Heap) (m : AntaresMsg) :
    (h.alloc m).cell h.next = some m := by
  simp [alloc]

lemma alloc_cell_of_ne (h : Heap) (m : AntaresMsg) {a : ℕ} (ha : a ≠ h.next) :
    (h.alloc m).cell a = h.cell a := by
  simp [alloc, ha]

@[simp] lemma delete_cell_self (h : Heap) (a : ℕ) : (h.delete a).cell a = none := by
  simp [delete]

lemma delete_cell_of_ne (h : Heap) {a b : ℕ} (hb : b ≠ a) :
    (h.delete a).cell b = h.cell b := by
  simp [delete, hb]

end Heap

end Lgt8

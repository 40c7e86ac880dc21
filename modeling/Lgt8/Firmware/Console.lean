import Mathlib.Tactic
import Lgt8.Library.Runs
import Lgt8.Firmware.Log

/-!
# What the console shows

`printLog` sends what was logged since it last ran, and sets the pointer back.  Its loop compares
before it counts up, so it sends the byte under the end pointer as well: the NUL of the last
`logMessage`, or, since `logString` leaves none, a byte of some older text.

* `logString`, `printed` — the writer and the loop that the rest of the firmware has no use for.
* `logging_step` — the texts logged since the last `printLog` stand at the start of the buffer.
* `printed_since` — what is sent is these texts and one byte more.
* **`prints_exact_iff`** — when nothing but the texts is sent; `stale_character` is a run in which
  more is.
-/

namespace Lgt8

open Library

namespace Log

/-- `logString`: the text, at any level. -/
def logString (text : String) (l : Log) : Log :=
  let l := l.write (ascii text)
  { l with logbufferptr := l.logbufferptr + (ascii text).length }

/-- The loop of `printLog` from the byte `logbuf` on: `do PUTCHAR(*logbuf) while (logbuf++ < ptr)`. -/
def putFrom (l : Log) (logbuf : ℕ) : List UInt8 :=
  l.logbuffer logbuf :: if logbuf < l.logbufferptr then putFrom l (logbuf + 1) else []
termination_by l.logbufferptr - logbuf

/-- The characters `printLog` sends to the console. -/
def printed (l : Log) : List UInt8 := if 0 < l.logbufferptr then putFrom l 0 else []

/-- The first `n` bytes of the buffer. -/
def bytes (l : Log) (n : ℕ) : List UInt8 := (List.range n).map l.logbuffer

@[simp] lemma length_bytes (l : Log) (n : ℕ) : (l.bytes n).length = n := by
  simp [bytes]

lemma bytes_succ (l : Log) (n : ℕ) : l.bytes (n + 1) = l.bytes n ++ [l.logbuffer n] := by
  simp [bytes, List.range_succ]

lemma putFrom_eq (l : Log) (n k : ℕ) (h : k + n = l.logbufferptr) :
    l.bytes k ++ l.putFrom k = l.bytes (l.logbufferptr + 1) := by
  induction n generalizing k with
  | zero =>
      rw [putFrom, if_neg (by omega), ← bytes_succ, ← h, Nat.add_zero]
  | succ n ih =>
      rw [putFrom, if_pos (by omega), List.append_cons, ← bytes_succ, ih (k + 1) (by omega)]

/-- **The loop sends one byte more than there are.** -/
theorem printed_eq {l : Log} (h : 0 < l.logbufferptr) :
    l.printed = l.bytes l.logbufferptr ++ [l.logbuffer l.logbufferptr] := by
  rw [printed, if_pos h, ← bytes_succ, ← putFrom_eq l l.logbufferptr 0 (Nat.zero_add _)]
  rfl

/-! ## Runs -/

/-- A call of one of the four functions. -/
inductive Call
  | logMessage (level : ℕ) (text : String)
  | logString (text : String)
  | logStringnl (text : String)
  | printLog

def call (l : Log) : Call → Except Empty Log
  | .logMessage level text => .ok (l.logMessage level text)
  | .logString text => .ok (l.logString text)
  | .logStringnl text => .ok (l.logStringnl text)
  | .printLog => .ok l.printLog

/-- The text a call logs; a message of a level that is not enabled is none. -/
def logged (l : Log) : Call → List UInt8
  | .logMessage level text => if level ≤ l.loglevel ∧ l.logEnabled then ascii text else []
  | .logString text => ascii text
  | .logStringnl text => ascii text ++ [13, 10]
  | .printLog => []

/-- The texts logged since the last `printLog`. -/
def since (l : Log) (c : Call) (texts : List UInt8) : List UInt8 :=
  match c with
  | .printLog => []
  | c => texts ++ l.logged c

/-- These texts are what the buffer holds up to its pointer. -/
structure Logging (p : Log × List UInt8) : Prop where
  pointer : p.1.logbufferptr = p.2.length
  buffer : p.1.bytes p.2.length = p.2

/-- What is written behind the pointer. -/
lemma bytes_write {l : Log} {texts src : List UInt8} (h : Logging (l, texts)) (rest : List UInt8) :
    (l.write (src ++ rest)).bytes (texts.length + src.length) = texts ++ src := by
  have hptr : l.logbufferptr = texts.length := h.pointer
  have hold : ∀ i < texts.length, l.logbuffer i = texts.getD i 0 := by
    intro i hi
    have hbuf : (l.bytes texts.length).getD i 0 = texts.getD i 0 := by
      rw [h.buffer]
    rw [← hbuf, bytes, List.getD_eq_getElem?_getD, List.getElem?_map, List.getElem?_range hi]
    rfl
  refine List.ext_getElem (by simp) fun i h1 h2 => ?_
  have hget : (texts ++ src)[i] = (texts ++ src).getD i 0 := by
    rw [List.getD_eq_getElem?_getD, List.getElem?_eq_getElem h2, Option.getD_some]
  rw [hget]
  simp only [bytes, write, List.getElem_map, List.getElem_range, hptr]
  rw [length_bytes] at h1
  by_cases hi : i < texts.length
  · rw [if_neg (by omega), hold i hi]
    simp only [List.getD_eq_getElem?_getD, List.getElem?_append_left hi]
  · rw [if_pos ⟨by omega, by simp only [List.length_append]; omega⟩]
    simp only [List.getD_eq_getElem?_getD]
    rw [List.getElem?_append_left (by omega), List.getElem?_append_right (by omega)]

lemma Logging.write {l : Log} {texts : List UInt8} (h : Logging (l, texts))
    (src rest : List UInt8) :
    Logging ({ l.write (src ++ rest) with logbufferptr := l.logbufferptr + src.length },
      texts ++ src) where
  pointer := by
    rw [List.length_append, h.pointer]
  buffer := by
    rw [List.length_append]
    exact bytes_write h rest

lemma printLog_empties (l : Log) : l.printLog.logbufferptr = 0 := by
  rw [Log.printLog]
  split
  · rfl
  · next h0 => exact Nat.eq_zero_of_not_pos h0

/-- **One call.** -/
lemma logging_step {p q : Log × List UInt8} {c : Call} (h : Logging p)
    (hc : observed call since p c = .ok q) : Logging q := by
  obtain ⟨hq, htexts⟩ := observed_ok.mp hc
  obtain ⟨l, texts⟩ := p
  obtain ⟨l', texts'⟩ := q
  dsimp only at hq htexts
  subst htexts
  cases c with
  | logMessage level text =>
      cases hq
      have hsince : l.since (.logMessage level text) texts
          = texts ++ if level ≤ l.loglevel ∧ l.logEnabled then ascii text else [] := rfl
      rw [hsince, Log.logMessage]
      split_ifs
      · exact h.write (ascii text) [0]
      · rw [List.append_nil]
        exact h
  | logString text =>
      cases hq
      have hw := h.write (ascii text) []
      rw [List.append_nil] at hw
      exact hw
  | logStringnl text =>
      cases hq
      have hw := h.write (ascii text ++ [13, 10]) []
      rw [List.append_nil] at hw
      exact hw
  | printLog =>
      cases hq
      exact ⟨printLog_empties l, rfl⟩

/-- **What is sent**: nothing, if nothing was logged, and else the texts and one byte more. -/
lemma printed_since {p : Log × List UInt8} (h : Logging p) :
    p.1.printed = p.2 ++ if p.2 = [] then [] else [p.1.logbuffer p.2.length] := by
  by_cases h0 : p.2 = []
  · have hptr : p.1.logbufferptr = 0 := by
      rw [h.pointer, h0]
      rfl
    rw [printed, if_neg (by omega), if_pos h0, h0]
    rfl
  · have hpos : 0 < p.1.logbufferptr := by
      rw [h.pointer]
      exact List.length_pos_iff.mpr h0
    rw [printed_eq hpos, h.pointer, h.buffer, if_neg h0]

lemma printed_exact_iff {p : Log × List UInt8} (h : Logging p) : p.1.printed = p.2 ↔ p.2 = [] := by
  rw [printed_since h]
  by_cases h0 : p.2 = []
  · rw [if_pos h0, List.append_nil]
    exact iff_of_true rfl h0
  · rw [if_neg h0]
    refine iff_of_false (fun he => ?_) h0
    have hlen := congrArg List.length he
    rw [List.length_append] at hlen
    exact absurd hlen (by simp)

/-- The log as `main` sets it up: any buffer, any level, and the pointer at its start. -/
def setup (l : Log) : Log × List UInt8 := ({ l with logbufferptr := 0 }, [])

/-- **When the console shows exactly what was logged.**  In any run of the four functions, whatever
the buffer held before: a `printLog` sends the texts logged since the last one, in order, and behind
them the byte under the pointer unless they are empty, and leaves the buffer empty.  So all of them
send exactly these texts exactly if each finds that nothing was logged since the one before. -/
theorem prints_exact_iff (l : Log) (calls : List Call) :
    AllSteps (observed call since) (fun p c => c = .printLog →
      p.1.printed = p.2 ++ (if p.2 = [] then [] else [p.1.logbuffer p.2.length]) ∧
        p.1.printLog.logbufferptr = 0) (setup l) calls ∧
    (AllSteps (observed call since) (fun p c => c = .printLog → p.1.printed = p.2)
        (setup l) calls ↔
      AllSteps (observed call since) (fun p c => c = .printLog → p.2 = []) (setup l) calls) := by
  have hsetup : Logging (setup l) := ⟨rfl, rfl⟩
  constructor
  · exact allSteps_of_invariant (C := fun _ _ => True)
      (fun p _ h _ _ => ⟨printed_since h, printLog_empties p.1⟩)
      (fun _ _ _ h _ hc => logging_step h hc) hsetup
      (allSteps_of_forall_mem (P := fun _ => True) fun _ _ => trivial)
  · exact allSteps_congr (I := Logging)
      (fun _ _ h => imp_congr_right fun _ => printed_exact_iff h)
      (fun _ _ _ h hc => logging_step h hc) hsetup

/-- A short text after a longer one: the third character of the longer one is sent again. -/
theorem stale_character :
    let l : Log := ⟨levelInfo, true, fun _ => 0, 0⟩
    ∃ p, run (observed call since) (setup l)
        [.logMessage levelInfo "xyz", .printLog, .logString "ab"] = .ok p ∧
      p.2 = ascii "ab" ∧ p.1.printed = ascii "abz" ∧ p.1.printed ≠ p.2 := by
  intro l
  have hrun : run (observed call since) (setup l)
      [.logMessage levelInfo "xyz", .printLog, .logString "ab"]
      = .ok ((((setup l).1.logMessage levelInfo "xyz").printLog).logString "ab", ascii "ab") := rfl
  have hprinted : (((setup l).1.logMessage levelInfo "xyz").printLog.logString "ab").printed
      = ascii "abz" := by
    rw [printed_eq (by decide)]
    rfl
  refine ⟨_, hrun, rfl, hprinted, ?_⟩
  rw [hprinted]
  decide

end Log

end Lgt8

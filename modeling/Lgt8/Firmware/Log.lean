import Mathlib.Tactic
import Lgt8.Library.Word

/-!
# The console log (`logMessage` and its relatives in `source/main.cpp`)

Log texts are formatted into a buffer behind a moving pointer; `printLog` empties it from the main
loop.  The pointer is never compared with the buffer's size, so the buffer is modelled as the
memory from its first byte on.
-/

namespace Lgt8

open Library

/-- The level every message of the firmware is logged at. -/
def levelInfo : ℕ := 3

structure Log where
  loglevel : ℕ
  logEnabled : Bool
  logbuffer : ℕ → UInt8
  /-- `logbufferptr - logbufferinit`. -/
  logbufferptr : ℕ

namespace Log

/-- Write `src` behind the pointer, without moving it. -/
def write (l : Log) (src : List UInt8) : Log :=
  { l with logbuffer := fun i =>
      if l.logbufferptr ≤ i ∧ i < l.logbufferptr + src.length
        then src.getD (i - l.logbufferptr) 0 else l.logbuffer i }

/-- `logMessage`: `vsprintf` writes the text and its NUL, the pointer moves to the NUL. -/
def logMessage (level : ℕ) (text : String) (l : Log) : Log :=
  if level ≤ l.loglevel ∧ l.logEnabled then
    let l := l.write (ascii text ++ [0])
    { l with logbufferptr := l.logbufferptr + (ascii text).length }
  else l

/-- `logStringnl`: the text and a line end, at any level. -/
def logStringnl (text : String) (l : Log) : Log :=
  let bytes := ascii text ++ [13, 10]
  let l := l.write bytes
  { l with logbufferptr := l.logbufferptr + bytes.length }

/-- `printLog`: when the buffer is not empty its pointer goes back to the start. -/
def printLog (l : Log) : Log :=
  if 0 < l.logbufferptr then { l with logbufferptr := 0 } else l

end Log

/-- `%d`. -/
def fmtD (n : ℤ) : String := toString n

/-- `%p` of an integer, as the 32-bit address it would be. -/
def fmtP (n : ℤ) : String := "0x" ++ String.ofList (Nat.toDigits 16 (n % 4294967296).toNat)

end Lgt8

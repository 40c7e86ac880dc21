import Mathlib.Tactic
import Lgt8.Library.Record

/-!
# The heap of lwIP (`core/mem.c`)

`echo_accept` gets the state of a connection from this heap, and lwIP the buffers it sends.  The heap
is a stretch of memory cut into blocks; at the head of each is a `struct mem` with the offsets of the
next and the previous one, so the bookkeeping lies between the data, and is as good as the memory.

* `Heap`, `structMem` — the memory from `ram` on, with `lfree`; a pointer is its offset from `ram`.
* `memInit`, `memMalloc`, `memFree`, `memTrim`, `memCalloc` — the functions, with their assertions.

Sizes are `mem_size_t`, which has sixteen bits here, and are cut to it where the code does.
-/

namespace Lgt8.Mem

open Library

inductive Fault
  /-- `LWIP_ASSERT` does not return. -/
  | assertion
  /-- The header of a pointer into the first eight bytes would lie before the heap. -/
  | wild
  /-- A loop does not end. -/
  | unfinished
  deriving DecidableEq

/-- `MEM_SIZE_ALIGNED`; the offset of `ram_end`. -/
def memSizeAligned : ℕ := 6144

/-- `MIN_SIZE_ALIGNED`. -/
def minSizeAligned : ℕ := 12

/-- `SIZEOF_STRUCT_MEM`. -/
def sizeofStructMem : ℕ := 8

/-- `LWIP_MEM_ALIGN_SIZE`. -/
def alignSize (size : ℕ) : ℕ := (size + 3) / 4 * 4

/-- A value stored in a `mem_size_t`. -/
def memSizeT (n : ℕ) : ℕ := n % 2 ^ 16

inductive Field
  | next | prev | used
  deriving DecidableEq

/-- `struct mem`. -/
def structMem : Record Field where
  off
    | .next => 0
    | .prev => 2
    | .used => 4
  width
    | .next => 2
    | .prev => 2
    | .used => 1
  size := sizeofStructMem
  inside f := by cases f <;> decide
  apart f g h := by cases f <;> cases g <;> first | exact absurd rfl h | decide

structure Heap where
  ram : Memory
  lfree : ℕ

/-! ## Initialising -/

def memInit (m : Memory) : Heap where
  ram :=
    let m := structMem.set .next 0 memSizeAligned m
    let m := structMem.set .prev 0 0 m
    let m := structMem.set .used 0 0 m
    let m := structMem.set .used memSizeAligned 1 m
    let m := structMem.set .next memSizeAligned memSizeAligned m
    structMem.set .prev memSizeAligned memSizeAligned m
  lfree := 0

/-! ## Freeing -/

/-- `plug_holes`, forward. -/
def plugForward (mem : ℕ) (h : Heap) : Heap :=
  let nmem := structMem.get .next mem h.ram
  if mem ≠ nmem ∧ structMem.get .used nmem h.ram = 0 ∧ nmem ≠ memSizeAligned then
    let ram := structMem.set .next mem (structMem.get .next nmem h.ram) h.ram
    { ram := structMem.set .prev (structMem.get .next nmem ram) mem ram
      lfree := if h.lfree = nmem then mem else h.lfree }
  else h

/-- `plug_holes`, backward. -/
def plugBackward (mem : ℕ) (h : Heap) : Heap :=
  let pmem := structMem.get .prev mem h.ram
  if pmem ≠ mem ∧ structMem.get .used pmem h.ram = 0 then
    let ram := structMem.set .next pmem (structMem.get .next mem h.ram) h.ram
    { ram := structMem.set .prev (structMem.get .next mem ram) pmem ram
      lfree := if h.lfree = mem then pmem else h.lfree }
  else h

def plugHoles (mem : ℕ) (h : Heap) : Except Fault Heap :=
  if mem < memSizeAligned ∧ structMem.get .used mem h.ram = 0 ∧
      structMem.get .next mem h.ram ≤ memSizeAligned then
    .ok (plugBackward mem (plugForward mem h))
  else .error .assertion

/-- `mem_free`; `NULL` is `none`. -/
def memFree (rmem : Option ℕ) (h : Heap) : Except Fault Heap :=
  match rmem with
  | none => .ok h
  | some rmem =>
      if rmem % 4 = 0 ∧ rmem < memSizeAligned then
        if rmem < sizeofStructMem then .error .wild
        else
          let mem := rmem - sizeofStructMem
          if structMem.get .used mem h.ram = 0 then .error .assertion
          else
            plugHoles mem {
              ram := structMem.set .used mem 0 h.ram
              lfree := if mem < h.lfree then mem else h.lfree }
      else .error .assertion

/-! ## Splitting -/

/-- A new free `struct mem` at `ptr2`, between `mem` and `next`. -/
def newMem (mem ptr2 next : ℕ) (m : Memory) : Memory :=
  let m := structMem.set .used ptr2 0 m
  let m := structMem.set .next ptr2 next m
  let m := structMem.set .prev ptr2 mem m
  structMem.set .next mem ptr2 m

/-- The one behind it points back, unless it is the end of the heap. -/
def backLink (ptr2 : ℕ) (m : Memory) : Memory :=
  let next := structMem.get .next ptr2 m
  if next ≠ memSizeAligned then structMem.set .prev next ptr2 m else m

/-! ## Shrinking -/

/-- `mem_trim`, once it is clear that `mem` shrinks from `size` to `newsize`. -/
def shrink (mem newsize size : ℕ) (h : Heap) : Heap :=
  let mem2 := structMem.get .next mem h.ram
  let ptr2 := memSizeT (mem + sizeofStructMem + newsize)
  if structMem.get .used mem2 h.ram = 0 then
    { ram := backLink ptr2 (newMem mem ptr2 (structMem.get .next mem2 h.ram) h.ram)
      lfree := if h.lfree = mem2 then ptr2 else h.lfree }
  else if newsize + sizeofStructMem + minSizeAligned ≤ size then
    { ram := backLink ptr2 (newMem mem ptr2 mem2 h.ram)
      lfree := if ptr2 < h.lfree then ptr2 else h.lfree }
  else h

/-- What `mem_malloc` and `mem_trim` make of the size asked for. -/
def rounded (size : ℕ) : ℕ :=
  let size := memSizeT (alignSize size)
  if size < minSizeAligned then minSizeAligned else size

/-- `mem_trim`, of a pointer that is not `NULL`. -/
def memTrim (rmem newsize : ℕ) (h : Heap) : Except Fault (Option ℕ × Heap) :=
  let newsize := rounded newsize
  if memSizeAligned < newsize then .ok (none, h)
  else if memSizeAligned ≤ rmem then .error .assertion
  else if rmem < sizeofStructMem then .error .wild
  else
    let mem := rmem - sizeofStructMem
    let size := memSizeT (structMem.get .next mem h.ram + 2 ^ 32 - mem - sizeofStructMem)
    if size < newsize then .error .assertion
    else if newsize = size then .ok (some rmem, h)
    else .ok (some rmem, shrink mem newsize size h)

/-! ## Allocating -/

/-- `mem->next - (ptr + SIZEOF_STRUCT_MEM)`, which is computed with thirty-two bits. -/
def room (ptr : ℕ) (m : Memory) : ℕ :=
  (structMem.get .next ptr m + 2 ^ 32 - (ptr + sizeofStructMem)) % 2 ^ 32

/-- The loop that looks for a free block that is big enough, with at most so many turns. -/
def scan (size : ℕ) (m : Memory) : ℕ → ℕ → Except Fault (Option ℕ)
  | 0, _ => .error .unfinished
  | n + 1, ptr =>
      if ptr < memSizeAligned - size then
        if structMem.get .used ptr m = 0 ∧ size ≤ room ptr m then .ok (some ptr)
        else scan size m n (structMem.get .next ptr m)
      else .ok none

/-- The block `mem` is taken, and the rest of it made a block if it can hold one. -/
def takeMem (size mem : ℕ) (m : Memory) : Memory :=
  if size + sizeofStructMem + minSizeAligned ≤ room mem m then
    let ptr2 := memSizeT (mem + sizeofStructMem + size)
    backLink ptr2 (structMem.set .used mem 1 (newMem mem ptr2 (structMem.get .next mem m) m))
  else structMem.set .used mem 1 m

/-- The loop that looks for the lowest free block. -/
def lowest (m : Memory) : ℕ → ℕ → Except Fault ℕ
  | 0, _ => .error .unfinished
  | n + 1, cur =>
      if structMem.get .used cur m ≠ 0 ∧ cur ≠ memSizeAligned then
        lowest m n (structMem.get .next cur m)
      else .ok cur

/-- More turns than there are offsets. -/
def turns : ℕ := memSizeAligned + 1

/-- The `lfree` of `mem_malloc`, when `mem` has been taken. -/
def adjustLfree (mem lfree : ℕ) (m : Memory) : Except Fault ℕ :=
  if mem = lfree then
    lowest m turns lfree >>= fun cur =>
      if cur = memSizeAligned ∨ structMem.get .used cur m = 0 then .ok cur else .error .assertion
  else .ok lfree

def memMalloc (size : ℕ) (h : Heap) : Except Fault (Option ℕ × Heap) :=
  if size = 0 then .ok (none, h)
  else
    let size := rounded size
    if memSizeAligned < size then .ok (none, h)
    else
      scan size h.ram turns h.lfree >>= fun found =>
        match found with
        | none => .ok (none, h)
        | some mem =>
            let ram := takeMem size mem h.ram
            adjustLfree mem h.lfree ram >>= fun lfree =>
              if mem + sizeofStructMem + size ≤ memSizeAligned ∧ mem % 4 = 0 then
                .ok (some (mem + sizeofStructMem), ⟨ram, lfree⟩)
              else .error .assertion

def memCalloc (count size : ℕ) (h : Heap) : Except Fault (Option ℕ × Heap) :=
  memMalloc (memSizeT (count * size)) h >>= fun r =>
    match r with
    | (none, h) => .ok (none, h)
    | (some p, h) =>
        .ok (some p, { h with ram := h.ram.store p (List.replicate (count * size) 0) })

end Lgt8.Mem

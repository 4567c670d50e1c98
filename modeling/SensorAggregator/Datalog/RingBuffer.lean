import Mathlib.Data.Nat.Notation
import Mathlib.Logic.Function.Basic

/-!
# The overwrite-oldest ring buffer

Models `datalog/ring_buffer.c` and `datalog/ring_buffer.h`. The code only ever copies records,
so the record type stays a parameter. `*rb` is the value threaded through; every other pointer
argument is an `Option` whose `none` is NULL. An array is the function from its indices to its
elements, and `slot_lt` in `RingRefinement` shows that no index leaves the storage.
-/

namespace SensorAggregator.Datalog

universe u

/-- `ring_buffer_t`, `ring_buffer.h:31–41`. -/
structure RingBuffer (α : Type u) where
  storage : Option (ℕ → α)
  capacity : UInt32
  indexMask : UInt32
  head : UInt32
  tail : UInt32
  overwritten : UInt32
  fillHighWater : UInt32
  hasNewest : Bool

namespace RingBuffer

variable {α : Type u}

/-- `RING_CAPACITY_MAX`, `ring_buffer.c:9`. -/
def capacityMax : UInt32 := 0x80000000

/-- `ring_buffer_init`, `ring_buffer.c:11–33`. A refused call leaves `*rb` as it was. -/
def init (rb : RingBuffer α) (storage : Option (ℕ → α)) (capacity : UInt32) :
    RingBuffer α × Bool :=
  match storage with
  | none => (rb, false)
  | some storage =>
    if capacity = 0 ∨ capacity &&& (capacity - 1) ≠ 0 ∨ capacityMax < capacity then
      (rb, false)
    else
      ({ storage := some storage
         capacity := capacity
         indexMask := capacity - 1
         head := 0
         tail := 0
         overwritten := 0
         fillHighWater := 0
         hasNewest := false }, true)

/-- `ring_buffer_count`, `ring_buffer.c:35–39`. -/
def count (rb : RingBuffer α) : UInt32 := rb.head - rb.tail

/-- The array index `counter & rb->index_mask` of `ring_buffer.c:59,90,104`. -/
def slot (rb : RingBuffer α) (counter : UInt32) : ℕ := (counter &&& rb.indexMask).toNat

/-- `ring_buffer_push`, `ring_buffer.c:41–70`. -/
def push (rb : RingBuffer α) (record : Option α) : RingBuffer α × Bool :=
  match rb.storage, record with
  | some storage, some record =>
    let droppedOldest := rb.count == rb.capacity
    let rb := if droppedOldest then
      { rb with tail := rb.tail + 1, overwritten := rb.overwritten + 1 } else rb
    let rb := { rb with
      storage := some (Function.update storage (rb.slot rb.head) record)
      head := rb.head + 1
      hasNewest := true }
    let fill := rb.count
    let rb := if rb.fillHighWater < fill then { rb with fillHighWater := fill } else rb
    (rb, droppedOldest)
  | _, _ => (rb, false)

/-- The number of records a pop moves, `ring_buffer.c:82–86`. -/
def popCount (rb : RingBuffer α) (maxRecords : UInt32) : UInt32 :=
  if maxRecords < rb.count then maxRecords else rb.count

/-- The copy loop of `ring_buffer_pop` after its first `n` iterations, `ring_buffer.c:88–91`. -/
def copyOut (rb : RingBuffer α) (storage recordsOut : ℕ → α) : ℕ → ℕ → α
  | 0 => recordsOut
  | idx + 1 =>
    Function.update (rb.copyOut storage recordsOut idx) idx
      (storage (rb.slot (rb.tail + UInt32.ofNat idx)))

/-- `ring_buffer_pop`, `ring_buffer.c:72–95`. -/
def pop (rb : RingBuffer α) (recordsOut : Option (ℕ → α)) (maxRecords : UInt32) :
    RingBuffer α × Option (ℕ → α) × UInt32 :=
  match rb.storage, recordsOut with
  | some storage, some out =>
    let popCount := rb.popCount maxRecords
    ({ rb with tail := rb.tail + popCount }, some (rb.copyOut storage out popCount.toNat),
      popCount)
  | _, _ => (rb, recordsOut, 0)

/-- `ring_buffer_peek_newest`, `ring_buffer.c:97–106`. -/
def peekNewest (rb : RingBuffer α) (recordOut : Option α) : Option α × Bool :=
  match rb.storage, recordOut with
  | some storage, some _ =>
    if rb.hasNewest then (some (storage (rb.slot (rb.head - 1))), true) else (recordOut, false)
  | _, _ => (recordOut, false)

/-- The records waiting between `tail` and `head`, oldest first. No source function returns
this list; it is what the calls above are observed through. -/
def contents (rb : RingBuffer α) : List α :=
  match rb.storage with
  | none => []
  | some storage =>
    (List.range rb.count.toNat).map fun i ↦ storage (rb.slot (rb.tail + UInt32.ofNat i))

end RingBuffer
end SensorAggregator.Datalog

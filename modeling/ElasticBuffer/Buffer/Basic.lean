import ElasticBuffer.Block
import ElasticBuffer.Config

/-!
# Buffers

A buffer keeps its elements in one block at a time, and replaces the block by another when the capacity has
to change. This module holds what a buffer is, what can be seen of it, and the operations that stay within
its block; those that may replace the block are in `ElasticBuffer.Buffer.Storage`.

The view of a buffer is the list of its elements (`Buffer.toList`).
-/

namespace ElasticBuffer

/-- A sequence of elements with the block they stand in. -/
structure Buffer (α : Type) where
  /-- The block that holds the elements now. -/
  block : Block α
  /-- The settings the buffer was built with. -/
  config : Config
  /-- The identity of the buffer, for life. -/
  id : BufferId
  /-- The number of blocks replaced so far, as a word. -/
  generation : Generation
  /-- The number of times that a block was replaced by a larger one. Unlike the generation it does not come round: fewer
  growths are meant than there are words. -/
  growthEvents : Nat
deriving Repr, DecidableEq

namespace Buffer

variable {α : Type}

/-- A buffer with a given block and no past. -/
def fresh (id : BufferId) (config : Config) (block : Block α) : Buffer α :=
  ⟨block, config, id, .initial, 0⟩

/-- An empty buffer without a block, with the default settings. -/
def new (id : BufferId) : Buffer α := fresh id default .empty

/-! ### Views -/

/-- The elements in order. -/
def toList (buffer : Buffer α) : List α := buffer.block.toList

/-- The number of elements. -/
def length (buffer : Buffer α) : Nat := buffer.block.length

/-- The number of slots of the block. -/
def capacity (buffer : Buffer α) : Nat := buffer.block.capacity

/-- The number of values that can be pushed before the block is replaced. -/
def remaining (buffer : Buffer α) : Nat := buffer.block.remaining

/-- There is no element. -/
def isEmpty (buffer : Buffer α) : Bool := buffer.block.isEmpty

/-- No slot of the block is free. -/
def isFull (buffer : Buffer α) : Bool := buffer.block.isFull

/-- The size of the block in bytes. -/
def memoryBytes [Sized α] (buffer : Buffer α) : Nat := buffer.block.memoryBytes

/-- The structural form of a buffer. -/
def form [Element α] (buffer : Buffer α) : Text.Form :=
  .record "GrowableBuffer"
    [("id", buffer.id.form), ("len", .number buffer.length), ("capacity", .number buffer.capacity),
      ("generation", buffer.generation.form), ("elements", .list (buffer.toList.map Element.form))]

/-! ### Reading -/

/-- The element at `index`, if there is one. -/
def get? (index : Nat) (buffer : Buffer α) : Option α := buffer.block.elements[index]?

/-- The element at `index`, or a fault. -/
def elementAt (index : Nat) (buffer : Buffer α) : Except Fault α :=
  match buffer.get? index with
  | some value => .ok value
  | none => .error (.indexOutOfRange index buffer.length)

/-- The element at `index`, or a panic. -/
def index (index : Nat) (buffer : Buffer α) : Except Panic α := buffer.block.index index

/-! ### Writing within the block -/

/-- Puts a value in place of the element at `index`, and hands that element out. -/
def swapAt? (index : Nat) (value : α) (buffer : Buffer α) : Option (α × Buffer α) :=
  (buffer.block.swapAt? index value).map fun result => (result.1, { buffer with block := result.2 })

/-- As `swapAt?`, but an index without an element is a panic. -/
def swapAt (index : Nat) (value : α) (buffer : Buffer α) : Except Panic (α × Buffer α) :=
  match buffer.block.swapAt index value with
  | .ok (old, block) => .ok (old, { buffer with block := block })
  | .error cause => .error cause

/-- Takes the last element out. -/
def pop (buffer : Buffer α) : Option α × Buffer α :=
  (buffer.block.pop.1, { buffer with block := buffer.block.pop.2 })

/-- Keeps the first `length` elements. -/
def truncate (length : Nat) (buffer : Buffer α) : Buffer α :=
  { buffer with block := buffer.block.truncate length }

/-- Keeps no element. -/
def clear (buffer : Buffer α) : Buffer α := buffer.truncate 0

/-- Changes the elements in place, each by a function of its index. -/
def modify (f : Nat → α → α) (buffer : Buffer α) : Buffer α :=
  { buffer with block := { buffer.block with elements := buffer.block.elements.mapIdx f } }

/-- Turns the order of the elements around. -/
def reverse (buffer : Buffer α) : Buffer α :=
  { buffer with block := { buffer.block with elements := buffer.block.elements.reverse } }

/-! ### What each operation does to the view -/

@[simp] theorem length_toList (buffer : Buffer α) : buffer.toList.length = buffer.length := rfl

theorem isFull_iff {buffer : Buffer α} : buffer.isFull = true ↔ buffer.length = buffer.capacity := by
  simp [isFull, Block.isFull, length, capacity]

@[simp] theorem toList_fresh (id : BufferId) (config : Config) (block : Block α) :
    (fresh id config block).toList = block.toList := rfl

@[simp] theorem toList_new (id : BufferId) : (new id : Buffer α).toList = [] := rfl

theorem get?_eq (index : Nat) (buffer : Buffer α) : buffer.get? index = buffer.toList[index]? := by
  simp [get?, toList, Block.toList]

@[simp] theorem toList_pop (buffer : Buffer α) : buffer.pop.2.toList = buffer.toList.dropLast :=
  Block.toList_pop buffer.block

@[simp] theorem pop_fst (buffer : Buffer α) : buffer.pop.1 = buffer.toList.getLast? :=
  Block.pop_fst buffer.block

@[simp] theorem toList_truncate (length : Nat) (buffer : Buffer α) :
    (buffer.truncate length).toList = buffer.toList.take length :=
  Block.toList_truncate length buffer.block

@[simp] theorem toList_clear (buffer : Buffer α) : buffer.clear.toList = [] := by
  rw [clear, toList_truncate, List.take_zero]

@[simp] theorem toList_modify (f : Nat → α → α) (buffer : Buffer α) :
    (buffer.modify f).toList = buffer.toList.mapIdx f := by
  simp [modify, toList, Block.toList]

@[simp] theorem toList_reverse (buffer : Buffer α) : buffer.reverse.toList = buffer.toList.reverse := by
  simp [reverse, toList, Block.toList]

theorem swapAt?_eq_some {index : Nat} {value old : α} {buffer result : Buffer α}
    (h : buffer.swapAt? index value = some (old, result)) :
    buffer.toList[index]? = some old ∧ result.toList = buffer.toList.set index value := by
  unfold swapAt? at h
  obtain ⟨⟨value', block⟩, hblock, hresult⟩ := Option.map_eq_some_iff.1 h
  cases hresult
  exact Block.swapAt?_eq_some hblock

end Buffer

end ElasticBuffer

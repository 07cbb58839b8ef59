import ElasticBuffer.Element
import ElasticBuffer.Fault
import ElasticBuffer.Limits
import ElasticBuffer.Source

/-!
# Blocks

A block is a fixed stretch of slots that holds elements at its front. It never grows: pushing into a full
block is a panic, and a larger block is a new one that the elements are moved into. The logical capacity is
what was asked for, whatever room the source set aside beyond it.

The view of a block is the list of its elements (`Block.toList`), and each operation has one lemma that says
what it does to the view.
-/

namespace ElasticBuffer

/-- A block of slots with its elements. -/
structure Block (α : Type) where
  /-- The elements, from the first slot on. -/
  elements : Array α
  /-- The number of slots that may be used. -/
  capacity : Nat
  /-- The number of slots that the source set aside. -/
  room : Nat
deriving Repr, DecidableEq

/-- Why there is no block. -/
inductive Denial where
  /-- The source has none, or offered one that cannot be built on. -/
  | refused
  /-- The source ended the call. -/
  | panic (message : String)
deriving DecidableEq, Repr

namespace Block

variable {σ α : Type}

/-! ### Obtaining a block -/

/-- The block without slots. -/
def empty : Block α := ⟨#[], 0, 0⟩

/-- Asks a source for a block of `capacity` slots. No slots are never asked for: that block is at hand. -/
def allocate [Sized α] [BlockSource σ] (capacity : Nat) (source : σ) : Except Denial (Block α) × σ :=
  if capacity = 0 then (.ok empty, source)
  else
    match BlockSource.request source (Sized.bytes α) capacity with
    | (.refused, source) => (.error .refused, source)
    | (.granted room held, source) =>
      if (Reply.granted room held).Accepts capacity then (.ok ⟨#[], capacity, room⟩, source)
      else (.error .refused, source)
    | (.panic message, source) => (.error (.panic message), source)

/-! ### Views -/

/-- The elements, first slot first. -/
def toList (block : Block α) : List α := block.elements.toList

/-- The number of elements. -/
def length (block : Block α) : Nat := block.elements.size

/-- There is no element. -/
def isEmpty (block : Block α) : Bool := block.length = 0

/-- No slot is free. -/
def isFull (block : Block α) : Bool := block.length = block.capacity

/-- The number of free slots. -/
def remaining (block : Block α) : Nat := block.capacity - block.length

/-- The size in bytes of the slots that may be used. -/
def memoryBytes [Sized α] (block : Block α) : Nat := block.capacity * Sized.bytes α

/-! ### Changing the elements -/

/-- Puts a value into the first free slot. -/
@[inline] def push (value : α) (block : Block α) : Except Panic (Block α) :=
  if block.length < block.capacity then .ok { block with elements := block.elements.push value }
  else .error (.blockFull block.capacity)

/-- Takes the last element out. -/
def pop (block : Block α) : Option α × Block α :=
  (block.elements.back?, { block with elements := block.elements.pop })

/-- Keeps the first `length` elements. -/
def truncate (length : Nat) (block : Block α) : Block α :=
  { block with elements := block.elements.take length }

/-- Puts a value in place of the element at `index`, and hands that element out. -/
def swapAt? (index : Nat) (value : α) (block : Block α) : Option (α × Block α) :=
  if h : index < block.elements.size then
    some (block.elements[index], { block with elements := block.elements.set index value })
  else none

/-- As `swapAt?`, but an index without an element is a panic. -/
def swapAt (index : Nat) (value : α) (block : Block α) : Except Panic (α × Block α) :=
  match block.swapAt? index value with
  | some result => .ok result
  | none => .error (.indexOutOfBounds index block.length)

/-- Pushes values one after the other. A value without a slot is a panic, with which it ends, and the elements before
it as well. -/
def pushEach : List α → Block α → Except (Panic × List α) (Block α)
  | [], block => .ok block
  | value :: values, block =>
    match block.push value with
    | .error cause => .error (cause, block.toList ++ [value])
    | .ok block => pushEach values block

/-- The element at `index`; an index without an element is a panic. -/
def index (index : Nat) (block : Block α) : Except Panic α :=
  match block.elements[index]? with
  | some value => .ok value
  | none => .error (.indexOutOfBounds index block.length)

/-- Moves all elements of `block` behind those of `target`. The result is the emptied block and the target. -/
def moveInto (block target : Block α) : Except Panic (Block α × Block α) :=
  if block.length ≤ target.remaining then
    .ok ({ block with elements := #[] }, { target with elements := target.elements ++ block.elements })
  else .error (.blockTooSmall target.remaining block.length)

/-! ### What each operation does to the view -/

@[simp] theorem length_toList (block : Block α) : block.toList.length = block.length := rfl

@[simp] theorem toList_empty : (empty : Block α).toList = [] := rfl

theorem toList_push {value : α} {block result : Block α} (h : block.push value = .ok result) :
    result.toList = block.toList ++ [value] := by
  unfold push at h
  split at h
  · cases h
    simp [toList]
  · cases h

@[simp] theorem toList_pop (block : Block α) : block.pop.2.toList = block.toList.dropLast := by
  simp [pop, toList]

@[simp] theorem pop_fst (block : Block α) : block.pop.1 = block.toList.getLast? := by
  simp [pop, toList]

@[simp] theorem toList_truncate (length : Nat) (block : Block α) :
    (block.truncate length).toList = block.toList.take length := by
  simp [truncate, toList]

theorem swapAt?_eq_some {index : Nat} {value old : α} {block result : Block α}
    (h : block.swapAt? index value = some (old, result)) :
    block.toList[index]? = some old ∧ result.toList = block.toList.set index value := by
  unfold swapAt? at h
  split at h
  · rename_i hindex
    cases h
    exact ⟨by simp [toList, hindex], by simp [toList]⟩
  · cases h

/-- Elements that are moved are in the target, and no longer in the block. -/
theorem toList_moveInto {block target rest result : Block α}
    (h : block.moveInto target = .ok (rest, result)) :
    rest.toList = [] ∧ result.toList = target.toList ++ block.toList := by
  unfold moveInto at h
  split at h
  · cases h
    exact ⟨rfl, by simp [toList]⟩
  · cases h

end Block

end ElasticBuffer

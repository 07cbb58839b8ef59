import ElasticBuffer.Buffer.Basic
import ElasticBuffer.Event

/-!
# Checked references

A buffer gives out references to its elements and checks them on use. A reference is accepted only by the
buffer it was taken from, only while the block is the one it was taken at, and only while there is an
element at its index; the three are checked in this order.
-/

namespace ElasticBuffer.Buffer

variable {α : Type}

/-- A reference to the element at `index`. -/
def refer (index : Nat) (buffer : Buffer α) : Except Fault Reference :=
  if index < buffer.length then .ok ⟨buffer.id, buffer.generation, index⟩
  else .error (.indexOutOfRange index buffer.length)

/-- The index that a reference leads to now. -/
def locate (r : Reference) (buffer : Buffer α) : Except Fault Nat :=
  if r.buffer ≠ buffer.id then .error (.foreignReference r.buffer buffer.id)
  else if r.generation ≠ buffer.generation then
    .error (.staleReference r.generation buffer.generation)
  else if buffer.length ≤ r.index then .error (.indexOutOfRange r.index buffer.length)
  else .ok r.index

/-- What the buffer reports on checking a reference: identity and generation that differ, but not an index
out of range. -/
def checkEvents (r : Reference) (buffer : Buffer α) : List Event :=
  if r.buffer ≠ buffer.id then [.foreignRejected buffer.id r]
  else if r.generation ≠ buffer.generation then [.staleRejected buffer.id r buffer.generation]
  else []

/-- The element that a reference leads to. -/
def resolve (r : Reference) (buffer : Buffer α) : Except Halt α :=
  match buffer.locate r with
  | .error fault => .error (.fault fault)
  | .ok index =>
    match buffer.index index with
    | .error cause => .error (.panic cause)
    | .ok value => .ok value

/-- Puts a value in place of the element that a reference leads to, and hands that element out. -/
def resolveSwap (r : Reference) (value : α) (buffer : Buffer α) : Except Halt (α × Buffer α) :=
  match buffer.locate r with
  | .error fault => .error (.fault fault)
  | .ok index =>
    match buffer.swapAt index value with
    | .error cause => .error (.panic cause)
    | .ok result => .ok result

/-- The reference leads to an element now. -/
def isLive (r : Reference) (buffer : Buffer α) : Bool :=
  r.buffer = buffer.id && r.generation = buffer.generation && decide (r.index < buffer.length)

/-- A reference leads somewhere exactly if it is live, and then to its own index. -/
theorem locate_eq_ok_iff {r : Reference} {buffer : Buffer α} {index : Nat} :
    buffer.locate r = .ok index ↔ buffer.isLive r = true ∧ index = r.index := by
  unfold locate isLive
  by_cases hid : r.buffer = buffer.id
  · by_cases hgen : r.generation = buffer.generation
    · by_cases hindex : r.index < buffer.length
      · simp [hid, hgen, hindex, Nat.not_le.2 hindex, eq_comm]
      · simp [hid, hgen, hindex, Nat.not_lt.1 hindex]
    · simp [hid, hgen]
  · simp [hid]

end ElasticBuffer.Buffer

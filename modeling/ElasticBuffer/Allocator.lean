import ElasticBuffer.Limits
import ElasticBuffer.Source

/-!
# Allocators

The four sources of blocks: the system's storage, one that records what it is asked for, one that stops
granting after a number of calls, and one that follows a script.
-/

namespace ElasticBuffer

/-- How a script answers when it is called. -/
inductive Turn where
  /-- A block of exactly the slots that were asked for. -/
  | exact
  /-- No block. -/
  | refuse
  /-- A block with one slot less than asked for. -/
  | short
  /-- A block with four times the slots that were asked for. -/
  | ample
  /-- A block with enough room, one slot of which is in use. -/
  | occupied
deriving DecidableEq, Repr

/-- A source of blocks, with what it remembers of the requests so far. -/
inductive Allocator where
  /-- The system's storage. -/
  | system
  /-- Grants each request, and keeps the requested capacities, oldest first. -/
  | counting (requests : List Nat)
  /-- Grants the first `budget` calls; `calls` counts them all, as a word. -/
  | failing (budget calls : UInt64)
  /-- Answers the calls as `turns` says, one after the other, and later ones exactly. -/
  | scripted (turns : List Turn) (requests : List Nat)
deriving DecidableEq, Repr

namespace Allocator

/-- What a source says that is asked for more bytes than a block can have. -/
def overflowMessage : String := "capacity overflow"

/-- The system has no block of this many bytes, `2 ^ 60`, or more. The limit is an assumption about the
environment; all that is sure of a system is that no block of it has more than `bytesMax` bytes. -/
def systemLimit : Nat := 1152921504606846976

/-- A block with the given number of slots, `held` of them in use. Slots without size are free, so such a
block has as many of them as there are words; a block that would be too large ends the call. -/
def slots (bytes count held : Nat) : Reply :=
  if bytes = 0 then .granted wordMax held
  else if count * bytes ≤ bytesMax then .granted count held
  else .panic overflowMessage

/-- The system's answer: requests that are too large are refused. -/
def systemReply (bytes capacity : Nat) : Reply :=
  if bytes = 0 then .granted wordMax 0
  else if capacity * bytes < systemLimit then .granted capacity 0
  else .refused

/-- The answer that a turn of a script stands for. -/
def scriptedReply (bytes capacity : Nat) : Turn → Reply
  | .exact => slots bytes capacity 0
  | .refuse => .refused
  | .short => slots bytes (capacity - 1) 0
  | .ample => slots bytes (4 * capacity) 0
  | .occupied => slots bytes (max capacity 1) 1

/-- Asks an allocator for a block. -/
def request (allocator : Allocator) (bytes capacity : Nat) : Reply × Allocator :=
  match allocator with
  | system => (systemReply bytes capacity, system)
  | counting requests => (slots bytes capacity 0, counting (requests ++ [capacity]))
  | failing budget calls =>
    (if budget ≤ calls then .refused else slots bytes capacity 0, failing budget (calls + 1))
  | scripted turns requests =>
    (scriptedReply bytes capacity (turns[requests.length]?.getD .exact),
      scripted turns (requests ++ [capacity]))

/-- Restores the whole budget of a failing allocator. -/
def reset : Allocator → Allocator
  | failing budget _ => failing budget 0
  | other => other

instance : BlockSource Allocator := ⟨request, reset⟩

/-! ### What is granted fits into storage -/

/-- Granted slots with a size fit into one block of storage. -/
theorem slots_bytes_le {bytes count held room used : Nat} (hpos : 0 < bytes)
    (h : slots bytes count held = .granted room used) : room * bytes ≤ bytesMax := by
  unfold slots at h
  rw [if_neg (Nat.pos_iff_ne_zero.1 hpos)] at h
  split at h
  · obtain ⟨rfl, -⟩ := Reply.granted.inj h
    assumption
  · exact absurd h (by simp)

end Allocator

end ElasticBuffer

/-!
# Sources of blocks

A buffer gets its blocks from a source. A source is a state with one operation: it is asked for a number of
slots of a given size, answers, and goes on in a new state. The library promises nothing about the answer: a
source may refuse, may grant more or fewer slots than asked, may hand out a block that is not empty, or may
end the call. `Reply.Accepts` says which answers a buffer builds on.
-/

namespace ElasticBuffer

/-- What a source answers to a request. -/
inductive Reply where
  /-- There is no block. -/
  | refused
  /-- A block with `room` slots, of which `held` are in use already. -/
  | granted (room held : Nat)
  /-- The source ends the call. -/
  | panic (message : String)
deriving DecidableEq, Repr

namespace Reply

/-- A block can be built on if it is empty and has at least the slots that were asked for. -/
def Accepts (capacity : Nat) : Reply → Prop
  | refused => False
  | granted room held => held = 0 ∧ capacity ≤ room
  | panic _ => False

instance (capacity : Nat) : (reply : Reply) → Decidable (reply.Accepts capacity)
  | refused => inferInstanceAs (Decidable False)
  | granted _ _ => inferInstanceAs (Decidable (_ ∧ _))
  | panic _ => inferInstanceAs (Decidable False)

end Reply

/-- A source of blocks with states of type `σ`. -/
class BlockSource (σ : Type) where
  /-- Asks for `capacity` slots of `bytes` bytes each. -/
  request : σ → (bytes capacity : Nat) → Reply × σ
  /-- Forgets what the source counts of its past, if it counts anything. -/
  reset : σ → σ := id

end ElasticBuffer

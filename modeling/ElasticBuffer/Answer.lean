import ElasticBuffer.Config
import ElasticBuffer.Reference
import ElasticBuffer.Source

/-!
# Answers

What a step of a session tells its caller: an answer, or the reason why there is none.
-/

namespace ElasticBuffer

/-- What a step names that there is not. -/
inductive Missing where
  /-- No buffer has the name. -/
  | buffer
  /-- No stored reference has the label. -/
  | reference
  /-- No source of blocks has the name. -/
  | source
  /-- No block has the name. -/
  | block
deriving DecidableEq, Repr

/-- Why a step gives no answer. -/
inductive Stop where
  /-- A name stands for nothing. -/
  | missing (what : Missing)
  /-- The call was declined. -/
  | fault (cause : Fault)
  /-- A run of values was declined after `taken` of them, the declined one included. -/
  | cut (cause : Fault) (taken : Nat)
  /-- The call did not return. -/
  | panic (cause : Panic)
deriving DecidableEq, Repr

/-- A call that halted stops its step. -/
def Halt.stop : Halt → Stop
  | fault cause => .fault cause
  | panic cause => .panic cause

/-- A run of values that halted after `taken` of them stops its step. -/
def Halt.cut (taken : Nat) : Halt → Stop
  | fault cause => .cut cause taken
  | panic cause => .panic cause

/-- What a step answers, for sources in `σ` and elements in `α`. -/
inductive Answer (σ α : Type) where
  /-- There is nothing to tell. -/
  | done
  /-- One element. -/
  | element (value : α)
  /-- An element, if there is one. -/
  | option (value : Option α)
  /-- Some elements in order. -/
  | elements (values : List α)
  /-- Whether a value was written. -/
  | written (success : Bool)
  /-- How many values were taken. -/
  | taken (count : Nat)
  /-- A text. -/
  | text (value : String)
  /-- The settings of a buffer. -/
  | config (value : Config)
  /-- A reference. -/
  | reference (value : Reference)
  /-- Whether something holds. -/
  | flag (value : Bool)
  /-- A number of things. -/
  | count (value : Nat)
  /-- An identity. -/
  | identity (value : BufferId)
  /-- Names in ascending order. -/
  | names (values : List String)
  /-- The state of a source. -/
  | source (state : σ)
  /-- A block that a source offers, and whether it has the room that was asked for; or none. -/
  | offer (block : Option (Nat × Bool))
  /-- Whether a block was obtained. -/
  | obtained (success : Bool)
deriving Repr

end ElasticBuffer

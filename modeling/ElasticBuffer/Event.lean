import ElasticBuffer.Reference

/-!
# Events

A buffer reports what happens to its storage: each replaced block, each refusal, and each reference that
it does not accept. An event has a level, a message, and named details.
-/

namespace ElasticBuffer

/-- How much an event matters. -/
inductive Level where
  /-- Of interest to one who follows each call. -/
  | trace
  /-- Of interest to one who looks for a mistake. -/
  | debug
  /-- Of interest to one who runs the program. -/
  | warn
deriving DecidableEq, Repr

/-- The level's name. -/
def Level.name : Level → String
  | trace => "TRACE"
  | debug => "DEBUG"
  | warn => "WARN"

/-- Why a buffer replaces its block. -/
inductive Reason where
  /-- The block was full when a value came. -/
  | append
  /-- Room was asked for ahead of time. -/
  | reserve
  /-- Free slots were given up. -/
  | shrink
deriving DecidableEq, Repr

/-- The reason's name. -/
def Reason.name : Reason → String
  | append => "append"
  | reserve => "reserve"
  | shrink => "shrink"

/-- What a buffer reports. -/
inductive Event where
  /-- The block of `before` slots was replaced by one of `after` slots; `generation` is the new one. -/
  | replaced (buffer : BufferId) (before after : Nat) (generation : Generation) (reason : Reason)
  /-- No first block of `capacity` slots could be had. -/
  | initialRefused (capacity : Nat)
  /-- No block of `after` slots could be had in place of one of `before`. -/
  | blockRefused (buffer : BufferId) (before after : Nat) (reason : Reason)
  /-- A full block of `capacity` slots has the largest capacity there may be. -/
  | ceilingReached (buffer : BufferId) (capacity requested ceiling : Nat)
  /-- Room for `needed` elements was asked for, more than the ceiling allows. -/
  | ceilingExceeded (buffer : BufferId) (needed ceiling : Nat)
  /-- A reference of another buffer was not accepted. -/
  | foreignRejected (buffer : BufferId) (reference : Reference)
  /-- A reference to storage of another generation was not accepted. -/
  | staleRejected (buffer : BufferId) (reference : Reference) (generation : Generation)
deriving DecidableEq, Repr

/-- The value of a detail. -/
inductive Detail where
  /-- A text. -/
  | text (value : String)
  /-- A count. -/
  | number (value : Nat)
deriving DecidableEq, Repr

namespace Event

/-- The level of an event: refusals warn, and references that are not accepted only leave a trace. -/
def level : Event → Level
  | replaced .. => .debug
  | initialRefused .. => .warn
  | blockRefused .. => .warn
  | ceilingReached .. => .warn
  | ceilingExceeded .. => .warn
  | foreignRejected .. => .trace
  | staleRejected .. => .trace

/-- The message of an event. -/
def message : Event → String
  | replaced .. => "storage block replaced"
  | initialRefused .. => "initial storage block allocation failed"
  | blockRefused .. => "storage block allocation failed"
  | ceilingReached .. => "buffer full at capacity ceiling"
  | ceilingExceeded .. => "reserve exceeds capacity ceiling"
  | foreignRejected .. => "foreign reference rejected"
  | staleRejected .. => "stale reference rejected"

/-- The details of an event, by name. -/
def details : Event → List (String × Detail)
  | replaced buffer before after generation reason =>
    [("buffer", .text buffer.text), ("old_capacity", .number before), ("new_capacity", .number after),
      ("generation", .text generation.text), ("reason", .text reason.name)]
  | initialRefused capacity => [("initial_capacity", .number capacity)]
  | blockRefused buffer before after reason =>
    [("buffer", .text buffer.text), ("old_capacity", .number before), ("new_capacity", .number after),
      ("reason", .text reason.name)]
  | ceilingReached buffer capacity requested ceiling =>
    [("buffer", .text buffer.text), ("current_capacity", .number capacity),
      ("requested_capacity", .number requested), ("max_capacity", .number ceiling)]
  | ceilingExceeded buffer needed ceiling =>
    [("buffer", .text buffer.text), ("needed", .number needed), ("max_capacity", .number ceiling)]
  | foreignRejected buffer reference =>
    [("buffer", .text buffer.text), ("reference", .text reference.text)]
  | staleRejected buffer reference generation =>
    [("buffer", .text buffer.text), ("reference", .text reference.text),
      ("current_generation", .text generation.text)]

end Event

end ElasticBuffer

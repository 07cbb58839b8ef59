import ElasticBuffer.Buffer.Action

/-!
# Commands

What a caller can ask of a session of named buffers: building and giving up buffers, actions on one of them,
and dealing with stored references and with the sources of blocks.
-/

namespace ElasticBuffer

/-- A step of a session. -/
inductive Command (α : Type) where
  /-- Builds an empty buffer with default settings on the named source, or on the heap. -/
  | new (name : String) (source : Option String)
  /-- Builds an empty buffer with given settings on the named source, or on the heap. -/
  | build (name : String) (config : Config) (source : Option String)
  /-- Builds a buffer on the heap that holds the given values. -/
  | collect (name : String) (values : List α)
  /-- Builds a copy of a buffer on the same source. -/
  | copy (name target : String)
  /-- Gives a buffer another name; a buffer of that name is dropped. -/
  | rename (name target : String)
  /-- Lets two buffers exchange their names. -/
  | swap (name other : String)
  /-- Drops a buffer. -/
  | discard (name : String)
  /-- Draws an identity for no buffer. -/
  | drawId
  /-- Performs an action on a buffer. -/
  | act (name : String) (action : Action α)
  /-- Gives a buffer up for its first elements; the others are dropped. -/
  | takeFirst (name : String) (count : Nat)
  /-- Gives a buffer up for its elements. -/
  | drain (name : String)
  /-- Takes a reference to an element and stores it under a label. -/
  | refer (name : String) (index : Nat) (label : String)
  /-- Reads the element that a stored reference leads to. -/
  | resolve (name label : String)
  /-- Overwrites the element that a stored reference leads to. -/
  | overwrite (name label : String) (value : α)
  /-- Asks whether a stored reference leads to an element. -/
  | isLive (name label : String)
  /-- Lists the labels of the stored references that lead to an element of a buffer. -/
  | liveReferences (name : String)
  /-- Shows a stored reference. -/
  | reference (label : String)
  /-- Asks whether two stored references are equal. -/
  | sameReference (label other : String)
  /-- Counts the stored references, equal ones once. -/
  | countReferences
  /-- Shows a named source. -/
  | source (name : String)
  /-- Resets a named source. -/
  | resetSource (name : String)
  /-- Asks a named source for a block, without a buffer. -/
  | request (name : String) (capacity : Nat)
deriving Repr

end ElasticBuffer

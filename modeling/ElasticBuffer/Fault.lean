import ElasticBuffer.Identity
import ElasticBuffer.Text.Quoted

/-!
# Faults and panics

A *fault* is an answer: the call could not be carried out, and the caller is told the cause. A *panic* is a
broken promise of the caller, or of a source of blocks, that ends the call. Each has one text for a reader;
a fault also has a structural form.
-/

namespace ElasticBuffer

/-- The causes for which a buffer declines a call. -/
inductive Fault where
  /-- No element stands at `index` of a buffer of `length` elements. -/
  | indexOutOfRange (index length : Nat)
  /-- No block of `requested` elements could be had in place of one of `current` elements. -/
  | allocationFailure (requested current : Nat)
  /-- The reference was taken at generation `taken`, and the buffer has reached `current`. -/
  | staleReference (taken current : Generation)
  /-- The reference was taken from `origin`, and was resolved in `buffer`. -/
  | foreignReference (origin buffer : BufferId)
  /-- The configuration is not valid. -/
  | invalidConfig (reason : String)
deriving DecidableEq, Repr

namespace Fault

/-- The fault's name. -/
def name : Fault → String
  | indexOutOfRange .. => "IndexOutOfRange"
  | allocationFailure .. => "AllocationFailure"
  | staleReference .. => "StaleReference"
  | foreignReference .. => "ForeignReference"
  | invalidConfig .. => "InvalidConfig"

/-- What a reader is told. -/
def message : Fault → String
  | indexOutOfRange index length =>
    "index " ++ toString index ++ " out of range for length " ++ toString length
  | allocationFailure requested current =>
    "allocation failure: could not grow storage from " ++ toString current ++ " to "
      ++ toString requested ++ " elements"
  | staleReference taken current =>
    "stale reference: taken at generation " ++ taken.text ++ ", storage is at generation "
      ++ current.text
  | foreignReference origin buffer =>
    "reference from buffer " ++ origin.text ++ " resolved against buffer " ++ buffer.text
  | invalidConfig reason => "invalid buffer config: " ++ reason

/-- The fields of the structural form. -/
def fields : Fault → List (String × Text.Form)
  | indexOutOfRange index length => [("index", .number index), ("len", .number length)]
  | allocationFailure requested current =>
    [("requested_capacity", .number requested), ("current_capacity", .number current)]
  | staleReference taken current =>
    [("reference_generation", taken.form), ("current_generation", current.form)]
  | foreignReference origin buffer => [("reference_buffer", origin.form), ("buffer", buffer.form)]
  | invalidConfig reason => [("reason", .atom (Text.quoted reason))]

/-- The structural form of a fault. -/
def form (fault : Fault) : Text.Form := .record fault.name fault.fields

end Fault

/-- What ends a call without an answer. -/
inductive Panic where
  /-- An index was used that no element stands at. -/
  | indexOutOfBounds (index length : Nat)
  /-- A run of values could not be stored whole. -/
  | extendFailed (cause : Fault)
  /-- No block could be had for a copy of `length` elements. -/
  | copyFailed (length : Nat)
  /-- A value was pushed into a full block. -/
  | blockFull (capacity : Nat)
  /-- `moved` elements were to go where only `free` slots are left. -/
  | blockTooSmall (free moved : Nat)
  /-- The source of blocks ended the call. -/
  | source (message : String)
deriving DecidableEq, Repr

/-- What a reader is told. -/
def Panic.message : Panic → String
  | indexOutOfBounds index length =>
    "index out of bounds: the len is " ++ toString length ++ " but the index is " ++ toString index
  | extendFailed cause => "extend failed: " ++ cause.message
  | copyFailed length =>
    "allocation failure while cloning buffer of " ++ toString length ++ " elements"
  | blockFull capacity => "push into full storage block (capacity " ++ toString capacity ++ ")"
  | blockTooSmall free moved =>
    "destination block has " ++ toString free ++ " free slots, " ++ toString moved
      ++ " elements to move"
  | source message => message

/-- Why a call on a buffer gave no result. -/
inductive Halt where
  /-- The buffer declined the call. -/
  | fault (cause : Fault)
  /-- The call did not return. -/
  | panic (cause : Panic)
deriving DecidableEq, Repr

end ElasticBuffer

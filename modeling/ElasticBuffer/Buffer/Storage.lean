import ElasticBuffer.Buffer.Basic
import ElasticBuffer.Event

/-!
# Replacing the block of a buffer

The operations here may ask a source for a new block. Each of them is an *attempt*: it gives the outcome,
the buffer and the source afterwards, the events on the way, and the elements that ended. The new block is obtained
first; only then are the elements moved, so a refusal leaves the buffer as it was. A block that is given up ends with
whatever is in it: an element that was not moved out of it would be dropped.

* `Buffer.push` grows a full block along the growth policy, up to the ceiling.
* `Buffer.reserve` grows a block ahead of time, at least as far as the policy would.
* `Buffer.fit` gives up the free slots.
* `Buffer.pushAll` pushes values until one is declined.
-/

namespace ElasticBuffer

/-- What became of a call on a buffer and its source. -/
structure Attempt (σ α : Type) where
  /-- Whether the call was carried out, or why not. -/
  outcome : Except Halt Unit
  /-- The buffer after the call. -/
  buffer : Buffer α
  /-- The source after the call. -/
  source : σ
  /-- What was reported on the way, in order. -/
  events : List Event
  /-- The elements that ended with a block. -/
  dropped : List α

namespace Attempt

variable {σ α : Type}

/-- Nothing was to be done. -/
def done (buffer : Buffer α) (source : σ) : Attempt σ α := ⟨.ok (), buffer, source, [], []⟩

/-- Goes on with another call if this one was carried out. -/
def andThen (first : Attempt σ α) (next : Buffer α → σ → Attempt σ α) : Attempt σ α :=
  match first with
  | ⟨.error halt, buffer, source, events, dropped⟩ => ⟨.error halt, buffer, source, events, dropped⟩
  | ⟨.ok (), buffer, source, events, dropped⟩ =>
    let second := next buffer source
    { second with events := events ++ second.events, dropped := dropped ++ second.dropped }

theorem andThen_of_error {first : Attempt σ α} {halt : Halt} (h : first.outcome = .error halt)
    (next : Buffer α → σ → Attempt σ α) : first.andThen next = first := by
  obtain ⟨outcome, buffer, source, events, dropped⟩ := first
  subst h
  rfl

theorem andThen_of_ok {first : Attempt σ α} (h : first.outcome = .ok ())
    (next : Buffer α → σ → Attempt σ α) :
    first.andThen next =
      { next first.buffer first.source with
        events := first.events ++ (next first.buffer first.source).events
        dropped := first.dropped ++ (next first.buffer first.source).dropped } := by
  obtain ⟨outcome, buffer, source, events, dropped⟩ := first
  subst h
  rfl

end Attempt

/-- What became of a call that takes values one after the other. -/
structure Intake (σ α : Type) extends Attempt σ α where
  /-- The number of values that were taken, one that was declined included. -/
  taken : Nat
  /-- The values that were not stored: the declined one and those behind it. -/
  unstored : List α

/-- What became of building a buffer. -/
structure Construction (σ α : Type) where
  /-- The buffer, or why there is none. -/
  outcome : Except Halt (Buffer α)
  /-- The source after the call. -/
  source : σ
  /-- What was reported on the way, in order. -/
  events : List Event

/-- What became of copying a buffer. -/
structure Copying (σ α : Type) extends Construction σ α where
  /-- The copies of elements that were made and ended, since there is no buffer for them. -/
  dropped : List α

/-- The copies of elements that were made. -/
def Copying.made {σ α : Type} (copying : Copying σ α) : List α :=
  match copying.outcome with
  | .error _ => copying.dropped
  | .ok buffer => buffer.toList

namespace Buffer

variable {σ α : Type}

/-! ### Within the block -/

/-- Counts one more growth. -/
def countGrowth (buffer : Buffer α) : Buffer α :=
  { buffer with growthEvents := buffer.growthEvents + 1 }

/-- The capacity that the policy goes to from the present one, never above the ceiling. -/
def grownCapacity (buffer : Buffer α) : Nat :=
  match buffer.config.growth.next? buffer.capacity with
  | some next => min next buffer.config.ceiling
  | none => buffer.config.ceiling

/-- Puts a value into the first free slot of the block. -/
@[inline] def store (value : α) (buffer : Buffer α) (source : σ) : Attempt σ α :=
  match buffer.block.push value with
  | .ok block => .done { buffer with block := block } source
  | .error cause => ⟨.error (.panic cause), buffer, source, [], []⟩

variable [Sized α] [BlockSource σ]

/-! ### Building -/

/-- An empty buffer with the given settings, and with a first block of the initial capacity. -/
def build (id : BufferId) (config : Config) (source : σ) : Construction σ α :=
  match config.validate with
  | .error fault => ⟨.error (.fault fault), source, []⟩
  | .ok () =>
    match Block.allocate config.initial source with
    | (.error .refused, source) =>
      ⟨.error (.fault (.allocationFailure config.initial 0)), source, [.initialRefused config.initial]⟩
    | (.error (.panic message), source) => ⟨.error (.panic (.source message)), source, []⟩
    | (.ok block, source) => ⟨.ok (fresh id config block), source, []⟩

/-- A buffer with the same elements and settings, in a block without free slots. -/
def copy (id : BufferId) (buffer : Buffer α) (source : σ) : Copying σ α :=
  match Block.allocate buffer.length source with
  | (.error .refused, source) => ⟨⟨.error (.panic (.copyFailed buffer.length)), source, []⟩, []⟩
  | (.error (.panic message), source) => ⟨⟨.error (.panic (.source message)), source, []⟩, []⟩
  | (.ok block, source) =>
    match block.pushEach buffer.toList with
    | .error (cause, copies) => ⟨⟨.error (.panic cause), source, []⟩, copies⟩
    | .ok block => ⟨⟨.ok (fresh id buffer.config block), source, []⟩, []⟩

/-! ### Replacing the block -/

/-- Moves the elements into a new block of `capacity` slots, and gives up the old one with what is left in it. -/
def replaceBlock (capacity : Nat) (reason : Reason) (buffer : Buffer α) (source : σ) : Attempt σ α :=
  match Block.allocate capacity source with
  | (.error .refused, source) =>
    ⟨.error (.fault (.allocationFailure capacity buffer.capacity)), buffer, source,
      [.blockRefused buffer.id buffer.capacity capacity reason], []⟩
  | (.error (.panic message), source) => ⟨.error (.panic (.source message)), buffer, source, [], []⟩
  | (.ok block, source) =>
    match buffer.block.moveInto block with
    | .error cause => ⟨.error (.panic cause), buffer, source, [], block.toList⟩
    | .ok (old, block) =>
      let generation := buffer.generation.next
      ⟨.ok (), { buffer with block := block, generation := generation }, source,
        [.replaced buffer.id buffer.capacity capacity generation reason], old.toList⟩

/-- Replaces the block by a larger one, and counts the growth. -/
def enlarge (capacity : Nat) (reason : Reason) (buffer : Buffer α) (source : σ) : Attempt σ α :=
  (buffer.replaceBlock capacity reason source).andThen fun buffer source =>
    .done buffer.countGrowth source

/-- Makes room in a full block. -/
def grow (buffer : Buffer α) (source : σ) : Attempt σ α :=
  if buffer.grownCapacity ≤ buffer.capacity then
    let requested := (buffer.config.growth.next? buffer.capacity).getD wordMax
    ⟨.error (.fault (.allocationFailure requested buffer.capacity)), buffer, source,
      [.ceilingReached buffer.id buffer.capacity requested buffer.config.ceiling], []⟩
  else buffer.enlarge buffer.grownCapacity .append source

/-! ### Pushing -/

/-- Puts a value behind the elements, after growing a full block. -/
def push (value : α) (buffer : Buffer α) (source : σ) : Attempt σ α :=
  if buffer.isFull then (buffer.grow source).andThen fun buffer source => buffer.store value source
  else buffer.store value source

/-- Pushes values one after the other until one is declined. -/
def pushAll : List α → Buffer α → σ → Intake σ α
  | [], buffer, source => { Attempt.done buffer source with taken := 0, unstored := [] }
  | value :: values, buffer, source =>
    match buffer.push value source with
    | ⟨.error halt, buffer, source, events, dropped⟩ =>
      { outcome := .error halt, buffer := buffer, source := source, events := events, dropped := dropped
        taken := 1, unstored := value :: values }
    | ⟨.ok (), buffer, source, events, dropped⟩ =>
      let rest := pushAll values buffer source
      { rest with
        events := events ++ rest.events
        dropped := dropped ++ rest.dropped
        taken := rest.taken + 1 }

/-- As `pushAll`, but a declined value is a panic. -/
def extend (values : List α) (buffer : Buffer α) (source : σ) : Intake σ α :=
  let intake := buffer.pushAll values source
  match intake.outcome with
  | .error (.fault fault) => { intake with outcome := .error (.panic (.extendFailed fault)) }
  | _ => intake

/-! ### Changing the capacity -/

/-- Makes sure that `additional` more values can be pushed without a new block. -/
def reserve (additional : Nat) (buffer : Buffer α) (source : σ) : Attempt σ α :=
  match sum? buffer.length additional with
  | none =>
    ⟨.error (.fault (.allocationFailure wordMax buffer.capacity)), buffer, source, [], []⟩
  | some needed =>
    if needed ≤ buffer.capacity then .done buffer source
    else if buffer.config.ceiling < needed then
      ⟨.error (.fault (.allocationFailure needed buffer.capacity)), buffer, source,
        [.ceilingExceeded buffer.id needed buffer.config.ceiling], []⟩
    else
      let geometric := (buffer.config.growth.next? buffer.capacity).getD needed
      buffer.enlarge (min (max geometric needed) buffer.config.ceiling) .reserve source

/-- Gives up the free slots. -/
def fit (buffer : Buffer α) (source : σ) : Attempt σ α :=
  if buffer.isFull then .done buffer source
  else buffer.replaceBlock buffer.length .shrink source

/-! ### Small steps -/

@[simp] theorem pushAll_nil (buffer : Buffer α) (source : σ) :
    (buffer.pushAll [] source).toAttempt = .done buffer source := rfl

theorem pushAll_cons_of_error {value : α} {buffer : Buffer α} {source : σ} {halt : Halt}
    (h : (buffer.push value source).outcome = .error halt) (values : List α) :
    buffer.pushAll (value :: values) source =
      { buffer.push value source with taken := 1, unstored := value :: values } := by
  rw [pushAll]
  generalize buffer.push value source = first at h
  obtain ⟨outcome, buffer, source, events, dropped⟩ := first
  subst h
  rfl

theorem pushAll_cons_of_ok {value : α} {buffer : Buffer α} {source : σ}
    (h : (buffer.push value source).outcome = .ok ()) (values : List α) :
    buffer.pushAll (value :: values) source =
      let first := buffer.push value source
      let rest := first.buffer.pushAll values first.source
      { rest with
        events := first.events ++ rest.events
        dropped := first.dropped ++ rest.dropped
        taken := rest.taken + 1 } := by
  rw [pushAll]
  generalize buffer.push value source = first at h
  obtain ⟨outcome, buffer, source, events, dropped⟩ := first
  subst h
  rfl

end Buffer

end ElasticBuffer

import ElasticBuffer.Answer
import ElasticBuffer.Buffer.Checked
import ElasticBuffer.Buffer.Storage

/-!
# Actions on a buffer

All that a caller can ask of one buffer, as data, so that a run of a buffer is a list. `Action.perform` carries
an action out. Besides the answer, the buffer, the source and the events, its effect tells where the values
went that are not in the buffer afterwards: handed to the caller, or dropped.
-/

namespace ElasticBuffer

/-- A call on a buffer. -/
inductive Action (α : Type) where
  /-- Puts a value behind the elements. -/
  | push (value : α)
  /-- Pushes values until one is declined. -/
  | pushAll (values : List α)
  /-- Pushes values; a declined one is a panic. -/
  | extend (values : List α)
  /-- Takes the last element out. -/
  | pop
  /-- Keeps the first elements. -/
  | truncate (length : Nat)
  /-- Keeps no element. -/
  | clear
  /-- Makes room ahead of time. -/
  | reserve (additional : Nat)
  /-- Gives up the free slots. -/
  | fit
  /-- Reads an element, or is declined. -/
  | elementAt (index : Nat)
  /-- Reads an element, if there is one. -/
  | get (index : Nat)
  /-- Overwrites an element, if there is one. -/
  | put (index : Nat) (value : α)
  /-- Reads an element, or panics. -/
  | index (index : Nat)
  /-- Overwrites an element, or panics. -/
  | putIndex (index : Nat) (value : α)
  /-- Reads all elements. -/
  | elements
  /-- Reads all elements, the last one first. -/
  | backwards
  /-- Turns the order of the elements around. -/
  | reverse
  /-- Changes every element in place. -/
  | bumpAll
  /-- Changes every other element in place, from the first one on. -/
  | bumpAlternate
  /-- Shows the buffer on one line. -/
  | plainText
  /-- Shows the buffer over lines. -/
  | prettyText
  /-- Shows the settings. -/
  | config
  /-- Shows the source. -/
  | source
  /-- Takes a reference to an element. -/
  | refer (index : Nat)
  /-- Reads the element that a reference leads to. -/
  | resolve (reference : Reference)
  /-- Overwrites the element that a reference leads to. -/
  | overwrite (reference : Reference) (value : α)
  /-- Asks whether a reference leads to an element. -/
  | isLive (reference : Reference)
deriving Repr

/-- What became of an action. -/
structure Effect (σ α : Type) where
  /-- The answer, or why there is none. -/
  outcome : Except Stop (Answer σ α)
  /-- The buffer afterwards. -/
  buffer : Buffer α
  /-- The source afterwards. -/
  source : σ
  /-- What was reported on the way, in order. -/
  events : List Event := []
  /-- The values that were handed to the caller. -/
  returned : List α := []
  /-- The values that ended. -/
  dropped : List α := []

namespace Effect

variable {σ α : Type}

/-- An answer that changes nothing. -/
def answer (answer : Answer σ α) (buffer : Buffer α) (source : σ) : Effect σ α :=
  { outcome := .ok answer, buffer := buffer, source := source }

/-- A step that stops and changes nothing. -/
def stopped (stop : Stop) (buffer : Buffer α) (source : σ) : Effect σ α :=
  { outcome := .error stop, buffer := buffer, source := source }

/-- The effect of a call that came without values. -/
def ofAttempt (attempt : Attempt σ α) : Effect σ α where
  outcome :=
    match attempt.outcome with
    | .ok () => .ok .done
    | .error halt => .error halt.stop
  buffer := attempt.buffer
  source := attempt.source
  events := attempt.events
  dropped := attempt.dropped

/-- The effect of pushing one value, which ends if it is not stored. -/
def ofPush (value : α) (attempt : Attempt σ α) : Effect σ α :=
  { ofAttempt attempt with
    dropped :=
      match attempt.outcome with
      | .ok () => attempt.dropped
      | .error _ => attempt.dropped ++ [value] }

/-- The effect of pushing several values, of which those end that are not stored. -/
def ofIntake (intake : Intake σ α) : Effect σ α where
  outcome :=
    match intake.outcome with
    | .ok () => .ok (.taken intake.taken)
    | .error halt => .error (halt.cut intake.taken)
  buffer := intake.buffer
  source := intake.source
  events := intake.events
  dropped := intake.dropped ++ intake.unstored

end Effect

namespace Action

variable {σ α β : Type}

/-- The values that come with an action. -/
def values : Action α → List α
  | push value => [value]
  | pushAll values => values
  | extend values => values
  | put _ value => [value]
  | putIndex _ value => [value]
  | overwrite _ value => [value]
  | _ => []

/-- Carries an action out on a buffer and its source. -/
def perform [Element α] [BlockSource σ] (action : Action α) (buffer : Buffer α) (source : σ) :
    Effect σ α :=
  match action with
  | push value => .ofPush value (buffer.push value source)
  | pushAll values => .ofIntake (buffer.pushAll values source)
  | extend values => .ofIntake (buffer.extend values source)
  | pop =>
    { outcome := .ok (.option buffer.pop.1), buffer := buffer.pop.2, source := source
      returned := buffer.pop.1.toList }
  | truncate length =>
    { outcome := .ok .done, buffer := buffer.truncate length, source := source
      dropped := buffer.toList.drop length }
  | clear =>
    { outcome := .ok .done, buffer := buffer.clear, source := source, dropped := buffer.toList }
  | reserve additional => .ofAttempt (buffer.reserve additional source)
  | fit => .ofAttempt (buffer.fit source)
  | elementAt i =>
    match buffer.elementAt i with
    | .ok value => .answer (.element value) buffer source
    | .error cause => .stopped (.fault cause) buffer source
  | get i => .answer (.option (buffer.get? i)) buffer source
  | put i value =>
    match buffer.swapAt? i value with
    | some (old, buffer) => { Effect.answer (.written true) buffer source with dropped := [old] }
    | none => { Effect.answer (.written false) buffer source with dropped := [value] }
  | index i =>
    match buffer.index i with
    | .ok value => .answer (.element value) buffer source
    | .error cause => .stopped (.panic cause) buffer source
  | putIndex i value =>
    match buffer.swapAt i value with
    | .ok (old, buffer) => { Effect.answer .done buffer source with dropped := [old] }
    | .error cause => { Effect.stopped (.panic cause) buffer source with dropped := [value] }
  | elements => .answer (.elements buffer.toList) buffer source
  | backwards => .answer (.elements buffer.toList.reverse) buffer source
  | reverse => .answer .done buffer.reverse source
  | bumpAll => .answer .done (buffer.modify fun _ => Element.bump) source
  | bumpAlternate =>
    .answer .done (buffer.modify fun i value => if i % 2 = 0 then Element.bump value else value) source
  | plainText => .answer (.text buffer.form.plain) buffer source
  | prettyText => .answer (.text buffer.form.pretty) buffer source
  | config => .answer (.config buffer.config) buffer source
  | Action.source => .answer (.source source) buffer source
  | refer i =>
    match buffer.refer i with
    | .ok reference => .answer (.reference reference) buffer source
    | .error cause => .stopped (.fault cause) buffer source
  | resolve reference =>
    { outcome :=
        match buffer.resolve reference with
        | .ok value => .ok (.element value)
        | .error halt => .error halt.stop
      buffer := buffer, source := source, events := buffer.checkEvents reference }
  | overwrite reference value =>
    match buffer.resolveSwap reference value with
    | .ok (old, after) =>
      { outcome := .ok .done, buffer := after, source := source
        events := buffer.checkEvents reference, dropped := [old] }
    | .error halt =>
      { outcome := .error halt.stop, buffer := buffer, source := source
        events := buffer.checkEvents reference, dropped := [value] }
  | isLive reference => .answer (.flag (buffer.isLive reference)) buffer source

end Action

end ElasticBuffer

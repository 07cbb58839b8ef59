import ElasticBuffer.Session.Command
import ElasticBuffer.Session.Ledger
import ElasticBuffer.Session.Names
import ElasticBuffer.Session.Pool

/-!
# Sessions

A session holds named buffers that share sources of blocks, and named references to their elements. It draws
the identities, numbers the values, and keeps the ledger. This module holds what a session is, and the small
changes that its steps are made of.

Values enter the ledger before a call, and those the call does not store are dropped. A buffer that takes a
name in use is built first; then the buffer that had the name is dropped.
-/

namespace ElasticBuffer

/-- A buffer with the source it draws on. -/
structure Slot (α : Type) (k : Nat) where
  /-- The buffer. -/
  buffer : Buffer α
  /-- Where it gets its blocks from. -/
  provider : Provider k

/-- Buffers and references by name, with their sources. -/
structure Session (σ α : Type) (k : Nat) where
  /-- The buffers. -/
  buffers : Names (Slot (Item α) k) := .empty
  /-- The references. -/
  references : Names Reference := .empty
  /-- The sources of blocks. -/
  pool : Pool σ k
  /-- The identity that is drawn next. -/
  nextId : BufferId := .first
  /-- Where the values went. -/
  ledger : Ledger := {}

/-- What a step tells its caller. -/
structure Report (σ α : Type) where
  /-- The answer, or why there is none. -/
  outcome : Except Stop (Answer σ (Item α))
  /-- What was reported on the way, in order. -/
  events : List Event := []

/-- The action on numbered values, numbered from `start` on. -/
def Action.number {α : Type} (start : Nat) : Action α → Action (Item α)
  | push value => .push ⟨start, value⟩
  | pushAll values => .pushAll (Item.number start values)
  | extend values => .extend (Item.number start values)
  | pop => .pop
  | truncate length => .truncate length
  | clear => .clear
  | reserve additional => .reserve additional
  | fit => .fit
  | elementAt i => .elementAt i
  | get i => .get i
  | put i value => .put i ⟨start, value⟩
  | index i => .index i
  | putIndex i value => .putIndex i ⟨start, value⟩
  | elements => .elements
  | backwards => .backwards
  | reverse => .reverse
  | bumpAll => .bumpAll
  | bumpAlternate => .bumpAlternate
  | plainText => .plainText
  | prettyText => .prettyText
  | config => .config
  | source => .source
  | refer i => .refer i
  | resolve reference => .resolve reference
  | overwrite reference value => .overwrite reference ⟨start, value⟩
  | isLive reference => .isLive reference

theorem Action.values_number {α : Type} (start : Nat) (action : Action α) :
    (action.number start).values = Item.number start action.values := by
  cases action <;> rfl

/-- The same buffer with copies of its elements, numbered from `start` on. -/
def Buffer.renumber {α : Type} (start : Nat) (buffer : Buffer (Item α)) : Buffer (Item α) :=
  buffer.modify fun i item => { item with serial := start + i }

namespace Session

variable {σ α : Type} {k : Nat}

/-! ### Small changes -/

/-- A step that stops without a change. -/
def stop (cause : Stop) (session : Session σ α k) : Report σ α × Session σ α k :=
  (⟨.error cause, []⟩, session)

/-- A step that answers without a change. -/
def answer (answer : Answer σ (Item α)) (session : Session σ α k) : Report σ α × Session σ α k :=
  (⟨.ok answer, []⟩, session)

/-- The provider of a named source; without a name, the heap. -/
def provider? (name : Option String) (session : Session σ α k) : Option (Provider k) :=
  match name with
  | none => some .heap
  | some name => session.pool.provider? name

/-- Accounts for items dropped. -/
def drop (items : List (Item α)) (session : Session σ α k) : Session σ α k :=
  { session with ledger := session.ledger.drop items }

/-- Another state of one source. -/
def updateSource (provider : Provider k) (source : σ) (session : Session σ α k) : Session σ α k :=
  { session with pool := session.pool.update provider source }

/-- The elements of the buffer of a name. -/
def elementsOf (name : String) (session : Session σ α k) : List (Item α) :=
  match session.buffers.find? name with
  | some slot => slot.buffer.toList
  | none => []

/-- Gives a name to a buffer, and drops the one that had it. -/
def place (name : String) (slot : Slot (Item α) k) (session : Session σ α k) : Session σ α k :=
  { session.drop (session.elementsOf name) with buffers := session.buffers.insert name slot }

/-- Takes a buffer out, with its elements not accounted for. -/
def remove (name : String) (session : Session σ α k) : Session σ α k :=
  { session with buffers := session.buffers.erase name }

/-! ### All buffers -/

/-- The elements of all buffers. -/
def stored (session : Session σ α k) : List (Item α) :=
  session.buffers.values.flatMap fun slot => slot.buffer.toList

/-- Drops all buffers. -/
def close (session : Session σ α k) : Session σ α k :=
  { session.drop session.stored with buffers := .empty }

end Session

end ElasticBuffer

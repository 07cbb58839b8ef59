import ElasticBuffer.Answer
import ElasticBuffer.Block
import ElasticBuffer.Session.Ledger
import ElasticBuffer.Session.Names
import ElasticBuffer.Session.Pool

/-!
# Sessions of blocks

Named blocks without buffers around them, with the same sources and the same ledger of values as a session
of buffers. Here the panics of a block can be met, since nothing guards its operations.
-/

namespace ElasticBuffer

/-- A step of a session of blocks. -/
inductive BlockCommand (α : Type) where
  /-- Stores the block without slots. -/
  | empty (name : String)
  /-- Asks a named source for a block and stores it. -/
  | allocate (name source : String) (capacity : Nat)
  /-- Puts a value into the first free slot. -/
  | push (name : String) (value : α)
  /-- Takes the last element out. -/
  | pop (name : String)
  /-- Keeps the first elements. -/
  | truncate (name : String) (length : Nat)
  /-- Moves all elements into another block. -/
  | moveInto (name target : String)
  /-- Overwrites an element, or panics. -/
  | put (name : String) (index : Nat) (value : α)
  /-- Gives a block up for its elements. -/
  | drain (name : String)
deriving Repr

/-- Blocks by name, with their sources. -/
structure BlockSession (σ α : Type) (k : Nat) where
  /-- The blocks. -/
  blocks : Names (Block (Item α)) := .empty
  /-- The sources of blocks. -/
  pool : Pool σ k
  /-- Where the values went. -/
  ledger : Ledger := {}

namespace BlockSession

variable {σ α : Type} {k : Nat}

/-- The answer of a step, or why there is none. -/
abbrev Outcome (σ α : Type) := Except Stop (Answer σ (Item α))

/-! ### Small changes -/

/-- Accounts for one more value. -/
def issueOne (session : BlockSession σ α k) : BlockSession σ α k :=
  { session with ledger := session.ledger.issue 1 }

/-- Accounts for items dropped. -/
def drop (items : List (Item α)) (session : BlockSession σ α k) : BlockSession σ α k :=
  { session with ledger := session.ledger.drop items }

/-- Another content of a block. -/
def update (name : String) (block : Block (Item α)) (session : BlockSession σ α k) :
    BlockSession σ α k :=
  { session with blocks := session.blocks.insert name block }

/-- Gives a name to a block, and drops the elements of the one that had it. -/
def place (name : String) (block : Block (Item α)) (session : BlockSession σ α k) :
    BlockSession σ α k :=
  let old := (session.blocks.find? name).elim [] Block.toList
  (session.drop old).update name block

/-! ### Steps -/

/-- Asks a source for a block and stores it; a refusal leaves the names as they are. -/
def allocate [Sized α] [BlockSource σ] (name source : String) (capacity : Nat)
    (session : BlockSession σ α k) : Outcome σ α × BlockSession σ α k :=
  match session.pool.provider? source with
  | none => (.error (.missing .source), session)
  | some provider =>
    match Block.allocate capacity (session.pool.source provider) with
    | (result, state) =>
      let session := { session with pool := session.pool.update provider state }
      match result with
      | .error .refused => (.ok (.obtained false), session)
      | .error (.panic message) => (.error (.panic (.source message)), session)
      | .ok block => (.ok (.obtained true), session.place name block)

/-- Puts a value into the first free slot of a block. -/
def push (name : String) (value : α) (session : BlockSession σ α k) :
    Outcome σ α × BlockSession σ α k :=
  let item : Item α := ⟨session.ledger.issued, value⟩
  let session := session.issueOne
  match session.blocks.find? name with
  | none => (.error (.missing .block), session.drop [item])
  | some block =>
    match block.push item with
    | .error cause => (.error (.panic cause), session.drop [item])
    | .ok block => (.ok .done, session.update name block)

/-- Takes the last element of a block out. -/
def pop (name : String) (session : BlockSession σ α k) : Outcome σ α × BlockSession σ α k :=
  match session.blocks.find? name with
  | none => (.error (.missing .block), session)
  | some block =>
    (.ok (.option block.pop.1),
      { session with
        blocks := session.blocks.insert name block.pop.2
        ledger := session.ledger.giveBack block.pop.1.toList })

/-- Keeps the first elements of a block. -/
def truncate (name : String) (length : Nat) (session : BlockSession σ α k) :
    Outcome σ α × BlockSession σ α k :=
  match session.blocks.find? name with
  | none => (.error (.missing .block), session)
  | some block =>
    (.ok .done, (session.drop (block.toList.drop length)).update name (block.truncate length))

/-- Moves all elements of a block into another one. A block is not there to be moved into itself. -/
def moveInto (name target : String) (session : BlockSession σ α k) :
    Outcome σ α × BlockSession σ α k :=
  match session.blocks.find? name, (session.blocks.erase name).find? target with
  | some block, some destination =>
    match block.moveInto destination with
    | .error cause => (.error (.panic cause), session)
    | .ok (block, destination) =>
      (.ok .done, (session.update name block).update target destination)
  | _, _ => (.error (.missing .block), session)

/-- Overwrites an element of a block. -/
def put (name : String) (index : Nat) (value : α) (session : BlockSession σ α k) :
    Outcome σ α × BlockSession σ α k :=
  let item : Item α := ⟨session.ledger.issued, value⟩
  let session := session.issueOne
  match session.blocks.find? name with
  | none => (.error (.missing .block), session.drop [item])
  | some block =>
    match block.swapAt index item with
    | .error cause => (.error (.panic cause), session.drop [item])
    | .ok (old, block) => (.ok .done, (session.drop [old]).update name block)

/-- Gives a block up for its elements. -/
def drain (name : String) (session : BlockSession σ α k) : Outcome σ α × BlockSession σ α k :=
  match session.blocks.find? name with
  | none => (.error (.missing .block), session)
  | some block =>
    (.ok (.elements block.toList),
      { session with
        blocks := session.blocks.erase name
        ledger := session.ledger.giveBack block.toList })

/-- Carries a command out. -/
def step [Sized α] [BlockSource σ] (command : BlockCommand α) (session : BlockSession σ α k) :
    Outcome σ α × BlockSession σ α k :=
  match command with
  | .empty name => (.ok .done, session.place name .empty)
  | .allocate name source capacity => session.allocate name source capacity
  | .push name value => session.push name value
  | .pop name => session.pop name
  | .truncate name length => session.truncate name length
  | .moveInto name target => session.moveInto name target
  | .put name index value => session.put name index value
  | .drain name => session.drain name

/-- Carries commands out one after the other; after each, its outcome and the session then. -/
def trace [Sized α] [BlockSource σ] :
    List (BlockCommand α) → BlockSession σ α k → List (Outcome σ α × BlockSession σ α k)
  | [], _ => []
  | command :: commands, session =>
    let first := session.step command
    first :: trace commands first.2

/-- Drops all blocks. -/
def close (session : BlockSession σ α k) : BlockSession σ α k :=
  { session.drop (session.blocks.values.flatMap Block.toList) with blocks := .empty }

end BlockSession

end ElasticBuffer

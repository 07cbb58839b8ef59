import ElasticBuffer.Session.Building

/-!
# Steps of a session

`Session.step` carries a command out, and gives a report and the session afterwards; `Session.trace` does so
for a list of commands, and `Session.run` keeps only the last session.
-/

namespace ElasticBuffer.Session

variable {σ α : Type} {k : Nat}

/-! ### Actions -/

/-- Performs an action on a buffer. -/
def act [Element α] [BlockSource σ] (name : String) (action : Action α) (session : Session σ α k) :
    Report σ α × Session σ α k :=
  let action := action.number session.ledger.issued
  let session := { session with ledger := session.ledger.issue action.values.length }
  match session.buffers.find? name with
  | none => (session.drop action.values).stop (.missing .buffer)
  | some slot =>
    let effect := action.perform slot.buffer (session.pool.source slot.provider)
    (⟨effect.outcome, effect.events⟩,
      { session.updateSource slot.provider effect.source with
        buffers := session.buffers.insert name { slot with buffer := effect.buffer }
        ledger := (session.ledger.giveBack effect.returned).drop effect.dropped })

/-- Takes a reference to an element and stores it. -/
def refer [Element α] [BlockSource σ] (name : String) (index : Nat) (label : String)
    (session : Session σ α k) : Report σ α × Session σ α k :=
  match session.act name (.refer index) with
  | (report, session) =>
    match report.outcome with
    | .ok (.reference reference) =>
      (report, { session with references := session.references.insert label reference })
    | _ => (report, session)

/-- Performs an action with a stored reference; it is looked up before the buffer. -/
def actOn [Element α] [BlockSource σ] (name label : String) (action : Reference → Action α)
    (session : Session σ α k) : Report σ α × Session σ α k :=
  match session.references.find? label with
  | none => session.stop (.missing .reference)
  | some reference => session.act name (action reference)

/-! ### Stored references -/

/-- Lists the labels of the references that lead to an element of a buffer. -/
def liveReferences (name : String) (session : Session σ α k) : Report σ α × Session σ α k :=
  match session.buffers.find? name with
  | none => session.stop (.missing .buffer)
  | some slot =>
    session.answer (.names (session.references.select fun r => slot.buffer.isLive r))

/-- Shows a stored reference. -/
def reference (label : String) (session : Session σ α k) : Report σ α × Session σ α k :=
  match session.references.find? label with
  | none => session.stop (.missing .reference)
  | some reference => session.answer (.reference reference)

/-- Asks whether two stored references are equal. -/
def sameReference (label other : String) (session : Session σ α k) : Report σ α × Session σ α k :=
  match session.references.find? label, session.references.find? other with
  | some r, some s => session.answer (.flag (r = s))
  | _, _ => session.stop (.missing .reference)

/-- Counts the stored references, equal ones once. -/
def countReferences (session : Session σ α k) : Report σ α × Session σ α k :=
  session.answer (.count session.references.values.eraseDups.length)

/-! ### Sources -/

/-- Shows a named source. -/
def source (name : String) (session : Session σ α k) : Report σ α × Session σ α k :=
  match session.pool.provider? name with
  | none => session.stop (.missing .source)
  | some provider => session.answer (.source (session.pool.source provider))

/-- Resets a named source. -/
def resetSource [BlockSource σ] (name : String) (session : Session σ α k) :
    Report σ α × Session σ α k :=
  match session.pool.provider? name with
  | none => session.stop (.missing .source)
  | some provider =>
    (session.updateSource provider (BlockSource.reset (session.pool.source provider))).answer .done

/-- Asks a named source for a block, and tells what it offers. -/
def request [Sized α] [BlockSource σ] (name : String) (capacity : Nat) (session : Session σ α k) :
    Report σ α × Session σ α k :=
  match session.pool.provider? name with
  | none => session.stop (.missing .source)
  | some provider =>
    let reply := BlockSource.request (session.pool.source provider) (Sized.bytes α) capacity
    let session := session.updateSource provider reply.2
    match reply.1 with
    | .refused => session.answer (.offer none)
    | .granted room held => session.answer (.offer (some (held, decide (capacity ≤ room))))
    | .panic message => session.stop (.panic (.source message))

/-! ### Steps -/

/-- Carries a command out. -/
def step [Element α] [BlockSource σ] (command : Command α) (session : Session σ α k) :
    Report σ α × Session σ α k :=
  match command with
  | .new name source => session.new name source
  | .build name config source => session.build name config source
  | .collect name values => session.collect name values
  | .copy name target => session.copy name target
  | .rename name target => session.rename name target
  | .swap name other => session.swap name other
  | .discard name => session.discard name
  | .drawId =>
    { session with nextId := session.nextId.next }.answer (.identity session.nextId)
  | .act name action => session.act name action
  | .takeFirst name count => session.giveUp name count .elements
  | .drain name => session.drain name
  | .refer name index label => session.refer name index label
  | .resolve name label => session.actOn name label .resolve
  | .overwrite name label value => session.actOn name label (.overwrite · value)
  | .isLive name label => session.actOn name label .isLive
  | .liveReferences name => session.liveReferences name
  | .reference label => session.reference label
  | .sameReference label other => session.sameReference label other
  | .countReferences => session.countReferences
  | .source name => session.source name
  | .resetSource name => session.resetSource name
  | .request name capacity => session.request name capacity

/-- Carries commands out one after the other; after each, its report and the session then. -/
def trace [Element α] [BlockSource σ] :
    List (Command α) → Session σ α k → List (Report σ α × Session σ α k)
  | [], _ => []
  | command :: commands, session =>
    let first := session.step command
    first :: trace commands first.2

/-- The session after a list of commands. -/
def run [Element α] [BlockSource σ] (commands : List (Command α)) (session : Session σ α k) :
    Session σ α k :=
  commands.foldl (fun session command => (session.step command).2) session

end ElasticBuffer.Session

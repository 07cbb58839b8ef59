import ElasticBuffer.Session.Basic

/-!
# Building, naming and giving up buffers

The steps of a session that add a buffer, change its name, or take it away. An identity is drawn for a buffer
only once it has been built; only a buffer that collects values draws its identity before them.
-/

namespace ElasticBuffer.Session

variable {σ α : Type} {k : Nat}

/-! ### Building buffers -/

/-- Enrolls a buffer that was built, under the identity that is drawn for it. -/
def enroll (name : String) (provider : Provider k) (construction : Construction σ (Item α))
    (session : Session σ α k) : Report σ α × Session σ α k :=
  let session := session.updateSource provider construction.source
  match construction.outcome with
  | .error halt => (⟨.error halt.stop, construction.events⟩, session)
  | .ok buffer =>
    (⟨.ok .done, construction.events⟩,
      { session with nextId := session.nextId.next }.place name ⟨buffer, provider⟩)

/-- Builds an empty buffer. -/
def new (name : String) (source : Option String) (session : Session σ α k) :
    Report σ α × Session σ α k :=
  match session.provider? source with
  | none => session.stop (.missing .source)
  | some provider =>
    session.enroll name provider ⟨.ok (Buffer.new session.nextId), session.pool.source provider, []⟩

/-- Builds an empty buffer with given settings. -/
def build [Sized α] [BlockSource σ] (name : String) (config : Config) (source : Option String)
    (session : Session σ α k) : Report σ α × Session σ α k :=
  match session.provider? source with
  | none => session.stop (.missing .source)
  | some provider =>
    session.enroll name provider
      (Buffer.build session.nextId config (session.pool.source provider))

/-- Builds a buffer on the heap that holds the given values. Its identity is drawn first. -/
def collect [Sized α] [BlockSource σ] (name : String) (values : List α) (session : Session σ α k) :
    Report σ α × Session σ α k :=
  let items := Item.number session.ledger.issued values
  let intake := (Buffer.new session.nextId).extend items session.pool.heap
  let session :=
    { session.updateSource .heap intake.source with
      nextId := session.nextId.next
      ledger := (session.ledger.issue items.length).drop (intake.dropped ++ intake.unstored) }
  match intake.outcome with
  | .error halt => (⟨.error halt.stop, intake.events⟩, session.drop intake.buffer.toList)
  | .ok () => (⟨.ok .done, intake.events⟩, session.place name ⟨intake.buffer, .heap⟩)

/-- Builds a copy of a buffer on the same source. The copied elements are new items; if there is no buffer for
them, they are dropped. -/
def copy [Sized α] [BlockSource σ] (name target : String) (session : Session σ α k) :
    Report σ α × Session σ α k :=
  match session.buffers.find? name with
  | none => session.stop (.missing .buffer)
  | some slot =>
    let model := slot.buffer.renumber session.ledger.issued
    let copying := model.copy session.nextId (session.pool.source slot.provider)
    { session with
      ledger := (session.ledger.issue copying.made.length).drop copying.dropped }.enroll target slot.provider
        copying.toConstruction

/-! ### Names -/

/-- Gives a buffer another name. -/
def rename (name target : String) (session : Session σ α k) : Report σ α × Session σ α k :=
  match session.buffers.find? name with
  | none => session.stop (.missing .buffer)
  | some slot => ((session.remove name).place target slot).answer .done

/-- Lets two buffers exchange their names. -/
def swap (name other : String) (session : Session σ α k) : Report σ α × Session σ α k :=
  match session.buffers.find? name, session.buffers.find? other with
  | some slot, some slot' =>
    { session with buffers := (session.buffers.insert name slot').insert other slot }.answer .done
  | _, _ => session.stop (.missing .buffer)

/-! ### Giving buffers up -/

/-- Gives a buffer up: its first `count` elements go to the caller, the others are dropped. -/
def giveUp (name : String) (count : Nat) (reply : List (Item α) → Answer σ (Item α))
    (session : Session σ α k) : Report σ α × Session σ α k :=
  match session.buffers.find? name with
  | none => session.stop (.missing .buffer)
  | some slot =>
    let items := slot.buffer.toList
    { session.remove name with
      ledger := (session.ledger.giveBack (items.take count)).drop (items.drop count) }.answer
        (reply (items.take count))

/-- Drops a buffer. -/
def discard (name : String) (session : Session σ α k) : Report σ α × Session σ α k :=
  session.giveUp name 0 fun _ => .done

/-- Gives a buffer up for all its elements. -/
def drain (name : String) (session : Session σ α k) : Report σ α × Session σ α k :=
  session.giveUp name (session.elementsOf name).length .elements

end ElasticBuffer.Session

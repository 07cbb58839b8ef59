import ElasticBuffer.Proofs.GrowthChain

/-!
# What an action leaves of a session

An action on a buffer touches three things of its session: the buffer, the source that it draws on, and the ledger.
`Session.settle` puts the three in their places, and `act_eq_settle` says that an action does just that. So several
actions on one buffer in a row come to one change (`settle_settle`), and whether two ways of calling a buffer come to
the same is a question about the buffer, its source and the ledger alone.

What the sources are asked for in a run is read from their records (`Session.requestsIn`).
-/

namespace ElasticBuffer

variable {σ α : Type} {k : Nat}

/-! ### Changes that cover one another -/

theorem Names.insert_insert {β : Type} (name : String) (first second : β) (table : Names β) :
    (table.insert name first).insert name second = table.insert name second := by
  have herase : (table.insert name first).erase name = table.erase name := by
    simp only [insert, erase, Names.mk.injEq]
    rw [List.filter_cons_of_neg (by simp), List.filter_filter]
    simp only [Bool.and_self]
  rw [insert.eq_def]
  simp only [herase]
  rfl

namespace Pool

theorem update_update (provider : Provider k) (first second : σ) (pool : Pool σ k) :
    (pool.update provider first).update provider second = pool.update provider second := by
  cases provider with
  | heap => rfl
  | shared index => simp only [update, Vector.set_set]

theorem update_source (provider : Provider k) (pool : Pool σ k) :
    pool.update provider (pool.source provider) = pool := by
  cases provider with
  | heap => rfl
  | shared index =>
    obtain ⟨heap, names, shared⟩ := pool
    simp [update, source]

end Pool

namespace Session

/-! ### One buffer, its source and the ledger -/

/-- The session with a buffer in place, another state of the source that it draws on, and another ledger. -/
def settle (name : String) (slot : Slot (Item α) k) (source : σ) (ledger : Ledger)
    (session : Session σ α k) : Session σ α k :=
  { session with
    buffers := session.buffers.insert name slot
    pool := session.pool.update slot.provider source
    ledger := ledger }

@[simp] theorem find?_settle (name : String) (slot : Slot (Item α) k) (source : σ) (ledger : Ledger)
    (session : Session σ α k) :
    (session.settle name slot source ledger).buffers.find? name = some slot :=
  Names.find?_insert_self ..

@[simp] theorem source_settle (name : String) (slot : Slot (Item α) k) (source : σ) (ledger : Ledger)
    (session : Session σ α k) :
    (session.settle name slot source ledger).pool.source slot.provider = source :=
  Pool.source_update_self ..

/-- The later of two changes covers the earlier one. -/
theorem settle_settle (name : String) (slot : Slot (Item α) k) (buffer : Buffer (Item α)) (source source' : σ)
    (ledger ledger' : Ledger) (session : Session σ α k) :
    (session.settle name slot source ledger).settle name { slot with buffer := buffer } source' ledger' =
      session.settle name { slot with buffer := buffer } source' ledger' := by
  simp only [settle, Names.insert_insert, Pool.update_update]

/-- The sessions are the same but for their ledgers. -/
structure Matches (first second : Session σ α k) : Prop where
  /-- Every name stands for the same buffer on the same source. -/
  find?_eq (name : String) : first.buffers.find? name = second.buffers.find? name
  /-- The stored references are the same. -/
  references_eq : first.references = second.references
  /-- The sources are in the same states. -/
  pool_eq : first.pool = second.pool
  /-- The same identity is drawn next. -/
  nextId_eq : first.nextId = second.nextId

theorem Matches.trans {first second third : Session σ α k} (h : first.Matches second) (h' : second.Matches third) :
    first.Matches third :=
  ⟨fun name => (h.find?_eq name).trans (h'.find?_eq name), h.references_eq.trans h'.references_eq,
    h.pool_eq.trans h'.pool_eq, h.nextId_eq.trans h'.nextId_eq⟩

/-- A buffer and a source that are put back where they stood change nothing. -/
theorem matches_settle {session : Session σ α k} {name : String} {slot : Slot (Item α) k}
    (hfind : session.buffers.find? name = some slot) (ledger : Ledger) :
    (session.settle name slot (session.pool.source slot.provider) ledger).Matches session := by
  refine ⟨fun other => ?_, rfl, Pool.update_source slot.provider session.pool, rfl⟩
  rw [settle, Names.find?_insert]
  split
  · rename_i hname
    rw [hname, hfind]
  · rfl

variable [Element α] [BlockSource σ]

/-- What a source is asked for in a run, in order. -/
def requestsIn (commands : List (Command α)) (session : Session σ α k) (provider : Provider k) : List Nat :=
  ((session.recorded.run commands).pool.source provider).requests

/-- Matching sessions with equal ledgers answer an action alike, and match afterwards. -/
theorem Matches.act {first second : Session σ α k} (h : first.Matches second) (hledger : first.ledger = second.ledger)
    (name : String) (action : Action α) :
    (first.act name action).1 = (second.act name action).1 ∧
      (first.act name action).2.Matches (second.act name action).2 := by
  simp only [Session.act, h.find?_eq, hledger]
  cases second.buffers.find? name with
  | none => exact ⟨rfl, h.find?_eq, h.references_eq, h.pool_eq, h.nextId_eq⟩
  | some slot =>
    simp only [updateSource, h.pool_eq, true_and]
    refine ⟨fun other => ?_, h.references_eq, rfl, h.nextId_eq⟩
    simp only [Names.find?_insert, h.find?_eq]

/-- No session notices the records. -/
theorem step_recorded (command : Command α) (session : Session σ α k) :
    session.step command = mapResult Recorder.inner (session.recorded.step command) := by
  rw [← step_mapSource Recorder.commutes_inner, mapSource_recorded]

/-- A step is carried out with records if it is without. -/
theorem isOk_step_recorded (command : Command α) (session : Session σ α k) :
    (session.recorded.step command).1.outcome.isOk = (session.step command).1.outcome.isOk := by
  rw [step_recorded command session]
  show _ = (Except.map _ (session.recorded.step command).1.outcome).isOk
  cases (session.recorded.step command).1.outcome <;> rfl

/-- **An action touches its buffer, its source and the ledger**, and nothing else. -/
theorem act_eq_settle {session : Session σ α k} {name : String} {slot : Slot (Item α) k}
    (hfind : session.buffers.find? name = some slot) (action : Action α) :
    session.act name action =
      let effect := (action.number session.ledger.issued).perform slot.buffer (session.pool.source slot.provider)
      (⟨effect.outcome, effect.events⟩,
        session.settle name { slot with buffer := effect.buffer } effect.source
          (((session.ledger.issue action.values.length).giveBack effect.returned).drop effect.dropped)) := by
  have hvalues : (action.number session.ledger.issued).values.length = action.values.length := by
    rw [Action.values_number, Item.length_number]
  simp only [act, hfind, hvalues]
  rfl

/-- An action on the buffer that was acted on last changes the same three things. -/
theorem act_settle (name : String) (slot : Slot (Item α) k) (source : σ) (ledger : Ledger)
    (session : Session σ α k) (action : Action α) :
    (session.settle name slot source ledger).act name action =
      let effect := (action.number ledger.issued).perform slot.buffer source
      (⟨effect.outcome, effect.events⟩,
        session.settle name { slot with buffer := effect.buffer } effect.source
          (((ledger.issue action.values.length).giveBack effect.returned).drop effect.dropped)) := by
  rw [act_eq_settle (find?_settle ..), source_settle]
  exact congrArg (Prod.mk _) (settle_settle ..)

end Session

end ElasticBuffer

import ElasticBuffer.Session.Step

/-!
# Sessions do not look into their sources

A session knows its sources by their answers only. So if a map between sources respects requests and resets
(`Commutes`), it does not matter whether the sources are mapped before a run or after it
(`Session.run_mapSource`): the reports and the buffers are the same. In particular a source may be given a memory
of its own, which no session will notice.
-/

namespace ElasticBuffer

variable {σ τ α : Type} {k : Nat}

/-- A map between sources that does not change what they answer. -/
structure Commutes [BlockSource σ] [BlockSource τ] (f : σ → τ) : Prop where
  /-- The sources answer alike, and go on alike. -/
  request (source : σ) (bytes capacity : Nat) :
    BlockSource.request (f source) bytes capacity =
      ((BlockSource.request source bytes capacity).1, f (BlockSource.request source bytes capacity).2)
  /-- The sources are reset alike. -/
  reset (source : σ) : BlockSource.reset (f source) = f (BlockSource.reset source)

/-! ### The parts of a session that hold a source -/

/-- The same attempt on another source. -/
def Attempt.mapSource (f : σ → τ) (attempt : Attempt σ α) : Attempt τ α :=
  ⟨attempt.outcome, attempt.buffer, f attempt.source, attempt.events, attempt.dropped⟩

/-- The same intake from another source. -/
def Intake.mapSource (f : σ → τ) (intake : Intake σ α) : Intake τ α :=
  ⟨intake.toAttempt.mapSource f, intake.taken, intake.unstored⟩

/-- The same construction on another source. -/
def Construction.mapSource (f : σ → τ) (construction : Construction σ α) : Construction τ α :=
  ⟨construction.outcome, f construction.source, construction.events⟩

/-- The same copying on another source. -/
def Copying.mapSource (f : σ → τ) (copying : Copying σ α) : Copying τ α :=
  ⟨copying.toConstruction.mapSource f, copying.dropped⟩

/-- The same answer, with another source if it shows one. -/
def Answer.mapSource (f : σ → τ) : Answer σ α → Answer τ α
  | done => .done
  | element value => .element value
  | option value => .option value
  | elements values => .elements values
  | written success => .written success
  | taken number => .taken number
  | text value => .text value
  | config value => .config value
  | reference value => .reference value
  | flag value => .flag value
  | count value => .count value
  | identity value => .identity value
  | names values => .names values
  | source state => .source (f state)
  | offer block => .offer block
  | obtained success => .obtained success

/-- The same effect on another source. -/
def Effect.mapSource (f : σ → τ) (effect : Effect σ α) : Effect τ α :=
  ⟨effect.outcome.map (Answer.mapSource f), effect.buffer, f effect.source, effect.events,
    effect.returned, effect.dropped⟩

/-- The same report about other sources. -/
def Report.mapSource (f : σ → τ) (report : Report σ α) : Report τ α :=
  ⟨report.outcome.map (Answer.mapSource f), report.events⟩

/-- The pool with each of its sources mapped. -/
def Pool.mapSource (f : σ → τ) (pool : Pool σ k) : Pool τ k :=
  ⟨f pool.heap, pool.names, pool.shared.map f⟩

/-- The session with each of its sources mapped. -/
def Session.mapSource (f : σ → τ) (session : Session σ α k) : Session τ α k :=
  ⟨session.buffers, session.references, session.pool.mapSource f, session.nextId, session.ledger⟩

/-- Mapping the sources to and fro changes nothing. -/
theorem Pool.mapSource_cancel {f : σ → τ} {g : τ → σ} (h : ∀ source, g (f source) = source)
    (pool : Pool σ k) : (pool.mapSource f).mapSource g = pool := by
  obtain ⟨heap, names, shared⟩ := pool
  have hid : g ∘ f = id := funext h
  simp only [mapSource, Vector.map_map, hid, Vector.map_id, h]

theorem Session.mapSource_cancel {f : σ → τ} {g : τ → σ} (h : ∀ source, g (f source) = source)
    (session : Session σ α k) : (session.mapSource f).mapSource g = session := by
  obtain ⟨buffers, references, pool, nextId, ledger⟩ := session
  simp only [mapSource, Pool.mapSource_cancel h]

/-! ### Calls on a buffer -/

theorem Attempt.andThen_mapSource {f : σ → τ} {first : Attempt σ α} {next : Buffer α → σ → Attempt σ α}
    {next' : Buffer α → τ → Attempt τ α}
    (hnext : ∀ buffer source, next' buffer (f source) = (next buffer source).mapSource f) :
    (first.mapSource f).andThen next' = (first.andThen next).mapSource f := by
  obtain ⟨outcome, buffer, source, events, dropped⟩ := first
  cases outcome with
  | error halt => rfl
  | ok _ =>
    show Attempt.mk (next' buffer (f source)).outcome _ _ _ _ = _
    rw [hnext]
    rfl

theorem Buffer.store_mapSource (f : σ → τ) (value : α) (buffer : Buffer α) (source : σ) :
    buffer.store value (f source) = (buffer.store value source).mapSource f := by
  unfold store
  cases buffer.block.push value <;> rfl

section

variable [Sized α] [BlockSource σ] [BlockSource τ] {f : σ → τ}

theorem Block.allocate_mapSource (hf : Commutes f) (capacity : Nat) (source : σ) :
    Block.allocate (α := α) capacity (f source) =
      ((Block.allocate capacity source).1, f (Block.allocate (α := α) capacity source).2) := by
  unfold allocate
  split
  · rfl
  · rw [hf.request]
    generalize BlockSource.request source (Sized.bytes α) capacity = answer
    obtain ⟨reply, next⟩ := answer
    cases reply with
    | refused => rfl
    | granted room held =>
      simp only
      split <;> rfl
    | panic message => rfl

namespace Buffer

theorem replaceBlock_mapSource (hf : Commutes f) (capacity : Nat) (reason : Reason) (buffer : Buffer α)
    (source : σ) :
    buffer.replaceBlock capacity reason (f source) =
      (buffer.replaceBlock capacity reason source).mapSource f := by
  unfold replaceBlock
  rw [Block.allocate_mapSource hf]
  generalize Block.allocate (α := α) capacity source = allocation
  obtain ⟨result, next⟩ := allocation
  rcases result with denial | block
  · cases denial <;> rfl
  · simp only
    cases buffer.block.moveInto block <;> rfl

theorem enlarge_mapSource (hf : Commutes f) (capacity : Nat) (reason : Reason) (buffer : Buffer α)
    (source : σ) :
    buffer.enlarge capacity reason (f source) = (buffer.enlarge capacity reason source).mapSource f := by
  unfold enlarge
  rw [replaceBlock_mapSource hf]
  exact Attempt.andThen_mapSource fun _ _ => rfl

theorem grow_mapSource (hf : Commutes f) (buffer : Buffer α) (source : σ) :
    buffer.grow (f source) = (buffer.grow source).mapSource f := by
  unfold grow
  split
  · rfl
  · exact enlarge_mapSource hf _ _ buffer source

theorem push_mapSource (hf : Commutes f) (value : α) (buffer : Buffer α) (source : σ) :
    buffer.push value (f source) = (buffer.push value source).mapSource f := by
  unfold push
  split
  · rw [grow_mapSource hf]
    exact Attempt.andThen_mapSource fun buffer source => store_mapSource f value buffer source
  · exact store_mapSource f value buffer source

theorem pushAll_mapSource (hf : Commutes f) (values : List α) (buffer : Buffer α) (source : σ) :
    buffer.pushAll values (f source) = (buffer.pushAll values source).mapSource f := by
  induction values generalizing buffer source with
  | nil => rfl
  | cons value values ih =>
    rw [pushAll, pushAll, push_mapSource hf]
    generalize buffer.push value source = first
    obtain ⟨outcome, buffer, source, events, dropped⟩ := first
    cases outcome with
    | error halt => rfl
    | ok _ =>
      simp only [Attempt.mapSource]
      rw [ih]
      rfl

theorem extend_mapSource (hf : Commutes f) (values : List α) (buffer : Buffer α) (source : σ) :
    buffer.extend values (f source) = (buffer.extend values source).mapSource f := by
  unfold extend
  rw [pushAll_mapSource hf]
  generalize buffer.pushAll values source = intake
  obtain ⟨⟨outcome, buffer, source, events, dropped⟩, taken, unstored⟩ := intake
  cases outcome with
  | error halt => cases halt <;> rfl
  | ok _ => rfl

theorem reserve_mapSource (hf : Commutes f) (additional : Nat) (buffer : Buffer α) (source : σ) :
    buffer.reserve additional (f source) = (buffer.reserve additional source).mapSource f := by
  unfold reserve
  cases sum? buffer.length additional with
  | none => rfl
  | some needed =>
    simp only
    split
    · rfl
    · split
      · rfl
      · exact enlarge_mapSource hf _ _ buffer source

theorem fit_mapSource (hf : Commutes f) (buffer : Buffer α) (source : σ) :
    buffer.fit (f source) = (buffer.fit source).mapSource f := by
  unfold fit
  split
  · rfl
  · exact replaceBlock_mapSource hf _ _ buffer source

theorem build_mapSource (hf : Commutes f) (id : BufferId) (config : Config) (source : σ) :
    build (α := α) id config (f source) = (build id config source).mapSource f := by
  unfold build
  cases config.validate with
  | error fault => rfl
  | ok _ =>
    simp only
    rw [Block.allocate_mapSource hf]
    generalize Block.allocate (α := α) config.initial source = allocation
    obtain ⟨result, next⟩ := allocation
    rcases result with denial | block
    · cases denial <;> rfl
    · rfl

theorem copy_mapSource (hf : Commutes f) (id : BufferId) (buffer : Buffer α) (source : σ) :
    buffer.copy id (f source) = (buffer.copy id source).mapSource f := by
  unfold copy
  rw [Block.allocate_mapSource hf]
  generalize Block.allocate (α := α) buffer.length source = allocation
  obtain ⟨result, next⟩ := allocation
  rcases result with denial | block
  · cases denial <;> rfl
  · simp only
    cases block.pushEach buffer.toList <;> rfl

end Buffer

end

/-! ### Actions -/

namespace Effect

theorem ofAttempt_mapSource (f : σ → τ) (attempt : Attempt σ α) :
    ofAttempt (attempt.mapSource f) = (ofAttempt attempt).mapSource f := by
  obtain ⟨outcome, buffer, source, events, dropped⟩ := attempt
  cases outcome <;> rfl

theorem ofPush_mapSource (f : σ → τ) (value : α) (attempt : Attempt σ α) :
    ofPush value (attempt.mapSource f) = (ofPush value attempt).mapSource f := by
  obtain ⟨outcome, buffer, source, events, dropped⟩ := attempt
  cases outcome <;> rfl

theorem ofIntake_mapSource (f : σ → τ) (intake : Intake σ α) :
    ofIntake (intake.mapSource f) = (ofIntake intake).mapSource f := by
  obtain ⟨⟨outcome, buffer, source, events, dropped⟩, taken, unstored⟩ := intake
  cases outcome <;> rfl

end Effect

theorem Action.perform_mapSource [Element α] [BlockSource σ] [BlockSource τ] {f : σ → τ}
    (hf : Commutes f) (action : Action α) (buffer : Buffer α) (source : σ) :
    action.perform buffer (f source) = (action.perform buffer source).mapSource f := by
  cases action with
  | push value =>
    rw [perform, Buffer.push_mapSource hf]
    exact Effect.ofPush_mapSource f value _
  | pushAll values =>
    rw [perform, Buffer.pushAll_mapSource hf]
    exact Effect.ofIntake_mapSource f _
  | extend values =>
    rw [perform, Buffer.extend_mapSource hf]
    exact Effect.ofIntake_mapSource f _
  | reserve additional =>
    rw [perform, Buffer.reserve_mapSource hf]
    exact Effect.ofAttempt_mapSource f _
  | fit =>
    rw [perform, Buffer.fit_mapSource hf]
    exact Effect.ofAttempt_mapSource f _
  | elementAt i =>
    simp only [perform]
    cases buffer.elementAt i <;> rfl
  | index i =>
    simp only [perform]
    cases buffer.index i <;> rfl
  | refer i =>
    simp only [perform]
    cases buffer.refer i <;> rfl
  | put i value =>
    simp only [perform]
    cases buffer.swapAt? i value <;> rfl
  | putIndex i value =>
    simp only [perform]
    cases buffer.swapAt i value <;> rfl
  | resolve reference =>
    simp only [perform, Effect.mapSource]
    cases buffer.resolve reference <;> rfl
  | overwrite reference value =>
    simp only [perform]
    cases buffer.resolveSwap reference value <;> rfl
  | _ => rfl

/-! ### Sessions -/

namespace Pool

theorem source_mapSource (f : σ → τ) (provider : Provider k) (pool : Pool σ k) :
    (pool.mapSource f).source provider = f (pool.source provider) := by
  cases provider with
  | heap => rfl
  | shared index => exact Vector.getElem_map ..

theorem update_mapSource (f : σ → τ) (provider : Provider k) (source : σ) (pool : Pool σ k) :
    (pool.mapSource f).update provider (f source) = (pool.update provider source).mapSource f := by
  cases provider with
  | heap => rfl
  | shared index =>
    simp only [update, mapSource, Vector.map_set]

end Pool

namespace Session

/-- A report and a session with each of their sources mapped. -/
def mapResult (f : σ → τ) (result : Report σ α × Session σ α k) : Report τ α × Session τ α k :=
  (result.1.mapSource f, result.2.mapSource f)

@[simp] theorem buffers_mapSource (f : σ → τ) (session : Session σ α k) :
    (session.mapSource f).buffers = session.buffers := rfl

@[simp] theorem references_mapSource (f : σ → τ) (session : Session σ α k) :
    (session.mapSource f).references = session.references := rfl

@[simp] theorem nextId_mapSource (f : σ → τ) (session : Session σ α k) :
    (session.mapSource f).nextId = session.nextId := rfl

@[simp] theorem ledger_mapSource (f : σ → τ) (session : Session σ α k) :
    (session.mapSource f).ledger = session.ledger := rfl

@[simp] theorem heap_pool_mapSource (f : σ → τ) (session : Session σ α k) :
    (session.mapSource f).pool.heap = f session.pool.heap := rfl

@[simp] theorem provider?_pool_mapSource (f : σ → τ) (name : String) (session : Session σ α k) :
    (session.mapSource f).pool.provider? name = session.pool.provider? name := rfl

@[simp] theorem source_pool_mapSource (f : σ → τ) (provider : Provider k) (session : Session σ α k) :
    (session.mapSource f).pool.source provider = f (session.pool.source provider) :=
  Pool.source_mapSource f provider session.pool

theorem provider?_mapSource (f : σ → τ) (name : Option String) (session : Session σ α k) :
    (session.mapSource f).provider? name = session.provider? name := by
  cases name <;> rfl

theorem updateSource_mapSource (f : σ → τ) (provider : Provider k) (source : σ) (session : Session σ α k) :
    (session.mapSource f).updateSource provider (f source) =
      (session.updateSource provider source).mapSource f := by
  simp only [updateSource, mapSource, Pool.update_mapSource]

theorem enroll_mapSource (f : σ → τ) (name : String) (provider : Provider k)
    (construction : Construction σ (Item α)) (session : Session σ α k) :
    (session.mapSource f).enroll name provider (construction.mapSource f) =
      mapResult f (session.enroll name provider construction) := by
  obtain ⟨outcome, source, events⟩ := construction
  simp only [enroll, Construction.mapSource, updateSource_mapSource]
  cases outcome <;> rfl

theorem giveUp_mapSource (f : σ → τ) (name : String) (count : Nat)
    (reply : List (Item α) → Answer σ (Item α)) (reply' : List (Item α) → Answer τ (Item α))
    (hreply : ∀ items, reply' items = (reply items).mapSource f) (session : Session σ α k) :
    (session.mapSource f).giveUp name count reply' = mapResult f (session.giveUp name count reply) := by
  simp only [giveUp, buffers_mapSource, hreply]
  cases session.buffers.find? name <;> rfl

variable [Element α] [BlockSource σ] [BlockSource τ] {f : σ → τ}

theorem act_mapSource (hf : Commutes f) (name : String) (action : Action α) (session : Session σ α k) :
    (session.mapSource f).act name action = mapResult f (session.act name action) := by
  simp only [act, buffers_mapSource]
  cases session.buffers.find? name with
  | none => rfl
  | some slot =>
    simp only [source_pool_mapSource, Action.perform_mapSource hf]
    simp only [updateSource, mapSource, Effect.mapSource, Pool.update_mapSource]
    rfl

theorem refer_mapSource (hf : Commutes f) (name : String) (index : Nat) (label : String)
    (session : Session σ α k) :
    (session.mapSource f).refer name index label = mapResult f (session.refer name index label) := by
  unfold refer
  rw [act_mapSource hf]
  generalize session.act name (.refer index) = result
  obtain ⟨⟨outcome, events⟩, after⟩ := result
  rcases outcome with cause | answer
  · rfl
  · cases answer <;> rfl

theorem actOn_mapSource (hf : Commutes f) (name label : String) (action : Reference → Action α)
    (session : Session σ α k) :
    (session.mapSource f).actOn name label action = mapResult f (session.actOn name label action) := by
  simp only [actOn, references_mapSource]
  cases session.references.find? label with
  | none => rfl
  | some reference => exact act_mapSource hf name (action reference) session

theorem collect_mapSource (hf : Commutes f) (name : String) (values : List α) (session : Session σ α k) :
    (session.mapSource f).collect name values = mapResult f (session.collect name values) := by
  simp only [collect, heap_pool_mapSource, nextId_mapSource, ledger_mapSource,
    Buffer.extend_mapSource hf]
  generalize Buffer.extend (Item.number session.ledger.issued values) (Buffer.new session.nextId)
    session.pool.heap = intake
  obtain ⟨⟨outcome, buffer, source, events, dropped⟩, taken, unstored⟩ := intake
  cases outcome <;> rfl

theorem copy_mapSource (hf : Commutes f) (name target : String) (session : Session σ α k) :
    (session.mapSource f).copy name target = mapResult f (session.copy name target) := by
  simp only [copy, buffers_mapSource]
  cases session.buffers.find? name with
  | none => rfl
  | some slot =>
    simp only [source_pool_mapSource, nextId_mapSource, ledger_mapSource, Buffer.copy_mapSource hf]
    generalize (slot.buffer.renumber session.ledger.issued).copy session.nextId
      (session.pool.source slot.provider) = copying
    exact enroll_mapSource f target slot.provider copying.toConstruction
      { session with ledger := (session.ledger.issue copying.made.length).drop copying.dropped }

theorem request_mapSource (hf : Commutes f) (name : String) (capacity : Nat) (session : Session σ α k) :
    (session.mapSource f).request name capacity = mapResult f (session.request name capacity) := by
  simp only [request, provider?_pool_mapSource]
  cases session.pool.provider? name with
  | none => rfl
  | some provider =>
    simp only [source_pool_mapSource, hf.request, updateSource_mapSource]
    split <;> rfl

/-- **A step does not look into the sources.** -/
theorem step_mapSource (hf : Commutes f) (command : Command α) (session : Session σ α k) :
    (session.mapSource f).step command = mapResult f (session.step command) := by
  cases command with
  | new name source =>
    simp only [step, new, provider?_mapSource]
    cases session.provider? source with
    | none => rfl
    | some provider =>
      simp only [source_pool_mapSource]
      exact enroll_mapSource f name provider ⟨_, session.pool.source provider, []⟩ session
  | build name config source =>
    simp only [step, build, provider?_mapSource]
    cases session.provider? source with
    | none => rfl
    | some provider =>
      simp only [source_pool_mapSource, Buffer.build_mapSource hf]
      exact enroll_mapSource f name provider _ session
  | collect name values => exact collect_mapSource hf name values session
  | copy name target => exact copy_mapSource hf name target session
  | rename name target =>
    simp only [step, rename, buffers_mapSource]
    cases session.buffers.find? name <;> rfl
  | swap name other =>
    simp only [step, swap, buffers_mapSource]
    split <;> rfl
  | discard name => exact giveUp_mapSource f name 0 (fun _ => .done) _ (fun _ => rfl) session
  | takeFirst name count => exact giveUp_mapSource f name count .elements _ (fun _ => rfl) session
  | drain name => exact giveUp_mapSource f name _ .elements _ (fun _ => rfl) session
  | drawId => rfl
  | act name action => exact act_mapSource hf name action session
  | refer name index label => exact refer_mapSource hf name index label session
  | resolve name label => exact actOn_mapSource hf name label .resolve session
  | overwrite name label value => exact actOn_mapSource hf name label (.overwrite · value) session
  | isLive name label => exact actOn_mapSource hf name label .isLive session
  | liveReferences name =>
    simp only [step, liveReferences, buffers_mapSource]
    cases session.buffers.find? name <;> rfl
  | reference label =>
    simp only [step, reference, references_mapSource]
    cases session.references.find? label <;> rfl
  | sameReference label other =>
    simp only [step, sameReference, references_mapSource]
    split <;> rfl
  | countReferences => rfl
  | source name =>
    simp only [step, source, provider?_pool_mapSource]
    cases session.pool.provider? name with
    | none => rfl
    | some provider =>
      simp only [source_pool_mapSource]
      rfl
  | resetSource name =>
    simp only [step, resetSource, provider?_pool_mapSource]
    cases session.pool.provider? name with
    | none => rfl
    | some provider =>
      simp only [source_pool_mapSource, hf.reset, updateSource_mapSource]
      rfl
  | request name capacity => exact request_mapSource hf name capacity session

/-- **A run does not look into the sources.** -/
theorem run_mapSource (hf : Commutes f) (commands : List (Command α)) (session : Session σ α k) :
    (session.mapSource f).run commands = (session.run commands).mapSource f := by
  induction commands generalizing session with
  | nil => rfl
  | cons command commands ih =>
    show ((session.mapSource f).step command).2.run commands =
      ((session.step command).2.run commands).mapSource f
    rw [step_mapSource hf]
    exact ih (session.step command).2

theorem trace_mapSource (hf : Commutes f) (commands : List (Command α)) (session : Session σ α k) :
    (session.mapSource f).trace commands = (session.trace commands).map (mapResult f) := by
  induction commands generalizing session with
  | nil => rfl
  | cons command commands ih =>
    rw [trace, trace, step_mapSource hf, List.map_cons]
    exact congrArg (List.cons _) (ih (session.step command).2)

end Session

end ElasticBuffer

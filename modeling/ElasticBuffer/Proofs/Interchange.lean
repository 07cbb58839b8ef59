import ElasticBuffer.Allocator
import ElasticBuffer.Proofs.Acceptance

/-!
# Sources that can be interchanged

Two sessions carry out the same commands on different sources. They are *alike* if they differ in the sources only, and
in the room that these set aside (`Session.Alike`). One step keeps sessions alike as long as the answers of the
sources are judged alike (`Session.same_step`), and so does a run (`Session.same_run`).

The main statement, `Session.run_through_acceptance`, is about runs on any sources from the start; the transcripts serve
to say which answers were given. So the sources can be interchanged for others that would have been accepted alike:
blocks with more room, or another way to refuse.
-/

namespace ElasticBuffer

variable {σ τ α : Type} {k : Nat}

/-- The slot with another number of slots set aside for its buffer. -/
def Slot.withRoom (room : Nat) (slot : Slot α k) : Slot α k :=
  { slot with buffer := slot.buffer.withRoom room }

/-- Two lookups give slots that differ in the room only, or both give none. -/
def Slot.FoundAlike (found found' : Option (Slot α k)) : Prop :=
  (found = none ∧ found' = none) ∨ ∃ slot room, found = some slot ∧ found' = some (slot.withRoom room)

/-- The caller asks a source directly, and no buffer is involved. -/
def Command.isRequest : Command α → Bool
  | .request _ _ => true
  | _ => false

/-- The report with nothing told of the state of a source. -/
def Report.shown (report : Report σ α) : Report Unit α := ⟨report.outcome.map Answer.shown, report.events⟩

theorem Report.shown_mapSource (f : σ → τ) (report : Report σ α) :
    (report.mapSource f).shown = report.shown := by
  obtain ⟨outcome, events⟩ := report
  cases outcome with
  | error cause => rfl
  | ok answer => cases answer <;> rfl

/-- The sources with empty transcripts. -/
def Pool.transcribed (pool : Pool σ k) : Pool (Transcript σ) k :=
  pool.mapSource fun source => { inner := source }

namespace Session

/-- The sessions are the same but for their sources, and for the room that these set aside. -/
structure Alike (first : Session σ α k) (second : Session τ α k) : Prop where
  /-- A name stands for alike buffers on the same source, or for none. -/
  found (name : String) : Slot.FoundAlike (first.buffers.find? name) (second.buffers.find? name)
  /-- The stored references are the same. -/
  references_eq : first.references = second.references
  /-- The sources have the same names. -/
  names_eq : first.pool.names = second.pool.names
  /-- The same identity is drawn next. -/
  nextId_eq : first.nextId = second.nextId
  /-- The same values have left. -/
  ledger_eq : first.ledger = second.ledger

/-- The sessions are alike, and each source was asked for the same in both. -/
structure Synced (first : Session (Transcript σ) α k) (second : Session (Transcript τ) α k) : Prop
    extends Alike first second where
  /-- The requests are the same. -/
  requests_eq (provider : Provider k) :
    (first.pool.source provider).requests = (second.pool.source provider).requests

/-- Two steps tell their callers the same, and lead to sessions that are alike. -/
structure Same (first : Report (Transcript σ) α × Session (Transcript σ) α k)
    (second : Report (Transcript τ) α × Session (Transcript τ) α k) : Prop where
  /-- The reports are the same. -/
  report_eq : first.1.shown = second.1.shown
  /-- The sessions are alike. -/
  synced : Synced first.2 second.2

/-- The answers to the requests so far are judged alike, source by source. -/
def Agreed (first : Session (Transcript σ) α k) (second : Session (Transcript τ) α k) : Prop :=
  ∀ provider, Agree (first.pool.source provider).exchanges (second.pool.source provider).exchanges

namespace Alike

variable {first : Session σ α k} {second : Session τ α k}

theorem elementsOf_eq (h : Alike first second) (name : String) :
    first.elementsOf name = second.elementsOf name := by
  rcases h.found name with ⟨hfirst, hsecond⟩ | ⟨slot, room, hfirst, hsecond⟩
  · simp only [elementsOf, hfirst, hsecond]
  · simp only [elementsOf, hfirst, hsecond]
    rfl

theorem provider?_pool_eq (h : Alike first second) (name : String) :
    first.pool.provider? name = second.pool.provider? name := by
  rw [Pool.provider?, Pool.provider?, h.names_eq]

theorem provider?_eq (h : Alike first second) (source : Option String) :
    first.provider? source = second.provider? source := by
  cases source with
  | none => rfl
  | some name => exact h.provider?_pool_eq name

/-- Alike buffers may take a name. -/
theorem found_insert (h : Alike first second) (name : String) (slot : Slot (Item α) k) (room : Nat)
    (other : String) :
    Slot.FoundAlike ((first.buffers.insert name slot).find? other)
      ((second.buffers.insert name (slot.withRoom room)).find? other) := by
  by_cases hother : other = name
  · subst hother
    exact .inr ⟨slot, room, Names.find?_insert_self .., Names.find?_insert_self ..⟩
  · rw [Names.find?_insert_of_ne hother, Names.find?_insert_of_ne hother]
    exact h.found other

theorem found_erase (h : Alike first second) (name other : String) :
    Slot.FoundAlike ((first.buffers.erase name).find? other) ((second.buffers.erase name).find? other) := by
  by_cases hother : other = name
  · subst hother
    exact .inl ⟨Names.find?_erase_self .., Names.find?_erase_self ..⟩
  · rw [Names.find?_erase_of_ne hother, Names.find?_erase_of_ne hother]
    exact h.found other

/-- It is not the sources that make sessions alike. -/
theorem mapSource {σ' τ' : Type} (h : Alike first second) (f : σ → σ') (g : τ → τ') :
    Alike (first.mapSource f) (second.mapSource g) :=
  ⟨h.found, h.references_eq, h.names_eq, h.nextId_eq, h.ledger_eq⟩

end Alike

/-! ### Small changes -/

namespace Synced

variable {first : Session (Transcript σ) α k} {second : Session (Transcript τ) α k}

theorem stop (h : Synced first second) (cause : Stop) : Same (first.stop cause) (second.stop cause) :=
  ⟨rfl, h⟩

theorem answer (h : Synced first second) {answer : Answer (Transcript σ) (Item α)}
    {answer' : Answer (Transcript τ) (Item α)} (hanswer : answer.shown = answer'.shown) :
    Same (first.answer answer) (second.answer answer') := by
  refine ⟨?_, h⟩
  show Report.mk (.ok answer.shown) [] = Report.mk (.ok answer'.shown) []
  rw [hanswer]

theorem updateSource (h : Synced first second) (provider : Provider k) {source : Transcript σ}
    {source' : Transcript τ} (hrequests : source.requests = source'.requests) :
    Synced (first.updateSource provider source) (second.updateSource provider source') := by
  refine ⟨⟨h.found, h.references_eq, ?_, h.nextId_eq, h.ledger_eq⟩, fun other => ?_⟩
  · cases provider <;> exact h.names_eq
  · simp only [Session.updateSource, Pool.source_update]
    split
    · exact hrequests
    · exact h.requests_eq other

theorem leave (h : Synced first second) (handed dropped : List (Item α)) :
    Synced { first with ledger := (first.ledger.giveBack handed).drop dropped }
      { second with ledger := (second.ledger.giveBack handed).drop dropped } :=
  ⟨⟨h.found, h.references_eq, h.names_eq, h.nextId_eq,
    congrArg (fun ledger => (ledger.giveBack handed).drop dropped) h.ledger_eq⟩, h.requests_eq⟩

theorem drop (h : Synced first second) (items : List (Item α)) : Synced (first.drop items) (second.drop items) :=
  h.leave [] items

theorem issue (h : Synced first second) (count : Nat) :
    Synced { first with ledger := first.ledger.issue count }
      { second with ledger := second.ledger.issue count } :=
  ⟨⟨h.found, h.references_eq, h.names_eq, h.nextId_eq, congrArg (Ledger.issue count) h.ledger_eq⟩,
    h.requests_eq⟩

theorem drawId (h : Synced first second) :
    Synced { first with nextId := first.nextId.next } { second with nextId := second.nextId.next } :=
  ⟨⟨h.found, h.references_eq, h.names_eq, congrArg BufferId.next h.nextId_eq, h.ledger_eq⟩,
    h.requests_eq⟩

theorem remove (h : Synced first second) (name : String) : Synced (first.remove name) (second.remove name) :=
  ⟨⟨h.found_erase name, h.references_eq, h.names_eq, h.nextId_eq, h.ledger_eq⟩, h.requests_eq⟩

theorem insert (h : Synced first second) (name : String) (slot : Slot (Item α) k) (room : Nat) :
    Synced { first with buffers := first.buffers.insert name slot }
      { second with buffers := second.buffers.insert name (slot.withRoom room) } :=
  ⟨⟨h.found_insert name slot room, h.references_eq, h.names_eq, h.nextId_eq, h.ledger_eq⟩, h.requests_eq⟩

theorem place (h : Synced first second) (name : String) (slot : Slot (Item α) k) (room : Nat) :
    Synced (first.place name slot) (second.place name (slot.withRoom room)) := by
  unfold Session.place
  rw [h.elementsOf_eq name]
  exact (h.drop _).insert name slot room

end Synced

/-! ### Steps -/

section

variable {first : Session (Transcript σ) α k} {second : Session (Transcript τ) α k}

theorem same_enroll (h : Synced first second) (name : String) (provider : Provider k)
    {construction : Construction (Transcript σ) (Item α)} {construction' : Construction (Transcript τ) (Item α)}
    (hbuilt : construction.Alike construction') :
    Same (first.enroll name provider construction) (second.enroll name provider construction') := by
  have hsource := h.updateSource provider hbuilt.requests_eq
  simp only [enroll]
  rcases hbuilt.outcome with ⟨buffer, room, houtcome, houtcome'⟩ | ⟨halt, houtcome, houtcome'⟩
  · simp only [houtcome, houtcome', hbuilt.events_eq]
    exact ⟨rfl, hsource.drawId.place name ⟨buffer, provider⟩ room⟩
  · simp only [houtcome, houtcome', hbuilt.events_eq]
    exact ⟨rfl, hsource⟩

/-- The source of what is built is asked last. -/
theorem Agreed.enroll {name : String} {provider : Provider k}
    {construction : Construction (Transcript σ) (Item α)} {construction' : Construction (Transcript τ) (Item α)}
    (hagreed : Agreed (first.enroll name provider construction).2 (second.enroll name provider construction').2) :
    Agree construction.source.exchanges construction'.source.exchanges := by
  have hagree := hagreed provider
  rw [pool_enroll, pool_enroll, Pool.source_update_self, Pool.source_update_self] at hagree
  exact hagree

theorem same_giveUp (h : Synced first second) (name : String) (count : Nat)
    {reply : List (Item α) → Answer (Transcript σ) (Item α)}
    {reply' : List (Item α) → Answer (Transcript τ) (Item α)}
    (hreply : ∀ items, (reply items).shown = (reply' items).shown) :
    Same (first.giveUp name count reply) (second.giveUp name count reply') := by
  simp only [giveUp]
  rcases h.found name with ⟨hfirst, hsecond⟩ | ⟨slot, room, hfirst, hsecond⟩
  · simp only [hfirst, hsecond]
    exact h.stop _
  · simp only [hfirst, hsecond]
    exact ((h.remove name).leave (slot.buffer.toList.take count) (slot.buffer.toList.drop count)).answer
      (hreply _)

variable [Element α] [BlockSource σ] [BlockSource τ]

theorem same_act (h : Synced first second) (hsound : first.Sound) (name : String) (action : Action α)
    (hagreed : Agreed (first.act name action).2 (second.act name action).2) :
    Same (first.act name action) (second.act name action) := by
  have hissued : second.ledger.issued = first.ledger.issued := congrArg Ledger.issued h.ledger_eq.symm
  simp only [act, hissued] at hagreed ⊢
  rcases h.found name with ⟨hfirst, hsecond⟩ | ⟨slot, room, hfirst, hsecond⟩
  · simp only [hfirst, hsecond]
    exact ((h.issue _).drop _).stop _
  · simp only [hfirst, hsecond] at hagreed ⊢
    have hagree := hagreed slot.provider
    simp only [updateSource, Slot.withRoom, Pool.source_update_self] at hagree
    have heffect := Action.perform_alike (action.number first.ledger.issued) (hsound name slot hfirst).length_le
      room (h.requests_eq slot.provider) hagree
    simp only [Slot.withRoom]
    generalize (action.number first.ledger.issued).perform slot.buffer
      (first.pool.source slot.provider) = effect at heffect
    generalize (action.number first.ledger.issued).perform (slot.buffer.withRoom room)
      (second.pool.source slot.provider) = effect' at heffect
    obtain ⟨houtcome, ⟨room', hbuffer⟩, hrequests, hevents, hreturned, hdropped⟩ := heffect
    have hsource := h.updateSource slot.provider hrequests
    refine ⟨?_, ⟨⟨?_, h.references_eq, hsource.names_eq, h.nextId_eq, ?_⟩, hsource.requests_eq⟩⟩
    · simp only [Report.shown, houtcome, hevents]
    · rw [hbuffer]
      exact h.found_insert name { slot with buffer := effect.buffer } room'
    · rw [hreturned, hdropped, h.ledger_eq]

omit [BlockSource τ] in
/-- A reference is taken without a request. -/
theorem pool_refer (name : String) (index : Nat) (label : String) (session : Session σ α k) :
    (session.refer name index label).2.pool = (session.act name (.refer index)).2.pool := by
  rcases refer_cases name index label session with ⟨cause, -, -, hrefer⟩ | ⟨slot, r, -, -, -, -, hrefer⟩
  · rw [hrefer]
  · rw [hrefer]

theorem same_refer (h : Synced first second) (hsound : first.Sound) (name : String) (index : Nat)
    (label : String) (hagreed : Agreed (first.refer name index label).2 (second.refer name index label).2) :
    Same (first.refer name index label) (second.refer name index label) := by
  have hact : Agreed (first.act name (.refer index)).2 (second.act name (.refer index)).2 := by
    intro provider
    rw [← pool_refer name index label, ← pool_refer name index label]
    exact hagreed provider
  obtain ⟨hreport, hsynced⟩ := same_act h hsound name (.refer index) hact
  have houtcome := congrArg Report.outcome hreport
  simp only [Report.shown] at houtcome
  rcases refer_cases name index label first with
    ⟨cause, hcause, -, hrefer⟩ | ⟨slot, r, -, -, -, hr, hrefer⟩
  · rcases refer_cases name index label second with
      ⟨cause', -, -, hrefer'⟩ | ⟨slot', r', -, -, -, hr', hrefer'⟩
    · rw [hrefer, hrefer']
      exact ⟨hreport, hsynced⟩
    · rw [hcause, hr'] at houtcome
      cases houtcome
  · rcases refer_cases name index label second with
      ⟨cause', hcause', -, hrefer'⟩ | ⟨slot', r', -, -, -, hr', hrefer'⟩
    · rw [hr, hcause'] at houtcome
      cases houtcome
    · -- both took the same reference
      rw [hr, hr'] at houtcome
      cases houtcome
      rw [hrefer, hrefer']
      refine ⟨hreport, ⟨⟨hsynced.found, ?_, hsynced.names_eq, hsynced.nextId_eq, hsynced.ledger_eq⟩,
        hsynced.requests_eq⟩⟩
      exact congrArg (Names.insert label r) hsynced.references_eq

theorem same_actOn (h : Synced first second) (hsound : first.Sound) (name label : String)
    (action : Reference → Action α)
    (hagreed : Agreed (first.actOn name label action).2 (second.actOn name label action).2) :
    Same (first.actOn name label action) (second.actOn name label action) := by
  simp only [actOn, ← h.references_eq] at hagreed ⊢
  cases hlabel : first.references.find? label with
  | none => exact h.stop _
  | some reference =>
    rw [hlabel] at hagreed
    exact same_act h hsound name (action reference) hagreed

theorem same_collect (h : Synced first second) (name : String) (values : List α)
    (hagreed : Agreed (first.collect name values).2 (second.collect name values).2) :
    Same (first.collect name values) (second.collect name values) := by
  have hissued : second.ledger.issued = first.ledger.issued := congrArg Ledger.issued h.ledger_eq.symm
  have hagree := hagreed .heap
  rw [pool_collect, pool_collect, Pool.source_update_self, Pool.source_update_self] at hagree
  -- no room is set aside for a new buffer, in neither session
  have halike : Intake.Alike
      ((Buffer.new first.nextId).extend (Item.number first.ledger.issued values) first.pool.heap)
      ((Buffer.new second.nextId).extend (Item.number second.ledger.issued values) second.pool.heap) := by
    rw [hissued, ← h.nextId_eq] at hagree ⊢
    exact Buffer.extend_alike (Item.number first.ledger.issued values)
      (Buffer.sound_new first.nextId).length_le 0 (h.requests_eq .heap) hagree
  simp only [collect, Item.length_number]
  generalize (Buffer.new first.nextId).extend (Item.number first.ledger.issued values)
    first.pool.heap = intake at halike
  generalize (Buffer.new second.nextId).extend (Item.number second.ledger.issued values)
    second.pool.heap = intake' at halike
  obtain ⟨⟨outcome, buffer, source, events, dropped⟩, taken, unstored⟩ := intake
  obtain ⟨⟨outcome', buffer', source', events', dropped'⟩, taken', unstored'⟩ := intake'
  obtain ⟨⟨rfl, ⟨room, rfl⟩, hrequests, rfl, rfl⟩, rfl, rfl⟩ := halike
  have hsession := ((h.updateSource .heap hrequests).drawId.issue values.length).drop (dropped ++ unstored)
  cases outcome with
  | error halt => exact ⟨rfl, hsession.drop buffer.toList⟩
  | ok _ => exact ⟨rfl, hsession.place name ⟨buffer, .heap⟩ room⟩

omit [BlockSource τ] in
/-- A copy is enrolled whatever becomes of it. -/
theorem pool_copy {name : String} (target : String) {session : Session σ α k} {slot : Slot (Item α) k}
    (hfind : session.buffers.find? name = some slot) :
    (session.copy name target).2.pool = session.pool.update slot.provider
      ((slot.buffer.renumber session.ledger.issued).copy session.nextId
        (session.pool.source slot.provider)).source := by
  simp only [copy, hfind]
  exact pool_enroll ..

theorem same_copy (h : Synced first second) (name target : String)
    (hagreed : Agreed (first.copy name target).2 (second.copy name target).2) :
    Same (first.copy name target) (second.copy name target) := by
  have hissued : second.ledger.issued = first.ledger.issued := congrArg Ledger.issued h.ledger_eq.symm
  rcases h.found name with ⟨hfirst, hsecond⟩ | ⟨slot, room, hfirst, hsecond⟩
  · simp only [copy, hfirst, hsecond]
    exact h.stop _
  · have hagree := hagreed slot.provider
    rw [pool_copy target hfirst, pool_copy target hsecond] at hagree
    simp only [Slot.withRoom, Pool.source_update_self] at hagree
    have halike : Construction.Alike
        ((slot.buffer.renumber first.ledger.issued).copy first.nextId
          (first.pool.source slot.provider)).toConstruction
        (((slot.buffer.withRoom room).renumber second.ledger.issued).copy second.nextId
          (second.pool.source slot.provider)).toConstruction := by
      rw [hissued, ← h.nextId_eq] at hagree ⊢
      exact Buffer.copy_alike first.nextId (slot.buffer.renumber first.ledger.issued) room
        (h.requests_eq slot.provider) hagree
    simp only [copy, hfirst, hsecond, Slot.withRoom, Buffer.dropped_copy, Buffer.length_made_copy,
      Buffer.length_renumber, Buffer.length_withRoom]
    rcases halike.outcome with ⟨buffer, room', houtcome, houtcome'⟩ | ⟨halt, houtcome, houtcome'⟩
    · simp only [houtcome, houtcome']
      exact same_enroll ((h.issue _).drop []) target slot.provider halike
    · simp only [houtcome, houtcome']
      exact same_enroll ((h.issue _).drop []) target slot.provider halike

/-- **A step sees the sources through the judgements only.** -/
theorem same_step (h : Synced first second) (hsound : first.Sound) {command : Command α}
    (hcall : command.isRequest = false)
    (hagreed : Agreed (first.step command).2 (second.step command).2) :
    Same (first.step command) (second.step command) := by
  cases command with
  | new name source =>
    simp only [step, new, ← h.provider?_eq source]
    cases first.provider? source with
    | none => exact h.stop _
    | some provider =>
      refine same_enroll h name provider ⟨.inl ⟨_, 0, rfl, ?_⟩, h.requests_eq provider, rfl⟩
      rw [← h.nextId_eq]
      rfl
  | build name config source =>
    simp only [step, build, ← h.provider?_eq source] at hagreed ⊢
    cases hprovider : first.provider? source with
    | none => exact h.stop _
    | some provider =>
      rw [hprovider] at hagreed
      have hagree := Agreed.enroll hagreed
      refine same_enroll h name provider ?_
      rw [← h.nextId_eq] at hagree ⊢
      exact Buffer.build_alike first.nextId config (h.requests_eq provider) hagree
  | collect name values => exact same_collect h name values hagreed
  | copy name target => exact same_copy h name target hagreed
  | rename name target =>
    simp only [step, rename]
    rcases h.found name with ⟨hfirst, hsecond⟩ | ⟨slot, room, hfirst, hsecond⟩
    · simp only [hfirst, hsecond]
      exact h.stop _
    · simp only [hfirst, hsecond]
      exact ((h.remove name).place target slot room).answer rfl
  | swap name other =>
    simp only [step, swap]
    rcases h.found name with ⟨hfirst, hsecond⟩ | ⟨slot, room, hfirst, hsecond⟩
    · simp only [hfirst, hsecond]
      exact h.stop _
    · rcases h.found other with ⟨hfirst', hsecond'⟩ | ⟨slot', room', hfirst', hsecond'⟩
      · simp only [hfirst, hsecond, hfirst', hsecond']
        exact h.stop _
      · simp only [hfirst, hsecond, hfirst', hsecond']
        exact ((h.insert name slot' room').insert other slot room).answer rfl
  | discard name =>
    simp only [step, discard]
    exact same_giveUp h name 0 fun _ => rfl
  | takeFirst name count => exact same_giveUp h name count fun _ => rfl
  | drain name =>
    simp only [step, drain, ← h.elementsOf_eq name]
    exact same_giveUp h name _ fun _ => rfl
  | drawId =>
    refine h.drawId.answer ?_
    rw [h.nextId_eq]
    rfl
  | act name action => exact same_act h hsound name action hagreed
  | refer name index label => exact same_refer h hsound name index label hagreed
  | resolve name label => exact same_actOn h hsound name label .resolve hagreed
  | overwrite name label value => exact same_actOn h hsound name label (.overwrite · value) hagreed
  | isLive name label => exact same_actOn h hsound name label .isLive hagreed
  | liveReferences name =>
    simp only [step, liveReferences, ← h.references_eq]
    rcases h.found name with ⟨hfirst, hsecond⟩ | ⟨slot, room, hfirst, hsecond⟩
    · simp only [hfirst, hsecond]
      exact h.stop _
    · simp only [hfirst, hsecond]
      exact h.answer rfl
  | reference label =>
    simp only [step, reference, ← h.references_eq]
    cases first.references.find? label with
    | none => exact h.stop _
    | some reference => exact h.answer rfl
  | sameReference label other =>
    simp only [step, sameReference, ← h.references_eq]
    cases first.references.find? label with
    | none => exact h.stop _
    | some reference =>
      cases first.references.find? other with
      | none => exact h.stop _
      | some reference' => exact h.answer rfl
  | countReferences =>
    simp only [step, countReferences, ← h.references_eq]
    exact h.answer rfl
  | source name =>
    simp only [step, source, ← h.provider?_pool_eq name]
    cases first.pool.provider? name with
    | none => exact h.stop _
    | some provider => exact h.answer rfl
  | resetSource name =>
    simp only [step, resetSource, ← h.provider?_pool_eq name]
    cases first.pool.provider? name with
    | none => exact h.stop _
    | some provider =>
      -- a reset does not touch the record
      have hreset : Synced
          (first.updateSource provider (BlockSource.reset (first.pool.source provider)))
          (second.updateSource provider (BlockSource.reset (second.pool.source provider))) :=
        h.updateSource provider (h.requests_eq provider)
      exact hreset.answer rfl
  | request name capacity => cases hcall

/-! ### Runs -/

omit [BlockSource τ] in
theorem exchanges_step_earlier {session : Session (Transcript σ) α k} (hsound : session.Sound)
    (command : Command α) (provider : Provider k) :
    (session.pool.source provider).exchanges <+:
      ((session.step command).2.pool.source provider).exchanges := by
  have hdraws := draws_step hsound command provider
  generalize (session.step command).2.pool.source provider = after at hdraws
  cases hdraws with
  | untouched => exact List.prefix_rfl
  | asked hasker hasked => exact hasked.exchanges_earlier
  | requested hcommand hprovider => exact List.prefix_append _ _
  | reset hcommand hprovider => exact List.prefix_rfl

omit [BlockSource τ] in
theorem exchanges_run_earlier (commands : List (Command α)) {session : Session (Transcript σ) α k}
    (hsound : session.Sound) (provider : Provider k) :
    (session.pool.source provider).exchanges <+:
      ((session.run commands).pool.source provider).exchanges := by
  induction commands generalizing session with
  | nil => exact List.prefix_rfl
  | cons command commands ih =>
    exact (exchanges_step_earlier hsound command provider).trans (ih (hsound.step command))

/-- **A run sees the sources through the judgements only.** -/
theorem same_run (commands : List (Command α)) (h : Synced first second) (hsound : first.Sound)
    (hsound' : second.Sound) (hcalls : ∀ command ∈ commands, command.isRequest = false)
    (hagreed : Agreed (first.run commands) (second.run commands)) :
    (first.trace commands).map (fun result => result.1.shown) =
        (second.trace commands).map (fun result => result.1.shown) ∧
      Synced (first.run commands) (second.run commands) := by
  induction commands generalizing first second with
  | nil => exact ⟨rfl, h⟩
  | cons command commands ih =>
    rw [List.forall_mem_cons] at hcalls
    have hsound₁ := hsound.step command
    have hsound₂ := hsound'.step command
    -- what is judged alike in the end was so after the first step
    have hfirst : Agreed (first.step command).2 (second.step command).2 := fun provider =>
      (hagreed provider).of_earlier (exchanges_run_earlier commands hsound₁ provider)
        (exchanges_run_earlier commands hsound₂ provider)
    obtain ⟨hreport, hsynced⟩ := same_step h hsound hcalls.1 hfirst
    obtain ⟨hreports, hlast⟩ := ih hsynced hsound₁ hsound₂ hcalls.2 hagreed
    refine ⟨?_, hlast⟩
    rw [trace, trace, List.map_cons, List.map_cons, hreport, hreports]

end

/-! ### Runs on sources that keep no record -/

variable [Element α] [BlockSource σ] [BlockSource τ]

/-- The requests that a source gets in a run, with its answers: what stands in its transcript after the same run on
sources that keep one. -/
def exchanges (pool : Pool σ k) (commands : List (Command α)) (provider : Provider k) :
    List (Nat × Reply) :=
  (((start pool.transcribed : Session (Transcript σ) α k).run commands).pool.source provider).exchanges

omit [Element α] [BlockSource σ] in
theorem start_transcribed (pool : Pool σ k) :
    (start pool.transcribed : Session (Transcript σ) α k).mapSource Transcript.inner = start pool :=
  (start pool).mapSource_cancel fun _ => rfl

/-- No session notices the transcripts. -/
theorem run_transcribed (pool : Pool σ k) (commands : List (Command α)) :
    ((start pool.transcribed).run commands).mapSource Transcript.inner = (start pool).run commands := by
  rw [← run_mapSource Transcript.commutes_inner, start_transcribed]

theorem reports_transcribed (pool : Pool σ k) (commands : List (Command α)) :
    ((start pool.transcribed).trace commands).map (fun result => result.1.shown) =
      ((start pool).trace commands).map (fun result => result.1.shown) := by
  rw [← start_transcribed pool, trace_mapSource Transcript.commutes_inner, List.map_map]
  apply List.map_congr_left
  intro result _
  exact (Report.shown_mapSource Transcript.inner result.1).symm

omit [Element α] [BlockSource σ] [BlockSource τ] in
theorem synced_start {pool : Pool σ k} {pool' : Pool τ k} (hnames : pool.names = pool'.names) :
    Synced (start pool.transcribed : Session (Transcript σ) α k) (start pool'.transcribed) := by
  refine ⟨⟨fun _ => .inl ⟨rfl, rfl⟩, rfl, hnames, rfl, rfl⟩, fun provider => ?_⟩
  show (pool.transcribed.source provider).requests = (pool'.transcribed.source provider).requests
  rw [Pool.transcribed, Pool.transcribed, Pool.source_mapSource, Pool.source_mapSource]
  rfl

/-- **Sources are seen through acceptance only.** Take two pools of sources with the same names, of whatever kinds, and
carry out the same calls on both. Suppose that the answers of each source to the first request in either run are judged
alike, and those to the second request, and so on: both blocks are accepted, however large they are; or both answers
are rejected, for whichever reason; or both sources end the call with the same message. Then every call tells its
caller the same in both runs, and reports the same on the way. Each source gets the same requests in the same order.
And at any time in between, the sessions are alike: each name stands for buffers with the same elements, capacity,
free slots, size, generation, growths and identity, or for none. -/
theorem run_through_acceptance (pool : Pool σ k) (pool' : Pool τ k) (hnames : pool.names = pool'.names)
    (commands : List (Command α)) (hcalls : ∀ command ∈ commands, command.isRequest = false)
    (hagree : ∀ provider,
      Agree (exchanges pool commands provider) (exchanges pool' commands provider)) :
    ((start pool).trace commands).map (fun result => result.1.shown) =
        ((start pool').trace commands).map (fun result => result.1.shown) ∧
      (∀ provider, (exchanges pool commands provider).map Prod.fst =
        (exchanges pool' commands provider).map Prod.fst) ∧
      ∀ earlier, earlier <+: commands →
        Alike ((start pool).run earlier) ((start pool').run earlier) ∧
        ∀ name slot slot', ((start pool).run earlier).buffers.find? name = some slot →
          ((start pool').run earlier).buffers.find? name = some slot' →
          slot'.buffer.toList = slot.buffer.toList ∧
          slot'.buffer.capacity = slot.buffer.capacity ∧
          slot'.buffer.remaining = slot.buffer.remaining ∧
          slot'.buffer.memoryBytes = slot.buffer.memoryBytes ∧
          slot'.buffer.generation = slot.buffer.generation ∧
          slot'.buffer.growthEvents = slot.buffer.growthEvents ∧
          slot'.buffer.id = slot.buffer.id := by
  obtain ⟨hreports, hsynced⟩ := same_run commands (synced_start hnames) (sound_start _) (sound_start _)
    hcalls hagree
  refine ⟨?_, hsynced.requests_eq, ?_⟩
  · rw [← reports_transcribed pool, ← reports_transcribed pool']
    exact hreports
  · rintro earlier ⟨later, rfl⟩
    -- the answers up to then are judged alike as well
    have hearlier : Agreed ((start pool.transcribed : Session (Transcript σ) α k).run earlier)
        ((start pool'.transcribed).run earlier) := by
      intro provider
      have hlast := hagree provider
      rw [exchanges, exchanges, run_append, run_append] at hlast
      exact hlast.of_earlier (exchanges_run_earlier later (Reachable.sound ⟨_, _, rfl⟩) provider)
        (exchanges_run_earlier later (Reachable.sound ⟨_, _, rfl⟩) provider)
    have hcalls' : ∀ command ∈ earlier, command.isRequest = false := fun command hmem =>
      hcalls command (List.mem_append_left later hmem)
    have halike : Alike ((start pool).run earlier) ((start pool').run earlier) := by
      rw [← run_transcribed pool, ← run_transcribed pool']
      have hsame := same_run earlier (synced_start hnames) (sound_start _) (sound_start _) hcalls' hearlier
      exact hsame.2.toAlike.mapSource _ _
    refine ⟨halike, ?_⟩
    intro name slot slot' hslot hslot'
    rcases halike.found name with ⟨hnone, -⟩ | ⟨found, room, hfound, hfound'⟩
    · rw [hnone] at hslot
      cases hslot
    · rw [hfound] at hslot
      rw [hfound'] at hslot'
      cases hslot
      cases hslot'
      exact ⟨rfl, rfl, rfl, rfl, rfl, rfl, rfl⟩

/-- A block that is four times too large shows no more than one of just the right size, and a block in use no more than
none at all. -/
theorem run_through_acceptance_ample :
    let pool : Pool Allocator 1 := ⟨.system, #v["s"], #v[.scripted [.ample, .refuse] []]⟩
    let pool' : Pool Allocator 1 := ⟨.system, #v["s"], #v[.scripted [.exact, .occupied] []]⟩
    let commands : List (Command UInt8) :=
      [.build "a" { initialCapacity := 1 } (some "s"), .act "a" (.push 1), .act "a" (.push 2),
        .act "a" (.push 3)]
    exchanges pool commands (.shared 0) = [(1, .granted 4 0), (2, .refused), (2, .granted 2 0)] ∧
      exchanges pool' commands (.shared 0) = [(1, .granted 1 0), (2, .granted 2 1), (2, .granted 2 0)] ∧
      Alike ((start pool).run commands) ((start pool').run commands) := by
  intro pool pool' commands
  have hfirst : exchanges pool commands (.shared 0) =
      [(1, .granted 4 0), (2, .refused), (2, .granted 2 0)] := by decide +kernel
  have hsecond : exchanges pool' commands (.shared 0) =
      [(1, .granted 1 0), (2, .granted 2 1), (2, .granted 2 0)] := by decide +kernel
  have hcalls : ∀ command ∈ commands, command.isRequest = false := by
    intro command hmem
    simp only [commands, List.mem_cons, List.not_mem_nil, or_false] at hmem
    rcases hmem with rfl | rfl | rfl | rfl <;> rfl
  have hagree : ∀ provider,
      Agree (exchanges pool commands provider) (exchanges pool' commands provider) := by
    intro provider
    cases provider with
    | heap => decide +kernel
    | shared index =>
      obtain rfl : index = 0 := Subsingleton.elim index 0
      rw [hfirst, hsecond]
      decide
  obtain ⟨-, -, hstates⟩ := run_through_acceptance pool pool' rfl commands hcalls hagree
  exact ⟨hfirst, hsecond, (hstates commands List.prefix_rfl).1⟩

end Session

end ElasticBuffer
